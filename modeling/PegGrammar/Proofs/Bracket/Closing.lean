import PegGrammar.Proofs.Bracket.Tokens
import Mathlib.Logic.Relation

/-!
Where the bracket of a character class closes. The search for an early `]` and the reading of the
bracket go over the same text, and the search is never deeper inside brackets than the reading is.
So a `]` that closes the bracket is one that the search stops at, and a class that is made from a
text is read from all of it.

One token makes the search go deeper than the reading: a range that ends at a bare bracket, which
the search takes for an opening one.
-/

namespace PegGrammar.CharClass

/-- Where a reading stands: the brackets around the one that it is in, and the text ahead. -/
structure Place where
  outer : List Level
  level : Level
  ahead : List Char

inductive Move
  | on (place : Place)
  | closed (s : SetExpr) (rest : List Char)

namespace Place

def start (cs : List Char) : Place :=
  let (level, rest) := Level.start {} cs
  ⟨[], level, rest⟩

def after (p : Place) (rest : List Char) : Token → Except PatternFault Move
  | .item s => .ok (.on ⟨p.outer, p.level.add s, rest⟩)
  | .op kind => .ok (.on ⟨p.outer, p.level.join kind, rest⟩)
  | .opening =>
    let (inner, rest) := Level.start {} rest
    .ok (.on ⟨p.level :: p.outer, inner, rest⟩)
  | .closing => do
    let s ← p.level.close {}
    match p.outer with
    | [] => return .closed s rest
    | l :: outer => return .on ⟨outer, l.add s, rest⟩

def settled (p : Place) : Place := { p with level := { p.level with fresh := false } }

def move (p : Place) : Except PatternFault Move :=
  match p.level.takeLeading? p.ahead with
  | some (level, rest) => .ok (.on ⟨p.outer, level, rest⟩)
  | none => do
    let (token, rest) ← nextToken {} p.ahead
    p.settled.after rest token

theorem after_closing (p : Place) (rest : List Char) :
    p.after rest .closing = .ok (match p.outer with
      | [] => .closed (.nested p.level.body p.level.negated) rest
      | l :: outer => .on ⟨outer, l.add (.nested p.level.body p.level.negated), rest⟩) := by
  have hclose : p.level.close {} = .ok (.nested p.level.body p.level.negated) := by
    simp [Level.close]
  rw [after, hclose]
  cases p.outer <;> rfl

theorem readLevels_succ (fuel : Nat) (p : Place) :
    readLevels {} (fuel + 1) p.outer p.level p.ahead = (do
      match ← p.move with
      | .on q => readLevels {} fuel q.outer q.level q.ahead
      | .closed s rest => return (s, rest)) := by
  obtain ⟨outer, ⟨negated, fresh, pending, items⟩, ahead⟩ := p
  rw [readLevels, move]
  simp only [Mode.skip, Bool.false_eq_true, if_false]
  cases Level.takeLeading? ⟨negated, fresh, pending, items⟩ ahead with
  | some leading => rfl
  | none =>
    cases nextToken {} ahead with
    | error fault => rfl
    | ok next =>
      obtain ⟨token, rest⟩ := next
      cases token with
      | item _ | op _ | opening => rfl
      | closing => cases outer <;> cases negated <;> rfl

def Leads (p q : Place) : Prop := p.move = .ok (.on q)

def endsRangeAtBracket (p : Place) : Bool :=
  (p.level.takeLeading? p.ahead).isNone &&
    match nextToken {} p.ahead, readAtom {} p.ahead with
    | .ok (.item _, rest), .ok (_, '-' :: '[' :: last) => last == rest
    | _, _ => false

theorem exists_of_move {p : Place} {m : Move} (h : p.move = .ok m) :
    (∃ level rest, p.level.takeLeading? p.ahead = some (level, rest) ∧
      m = .on ⟨p.outer, level, rest⟩) ∨
    p.level.takeLeading? p.ahead = none ∧ ∃ token rest,
      nextToken {} p.ahead = .ok (token, rest) ∧ p.settled.after rest token = .ok m := by
  unfold move at h
  split at h
  · next level rest hleading =>
    cases h
    exact .inl ⟨level, rest, hleading, rfl⟩
  · next hleading =>
    obtain ⟨⟨token, rest⟩, htoken, hafter⟩ := exists_of_bind_eq_ok h
    exact .inr ⟨hleading, token, rest, htoken, hafter⟩

theorem move_closed {p : Place} {s : SetExpr} {rest : List Char}
    (h : p.move = .ok (.closed s rest)) : p.outer = [] ∧ p.ahead = ']' :: rest := by
  obtain ⟨level, rest', -, heq⟩ | ⟨-, token, rest', htoken, hafter⟩ := exists_of_move h
  · cases heq
  · cases token with
    | item _ | op _ | opening => cases hafter
    | closing =>
      have htakes : p.ahead = ']' :: rest' := nextToken_takes htoken (by simp)
      rw [after_closing] at hafter
      cases houter : p.outer with
      | nil =>
        simp only [settled, houter] at hafter
        cases hafter
        exact ⟨rfl, htakes⟩
      | cons l outer =>
        simp only [settled, houter] at hafter
        cases hafter

def StaysInside (depth : Nat) (cs : List Char) : Prop := closesBefore false false depth cs = false

theorem staysInside_nil (depth : Nat) : StaysInside depth [] := rfl

theorem staysInside_opening_iff {depth : Nat} {cs : List Char} :
    StaysInside depth ('[' :: cs) ↔ StaysInside (depth + 1) cs := by
  rw [StaysInside, closesBefore_opening, StaysInside]

theorem staysInside_closing_iff {depth : Nat} {cs : List Char} :
    StaysInside depth (']' :: cs) ↔ ∃ inner, depth = inner + 1 ∧ StaysInside inner cs := by
  cases depth with
  | zero => simp [StaysInside, closesBefore]
  | succ inner =>
    rw [StaysInside, closesBefore_closing, ← StaysInside]
    simp

theorem staysInside_append_iff {u cs : List Char} (h : Passed u) {depth : Nat} :
    StaysInside depth (u ++ cs) ↔ StaysInside depth cs := by
  rw [StaysInside, h, StaysInside]

theorem eq_empty_of_beq {s : SetExpr} (h : (s == .empty) = true) : s = .empty := by
  cases s with
  | empty => rfl
  | range | property | nested | union | op => cases h

theorem eq_of_takeLeading? {l level : Level} {cs rest : List Char}
    (h : l.takeLeading? cs = some (level, rest)) :
    cs = '-' :: rest ∧ level = l.add (.range '-' '-' .exact) ∨
      cs = ']' :: rest ∧ l.fresh = true ∧ l.items = .empty ∧
        level = { l.add (.range ']' ']' .exact) with fresh := false } := by
  unfold Level.takeLeading? at h
  split at h
  · split at h
    · cases h
      exact .inl ⟨rfl, rfl⟩
    · cases h
  · split at h
    · next hfresh =>
      obtain ⟨hfresh, hitems⟩ := Bool.and_eq_true_iff.1 hfresh
      cases h
      exact .inr ⟨rfl, hfresh, eq_empty_of_beq hitems, rfl⟩
    · cases h
  · cases h

theorem exists_of_start (cs : List Char) :
    ∃ mark, (mark = [] ∨ mark = ['^']) ∧ cs = mark ++ (Level.start {} cs).2 := by
  simp only [Level.start, Mode.skip, Bool.false_eq_true, if_false]
  split
  · exact ⟨['^'], .inr rfl, rfl⟩
  · exact ⟨[], .inl rfl, rfl⟩

theorem passed_mark {mark : List Char} (h : mark = [] ∨ mark = ['^']) : Passed mark := by
  obtain rfl | rfl := h
  · exact passed_of_plain plain_nil
  · exact passed_of_plain (plain_of_all rfl)

theorem fresh_add (l : Level) (s : SetExpr) : (l.add s).fresh = l.fresh := by
  unfold Level.add
  split <;> rfl

theorem readAtom_text_of_item {cs rest : List Char} {s : SetExpr} {a : Atom}
    (htoken : nextToken {} cs = .ok (.item s, rest))
    (hatom : readAtom {} cs = .ok (a, '-' :: '[' :: rest)) :
    ∃ used, cs = used ++ '-' :: '[' :: rest ∧ Passed used := by
  have bare : ∀ ds, cs ≠ '[' :: ds ∧ cs ≠ ']' :: ds := by
    refine fun ds => ⟨?_, ?_⟩
    · rintro rfl
      obtain ⟨-, rfl⟩ := Prod.mk.inj (Except.ok.inj hatom)
      cases htoken
    · rintro rfl
      cases htoken
  obtain ⟨used, -, hused⟩ := readAtom_text hatom bare
  exact ⟨used, hused⟩

theorem endsRangeAtBracket_iff {p : Place} {rest : List Char} {s : SetExpr}
    (hleading : p.level.takeLeading? p.ahead = none)
    (htoken : nextToken {} p.ahead = .ok (.item s, rest)) :
    p.endsRangeAtBracket = true ↔ ∃ a, readAtom {} p.ahead = .ok (a, '-' :: '[' :: rest) := by
  constructor
  · intro bare
    simp only [endsRangeAtBracket, htoken, Bool.and_eq_true] at bare
    have hlast := bare.2
    split at hlast
    · next heq hatom =>
      cases heq
      rw [beq_iff_eq] at hlast
      exact ⟨_, hlast ▸ hatom⟩
    · cases hlast
  · rintro ⟨a, hatom⟩
    simp [endsRangeAtBracket, hleading, htoken, hatom]

/-- What a step takes off the text, and what that makes of the brackets. -/
inductive Steps (p q : Place) : Prop
  | hyphen (ahead : p.ahead = '-' :: q.ahead) (outer : q.outer = p.outer)
      (items : q.level.items ≠ .empty)
  | leading (fresh : p.level.fresh = true) (items : p.level.items = .empty)
      (ahead : p.ahead = ']' :: q.ahead) (outer : q.outer = p.outer) (settled : q.level.fresh = false)
  | item {used : List Char} (nonempty : used ≠ []) (passed : Passed used)
      (ahead : p.ahead = used ++ q.ahead) (outer : q.outer = p.outer)
      (settled : q.level.fresh = false)
  | range {used : List Char} (bare : p.endsRangeAtBracket = true) (passed : Passed used)
      (ahead : p.ahead = used ++ '-' :: '[' :: q.ahead) (outer : q.outer = p.outer)
      (settled : q.level.fresh = false)
  | opening {mark : List Char} (mark_eq : mark = [] ∨ mark = ['^'])
      (ahead : p.ahead = '[' :: (mark ++ q.ahead)) (outer : q.outer = p.settled.level :: p.outer)
  | closing {l : Level} (ahead : p.ahead = ']' :: q.ahead) (outer : p.outer = l :: q.outer)
      (fresh : q.level.fresh = l.fresh)

theorem Leads.steps {p q : Place} (h : p.Leads q) : Steps p q := by
  obtain ⟨level, rest, hleading, heq⟩ | ⟨hleading, token, rest, htoken, hafter⟩ := exists_of_move h
  · cases heq
    obtain ⟨hahead, rfl⟩ | ⟨hahead, hfresh, hitems, rfl⟩ := eq_of_takeLeading? hleading
    · refine .hyphen hahead rfl ?_
      unfold Level.add
      split <;> nofun
    · exact .leading hfresh hitems hahead rfl rfl
  · cases token with
    | item s =>
      cases hafter
      by_cases bare : p.endsRangeAtBracket = true
      · obtain ⟨a, hatom⟩ := (endsRangeAtBracket_iff hleading htoken).1 bare
        obtain ⟨used, hused, hpassed⟩ := readAtom_text_of_item htoken hatom
        exact .range bare hpassed hused rfl (fresh_add _ s)
      · obtain ⟨used, hne, hused, hpassed⟩ := nextToken_takes htoken fun _ a _ hatom =>
          bare ((endsRangeAtBracket_iff hleading htoken).2 ⟨a, hatom⟩)
        exact .item hne hpassed hused rfl (fresh_add _ s)
    | op kind =>
      cases hafter
      obtain ⟨used, hne, hused, hpassed⟩ := nextToken_takes htoken (by simp)
      exact .item hne hpassed hused rfl rfl
    | opening =>
      have hahead : p.ahead = '[' :: rest := nextToken_takes htoken (by simp)
      obtain ⟨mark, hmark, hrest⟩ := exists_of_start rest
      cases hafter
      exact .opening hmark (hahead.trans (congrArg ('[' :: ·) hrest)) rfl
    | closing =>
      have hahead : p.ahead = ']' :: rest := nextToken_takes htoken (by simp)
      rw [after_closing] at hafter
      cases houter : p.outer with
      | nil =>
        simp only [settled, houter] at hafter
        cases hafter
      | cons l outer =>
        simp only [settled, houter] at hafter
        cases hafter
        exact .closing hahead houter (fresh_add l _)

theorem move_on {p q : Place} (h : p.Leads q) (bare : p.endsRangeAtBracket = false) :
    ∃ used, p.ahead = used ++ q.ahead ∧ ∀ depth cs, StaysInside depth (used ++ cs) →
      ∃ inner, StaysInside inner cs ∧ inner + p.outer.length ≤ depth + q.outer.length := by
  cases h.steps with
  | hyphen ahead outer items =>
    refine ⟨['-'], ahead, fun depth cs hcs => ⟨depth, ?_, Nat.le_of_eq (by rw [outer])⟩⟩
    exact (staysInside_append_iff (passed_of_plain (plain_of_all rfl))).1 hcs
  | leading fresh items ahead outer settled =>
    -- for the search this closes a bracket, for the reading it is an item
    refine ⟨[']'], ahead, fun depth cs hcs => ?_⟩
    obtain ⟨inner, rfl, hinner⟩ := staysInside_closing_iff.1 hcs
    exact ⟨inner, hinner, by rw [outer]; omega⟩
  | item nonempty passed ahead outer settled =>
    exact ⟨_, ahead, fun depth cs hcs =>
      ⟨depth, (staysInside_append_iff passed).1 hcs, Nat.le_of_eq (by rw [outer])⟩⟩
  | range bare' => simp [bare] at bare'
  | @opening mark mark_eq ahead outer =>
    refine ⟨'[' :: mark, ahead, fun depth cs hcs => ⟨depth + 1, ?_, ?_⟩⟩
    · exact (staysInside_append_iff (passed_mark mark_eq)).1 (staysInside_opening_iff.1 hcs)
    · rw [outer, List.length_cons]
      omega
  | closing ahead outer fresh =>
    refine ⟨[']'], ahead, fun depth cs hcs => ?_⟩
    obtain ⟨inner, rfl, hinner⟩ := staysInside_closing_iff.1 hcs
    exact ⟨inner, hinner, by rw [outer, List.length_cons]; omega⟩

/-- No place that the reading comes to has a range ahead that ends at a bare bracket. -/
def KeepsRanges (p : Place) : Prop :=
  ∀ q, Relation.ReflTransGen Leads p q → q.endsRangeAtBracket = false

def checkRanges : Nat → Place → Bool
  | 0, _ => false
  | fuel + 1, p => !p.endsRangeAtBracket &&
    match p.move with
    | .ok (.on q) => checkRanges fuel q
    | _ => true

theorem keepsRanges_of_check {fuel : Nat} {p : Place} (h : checkRanges fuel p = true) :
    p.KeepsRanges := by
  induction fuel generalizing p with
  | zero => cases h
  | succ fuel ih =>
    simp only [checkRanges, Bool.and_eq_true, Bool.not_eq_true'] at h
    intro q hq
    obtain rfl | ⟨r, hr, hq⟩ := Relation.ReflTransGen.cases_head hq
    · exact h.1
    · have hmove : p.move = .ok (.on r) := hr
      rw [hmove] at h
      exact ih h.2 q hq

/-- If the search finds nothing in `inside`, with no more brackets open than in the reading, then
the bracket is closed behind it. -/
theorem closes_behind {fuel depth : Nat} {p : Place} {s : SetExpr} {inside outside rest : List Char}
    (keeps : p.KeepsRanges)
    (hread : readLevels {} fuel p.outer p.level p.ahead = .ok (s, rest))
    (hahead : p.ahead = inside ++ outside) (hinside : StaysInside depth inside)
    (hdepth : depth ≤ p.outer.length) : ∃ before, outside = before ++ ']' :: rest := by
  induction fuel generalizing p depth inside outside with
  | zero => cases hread
  | succ fuel ih =>
    rw [readLevels_succ] at hread
    obtain ⟨m, hmove, hread⟩ := exists_of_bind_eq_ok hread
    cases m with
    | closed s' rest' =>
      cases hread
      obtain ⟨houter, hclosing⟩ := move_closed hmove
      cases inside with
      | nil => exact ⟨[], by rw [← hclosing, hahead]; rfl⟩
      | cons c inside =>
        -- the closing bracket would be one that the search stops at
        rw [hclosing, List.cons_append] at hahead
        obtain ⟨rfl, -⟩ := List.cons.inj hahead
        obtain ⟨inner, rfl, -⟩ := staysInside_closing_iff.1 hinside
        simp [houter] at hdepth
    | on q =>
      have keeps' : q.KeepsRanges := fun r hr => keeps r (.head hmove hr)
      obtain ⟨used, hused, hscan⟩ := move_on hmove (keeps p .refl)
      obtain ⟨more, rfl, hq⟩ | ⟨more, rfl, hq⟩ := List.append_eq_append_iff.1 (hused.symm.trans hahead)
      · obtain ⟨inner, hinner, hlength⟩ := hscan depth more hinside
        exact ih keeps' hread hq hinner (by omega)
      · -- what is left of the text is behind `inside`, where the search does not go
        obtain ⟨before, hbefore⟩ := ih keeps' hread (List.nil_append q.ahead).symm
          (staysInside_nil 0) (Nat.zero_le _)
        exact ⟨more ++ before, by rw [hq, hbefore, List.append_assoc]⟩

end Place

def Place.opened (negated : Bool) (cs : List Char) : Place := ⟨[], ⟨negated, true, none, .empty⟩, cs⟩

def Place.pastFirst (negated : Bool) (cs : List Char) : Place :=
  ⟨[], ⟨negated, false, none, .range ']' ']' .exact⟩, cs⟩

theorem Place.leads_pastFirst (negated : Bool) (cs : List Char) :
    Leads (opened negated (']' :: cs)) (pastFirst negated cs) := rfl

theorem exists_start (body : List Char) : ∃ negated inside, inside <:+ body ∧
    Place.start (body ++ [']', '$']) = Place.opened negated (inside ++ [']', '$']) ∧
    closesEarly body = closesBefore true false 0 inside := by
  unfold closesEarly
  split
  · next inside => exact ⟨true, inside, List.suffix_cons '^' inside, rfl, rfl⟩
  · next hnegated =>
    refine ⟨false, body, List.suffix_refl body, ?_, rfl⟩
    cases body with
    | nil => rfl
    | cons c body =>
      have hc : c ≠ '^' := by
        rintro rfl
        exact hnegated body rfl
      simp [Place.start, Place.opened, Level.start, Mode.skip, hc]

theorem closesBefore_first (cs : List Char) :
    (∃ ds, cs = ']' :: ds ∧ closesBefore true false 0 cs = closesBefore false false 0 ds) ∨
      cs.head? ≠ some ']' ∧ closesBefore true false 0 cs = closesBefore false false 0 cs := by
  cases cs with
  | nil => exact .inr ⟨nofun, rfl⟩
  | cons c cs =>
    by_cases hc : c = ']'
    · subst hc
      exact .inl ⟨cs, rfl, by simp [closesBefore]⟩
    · exact .inr ⟨by simpa using hc, by simp [closesBefore, hc]⟩

theorem eq_of_append_closing {before rest : List Char}
    (h : [']', '$'] = before ++ ']' :: rest) : rest = ['$'] := by
  cases before with
  | nil => exact (List.cons.inj h).2.symm
  | cons c before =>
    obtain ⟨rfl, h⟩ := List.cons.inj h
    cases before with
    | nil => simp at h
    | cons d before => simp at h

theorem readBracket_eq (cs : List Char) :
    readBracket {} cs = readLevels {} (cs.length + 1) (Place.start cs).outer (Place.start cs).level
      (Place.start cs).ahead := rfl

theorem eq_of_readBracket {body rest : List Char} {s : SetExpr} (early : closesEarly body = false)
    (keeps : (Place.start (body ++ [']', '$'])).KeepsRanges)
    (hread : readBracket {} (body ++ [']', '$']) = .ok (s, rest)) : rest = ['$'] := by
  obtain ⟨negated, inside, -, hstart, hearly⟩ := exists_start body
  have hlevels := (readBracket_eq _).symm.trans hread
  rw [hearly] at early
  rw [hstart] at keeps hlevels
  obtain ⟨items, rfl, hfirst⟩ | ⟨-, hfirst⟩ := closesBefore_first inside
  · -- a first `]` is an item for both, and they go on behind it
    have hmove := Place.leads_pastFirst negated (items ++ [']', '$'])
    have keeps' : (Place.pastFirst negated (items ++ [']', '$'])).KeepsRanges :=
      fun r hr => keeps r (.head hmove hr)
    rw [Place.readLevels_succ, List.cons_append, hmove] at hlevels
    obtain ⟨before, h⟩ :=
      Place.closes_behind keeps' hlevels rfl (hfirst.symm.trans early) (Nat.zero_le _)
    exact eq_of_append_closing h
  · obtain ⟨before, h⟩ :=
      Place.closes_behind keeps hlevels rfl (hfirst.symm.trans early) (Nat.zero_le _)
    exact eq_of_append_closing h

namespace Pattern

def anchored (s : SetExpr) : Pattern :=
  .seq (.seq (.anchor .any .empty) (.one s)) (.anchor .empty .any)

theorem occursIn_anchored (s : SetExpr) (c : Char) : (anchored s).occursIn c = s.contains c := by
  have hany : SetExpr.any.contains c = true := rfl
  simp [anchored, occursIn, spans, SetExpr.contains, hany]

theorem readAlternatives_bracket (fuel : Nat) (cs : List Char) :
    readAlternatives (fuel + 2) {} none none ('^' :: '[' :: cs) = (do
      let (s, rest) ← readBracket {} cs
      let (p, rest) ← readRepetition {} rest.length (.one s) rest
      readAlternatives fuel {} none (some (.seq (.anchor .any .empty) p)) rest) := rfl

theorem readAlternatives_body (body : List Char) :
    readAlternatives (('^' :: '[' :: body ++ [']', '$']).length + 1) {} none none
        ('^' :: '[' :: body ++ [']', '$']) = (do
      let (s, rest) ← readBracket {} (body ++ [']', '$'])
      let (p, rest) ← readRepetition {} rest.length (.one s) rest
      readAlternatives (body.length + 3) {} none (some (.seq (.anchor .any .empty) p)) rest) := by
  have hlength : ('^' :: '[' :: body ++ [']', '$']).length + 1 = body.length + 3 + 2 := by simp
  rw [hlength, List.cons_append, List.cons_append, readAlternatives_bracket]

theorem readAlternatives_end (fuel : Nat) (s : SetExpr) :
    (do
      let (p, rest) ← readRepetition {} 1 (.one s) ['$']
      readAlternatives (fuel + 2) {} none (some (.seq (.anchor .any .empty) p)) rest) =
      .ok (anchored s, []) := rfl

theorem exists_of_onBracket {body : List Char} {p : Pattern} (h : onBracket body = .ok p) :
    ∃ s rest, readBracket {} (body ++ [']', '$']) = .ok (s, rest) ∧
      (rest = ['$'] → p = anchored s) := by
  obtain ⟨⟨q, left⟩, halternatives, hchecks⟩ := exists_of_bind_eq_ok h
  obtain rfl : q = p := by
    simp only at hchecks
    split at hchecks
    · cases hchecks
    · split at hchecks
      · cases hchecks
      · split at hchecks
        · cases hchecks
        · exact Except.ok.inj hchecks
  rw [readAlternatives_body] at halternatives
  obtain ⟨⟨s, rest⟩, hbracket, hrest⟩ := exists_of_bind_eq_ok halternatives
  refine ⟨s, rest, hbracket, ?_⟩
  rintro rfl
  have hend := hrest.symm.trans (readAlternatives_end (body.length + 1) s)
  exact (Prod.mk.inj (Except.ok.inj hend)).1

end Pattern

/-- A class that is made from a text is the one bracket around it, and holds the characters of the
set that the bracket denotes, unless a range in it ends at a bare bracket. -/
theorem bracket_of_ofBracket {source : String} {cls : CharClass}
    (made : ofBracket source = .ok cls)
    (keeps : (Place.start (source.toList ++ [']', '$'])).KeepsRanges) :
    ∃ s, readBracket {} (source.toList ++ [']', '$']) = .ok (s, ['$']) ∧
      cls = .bracket source (.anchored s) ∧ ∀ c, cls.accepts c = s.contains c := by
  unfold ofBracket at made
  split at made
  · cases made
  · next early =>
    split at made
    · next pattern hpattern =>
      cases made
      obtain ⟨s, rest, hread, hanchored⟩ := Pattern.exists_of_onBracket hpattern
      obtain rfl := eq_of_readBracket (by simpa using early) keeps hread
      obtain rfl := hanchored rfl
      exact ⟨s, hread, rfl, Pattern.occursIn_anchored s⟩
    · cases made

theorem bracket_of_ofBracket_nested : ∃ cls, ofBracket "^]a-f--[b-d\\]]" = .ok cls ∧
    ∃ s, readBracket {} ("^]a-f--[b-d\\]]".toList ++ [']', '$']) = .ok (s, ['$']) ∧
      cls = .bracket "^]a-f--[b-d\\]]" (.anchored s) ∧ ∀ c, cls.accepts c = s.contains c := by
  have keeps : (Place.start ("^]a-f--[b-d\\]]".toList ++ [']', '$'])).KeepsRanges :=
    Place.keepsRanges_of_check (by decide +kernel : Place.checkRanges 20 _ = true)
  exact ⟨_, rfl, bracket_of_ofBracket rfl keeps⟩

theorem accepts_after_range_to_bracket : ∃ cls s, ofBracket "!-[]|[a" = .ok cls ∧
    readBracket {} ("!-[]|[a".toList ++ [']', '$']) = .ok (s, "|[a]$".toList) ∧
      cls.accepts 'a' = true ∧ s.contains 'a' = false :=
  ⟨_, _, rfl, rfl, rfl, rfl⟩

end PegGrammar.CharClass
