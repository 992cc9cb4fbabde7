import PegGrammar.Proofs.Bracket.Closing

/-!
What is refused for an early `]`. The search is never less deep inside brackets than the reading
is, except behind a `]` that the reading takes for an item. At the start of the text the search does
so too; inside, right behind an opening bracket, it does not. Elsewhere a `]` that the search stops
at is one that closes the bracket, if the reading comes so far, and no class that is one bracket is
refused.
-/

namespace PegGrammar.CharClass

theorem closesBefore_append {first escaped : Bool} {depth : Nat} {cs : List Char}
    (h : closesBefore first escaped depth cs = true) (ds : List Char) :
    closesBefore first escaped depth (cs ++ ds) = true := by
  fun_induction closesBefore first escaped depth cs with
  | case1 => cases h
  | _ => simp_all [closesBefore]

theorem closing_mem_of_closesBefore {first escaped : Bool} {depth : Nat} {cs : List Char}
    (h : closesBefore first escaped depth cs = true) : ']' ∈ cs := by
  fun_induction closesBefore first escaped depth cs with
  | case1 => cases h
  | _ => simp_all

namespace Place

structure TakesClosing (p : Place) : Prop where
  fresh : p.level.fresh = true
  items : p.level.items = .empty
  ahead : p.ahead.head? = some ']'

/-- No bracket inside another one begins with a `]`. -/
def NestsNoClosing (p : Place) : Prop :=
  ∀ q, Relation.ReflTransGen Leads p q → q.outer ≠ [] → ¬q.TakesClosing

theorem Steps.settled_or_opened {p q : Place} (h : Steps p q)
    (settled : ∀ l ∈ p.outer, l.fresh = false) :
    (∀ l ∈ q.outer, l.fresh = false) ∧ (q.TakesClosing → q.outer ≠ [] ∧
      ∃ mark, (mark = [] ∨ mark = ['^']) ∧ p.ahead = '[' :: (mark ++ q.ahead)) := by
  cases h with
  | hyphen ahead outer items => exact ⟨outer ▸ settled, fun hq => absurd hq.items items⟩
  | leading _ _ ahead outer hq | item _ _ ahead outer hq | range _ _ ahead outer hq =>
    exact ⟨outer ▸ settled, fun takes => absurd (hq.symm.trans takes.fresh) Bool.false_ne_true⟩
  | @opening mark mark_eq ahead outer =>
    refine ⟨?_, fun _ => ⟨by simp [outer], mark, mark_eq, ahead⟩⟩
    rw [outer]
    exact List.forall_mem_cons.2 ⟨rfl, settled⟩
  | closing ahead outer fresh =>
    rw [outer] at settled
    obtain ⟨hl, houter⟩ := List.forall_mem_cons.1 settled
    have hq : q.level.fresh = false := fresh.trans hl
    exact ⟨houter, fun takes => absurd (hq.symm.trans takes.fresh) Bool.false_ne_true⟩

structure Begun (p : Place) : Prop where
  settled : ∀ l ∈ p.outer, l.fresh = false
  outermost : p.outer = [] → ¬p.TakesClosing

theorem Begun.steps {p q : Place} (begun : p.Begun) (h : Steps p q) : q.Begun := by
  obtain ⟨settled, opened⟩ := h.settled_or_opened begun.settled
  exact ⟨settled, fun houter takes => absurd houter (opened takes).1⟩

theorem search_on {p q : Place} (h : p.Leads q) (begun : p.Begun)
    (nested : p.outer ≠ [] → ¬p.TakesClosing) : ∃ used, p.ahead = used ++ q.ahead ∧
      ∀ depth cs, closesBefore false false depth (used ++ cs) = true → p.outer.length ≤ depth →
        ∃ inner, closesBefore false false inner cs = true ∧ q.outer.length ≤ inner := by
  cases h.steps with
  | hyphen ahead outer items =>
    refine ⟨['-'], ahead, fun depth cs hcs hdepth => ⟨depth, ?_, by rwa [outer]⟩⟩
    rwa [passed_of_plain (plain_of_all rfl)] at hcs
  | leading fresh items ahead outer settled =>
    have takes : p.TakesClosing := ⟨fresh, items, by rw [ahead]; rfl⟩
    by_cases houter : p.outer = []
    · exact absurd takes (begun.outermost houter)
    · exact absurd takes (nested houter)
  | item nonempty passed ahead outer settled =>
    refine ⟨_, ahead, fun depth cs hcs hdepth => ⟨depth, ?_, by rwa [outer]⟩⟩
    rwa [passed] at hcs
  | @range used bare passed ahead outer settled =>
    -- the search takes the end of the range for an opening bracket
    refine ⟨used ++ ['-', '['], by simpa using ahead, fun depth cs hcs hdepth =>
      ⟨depth + 1, ?_, by rw [outer]; omega⟩⟩
    rw [List.append_assoc, passed] at hcs
    simpa [closesBefore] using hcs
  | @opening mark mark_eq ahead outer =>
    refine ⟨'[' :: mark, ahead, fun depth cs hcs hdepth => ⟨depth + 1, ?_, ?_⟩⟩
    · rwa [List.cons_append, closesBefore_opening, passed_mark mark_eq] at hcs
    · rw [outer, List.length_cons]
      omega
  | closing ahead outer fresh =>
    refine ⟨[']'], ahead, fun depth cs hcs hdepth => ?_⟩
    rw [outer, List.length_cons] at hdepth
    obtain ⟨inner, rfl⟩ := Nat.exists_eq_add_of_le' (Nat.one_le_of_lt hdepth)
    exact ⟨inner, by rwa [List.singleton_append, closesBefore_closing] at hcs, by omega⟩

theorem Steps.exists_used {p q : Place} (h : Steps p q) :
    ∃ used, used ≠ [] ∧ p.ahead = used ++ q.ahead := by
  cases h with
  | hyphen ahead | leading _ _ ahead | closing ahead => exact ⟨[_], by simp, ahead⟩
  | item nonempty _ ahead => exact ⟨_, nonempty, ahead⟩
  | @range used _ _ ahead => exact ⟨used ++ ['-', '['], by simp, by simpa using ahead⟩
  | @opening mark _ ahead => exact ⟨'[' :: mark, by simp, ahead⟩

theorem Steps.length_ahead_lt {p q : Place} (h : Steps p q) : q.ahead.length < p.ahead.length := by
  obtain ⟨used, hne, hahead⟩ := h.exists_used
  rw [hahead, List.length_append]
  exact Nat.lt_add_of_pos_left (List.length_pos_iff.2 hne)

def FailsAt (p : Place) (fault : PatternFault) (cs : List Char) : Prop :=
  ∃ q, Relation.ReflTransGen Leads p q ∧ q.ahead = cs ∧ q.move = .error fault

def EndsInside (p : Place) (fuel : Nat) (inside outside : List Char) : Prop :=
  (∃ s before more, inside = before ++ ']' :: more ∧
    readLevels {} fuel p.outer p.level p.ahead = .ok (s, more ++ outside)) ∨
  ∃ fault before more, inside = before ++ more ∧ ']' ∈ more ∧ p.FailsAt fault (more ++ outside) ∧
    readLevels {} fuel p.outer p.level p.ahead = .error fault

theorem EndsInside.append {p : Place} {fuel : Nat} {inside outside : List Char}
    (h : p.EndsInside fuel inside outside) (used : List Char) :
    p.EndsInside fuel (used ++ inside) outside := by
  obtain ⟨s, before, more, rfl, hread⟩ | ⟨fault, before, more, rfl, hmem, hfails, hread⟩ := h
  · exact .inl ⟨s, used ++ before, more, by rw [List.append_assoc], hread⟩
  · exact .inr ⟨fault, used ++ before, more, by rw [List.append_assoc], hmem, hfails, hread⟩

theorem EndsInside.of_leads {p q : Place} {fuel : Nat} {inside outside : List Char} (h : p.Leads q)
    (hq : q.EndsInside fuel inside outside) : p.EndsInside (fuel + 1) inside outside := by
  have hread : readLevels {} (fuel + 1) p.outer p.level p.ahead =
      readLevels {} fuel q.outer q.level q.ahead := by
    rw [readLevels_succ, h]
    rfl
  rw [EndsInside, hread]
  refine hq.imp_right ?_
  rintro ⟨fault, before, more, hinside, hmem, ⟨r, hr, hfault⟩, hfails⟩
  exact ⟨fault, before, more, hinside, hmem, ⟨r, .head h hr, hfault⟩, hfails⟩

/-- If the search stops in `inside`, with no fewer brackets open than in the reading, then the
reading ends there too. With more fuel than characters, it never ends for want of fuel. -/
theorem ends_inside {fuel depth : Nat} {p : Place} {inside outside : List Char}
    (nested : p.NestsNoClosing) (begun : p.Begun) (hfuel : p.ahead.length < fuel)
    (hahead : p.ahead = inside ++ outside) (stops : closesBefore false false depth inside = true)
    (hdepth : p.outer.length ≤ depth) : p.EndsInside fuel inside outside := by
  induction fuel generalizing p depth inside with
  | zero => cases hfuel
  | succ fuel ih =>
    cases hmove : p.move with
    | error fault =>
      have hmem := closing_mem_of_closesBefore stops
      refine .inr ⟨fault, [], inside, rfl, hmem, ⟨p, .refl, hahead, hmove⟩, ?_⟩
      rw [readLevels_succ, hmove]
      rfl
    | ok m =>
      cases m with
      | closed s rest =>
        obtain ⟨-, hclosing⟩ := move_closed hmove
        cases inside with
        | nil => cases stops
        | cons c inside =>
          rw [hclosing, List.cons_append] at hahead
          obtain ⟨rfl, rfl⟩ := List.cons.inj hahead
          refine .inl ⟨s, [], inside, rfl, ?_⟩
          rw [readLevels_succ, hmove]
          rfl
      | on q =>
        have nested' : q.NestsNoClosing := fun r hr => nested r (.head hmove hr)
        have steps : Steps p q := Leads.steps hmove
        have hfuel' : q.ahead.length < fuel := by
          have := steps.length_ahead_lt
          omega
        obtain ⟨used, hused, search⟩ := search_on hmove begun (nested p .refl)
        obtain ⟨more, rfl, hq⟩ | ⟨more, rfl, hq⟩ :=
          List.append_eq_append_iff.1 (hused.symm.trans hahead)
        · obtain ⟨inner, stops', hdepth'⟩ := search depth more stops hdepth
          have hends := ih nested' (begun.steps steps) hfuel' hq stops' hdepth'
          exact .of_leads hmove (hends.append used)
        · -- the search does not stop in the text of a step
          have stops' := closesBefore_append stops more
          rw [← List.append_nil (inside ++ more)] at stops'
          obtain ⟨inner, stops', -⟩ := search depth [] stops' hdepth
          cases stops'

end Place

theorem endsInside_of_closesEarly {body : List Char} (early : closesEarly body = true)
    (nested : (Place.start (body ++ [']', '$'])).NestsNoClosing) :
    (Place.start (body ++ [']', '$'])).EndsInside ((body ++ [']', '$']).length + 1) body [']', '$'] := by
  obtain ⟨negated, inside, ⟨mark, rfl⟩, hstart, hearly⟩ := exists_start body
  have hfuel : (inside ++ [']', '$']).length < (mark ++ inside ++ [']', '$']).length + 1 := by
    simp only [List.length_append]
    omega
  rw [hearly] at early
  rw [hstart] at nested ⊢
  refine .append ?_ mark
  obtain ⟨items, rfl, hfirst⟩ | ⟨hhead, hfirst⟩ := closesBefore_first inside
  · have hmove := Place.leads_pastFirst negated (items ++ [']', '$'])
    have nested' : (Place.pastFirst negated (items ++ [']', '$'])).NestsNoClosing :=
      fun r hr => nested r (.head hmove hr)
    have begun : (Place.pastFirst negated (items ++ [']', '$'])).Begun :=
      ⟨nofun, fun _ takes => nomatch takes.fresh⟩
    have hends := Place.ends_inside nested' begun (Nat.lt_of_succ_lt_succ hfuel) rfl
      (hfirst.symm.trans early) (Nat.le_refl 0)
    exact .of_leads hmove (hends.append [']'])
  · have stops := hfirst.symm.trans early
    have begun : (Place.opened negated (inside ++ [']', '$'])).Begun := by
      refine ⟨nofun, fun _ takes => ?_⟩
      cases inside with
      | nil => cases stops
      | cons c inside => exact hhead takes.ahead
    exact Place.ends_inside nested begun hfuel rfl stops (Nat.le_refl 0)

namespace Pattern

theorem onBracket_of_error {body : List Char} {fault : PatternFault}
    (h : readBracket {} (body ++ [']', '$']) = .error fault) : onBracket body = .error fault := by
  rw [onBracket, read, readAlternatives_body, h]
  rfl

theorem onBracket_of_readBracket {body : List Char} {s : SetExpr}
    (h : readBracket {} (body ++ [']', '$']) = .ok (s, ['$'])) : onBracket body =
      if maxDepth < (anchored s).depth then .error .tooDeep else .ok (anchored s) := by
  have halternatives := readAlternatives_body body
  rw [h] at halternatives
  have hanchored := halternatives.trans (readAlternatives_end (body.length + 1) s)
  have hnames : (anchored s).groupNames.Nodup := List.nodup_nil
  have hsize : (anchored s).isTooLarge = false := rfl
  rw [onBracket, read, hanchored]
  simp [hnames, hsize, bind, Except.bind]

end Pattern

namespace Place

theorem nestsNoClosing_of_text {cs : List Char} (plain : ¬['[', ']'] <:+: cs)
    (negated : ¬['[', '^', ']'] <:+: cs) : (start cs).NestsNoClosing := by
  have reached {q : Place} (h : Relation.ReflTransGen Leads (start cs) q) : q.ahead <:+ cs ∧
      (∀ l ∈ q.outer, l.fresh = false) ∧ (q.outer ≠ [] → q.TakesClosing →
        ∃ mark, (mark = [] ∨ mark = ['^']) ∧ '[' :: (mark ++ q.ahead) <:+ cs) := by
    induction h with
    | refl =>
      obtain ⟨mark, -, hstart⟩ := exists_of_start cs
      exact ⟨⟨mark, hstart.symm⟩, nofun, fun hne => absurd rfl hne⟩
    | tail _ hstep ih =>
      obtain ⟨hahead, hsettled, -⟩ := ih
      have steps := Leads.steps hstep
      obtain ⟨settled, opened⟩ := steps.settled_or_opened hsettled
      obtain ⟨used, -, hused⟩ := steps.exists_used
      refine ⟨List.IsSuffix.trans ⟨used, hused.symm⟩ hahead, settled, fun _ takes => ?_⟩
      obtain ⟨-, mark, hmark, hopening⟩ := opened takes
      exact ⟨mark, hmark, hopening ▸ hahead⟩
  intro q hq hne takes
  obtain ⟨-, -, opened⟩ := reached hq
  obtain ⟨mark, hmark, hsuffix⟩ := opened hne takes
  obtain ⟨rest, hrest⟩ := List.head?_eq_some_iff.1 takes.ahead
  rw [hrest] at hsuffix
  obtain rfl | rfl := hmark
  · exact plain (List.IsInfix.trans ⟨[], rest, rfl⟩ hsuffix.isInfix)
  · exact negated (List.IsInfix.trans ⟨[], rest, rfl⟩ hsuffix.isInfix)

end Place

/-- A text is refused for an early `]` only if its bracket closes inside it, or is not well formed in
front of a `]` there, unless a bracket inside begins with a `]`. So every text whose bracket closes
at its end makes a class, save that nesting has a limit. -/
theorem ofBracket_refuses_early {source : String}
    (nested : (Place.start (source.toList ++ [']', '$'])).NestsNoClosing) :
    (ofBracket source = .error (.closesEarly source) →
      (∃ s before more, source.toList = before ++ ']' :: more ∧
        readBracket {} (source.toList ++ [']', '$']) = .ok (s, more ++ [']', '$'])) ∨
      ∃ fault before more, source.toList = before ++ more ∧ ']' ∈ more ∧
        (Place.start (source.toList ++ [']', '$'])).FailsAt fault (more ++ [']', '$']) ∧
        readBracket {} (source.toList ++ [']', '$']) = .error fault ∧
        Pattern.onBracket source.toList = .error fault) ∧
    ∀ s, readBracket {} (source.toList ++ [']', '$']) = .ok (s, ['$']) →
      ofBracket source =
        if Pattern.maxDepth < (Pattern.anchored s).depth then .error (.malformed source .tooDeep)
        else .ok (.bracket source (.anchored s)) := by
  refine ⟨fun refused => ?_, fun s hread => ?_⟩
  · have early : closesEarly source.toList = true := by
      unfold ofBracket at refused
      split at refused
      · assumption
      · split at refused <;> cases refused
    obtain closes | ⟨fault, before, more, hsource, hmem, hfails, hread⟩ :=
      endsInside_of_closesEarly early nested
    · exact .inl closes
    · exact .inr ⟨fault, before, more, hsource, hmem, hfails, hread, Pattern.onBracket_of_error hread⟩
  · have late : closesEarly source.toList = false := by
      rw [Bool.eq_false_iff]
      intro early
      obtain ⟨_, _, more, -, hcloses⟩ | ⟨_, _, _, -, -, -, hfails⟩ :=
        endsInside_of_closesEarly early nested
      · have hrest := (Prod.mk.inj (Except.ok.inj (hread.symm.trans hcloses))).2
        simpa using congrArg List.length hrest
      · cases hread.symm.trans hfails
    rw [ofBracket, late, Pattern.onBracket_of_readBracket hread, if_neg Bool.false_ne_true]
    by_cases hdeep : Pattern.maxDepth < (Pattern.anchored s).depth
    · rw [if_pos hdeep, if_pos hdeep]
    · rw [if_neg hdeep, if_neg hdeep]

theorem ofBracket_refuses_early_alternatives :
    (Place.start ("a]|[b".toList ++ [']', '$'])).NestsNoClosing ∧
    ofBracket "a]|[b" = .error (.closesEarly "a]|[b") ∧
    (∃ s before more, "a]|[b".toList = before ++ ']' :: more ∧
      readBracket {} ("a]|[b".toList ++ [']', '$']) = .ok (s, more ++ [']', '$'])) ∧
    (Place.start ("^]x[^a]".toList ++ [']', '$'])).NestsNoClosing ∧
    ∃ s, readBracket {} ("^]x[^a]".toList ++ [']', '$']) = .ok (s, ['$']) ∧
      ofBracket "^]x[^a]" = .ok (.bracket "^]x[^a]" (.anchored s)) := by
  have nested : (Place.start ("a]|[b".toList ++ [']', '$'])).NestsNoClosing :=
    Place.nestsNoClosing_of_text (by decide +kernel) (by decide +kernel)
  have nested' : (Place.start ("^]x[^a]".toList ++ [']', '$'])).NestsNoClosing :=
    Place.nestsNoClosing_of_text (by decide +kernel) (by decide +kernel)
  have read : ∃ s, readBracket {} ("^]x[^a]".toList ++ [']', '$']) = .ok (s, ['$']) ∧
      (Pattern.anchored s).depth ≤ Pattern.maxDepth := ⟨_, rfl, by decide⟩
  obtain ⟨refuses, -⟩ := ofBracket_refuses_early nested
  obtain ⟨-, accepts⟩ := ofBracket_refuses_early nested'
  obtain ⟨s, hread, hdepth⟩ := read
  refine ⟨nested, rfl, ?_, nested', s, hread, ?_⟩
  · obtain closes | ⟨fault, before, more, -, -, -, hread, -⟩ := refuses rfl
    · exact closes
    · cases hread
  · rw [accepts s hread, if_neg (Nat.not_lt.2 hdepth)]

theorem ofBracket_refuses_nested : ofBracket "x[]a]" = .error (.closesEarly "x[]a]") ∧
    ∃ s, readBracket {} ("x[]a]".toList ++ [']', '$']) = .ok (s, ['$']) ∧
      Pattern.onBracket "x[]a]".toList = .ok (.anchored s) ∧
      ['x', ']', 'a', 'b'].map s.contains = [true, true, true, false] :=
  ⟨rfl, _, rfl, rfl, rfl⟩

end PegGrammar.CharClass
