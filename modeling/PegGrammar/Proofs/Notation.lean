import PegGrammar.Proofs.Hooks
import PegGrammar.Proofs.Listing
import PegGrammar.Proofs.Numerals
import PegGrammar.Proofs.Quoted

/-!
The notation of expressions. A displayed expression is a base with bounds behind it. The base is a
literal between quotes, a name, or a group in parentheses; of each it can be told where it ends,
and so it can of the bounds, however many there are. This makes the text readable in one way, but
for one thing: a group of one shows no separator, so a sequence and an alternation of the same one
part are written alike.

What such a group recognizes is what its part does, whichever of the two it is. So the text of an
expression without hooks and classes tells what the expression recognizes.
-/

namespace PegGrammar

variable {V : Type}

/-- The two kinds of expressions that are written as a list in parentheses. -/
inductive Grouping
  | sequence
  | alternation

def Grouping.of : Grouping → List (Expr V) → Expr V
  | .sequence, ps => .sequence ps
  | .alternation, cs => .alternation cs

namespace Expr

/-- The expressions whose notation is read here: no hook and no class is in them, a reference is
to a name that a rule may have, and no group is empty. -/
inductive Notated : Expr V → Prop
  | literal (text : String) : Notated (.literal text)
  | reference {name : String} (identifier : isRuleName name = true) : Notated (.reference name)
  | repetition {body : Expr V} (min : Nat) (max : Option Nat) (h : body.Notated) :
      Notated (.repetition body min max)
  | sequence {p : Expr V} {ps : List (Expr V)} (h : ∀ q ∈ p :: ps, q.Notated) :
      Notated (.sequence (p :: ps))
  | alternation {c : Expr V} {cs : List (Expr V)} (h : ∀ q ∈ c :: cs, q.Notated) :
      Notated (.alternation (c :: cs))

theorem Notated.repeated {body : Expr V} (h : body.Notated) (min : Nat) :
    (body.repeated min).Notated := .repetition min none h

theorem Notated.optional {body : Expr V} (h : body.Notated) : body.optional.Notated :=
  .repetition 0 (some 1) h

/-- Equal up to the kind of the groups of one. -/
inductive Alike : Expr V → Expr V → Prop
  | literal (text : String) : Alike (.literal text) (.literal text)
  | reference (name : String) : Alike (.reference name) (.reference name)
  | repetition {b b' : Expr V} (min : Nat) (max : Option Nat) (body : Alike b b') :
      Alike (.repetition b min max) (.repetition b' min max)
  | groupEmpty (g : Grouping) : Alike (g.of []) (g.of [])
  | group (g : Grouping) {p p' : Expr V} {ps ps' : List (Expr V)} (first : Alike p p')
      (others : Alike (g.of ps) (g.of ps')) : Alike (g.of (p :: ps)) (g.of (p' :: ps'))
  | groupOne (g g' : Grouping) {p p' : Expr V} (part : Alike p p') :
      Alike (g.of [p]) (g'.of [p'])

theorem Alike.of_forall₂ (g : Grouping) {ps qs : List (Expr V)} (h : List.Forall₂ Alike ps qs) :
    Alike (g.of ps) (g.of qs) := by
  induction h with
  | nil => exact .groupEmpty g
  | cons first others ih => exact .group g first ih

end Expr

/-! What alike expressions recognize. -/

namespace Recognizes

variable {rules : RuleSet V} {p c b b' : Expr V} {ps cs : List (Expr V)} {s : Cursor}
  {o : Option Cursor} {min : Nat} {max : Option Nat}

theorem sequence_cons_iff : Recognizes rules (.sequence (p :: ps)) s o ↔
    Recognizes rules p s none ∧ o = none ∨
      ∃ t, Recognizes rules p s (some t) ∧ Recognizes rules (.sequence ps) t o := by
  constructor
  · intro h
    obtain ⟨r, hy, rfl⟩ := h
    cases hy with
    | sequence first others => exact .inr ⟨_, some_iff.2 ⟨_, first⟩, some_iff.2 ⟨_, others⟩⟩
    | sequenceFailsFirst first => exact .inl ⟨none_iff.2 first, rfl⟩
    | sequenceFailsLater first others =>
      exact .inr ⟨_, some_iff.2 ⟨_, first⟩, none_iff.2 others⟩
  · rintro (⟨first, rfl⟩ | ⟨t, first, others⟩)
    · exact sequenceFails first
    · exact sequence first others

theorem alternation_cons_iff : Recognizes rules (.alternation (c :: cs)) s o ↔
    (∃ t, Recognizes rules c s (some t) ∧ o = some t) ∨
      Recognizes rules c s none ∧ Recognizes rules (.alternation cs) s o := by
  constructor
  · intro h
    obtain ⟨r, hy, rfl⟩ := h
    cases hy with
    | alternation first => exact .inl ⟨_, some_iff.2 ⟨_, first⟩, rfl⟩
    | alternationOther first others => exact .inr ⟨none_iff.2 first, _, others, rfl⟩
  · rintro (⟨t, first, rfl⟩ | ⟨first, others⟩)
    · exact alternation first
    · exact alternationOther first others

theorem sequence_nil_iff : Recognizes rules (.sequence []) s o ↔ o = some s := by
  constructor
  · intro h
    obtain ⟨r, hy, rfl⟩ := h
    cases hy
    rfl
  · rintro rfl
    exact some_iff.2 ⟨_, .sequenceEmpty⟩

theorem alternation_nil_iff : Recognizes rules (.alternation []) s o ↔ o = none := by
  constructor
  · intro h
    obtain ⟨r, hy, rfl⟩ := h
    cases hy
    rfl
  · rintro rfl
    exact none_iff.2 .alternationEmpty

theorem of_one_iff (g : Grouping) : Recognizes rules (g.of [p]) s o ↔ Recognizes rules p s o := by
  cases g with
  | sequence =>
    simp only [Grouping.of, sequence_cons_iff, sequence_nil_iff]
    cases o <;> simp
  | alternation =>
    simp only [Grouping.of, alternation_cons_iff, alternation_nil_iff]
    cases o <;> simp

theorem repetition_imp (same : ∀ s o, Recognizes rules b s o → Recognizes rules b' s o)
    (h : Recognizes rules (.repetition b min max) s o) :
    Recognizes rules (.repetition b' min max) s o := by
  obtain ⟨r, hy, rfl⟩ := h
  generalize he : Expr.repetition b min max = e at hy
  induction hy generalizing min max with
  | repetitionFull =>
    cases he
    exact ⟨_, .repetitionFull, rfl⟩
  | repetitionFullShort =>
    cases he
    exact ⟨_, .repetitionFullShort, rfl⟩
  | repetitionEnds room fails =>
    cases he
    exact ⟨_, .repetitionEnds room (none_iff.1 (same _ _ (none_iff.2 fails))), rfl⟩
  | repetitionEndsShort room fails =>
    cases he
    exact ⟨_, .repetitionEndsShort room (none_iff.1 (same _ _ (none_iff.2 fails))), rfl⟩
  | repetitionStalls room stalls =>
    cases he
    exact repetitionStalls room (same _ _ (some_iff.2 ⟨_, stalls⟩))
  | repetition room moves first others _ ih | repetitionFailsLater room moves first others _ ih =>
    cases he
    exact repetition room moves (same _ _ (some_iff.2 ⟨_, first⟩)) (ih rfl)
  | _ => cases he

end Recognizes

theorem Expr.Alike.recognizes_iff {rules : RuleSet V} {e e' : Expr V} (h : Alike e e') (s : Cursor)
    (o : Option Cursor) : Recognizes rules e s o ↔ Recognizes rules e' s o := by
  induction h generalizing s o with
  | literal | reference | groupEmpty => rfl
  | repetition min max body ih =>
    exact ⟨.repetition_imp fun s o => (ih s o).1, .repetition_imp fun s o => (ih s o).2⟩
  | group g first others ihf iho =>
    cases g with
    | sequence =>
      simp only [Grouping.of] at iho ⊢
      simp only [Recognizes.sequence_cons_iff, ihf, iho]
    | alternation =>
      simp only [Grouping.of] at iho ⊢
      simp only [Recognizes.alternation_cons_iff, ihf, iho]
  | groupOne g g' part ih => rw [Recognizes.of_one_iff, Recognizes.of_one_iff, ih]

/-! What may stand behind a text that has come to its end. -/

def EndsName (rest : List Char) : Prop := ∀ c ∈ rest.head?, (c.isAlphanum || c == '_') = false

def EndsItem (rest : List Char) : Prop := ∀ c ∈ rest.head?, c = ' ' ∨ c = ')'

theorem EndsItem.endsName {rest : List Char} (h : EndsItem rest) : EndsName rest := by
  intro c hc
  obtain rfl | rfl := h c hc <;> decide

theorem eq_of_ruleName_append {name name' : String} (h : isRuleName name = true)
    (h' : isRuleName name' = true) {rest rest' : List Char} (hr : EndsName rest)
    (hr' : EndsName rest') (eq : name.toList ++ rest = name'.toList ++ rest') :
    name = name' ∧ rest = rest' := by
  -- the name is what stands in front of the first character that no name has
  have read : ∀ {name : String} {rest : List Char}, isRuleName name = true → EndsName rest →
      (name.toList ++ rest).takeWhile (fun c => c.isAlphanum || c == '_') = name.toList := by
    intro name rest h hr
    obtain ⟨c, cs, hname, hc, hcs⟩ := isRuleName_iff.1 h
    have hall : ∀ d ∈ name.toList, (d.isAlphanum || d == '_') = true := by
      rw [hname]
      intro d hd
      obtain rfl | hd := List.mem_cons.1 hd
      · simp only [Char.isAlphanum, Bool.or_eq_true] at hc ⊢
        tauto
      · exact hcs d hd
    have hrest : rest.takeWhile (fun c => c.isAlphanum || c == '_') = [] := by
      cases rest with
      | nil => rfl
      | cons d rest => rw [List.takeWhile_cons_of_neg (by simpa using hr d rfl)]
    rw [List.takeWhile_append_of_pos hall, hrest, List.append_nil]
  have same : name.toList = name'.toList := by rw [← read h hr, eq, read h' hr']
  rw [same] at eq
  exact ⟨String.toList_inj.1 same, List.append_cancel_left eq⟩

theorem ruleName_append_ne_cons {name : String} (h : isRuleName name = true) {c : Char}
    (hc : (c.isAlpha || c == '_') = false) (rest rest' : List Char) :
    name.toList ++ rest ≠ c :: rest' := by
  obtain ⟨d, ds, hname, hd, -⟩ := isRuleName_iff.1 h
  rw [hname]
  intro eq
  obtain rfl := (List.cons.inj eq).1
  simp [hc] at hd

/-! Bounds read back. -/

namespace Text

theorem number?_ten_toDigits (n : Nat) : number? 10 (Nat.toDigits 10 n) = some n :=
  number?_ten_eq_some_iff.2 ⟨Nat.toDigits_ne_nil,
    fun _ hd => Nat.isDigit_of_mem_toDigits (by decide) (by decide) hd,
    Nat.ofDigitChars_ten_toDigits.symm⟩

end Text

abbrev Bounds := Nat × Option Nat

namespace Bounds

def text (b : Bounds) : List Char := (Expr.displayBounds b.1 b.2).toList

def read? : List Char → Option (Bounds × List Char)
  | '*' :: cs => some ((0, none), cs)
  | '+' :: cs => some ((1, none), cs)
  | '?' :: cs => some ((0, some 1), cs)
  | '\x7b' :: cs => do
    let min ← Text.number? 10 (cs.takeWhile Char.isDigit)
    let cs := (cs.dropWhile Char.isDigit).drop 1
    return ((min, Text.number? 10 (cs.takeWhile Char.isDigit)),
      (cs.dropWhile Char.isDigit).drop 1)
  | _ => none

theorem read?_text_append (b : Bounds) (rest : List Char) :
    read? (b.text ++ rest) = some (b, rest) := by
  have digits : ∀ n, ∀ d ∈ Nat.toDigits 10 n, d.isDigit = true :=
    fun _ _ hd => Nat.isDigit_of_mem_toDigits (by decide) (by decide) hd
  have noDigits : Text.number? 10 [] = none := rfl
  obtain ⟨min, max⟩ := b
  change read? ((Expr.displayBounds min max).toList ++ rest) = _
  unfold Expr.displayBounds
  split
  case h_4 | h_5 =>
    simp [read?, List.takeWhile_append_of_pos (digits _), List.dropWhile_append_of_pos (digits _),
      Text.number?_ten_toDigits, noDigits]
  all_goals rfl

theorem read?_of_endsItem {rest : List Char} (h : EndsItem rest) : read? rest = none := by
  cases rest with
  | nil => rfl
  | cons c rest => obtain rfl | rfl := h c rfl <;> rfl

theorem endsName_flatMap_append (bs : List Bounds) {rest : List Char} (h : EndsItem rest) :
    EndsName (bs.flatMap text ++ rest) := by
  cases bs with
  | nil => exact h.endsName
  | cons b bs =>
    intro c hc
    rw [List.flatMap_cons, List.append_assoc] at hc
    unfold text Expr.displayBounds at hc
    split at hc
    all_goals
      obtain rfl : _ = c := by simpa using hc
      decide

theorem eq_of_flatMap_append {bs bs' : List Bounds} {rest rest' : List Char} (hr : EndsItem rest)
    (hr' : EndsItem rest') (h : bs.flatMap text ++ rest = bs'.flatMap text ++ rest') :
    bs = bs' ∧ rest = rest' := by
  induction bs generalizing bs' with
  | nil =>
    cases bs' with
    | nil => exact ⟨rfl, h⟩
    | cons b' bs' =>
      have none_read := read?_of_endsItem hr
      change rest = _ at h
      rw [h, List.flatMap_cons, List.append_assoc, read?_text_append] at none_read
      cases none_read
  | cons b bs ih =>
    have read := read?_text_append b (bs.flatMap text ++ rest)
    rw [← List.append_assoc, ← List.flatMap_cons, h] at read
    cases bs' with
    | nil => cases (read?_of_endsItem hr').symm.trans read
    | cons b' bs' =>
      rw [List.flatMap_cons, List.append_assoc, read?_text_append] at read
      obtain ⟨rfl, hrest⟩ := Prod.mk.inj (Option.some.inj read)
      obtain ⟨rfl, rfl⟩ := ih hrest.symm
      exact ⟨rfl, rfl⟩

end Bounds

/-! Bases and what stands behind them. -/

namespace Expr

def base : Expr V → Expr V
  | .repetition body _ _ => body.base
  | e => e

def bounds : Expr V → List Bounds
  | .repetition body min max => body.bounds ++ [(min, max)]
  | _ => []

theorem bounds_eq_nil {e : Expr V} (h : ∀ b min max, e ≠ .repetition b min max) :
    e.bounds = [] := by
  cases e with
  | repetition b min max => exact absurd rfl (h b min max)
  | _ => rfl

theorem toList_display_eq (e : Expr V) :
    e.display.toList = e.base.display.toList ++ e.bounds.flatMap Bounds.text := by
  fun_induction base e with
  | case1 body min max ih =>
    rw [display, String.toList_append, ih, bounds, List.flatMap_append, List.append_assoc,
      List.flatMap_singleton, Bounds.text]
  | case2 e plain => rw [bounds_eq_nil plain, List.flatMap_nil, List.append_nil]

theorem alike_of_base {e e' : Expr V} (hbase : Alike e.base e'.base)
    (hbounds : e.bounds = e'.bounds) : Alike e e' := by
  fun_induction base e generalizing e' with
  | case1 b min max ih =>
    cases e' with
    | repetition b' min' max' =>
      obtain ⟨hb, hlast⟩ := List.append_inj' hbounds rfl
      cases hlast
      exact .repetition min max (ih hbase hb)
    | _ => simp [bounds] at hbounds
  | case2 e plain =>
    rw [bounds_eq_nil plain] at hbounds
    cases e' with
    | repetition => simp [bounds] at hbounds
    | _ => exact hbase

inductive IsBase : Expr V → Prop
  | literal (text : String) : IsBase (.literal text)
  | reference {name : String} (identifier : isRuleName name = true) : IsBase (.reference name)
  | group (g : Grouping) {p : Expr V} {ps : List (Expr V)} (parts : ∀ q ∈ p :: ps, q.Notated) :
      IsBase (g.of (p :: ps))

theorem Notated.isBase {e : Expr V} (h : e.Notated) : e.base.IsBase := by
  induction h with
  | literal text => exact .literal text
  | reference identifier => exact .reference identifier
  | repetition _ _ _ ih => exact ih
  | sequence parts => exact .group .sequence parts
  | alternation parts => exact .group .alternation parts

end Expr

namespace Grouping

def separator : Grouping → List Char
  | sequence => [' ']
  | alternation => [' ', '/', ' ']

def others (g : Grouping) (ps : List (Expr V)) : List Char :=
  ps.flatMap fun p => g.separator ++ p.display.toList

theorem toList_display_append (g : Grouping) (p : Expr V) (ps : List (Expr V))
    (rest : List Char) : (g.of (p :: ps)).display.toList ++ rest =
      '(' :: (p.display.toList ++ (g.others ps ++ ')' :: rest)) := by
  have items : ∀ sep : String, (sep.intercalate (Expr.displays (p :: ps))).toList =
      p.display.toList ++ ps.flatMap fun p => sep.toList ++ p.display.toList := by
    intro sep
    rw [Expr.displays_eq_map]
    induction ps generalizing p with
    | nil => simp
    | cons q ps ih =>
      rw [List.map_cons, List.map_cons, String.intercalate_cons_cons, String.toList_append,
        String.toList_append, ← List.map_cons, ih q, List.flatMap_cons, List.append_assoc,
        List.append_assoc]
  cases g with
  | sequence | alternation =>
    simp only [of, Expr.display, String.toList_append, items]
    simp [others, separator]

theorem endsItem_others_append (g : Grouping) (ps : List (Expr V)) (rest : List Char) :
    EndsItem (g.others ps ++ ')' :: rest) := by
  intro c hc
  cases ps with
  | nil =>
    cases hc
    exact .inr rfl
  | cons p ps =>
    left
    cases g with
    | sequence | alternation => simpa [others, separator, eq_comm] using hc

theorem eq_of_separator_append {g g' : Grouping} {cs cs' : List Char} (h : cs.head? ≠ some '/')
    (h' : cs'.head? ≠ some '/') (eq : g.separator ++ cs = g'.separator ++ cs') :
    g = g' ∧ cs = cs' := by
  cases g with
  | sequence =>
    cases g' with
    | sequence => exact ⟨rfl, List.append_cancel_left eq⟩
    | alternation =>
      obtain rfl : cs = '/' :: ' ' :: cs' := (List.cons.inj eq).2
      exact absurd rfl h
  | alternation =>
    cases g' with
    | sequence =>
      obtain rfl : '/' :: ' ' :: cs = cs' := (List.cons.inj eq).2
      exact absurd rfl h'
    | alternation => exact ⟨rfl, List.append_cancel_left eq⟩

end Grouping

namespace Expr

theorem toList_display_literal_append (text : String) (rest : List Char) :
    (display (.literal text : Expr V)).toList ++ rest =
      '"' :: (text.toList.flatMap (Text.escape '"') ++ '"' :: rest) := by
  rw [display, Text.quoteString, String.toList_ofList, List.cons_append, List.cons_append,
    List.append_assoc]
  rfl

theorem IsBase.head?_display_append {b : Expr V} (h : b.IsBase) (rest : List Char) :
    (b.display.toList ++ rest).head? ≠ some '/' := by
  cases h with
  | literal text =>
    rw [toList_display_literal_append]
    simp
  | reference identifier =>
    intro hhead
    obtain ⟨tail, htail⟩ := List.head?_eq_some_iff.1 hhead
    exact ruleName_append_ne_cons identifier rfl _ _ htail
  | group g parts =>
    rw [g.toList_display_append]
    simp

theorem Notated.head?_display_append {e : Expr V} (h : e.Notated) (rest : List Char) :
    (e.display.toList ++ rest).head? ≠ some '/' := by
  rw [toList_display_eq, List.append_assoc]
  exact h.isBase.head?_display_append _

/-- It is told from the text of the expression where it ends and, up to the kind of the groups of
one, what it is. -/
def Readable (e : Expr V) : Prop :=
  ∀ ⦃e' : Expr V⦄ ⦃rest rest' : List Char⦄, e'.Notated → EndsItem rest → EndsItem rest' →
    e.display.toList ++ rest = e'.display.toList ++ rest' → Alike e e' ∧ rest = rest'

end Expr

theorem Grouping.eq_of_others_append {g g' : Grouping} {ps qs : List (Expr V)}
    {rest rest' : List Char} (read : ∀ p ∈ ps, p.Readable) (hps : ∀ p ∈ ps, p.Notated)
    (hqs : ∀ q ∈ qs, q.Notated)
    (h : g.others ps ++ ')' :: rest = g'.others qs ++ ')' :: rest') :
    (ps = [] ∨ g = g') ∧ List.Forall₂ Expr.Alike ps qs ∧ rest = rest' := by
  have closes : ∀ (g : Grouping) (p : Expr V) (ps : List (Expr V)) (rest rest' : List Char),
      g.others (p :: ps) ++ rest ≠ ')' :: rest' := by
    intro g p ps rest rest'
    cases g <;> simp [others, separator]
  induction ps generalizing qs with
  | nil =>
    cases qs with
    | nil => exact ⟨.inl rfl, .nil, (List.cons.inj h).2⟩
    | cons q qs => exact absurd h.symm (closes g' q qs _ _)
  | cons p ps ih =>
    cases qs with
    | nil => exact absurd h (closes g p ps _ _)
    | cons q qs =>
      obtain ⟨readp, read⟩ := List.forall_mem_cons.1 read
      obtain ⟨hp, hps⟩ := List.forall_mem_cons.1 hps
      obtain ⟨hq, hqs⟩ := List.forall_mem_cons.1 hqs
      simp only [others, List.flatMap_cons, List.append_assoc] at h
      obtain ⟨rfl, hitems⟩ := eq_of_separator_append (hp.head?_display_append _)
        (hq.head?_display_append _) h
      obtain ⟨first, hothers⟩ := readp hq (g.endsItem_others_append ps rest)
        (g.endsItem_others_append qs rest') hitems
      obtain ⟨-, alike, hrest⟩ := ih read hps hqs hothers
      exact ⟨.inr rfl, .cons first alike, hrest⟩

namespace Expr

theorem IsBase.eq_of_append {b b' : Expr V} {rest rest' : List Char} (hb : b.IsBase)
    (hb' : b'.IsBase) (read : ∀ p ∈ b.parts, p.Readable) (hr : EndsName rest)
    (hr' : EndsName rest') (h : b.display.toList ++ rest = b'.display.toList ++ rest') :
    Alike b b' ∧ rest = rest' := by
  cases hb with
  | literal text =>
    rw [toList_display_literal_append] at h
    cases hb' with
    | literal text' =>
      rw [toList_display_literal_append] at h
      obtain ⟨same, hrest⟩ := Text.eq_of_quoted_append (.inl rfl) (List.cons.inj h).2
      obtain rfl := String.toList_inj.1 same
      exact ⟨.literal text, hrest⟩
    | reference identifier' => exact absurd h.symm (ruleName_append_ne_cons identifier' rfl _ _)
    | group g' parts' =>
      rw [Grouping.toList_display_append] at h
      cases (List.cons.inj h).1
  | reference identifier =>
    cases hb' with
    | literal text' =>
      rw [toList_display_literal_append] at h
      exact absurd h (ruleName_append_ne_cons identifier rfl _ _)
    | reference identifier' =>
      obtain ⟨rfl, hrest⟩ := eq_of_ruleName_append identifier identifier' hr hr' h
      exact ⟨.reference _, hrest⟩
    | group g' parts' =>
      rw [Grouping.toList_display_append] at h
      exact absurd h (ruleName_append_ne_cons identifier rfl _ _)
  | @group g p ps parts =>
    rw [Grouping.toList_display_append] at h
    cases hb' with
    | literal text' =>
      rw [toList_display_literal_append] at h
      cases (List.cons.inj h).1
    | reference identifier' => exact absurd h.symm (ruleName_append_ne_cons identifier' rfl _ _)
    | @group g' p' ps' parts' =>
      rw [Grouping.toList_display_append] at h
      have parts_of : (g.of (p :: ps)).parts = p :: ps := by cases g <;> rfl
      rw [parts_of] at read
      obtain ⟨readp, read⟩ := List.forall_mem_cons.1 read
      obtain ⟨hp, hps⟩ := List.forall_mem_cons.1 parts
      obtain ⟨hp', hps'⟩ := List.forall_mem_cons.1 parts'
      obtain ⟨first, hothers⟩ := readp hp' (g.endsItem_others_append ps rest)
        (g'.endsItem_others_append ps' rest') (List.cons.inj h).2
      obtain ⟨kind, alike, hrest⟩ := Grouping.eq_of_others_append read hps hps' hothers
      refine ⟨?_, hrest⟩
      obtain rfl | rfl := kind
      · cases alike
        exact .groupOne g g' first
      · exact .group g first (.of_forall₂ g alike)

theorem Notated.readable_of_parts {e : Expr V} (he : e.Notated)
    (read : ∀ p ∈ e.base.parts, p.Readable) : e.Readable := by
  intro e' rest rest' he' hr hr' h
  rw [toList_display_eq, toList_display_eq e', List.append_assoc, List.append_assoc] at h
  obtain ⟨hbase, hbounds⟩ := he.isBase.eq_of_append he'.isBase read
    (Bounds.endsName_flatMap_append _ hr) (Bounds.endsName_flatMap_append _ hr') h
  obtain ⟨same, hrest⟩ := Bounds.eq_of_flatMap_append hr hr' hbounds
  exact ⟨alike_of_base hbase same, hrest⟩

/-- By induction on the expression; a repetition hands the parts of the base under it on. -/
theorem Notated.readable {e : Expr V} (he : e.Notated) : e.Readable := by
  have parts : ∀ p ∈ e.base.parts, p.Readable := by
    induction he with
    | literal | reference => simp [base, parts]
    | repetition _ _ _ ih => exact ih
    | sequence h ih | alternation h ih => exact fun q hq => (h q hq).readable_of_parts (ih q hq)
  exact he.readable_of_parts parts

theorem Notated.alike_of_display_eq {e e' : Expr V} (he : e.Notated) (he' : e'.Notated)
    (h : e.display = e'.display) : Alike e e' := by
  have nothing : EndsItem [] := by simp [EndsItem]
  exact (he.readable he' nothing nothing (by rw [h])).1

/-- The notation tells what is recognized: expressions without hooks and classes that are written
alike come to an end, fail, and match up to some place in the same cases, whatever the rules are
and wherever they begin. -/
theorem recognizes_of_display_eq {e e' : Expr V} (he : e.Notated) (he' : e'.Notated)
    (h : e.display = e'.display) (rules : RuleSet V) (s : Cursor) :
    ((e.apply rules s).Ends ↔ (e'.apply rules s).Ends) ∧
    ((e.apply rules s).outcome = .noMatch ↔ (e'.apply rules s).outcome = .noMatch) ∧
    ∀ stop, (∃ node, (e.apply rules s).outcome = .matched node stop) ↔
      ∃ node, (e'.apply rules s).outcome = .matched node stop := by
  have alike := he.alike_of_display_eq he' h
  refine ⟨?_, ?_, fun stop => ?_⟩
  · simp only [ends_apply_iff_recognizes, alike.recognizes_iff]
  · rw [noMatch_iff, alike.recognizes_iff, noMatch_iff]
  · rw [exists_matched_iff, alike.recognizes_iff, exists_matched_iff]

def twelveTimes (text : String) (g : Grouping) : Expr Nat :=
  .sequence [((g.of [.literal text]).optional.repeated 12), .reference "end"]

theorem notated_twelveTimes (text : String) (g : Grouping) : (twelveTimes text g).Notated := by
  have item : ∀ e ∈ [(.literal text : Expr Nat)], e.Notated :=
    List.forall_mem_singleton.2 (.literal text)
  have group : (g.of [(.literal text : Expr Nat)]).Notated := by
    cases g with
    | sequence => exact .sequence item
    | alternation => exact .alternation item
  refine .sequence ?_
  simp only [List.forall_mem_cons]
  exact ⟨group.optional.repeated 12, .reference rfl, nofun⟩

theorem display_twelveTimes (text : String) (g : Grouping) : (twelveTimes text g).display =
    "((" ++ Text.quoteString text ++ ")?\x7b12,\x7d end)" := by
  have twelve : displayBounds 12 none = "\x7b12,\x7d" := by decide +kernel
  have once : displayBounds 0 (some 1) = "?" := rfl
  apply String.toList_inj.1
  cases g with
  | sequence | alternation =>
    simp [twelveTimes, repeated, optional, Grouping.of, display, displays, twelve, once]

theorem recognizes_of_display_eq_twelveTimes :
    (twelveTimes "a\" / \"b" .alternation).display = (twelveTimes "a\" / \"b" .sequence).display ∧
    ∃ node, ((twelveTimes "a\" / \"b" .alternation).apply [("end", .literal ")")]
      (.start "a\" / \"ba\" / \"b)")).outcome =
        .matched node ((Cursor.start "a\" / \"ba\" / \"b)").read 15) := by
  have same := (display_twelveTimes "a\" / \"b" .alternation).trans
    (display_twelveTimes "a\" / \"b" .sequence).symm
  have told := recognizes_of_display_eq (notated_twelveTimes _ .alternation)
    (notated_twelveTimes _ .sequence) same [("end", .literal ")")]
    (.start "a\" / \"ba\" / \"b)")
  exact ⟨same, (told.2.2 _).2 ⟨_, rfl⟩⟩

end Expr

end PegGrammar
