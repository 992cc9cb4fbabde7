import PegGrammar.Catalog
import PegGrammar.Proofs.MatchedText

/-!
Numerals. Decimal digits write the number that their places give, a sign in front of them decides
which side of zero it is on, and the grammar of numerals reads exactly the integers of 64 bits so
written: however many digits there are, it is the value alone that may be out of range.
-/

namespace PegGrammar

namespace Text

theorem digitValue?_ten (c : Char) :
    digitValue? 10 c = if c.isDigit then some (c.toNat - '0'.toNat) else none := by
  have hdigit : c.isDigit = true ↔ 48 ≤ c.toNat ∧ c.toNat ≤ 57 := by
    simp [Char.isDigit, UInt32.le_iff_toNat_le]
  have hzero : '0'.toNat = 48 := rfl
  simp only [digitValue?, hexValue?, hdigit, hzero]
  split
  · next h =>
    have small : c.toNat - 48 < 10 := by omega
    simp [small]
  · split
    · next h =>
      have large : 10 ≤ c.toNat - 87 := by omega
      simp [large]
    · split
      · next h =>
        have large : 10 ≤ c.toNat - 55 := by omega
        simp [large]
      · rfl

theorem foldlM_digitValue?_eq_some_iff {cs : List Char} {a n : ℕ} :
    cs.foldlM (fun n c => (digitValue? 10 c).map (n * 10 + ·)) a = some n ↔
      (∀ c ∈ cs, c.isDigit = true) ∧ n = Nat.ofDigitChars 10 cs a := by
  induction cs generalizing a with
  | nil => simpa using eq_comm
  | cons c cs ih =>
    rw [List.foldlM_cons, digitValue?_ten]
    by_cases hc : c.isDigit
    · simp only [hc, if_true, Option.map_some, Option.bind_eq_bind, Option.bind_some, ih,
        List.forall_mem_cons, true_and, Nat.ofDigitChars_cons, Nat.mul_comm]
    · simp [hc]

theorem number?_ten_eq_some_iff {cs : List Char} {n : ℕ} :
    number? 10 cs = some n ↔
      cs ≠ [] ∧ (∀ c ∈ cs, c.isDigit = true) ∧ n = Nat.ofDigitChars 10 cs 0 := by
  cases cs with
  | nil => simp [number?]
  | cons c cs => simp only [number?, List.isEmpty_cons, Bool.false_eq_true, if_false,
      foldlM_digitValue?_eq_some_iff, ne_eq, reduceCtorEq, not_false_eq_true, true_and]

end Text

namespace Numeral

def IsDigits (ds : List Char) : Prop := ds ≠ [] ∧ ∀ d ∈ ds, d.isDigit = true

/-- How a text writes an integer: in decimal digits, with at most one sign in front of them. -/
inductive Writes : List Char → ℤ → Prop
  | unsigned {ds : List Char} (digits : IsDigits ds) : Writes ds (Nat.ofDigitChars 10 ds 0)
  | plus {ds : List Char} (digits : IsDigits ds) : Writes ('+' :: ds) (Nat.ofDigitChars 10 ds 0)
  | minus {ds : List Char} (digits : IsDigits ds) : Writes ('-' :: ds) (-Nat.ofDigitChars 10 ds 0)

theorem IsDigits.number? {ds : List Char} (h : IsDigits ds) :
    Text.number? 10 ds = some (Nat.ofDigitChars 10 ds 0) :=
  Text.number?_ten_eq_some_iff.2 ⟨h.1, h.2, rfl⟩

theorem IsDigits.head_not_sign {ds : List Char} (h : IsDigits ds) :
    ds.head? ≠ some '+' ∧ ds.head? ≠ some '-' := by
  obtain ⟨hne, hds⟩ := h
  obtain ⟨d, ds, rfl⟩ := List.exists_cons_of_ne_nil hne
  have hd := hds d List.mem_cons_self
  constructor
  · rintro ⟨⟩
    simp [Char.isDigit] at hd
  · rintro ⟨⟩
    simp [Char.isDigit] at hd

theorem integer?_eq_some_iff {cs : List Char} {v : ℤ} :
    Text.integer? cs = some v ↔ Writes cs v := by
  constructor
  · intro h
    unfold Text.integer? at h
    split at h
    all_goals
      simp only [Option.bind_eq_bind, Option.pure_def, Option.map_eq_some_iff,
        Option.bind_eq_some_iff, Option.some.injEq] at h
    · obtain ⟨_, ⟨n, hn, rfl⟩, rfl⟩ := h
      obtain ⟨hne, hds, rfl⟩ := Text.number?_ten_eq_some_iff.1 hn
      exact .minus ⟨hne, hds⟩
    · obtain ⟨n, hn, rfl⟩ := h
      obtain ⟨hne, hds, rfl⟩ := Text.number?_ten_eq_some_iff.1 hn
      exact .plus ⟨hne, hds⟩
    · obtain ⟨n, hn, rfl⟩ := h
      obtain ⟨hne, hds, rfl⟩ := Text.number?_ten_eq_some_iff.1 hn
      exact .unsigned ⟨hne, hds⟩
  · intro h
    cases h with
    | unsigned hds =>
      obtain ⟨hplus, hminus⟩ := hds.head_not_sign
      unfold Text.integer?
      split
      · simp at hminus
      · simp at hplus
      · rw [hds.number?]
        rfl
    | plus hds | minus hds =>
      simp only [Text.integer?, hds.number?]
      rfl

theorem int64?_eq_some_iff {text : String} {n : Int64} :
    int64? text = some n ↔ Writes text.toList n.toInt := by
  rw [← integer?_eq_some_iff, int64?]
  simp only [Option.map_eq_some_iff, Option.filter_eq_some_iff, decide_eq_true_eq]
  constructor
  · intro h
    obtain ⟨v, ⟨hv, hlo, hhi⟩, rfl⟩ := h
    rw [Int64.toInt_ofInt_of_le hlo hhi]
    exact hv
  · intro h
    exact ⟨n.toInt, ⟨h, n.le_toInt, n.toInt_lt⟩, Int64.ofInt_toInt n⟩

theorem accepts_digit (c : Char) : (CharClass.range '0' '9').accepts c = c.isDigit := rfl

section Runs

variable {s u : Cursor}

theorem yields_sign {mark : String} (hmark : mark = "+" ∨ mark = "-") (h : s.Spans mark.toList u) :
    Yields rules (.optional (.reference "sign")) s
      (some (.repetition [.literal mark], u)) := by
  have hne : mark.toList ≠ [] := by rcases hmark with rfl | rfl <;> decide
  have hlit : Yields rules (.literal mark) s (some (.literal mark, u)) :=
    Yields.literal_some_iff.2 ⟨rfl, h⟩
  refine .repetition nofun (h.stop_ne hne) (.reference rfl ?_) .repetitionFull
  rcases hmark with rfl | rfl
  · exact .alternation hlit
  · refine .alternationOther (.literalFails fun hplus => ?_) (.alternation hlit)
    have := hplus.trans (List.prefix_refl _)
    rw [h.ahead_eq] at this
    simp at this

theorem yields_noSign (hplus : s.ahead.head? ≠ some '+') (hminus : s.ahead.head? ≠ some '-') :
    Yields rules (.optional (.reference "sign")) s (some (.repetition [], s)) := by
  have differs : ∀ c, s.ahead.head? ≠ some c → ¬[c] <+: s.ahead := by
    intro c hc hp
    obtain ⟨rest, hrest⟩ := hp
    simp [← hrest] at hc
  refine .repetitionEnds nofun (.reference rfl (.alternationOther (.literalFails ?_)
    (.alternationOther (.literalFails ?_) .alternationEmpty)))
  · exact differs '+' hplus
  · exact differs '-' hminus

theorem yields_digits {ds : List Char} (hds : IsDigits ds) (h : s.Spans ds u) (hu : u.ahead = []) :
    Yields rules (.reference "digits") s (some (.repetition (ds.map .char), u)) := by
  have reads : ∀ {s t : Cursor} {n : Node Int64},
      Yields rules (.charClass (.range '0' '9')) s (some (n, t)) ↔
        ∃ c, c.isDigit = true ∧ s.Spans [c] t ∧ n = .char c := by
    intro s t n
    constructor
    · intro h
      cases h with
      | @charClass _ _ c next member =>
        obtain ⟨rest, hrest⟩ := List.head?_eq_some_iff.1 next
        exact ⟨c, (accepts_digit c).symm.trans member, .of_cons hrest, rfl⟩
    · intro h
      obtain ⟨c, hc, hs, rfl⟩ := h
      rw [hs.stop_eq]
      exact .charClass (by simp [hs.ahead_eq]) ((accepts_digit c).trans hc)
  have fails : Yields rules (.charClass (.range '0' '9')) u none := .charClassFails (by simp [hu])
  refine .reference rfl ((Yields.repetition_some_iff reads (by simp)).2
    ⟨ds, ?_, hds.2, ?_, fails, rfl⟩)
  · exact List.length_pos_iff.2 hds.1
  · rwa [List.flatMap_singleton']

abbrev signed : Expr Int64 := .sequence [.optional (.reference "sign"), .reference "digits"]

theorem exists_yields_signed {cs : List Char} {v : ℤ} (h : Writes cs v) (hs : s.Spans cs u)
    (hu : u.ahead = []) : ∃ n, Yields rules signed s (some (n, u)) ∧ ¬n.HasValue := by
  have marked : ∀ {mark ds}, mark = "+" ∨ mark = "-" → IsDigits ds →
      s.Spans (mark.toList ++ ds) u → ∃ n, Yields rules signed s (some (n, u)) ∧ ¬n.HasValue := by
    intro mark ds hmark hds hs
    obtain ⟨t, hsign, hdigits⟩ := hs.split
    exact ⟨_, .sequence (yields_sign hmark hsign)
      (.sequence (yields_digits hds hdigits hu) .sequenceEmpty), by simp⟩
  cases h with
  | unsigned hds =>
    have hahead : s.ahead = cs := by rw [hs.ahead_eq, hu, List.append_nil]
    obtain ⟨hplus, hminus⟩ := hds.head_not_sign
    exact ⟨_, .sequence (yields_noSign (hahead ▸ hplus) (hahead ▸ hminus))
      (.sequence (yields_digits hds hs hu) .sequenceEmpty), by simp⟩
  | plus hds => exact marked (.inl rfl) hds hs
  | minus hds => exact marked (.inr rfl) hds hs

end Runs

theorem writes_display (n : Int64) : Writes (display n).toList n.toInt := by
  have digits : ∀ k : ℕ, IsDigits (toString k).toList ∧
      Nat.ofDigitChars 10 (toString k).toList 0 = k := by
    intro k
    rw [Nat.toString_eq_ofList_toDigits, String.toList_ofList]
    exact ⟨⟨Nat.toDigits_ne_nil,
      fun d hd => Nat.isDigit_of_mem_toDigits (by decide) (by decide) hd⟩,
      Nat.ofDigitChars_ten_toDigits⟩
  unfold display
  cases n.toInt with
  | ofNat k =>
    have h := Writes.unsigned (digits k).1
    rw [(digits k).2] at h
    exact h
  | negSucc k =>
    have h := Writes.minus (digits (k + 1)).1
    rw [(digits (k + 1)).2] at h
    have htext : toString (Int.negSucc k) = "-" ++ toString (k + 1) := rfl
    rw [htext, String.toList_append]
    exact h

theorem value_parseValue_eq_some_iff {text : String} {n : Int64} :
    (grammar.parseValue text).value = some n ↔ Writes text.toList n.toInt := by
  have hrule : grammar.rule? grammar.root =
      some (.hooked signed fun n => n.matchedText >>= int64?) := rfl
  -- a match of the whole text tells the whole text, which is what the hook reads
  have told : ∀ {m t}, Yields rules signed (.start text) (some (m, t)) → t.ahead = [] →
      ∀ {told}, m.matchedText = some told → told = text := by
    intro m t hy hend told htold
    have htext := (hy.spans_of_matchedText htold).ahead_eq
    rw [hend, List.append_nil] at htext
    exact (String.toList_inj.1 htext).symm
  rw [Grammar.value_parseValue_eq_some_iff, hrule, ← int64?_eq_some_iff]
  simp only [Option.some.injEq, exists_and_left, exists_eq_left', Yields.hooked_some_iff]
  constructor
  · intro h
    obtain ⟨t, hend, m, hy, v, hv, hn⟩ := h
    obtain rfl : n = v := by simpa using hn
    obtain ⟨text', htext', hread⟩ := Option.bind_eq_some_iff.1 hv
    rwa [told hy hend htext'] at hread
  · intro h
    obtain ⟨u, hspans, hend⟩ := (Cursor.start text).exists_spans_ahead
    obtain ⟨m, hy, hm⟩ := exists_yields_signed (int64?_eq_some_iff.1 h) hspans hend
    obtain ⟨text', htext'⟩ :=
      Option.ne_none_iff_exists'.1 (mt (Node.matchedText_eq_none_iff m).1 hm)
    refine ⟨u, hend, m, hy, n, ?_, rfl⟩
    rw [htext', told hy hend htext']
    exact h

/-- A text stands for an integer exactly if it writes the integer and that has 64 bits, and for none
if it is no numeral or writes an integer outside them. Every integer of 64 bits has such a text. -/
theorem parseValue_writes (text : String) :
    (∀ v : ℤ, (∃ n : Int64, (grammar.parseValue text).value = some n ∧ n.toInt = v) ↔
      Writes text.toList v ∧ -2 ^ 63 ≤ v ∧ v ≤ 2 ^ 63 - 1) ∧
    ((grammar.parseValue text).value = none ↔
      ∀ v : ℤ, Writes text.toList v → v < -2 ^ 63 ∨ 2 ^ 63 - 1 < v) ∧
    ∀ n : Int64, (grammar.parseValue (display n)).value = some n := by
  have reads : ∀ v : ℤ, (∃ n : Int64, (grammar.parseValue text).value = some n ∧ n.toInt = v) ↔
      Writes text.toList v ∧ -2 ^ 63 ≤ v ∧ v ≤ 2 ^ 63 - 1 := by
    intro v
    simp only [value_parseValue_eq_some_iff]
    constructor
    · rintro ⟨n, h, rfl⟩
      have := n.toInt_lt
      exact ⟨h, n.le_toInt, by omega⟩
    · rintro ⟨h, hlo, hhi⟩
      have hn : (Int64.ofInt v).toInt = v := Int64.toInt_ofInt_of_le hlo (by omega)
      exact ⟨Int64.ofInt v, by rwa [hn], hn⟩
  refine ⟨reads, ?_, fun n => value_parseValue_eq_some_iff.2 (writes_display n)⟩
  constructor
  · intro h v hv
    by_contra hin
    obtain ⟨n, hn, -⟩ := (reads v).2 ⟨hv, by omega, by omega⟩
    simp [h] at hn
  · intro h
    cases hn : (grammar.parseValue text).value with
    | none => rfl
    | some n =>
      obtain ⟨hv, hlo, hhi⟩ := (reads n.toInt).1 ⟨n, hn, rfl⟩
      have := h n.toInt hv
      omega

example : (grammar.parseValue "-0009223372036854775808").value = some Int64.minValue ∧
    (grammar.parseValue "9223372036854775808").value = none := by decide +kernel

end Numeral

end PegGrammar
