import PegGrammar.Text

/-!
Quoted text read back. What a character is written as between quotes can be told from what follows
it, and no character is written with a quote in front. So a quoted string ends where it ends,
whatever is behind it, and each string and each character has a quoted form of its own.
-/

namespace PegGrammar.Text

theorem foldlM_hexDigits {f : Char → Char}
    (hf : ∀ d < 16, digitValue? 16 (f (Nat.digitChar d)) = some d) (n : Nat) :
    ((Nat.toDigits 16 n).map f).foldlM (fun n c => (digitValue? 16 c).map (n * 16 + ·)) 0 =
      some n := by
  induction n using Nat.strongRecOn with
  | ind n ih =>
    by_cases h : n < 16
    · rw [Nat.toDigits_of_lt_base h]
      simp [hf n h]
    · rw [Nat.toDigits_of_base_le (by decide) (by omega), List.map_append, List.foldlM_append,
        ih (n / 16) (by omega)]
      simp [hf (n % 16) (by omega)]
      omega

theorem digitValue?_digitChar : ∀ d < 16, digitValue? 16 (Nat.digitChar d) = some d := by decide

theorem number?_toDigits (n : Nat) : number? 16 (Nat.toDigits 16 n) = some n := by
  have digits := foldlM_hexDigits (f := id) digitValue?_digitChar n
  rw [List.map_id] at digits
  rw [number?, List.isEmpty_eq_false_iff.2 Nat.toDigits_ne_nil, if_neg Bool.false_ne_true, digits]

theorem notMem_toDigits {base : Nat} (hb : 1 < base) {c : Char} (hc : ∀ d, Nat.digitChar d ≠ c)
    (n : Nat) : c ∉ Nat.toDigits base n := by
  induction n using Nat.strongRecOn with
  | ind n ih =>
    rw [Nat.toDigits_eq_if hb]
    split
    · simpa using (hc n).symm
    · next h =>
      have hdiv := ih (n / base) (Nat.div_lt_self (by omega) hb)
      simpa [hdiv] using (hc (n % base)).symm

def readCode? : List Char → Option (Char × List Char)
  | [] => none
  | '0' :: cs => some ('\x00', cs)
  | 't' :: cs => some ('\t', cs)
  | 'r' :: cs => some ('\r', cs)
  | 'n' :: cs => some ('\n', cs)
  | 'u' :: '\x7b' :: cs => do
    let n ← number? 16 (cs.takeWhile (· != '\x7d'))
    let c ← scalar? n
    return (c, (cs.dropWhile (· != '\x7d')).drop 1)
  | c :: cs => some (c, cs)

def readEscaped? : List Char → Option (Char × List Char)
  | [] => none
  | '\\' :: cs => readCode? cs
  | c :: cs => some (c, cs)

def IsQuote (quote : Char) : Prop := quote = '"' ∨ quote = '\''

theorem readEscaped?_hex (c : Char) (rest : List Char) :
    readEscaped? (['\\', 'u', '\x7b'] ++ Nat.toDigits 16 c.toNat ++ ['\x7d'] ++ rest) =
      some (c, rest) := by
  have hbrace : ∀ d ∈ Nat.toDigits 16 c.toNat, (d != '\x7d') = true := by
    intro d hd
    have hne : '\x7d' ∉ Nat.toDigits 16 c.toNat := notMem_toDigits (by decide) (by simp) c.toNat
    rw [bne_iff_ne]
    rintro rfl
    exact hne hd
  have hscalar : scalar? c.toNat = some c := by
    have valid : c.toNat.isValidChar := c.valid
    simp [scalar?, valid]
  simp [readEscaped?, readCode?, List.takeWhile_append_of_pos hbrace, List.dropWhile_append_of_pos hbrace,
    number?_toDigits, hscalar]

theorem readEscaped?_escape {quote : Char} (hq : IsQuote quote) (c : Char) (rest : List Char) :
    readEscaped? (escape quote c ++ rest) = some (c, rest) := by
  unfold escape
  split
  case h_6 =>
    split
    · next hc =>
      subst hc
      obtain rfl | rfl := hq <;> rfl
    · split
      · exact readEscaped?_hex c rest
      · simp [readEscaped?]
  all_goals rfl

theorem eq_of_escape_append {quote c d : Char} (hq : IsQuote quote) {rest rest' : List Char}
    (h : escape quote c ++ rest = escape quote d ++ rest') : c = d ∧ rest = rest' := by
  have read := readEscaped?_escape hq c rest
  rw [h, readEscaped?_escape hq d rest'] at read
  obtain ⟨rfl, rfl⟩ := Prod.mk.inj (Option.some.inj read)
  exact ⟨rfl, rfl⟩

theorem escape_append_ne_quote {quote : Char} (hq : IsQuote quote) (c : Char)
    (rest rest' : List Char) : escape quote c ++ rest ≠ quote :: rest' := by
  have slash : quote ≠ '\\' := by
    rintro rfl
    simp [IsQuote] at hq
  unfold escape
  split
  case h_6 =>
    split
    · simp [slash.symm]
    · next hc =>
      split
      · simp [slash.symm]
      · simp [hc]
  all_goals simp [slash.symm]

/-- A quoted string is the beginning of a text in one way. -/
theorem eq_of_quoted_append {quote : Char} (hq : IsQuote quote) {cs ds rest rest' : List Char}
    (h : cs.flatMap (escape quote) ++ quote :: rest = ds.flatMap (escape quote) ++ quote :: rest') :
    cs = ds ∧ rest = rest' := by
  induction cs generalizing ds with
  | nil =>
    cases ds with
    | nil => exact ⟨rfl, (List.cons.inj h).2⟩
    | cons d ds =>
      rw [List.flatMap_cons, List.append_assoc] at h
      exact absurd h.symm (escape_append_ne_quote hq d _ _)
  | cons c cs ih =>
    rw [List.flatMap_cons, List.append_assoc] at h
    cases ds with
    | nil => exact absurd h (escape_append_ne_quote hq c _ _)
    | cons d ds =>
      rw [List.flatMap_cons, List.append_assoc] at h
      obtain ⟨rfl, hrest⟩ := eq_of_escape_append hq h
      obtain ⟨rfl, rfl⟩ := ih hrest
      exact ⟨rfl, rfl⟩

theorem quoteString_injective : Function.Injective quoteString := by
  intro s t h
  have hlist := String.ofList_injective h
  exact String.toList_inj.1 (eq_of_quoted_append (.inl rfl) (List.cons.inj hlist).2).1

theorem quoteChar_injective : Function.Injective quoteChar := by
  intro c d h
  have hlist := String.ofList_injective h
  exact (eq_of_escape_append (.inr rfl) (List.cons.inj hlist).2).1

end PegGrammar.Text
