import PegGrammar.Proofs.Numerals
import PegGrammar.Proofs.Quoted
import PegGrammar.Proofs.Yaml.Reader

/-!
Scalars. In each style the reader gives back the text that was written: plain text is cut short by
nothing and stands for itself, a single-quoted text keeps its blanks and breaks, each escape reads
as its character, and a block with its hints has the lines and the end of the text.
-/

namespace PegGrammar.Yaml

section Characters

theorem isReadable_of_isPrintable {c : Char} (h : isPrintable c = true) : isReadable c = true := by
  simp only [isPrintable, isReadable, Bool.or_eq_true, Bool.and_eq_true, beq_iff_eq,
    decide_eq_true_eq] at h ⊢
  tauto

theorem breakText_of_isPrintable {c : Char} (printable : isPrintable c = true)
    (h : isBreak c = true) : breakText c = c := by
  simp only [isBreak, Bool.or_eq_true, beq_iff_eq] at h
  rcases h with (((rfl | rfl) | rfl) | rfl) | rfl
  · revert printable; decide
  · rfl
  · revert printable; decide
  · rfl
  · rfl

theorem isBlankOrBreak_of_isPrintable {c : Char} (printable : isPrintable c = true)
    (h : isBlankOrBreak c = true) : c = ' ' ∨ isBreak c = true := by
  simp only [isBlankOrBreak, Bool.or_eq_true, beq_iff_eq] at h
  rcases h with ((rfl | rfl) | h) | rfl
  · exact .inl rfl
  · revert printable; decide
  · exact .inr h
  · revert printable; decide

theorem isBlank_iff_of_isPrintable {c : Char} (printable : isPrintable c = true) :
    isBlank c = true ↔ c = ' ' := by
  constructor
  · intro h
    simp only [isBlank, Bool.or_eq_true, beq_iff_eq] at h
    rcases h with rfl | rfl
    · rfl
    · revert printable; decide
  · rintro rfl
    rfl

end Characters

section Following

inductive Below (bound : ℕ) : List Char → Prop
  | nil : Below bound []
  | token {k : ℕ} {c : Char} {cs : List Char} (low : k < bound) (blank : c ≠ ' ')
      (noBreak : isBreak c = false) : Below bound (indentation k ++ c :: cs)

theorem Below.mono {bound bound' : ℕ} {rest : List Char} (h : Below bound rest)
    (le : bound ≤ bound') : Below bound' rest := by
  cases h with
  | nil => exact .nil
  | token low blank noBreak => exact .token (Nat.lt_of_lt_of_le low le) blank noBreak

theorem nextToken_indentation {c : Char} (blank : c ≠ ' ') (noBreak : isBreak c = false)
    (column k : ℕ) (cs : List Char) :
    nextToken column (indentation k ++ c :: cs) = (column + k, c :: cs) := by
  induction k generalizing column with
  | zero => simp [indentation, nextToken, blank, noBreak]
  | succ k ih =>
    have hcons : indentation (k + 1) ++ c :: cs = ' ' :: (indentation k ++ c :: cs) := rfl
    rw [hcons, nextToken, if_pos rfl, ih]
    congr 1
    omega

theorem readBlock_indentation {indent column : ℕ} (k : ℕ) (low : column + k ≤ indent)
    (cs : List Char) :
    readBlock indent column (indentation k ++ cs) = readBlock indent (column + k) cs := by
  induction k generalizing column with
  | zero => rfl
  | succ k ih =>
    have hcons : indentation (k + 1) ++ cs = ' ' :: (indentation k ++ cs) := rfl
    rw [hcons, readBlock, if_neg (by decide), if_pos (by omega), if_pos rfl, ih (by omega)]
    congr 1
    omega

theorem Below.readBlock {indent : ℕ} {rest : List Char} (h : Below indent rest) :
    readBlock indent 0 rest = ([], nextToken 0 rest) := by
  cases h with
  | nil => rfl
  | token low blank noBreak =>
    rw [readBlock_indentation _ (by omega), nextToken_indentation blank noBreak, Yaml.readBlock,
      if_neg (by simp [noBreak]), if_pos (by omega), if_neg blank]

theorem endLine?_break (rest : List Char) : endLine? ('\n' :: rest) = some (nextToken 0 rest) :=
  rfl

end Following

section Escapes

theorem digitValue?_toUpper_digitChar :
    ∀ d < 16, Text.digitValue? 16 (Nat.digitChar d).toUpper = some d := by
  decide

theorem foldlM_upperDigits (n : ℕ) :
    ((Nat.toDigits 16 n).map Char.toUpper).foldlM
      (fun n c => (Text.digitValue? 16 c).map (n * 16 + ·)) 0 = some n :=
  Text.foldlM_hexDigits digitValue?_toUpper_digitChar n

theorem foldlM_zeros (k : ℕ) (cs : List Char) :
    (List.replicate k '0' ++ cs).foldlM (fun n c => (Text.digitValue? 16 c).map (n * 16 + ·)) 0 =
      cs.foldlM (fun n c => (Text.digitValue? 16 c).map (n * 16 + ·)) 0 := by
  induction k with
  | zero => rfl
  | succ k ih => exact ih

theorem number?_upperHex {width n : ℕ} (hw : 0 < width) (h : n < 16 ^ width) :
    (upperHex width n).length = width ∧ Text.number? 16 (upperHex width n) = some n := by
  have short : (Nat.toDigits 16 n).length ≤ width :=
    (Nat.length_toDigits_le_iff (by decide) hw).2 h
  have length : (upperHex width n).length = width := by
    simp [upperHex]
    omega
  refine ⟨length, ?_⟩
  have nonempty : (upperHex width n).isEmpty = false := by
    rw [List.isEmpty_eq_false_iff, ← List.length_pos_iff]
    omega
  rw [Text.number?, nonempty, if_neg (by simp), upperHex, foldlM_zeros, foldlM_upperDigits]

theorem readCode?_upperHex {width : ℕ} (hw : 0 < width) {c : Char} (h : c.toNat < 16 ^ width)
    (rest : List Char) : readCode? width (upperHex width c.toNat ++ rest) = some (c, rest) := by
  obtain ⟨length, number⟩ := number?_upperHex hw h
  have valid : c.toNat.isValidChar := c.valid
  have long : ¬(upperHex width c.toNat ++ rest).length < width := by simp [length]
  have htake : (upperHex width c.toNat ++ rest).take width = upperHex width c.toNat := by
    rw [List.take_append_of_le_length (by omega), List.take_of_length_le (by omega)]
  have hdrop : (upperHex width c.toNat ++ rest).drop width = rest := by
    rw [List.drop_append, length, Nat.sub_self, List.drop_of_length_le (by omega)]
    rfl
  rw [readCode?, if_neg long, htake, hdrop, number]
  simp [Text.scalar?, valid]

theorem escape_eq_or (c : Char) :
    escape c = [c] ∧ c ≠ '"' ∧ c ≠ '\\' ∧ isBreak c = false ∨
      ∃ code, escape c = '\\' :: code ∧ ∀ rest, readEscape? (code ++ rest) = some (c, rest) := by
  unfold escape
  split
  case h_15 _ _ _ _ hfeed _ _ hreturn _ hquote hslash hnext hline hparagraph =>
    have noBreak : isBreak c = false := by
      simpa [isBreak, and_assoc] using ⟨hreturn, hfeed, hnext, hline, hparagraph⟩
    have bound : c.toNat < 16 ^ 8 := by
      have valid : c.toNat.isValidChar := c.valid
      simp only [Nat.isValidChar] at valid
      omega
    split
    · exact .inl ⟨rfl, hquote, hslash, noBreak⟩
    · split
      · exact .inr ⟨_, rfl, readCode?_upperHex (by decide) (by omega)⟩
      · split
        · exact .inr ⟨_, rfl, readCode?_upperHex (by decide) (by omega)⟩
        · exact .inr ⟨_, rfl, readCode?_upperHex (by decide) bound⟩
  all_goals exact .inr ⟨_, rfl, fun _ => rfl⟩

theorem readDouble_escape (fuel : ℕ) (c : Char) (rest : List Char) :
    readDouble (fuel + 1) (escape c ++ rest) =
      (readDouble fuel rest).map fun p => (c :: p.1, p.2) := by
  rcases escape_eq_or c with ⟨plain, hquote, hslash, noBreak⟩ | ⟨code, escaped, reads⟩
  · rw [plain, List.singleton_append, readDouble, if_neg hquote, if_neg hslash,
      if_neg (by simp [noBreak])]
  · rw [escaped, List.cons_append, readDouble, if_neg (by decide), if_pos rfl, reads]
    simp only [Option.bind_eq_bind, Option.bind_some]
    cases readDouble fuel rest <;> rfl

theorem readDouble_quoted {fuel : ℕ} {cs : List Char} (enough : cs.length < fuel)
    (rest : List Char) : readDouble fuel (cs.flatMap escape ++ '"' :: rest) = some (cs, rest) := by
  induction cs generalizing fuel with
  | nil =>
    obtain ⟨fuel, rfl⟩ : ∃ k, fuel = k + 1 := ⟨fuel - 1, by simp at enough; omega⟩
    rfl
  | cons c cs ih =>
    obtain ⟨fuel, rfl⟩ : ∃ k, fuel = k + 1 := ⟨fuel - 1, by simp at enough; omega⟩
    simp only [List.length_cons, Nat.add_lt_add_iff_right] at enough
    rw [List.flatMap_cons, List.append_assoc, readDouble_escape, ih enough]
    rfl

theorem length_le_length_flatMap_escape (cs : List Char) :
    cs.length ≤ (cs.flatMap escape).length := by
  induction cs with
  | nil => exact Nat.le_refl 0
  | cons c cs ih =>
    have hpos : 0 < (escape c).length := by
      rcases escape_eq_or c with ⟨plain, -⟩ | ⟨code, escaped, -⟩
      · simp [plain]
      · simp [escaped]
    rw [List.flatMap_cons, List.length_append, List.length_cons]
    omega

end Escapes

section Plain

theorem hasPair_cons {p q : Char → Bool} {c d : Char} {cs : List Char} :
    hasPair p q (c :: d :: cs) = (p c && q d || hasPair p q (d :: cs)) := by
  simp [hasPair]

theorem not_mem_reserved {c : Char} (h : indicators.contains c = false) :
    reserved.contains c = false := by
  simp only [indicators, List.contains_cons, Bool.or_eq_false_iff, reserved] at h ⊢
  tauto

theorem endsToken_append (cs rest : List Char) :
    endsToken (cs ++ '\n' :: rest) = endsToken cs := by
  cases cs <;> rfl

theorem readPlain_append {blank : Bool} {cs : List Char} (noBreak : ∀ c ∈ cs, isBreak c = false)
    (noMark : hasInnerMark blank cs = false) (rest : List Char) :
    readPlain blank (cs ++ '\n' :: rest) = (cs, '\n' :: rest) := by
  induction cs generalizing blank with
  | nil => rfl
  | cons c cs ih =>
    obtain ⟨hc, hcs⟩ := List.forall_mem_cons.1 noBreak
    simp only [hasInnerMark, Bool.or_eq_false_iff] at noMark
    obtain ⟨⟨colon, comment⟩, later⟩ := noMark
    rw [List.cons_append, readPlain, endsToken_append, hc, colon, comment, if_neg (by decide),
      ih hcs later]

theorem isDecimal_of_unambiguous {cs : List Char} (notInteger : isInteger cs = false)
    (notPadded : isZeroPadded cs = false) : isDecimal cs = false := by
  simp only [isInteger, notPadded, Bool.or_eq_false_iff, Bool.not_false,
    Bool.true_and] at notInteger
  obtain ⟨-, unsigned, negative⟩ := notInteger
  have large {ds : List Char} {bound : ℕ} (digits : Numeral.IsDigits ds)
      (h : (Text.number? 10 ds).any (· < bound) = false) : bound ≤ Nat.ofDigitChars 10 ds 0 := by
    simpa [digits.number?] using h
  unfold isDecimal
  cases hn : Text.integer? cs with
  | none => rfl
  | some n =>
    suffices outside : ¬(-2 ^ 127 ≤ n ∧ n < 2 ^ 128) by simpa using outside
    cases Numeral.integer?_eq_some_iff.1 hn with
    | unsigned digits =>
      have noPlus : strip? ['+'] cs = none := by
        obtain ⟨c, ds, rfl⟩ := List.exists_cons_of_ne_nil digits.1
        have plus : '+' ≠ c := fun h => digits.head_not_sign.1 (by rw [← h]; rfl)
        simp [strip?, plus]
      rw [noPlus] at unsigned
      have above : 2 ^ 128 ≤ Nat.ofDigitChars 10 cs 0 := large digits unsigned
      omega
    | @plus ds digits =>
      have above : 2 ^ 128 ≤ Nat.ofDigitChars 10 ds 0 := large digits unsigned
      omega
    | @minus ds digits =>
      have below : 2 ^ 127 + 1 ≤ Nat.ofDigitChars 10 ds 0 := large digits negative
      omega

theorem resolve_of_unambiguous {cs : List Char} (h : isAmbiguous cs = false) :
    resolve cs = .text (String.ofList cs) := by
  simp only [isAmbiguous, Bool.or_eq_false_iff] at h
  obtain ⟨⟨⟨⟨notNull, notBoolean⟩, notInteger⟩, notPadded⟩, notFloat⟩ := h
  have notDecimal := isDecimal_of_unambiguous notInteger notPadded
  simp only [isNull, isBoolean, List.any_cons, Bool.or_eq_false_iff] at notNull notBoolean
  simp only [resolve, nullWords, trueWords, falseWords, List.any_cons, notNull,
    notBoolean, notDecimal, notInteger, notFloat]
  rfl

example : resolve "0".toList = .number "0" ∧ resolve "true".toList = .boolean true ∧
    resolve "~".toList = .null ∧ resolve "zero".toList = .text "zero" := ⟨rfl, rfl, rfl, rfl⟩

structure IsPlainText (cs : List Char) : Prop where
  unambiguous : isAmbiguous cs = false
  printable : ∀ c ∈ cs, isPrintable c = true
  noBreak : ∀ c ∈ cs, isBreak c = false
  noMark : hasMark cs = false
  head : cs.head? ≠ some ' '
  last : cs.getLast? ≠ some ' '

theorem IsPlainText.exists_cons {cs : List Char} (h : IsPlainText cs) :
    ∃ c rest, cs = c :: rest ∧ isBlankOrBreak c = false := by
  cases cs with
  | nil => cases h.unambiguous
  | cons c cs =>
    refine ⟨c, cs, rfl, Bool.eq_false_iff.2 fun blank => ?_⟩
    rcases isBlankOrBreak_of_isPrintable (h.printable c List.mem_cons_self) blank with rfl | brk
    · exact h.head rfl
    · simp [h.noBreak c List.mem_cons_self] at brk

theorem IsPlainText.readInline {cs : List Char} (h : IsPlainText cs) (parent : ℕ)
    (rest : List Char) :
    readInline parent (cs ++ '\n' :: rest) =
      some (.text (String.ofList cs), nextToken 0 rest) := by
  obtain ⟨c, cs, rfl, visible⟩ := h.exists_cons
  obtain ⟨unambiguous, printable, noBreak, noMark, head, last⟩ := h
  obtain ⟨hc, hcs⟩ := List.forall_mem_cons.1 noBreak
  simp only [hasMark, Bool.or_eq_false_iff] at noMark
  obtain ⟨-, ⟨indicator, mark⟩, inner⟩ := noMark
  have unreserved := not_mem_reserved indicator
  have starts : startsPlain (c :: (cs ++ '\n' :: rest)) = true := by
    have noMark : ((c == '-' || c == '?' || c == ':') && endsToken cs) = false := by
      rw [← mark, Bool.or_comm (c == '-'), Bool.or_assoc, Bool.or_comm (c == '-'),
        ← Bool.or_assoc]
    simp only [startsPlain, endsToken_append, visible, unreserved, noMark]
    rfl
  have read : readPlain false (c :: (cs ++ '\n' :: rest)) = (c :: cs, '\n' :: rest) := by
    have colon : (c == ':' && endsToken cs) = false := by
      revert mark
      cases c == ':' <;> cases endsToken cs <;> simp
    rw [readPlain, endsToken_append, hc, colon, Bool.and_false, if_neg (by decide),
      readPlain_append hcs inner]
  have trimmed : trimBlanks (c :: cs) = c :: cs := by
    rw [trimBlanks, List.rdropWhile_eq_self_iff]
    intro nonempty blank
    have hlast := printable _ (List.getLast_mem nonempty)
    rw [isBlank_iff_of_isPrintable hlast] at blank
    exact last (by rw [List.getLast?_eq_some_getLast nonempty, blank])
  simp only [reserved, List.contains_cons, Bool.or_eq_false_iff, beq_eq_false_iff_ne] at unreserved
  rw [List.cons_append, Yaml.readInline]
  simp only [unreserved, if_false, starts, if_true, read, trimmed,
    resolve_of_unambiguous unambiguous, endLine?_break]
  rfl

end Plain

section SingleQuoted

structure IsSingleText (cs : List Char) : Prop where
  printable : ∀ c ∈ cs, isPrintable c = true
  noFeed : '\n' ∉ cs
  noBlankBreak : hasPair isSpace isBreak cs = false
  noBreakBlank : hasPair isBreak isSpace cs = false

theorem IsSingleText.tail {c : Char} {cs : List Char} (h : IsSingleText (c :: cs)) :
    IsSingleText cs := by
  obtain ⟨printable, noFeed, noBlankBreak, noBreakBlank⟩ := h
  refine ⟨fun d hd => printable d (List.mem_cons_of_mem c hd),
    fun hd => noFeed (List.mem_cons_of_mem c hd), ?_, ?_⟩
  · cases cs with
    | nil => rfl
    | cons d cs => exact (Bool.or_eq_false_iff.1 (hasPair_cons ▸ noBlankBreak)).2
  · cases cs with
    | nil => rfl
    | cons d cs => exact (Bool.or_eq_false_iff.1 (hasPair_cons ▸ noBreakBlank)).2

theorem IsSingleText.blank_or_break {c : Char} {cs : List Char} (h : IsSingleText (c :: cs)) :
    (c = ' ' → cs.head?.any isBreak = false) ∧ (isBreak c = true → cs.head? ≠ some ' ') := by
  obtain ⟨-, -, noBlankBreak, noBreakBlank⟩ := h
  cases cs with
  | nil => simp
  | cons d cs =>
    have blankBreak := (Bool.or_eq_false_iff.1 (hasPair_cons ▸ noBlankBreak)).1
    have breakBlank := (Bool.or_eq_false_iff.1 (hasPair_cons ▸ noBreakBlank)).1
    constructor
    · rintro rfl
      simpa [isSpace] using blankBreak
    · intro hc
      simpa [hc, isSpace] using breakBlank

/-- What a gap may be in front of a text: blanks, after which no break comes, or breaks, after which
no blank comes. -/
inductive Gap.Fits : Gap → (fresh : Bool) → List Char → Prop
  | blanks {bs cs : List Char} (h : bs = [] ∨ cs.head?.any isBreak = false) :
      Fits ⟨bs, []⟩ false cs
  | breaks {bs cs : List Char} (nonempty : bs ≠ []) (noFeed : '\n' ∉ bs)
      (h : cs.head? ≠ some ' ') : Fits ⟨[], bs⟩ true cs

theorem Gap.text_breaks {bs : List Char} (nonempty : bs ≠ []) (noFeed : '\n' ∉ bs) :
    Gap.text ⟨[], bs⟩ = bs := by
  cases bs with
  | nil => exact absurd rfl nonempty
  | cons b bs =>
    have hb : b ≠ '\n' := fun hb => noFeed (by simp [hb])
    simp [Gap.text, hb]

theorem readSingle_indentation {bs : List Char} (nonempty : bs ≠ []) (k : ℕ) (cs : List Char) :
    readSingle ⟨[], bs⟩ false (indentation k ++ cs) = readSingle ⟨[], bs⟩ false cs := by
  induction k with
  | zero => rfl
  | succ k ih =>
    have hcons : indentation (k + 1) ++ cs = ' ' :: (indentation k ++ cs) := rfl
    have filled : bs.isEmpty = false := by simpa using nonempty
    rw [hcons, readSingle, if_neg (by decide), if_neg (by decide), if_neg (by decide),
      if_pos (by decide), filled, if_neg (by decide), ih]

theorem Gap.Fits.indentation {g : Gap} {fresh : Bool} {cs : List Char} (h : g.Fits fresh cs)
    (indent : ℕ) (rest : List Char) :
    readSingle g false ((if fresh then Yaml.indentation indent else []) ++ rest) =
      readSingle g false rest := by
  cases h with
  | blanks => rfl
  | breaks nonempty => exact readSingle_indentation nonempty indent rest

theorem Gap.Fits.append_break {g : Gap} {fresh : Bool} {c : Char} {cs : List Char}
    (h : g.Fits fresh (c :: cs)) (hc : isBreak c = true) (noFeed : c ≠ '\n')
    (head : cs.head? ≠ some ' ') :
    Gap.Fits ⟨[], g.breaks ++ [c]⟩ true cs ∧ Gap.text ⟨[], g.breaks ++ [c]⟩ = g.text ++ [c] := by
  cases h with
  | blanks h =>
    obtain rfl := h.resolve_right (by simp [hc])
    have single : '\n' ∉ [c] := by simpa using Ne.symm noFeed
    exact ⟨.breaks (by simp) single head, Gap.text_breaks (by simp) single⟩
  | @breaks bs _ nonempty noFeeds =>
    have noFeeds' : '\n' ∉ bs ++ [c] := by simpa using ⟨noFeeds, Ne.symm noFeed⟩
    refine ⟨.breaks (by simp) noFeeds' head, ?_⟩
    rw [Gap.text_breaks (by simp) noFeeds', Gap.text_breaks nonempty noFeeds]

theorem readSingle_quoteSingle (indent : ℕ) {cs : List Char} (h : IsSingleText cs) {g : Gap}
    {fresh : Bool} (fits : g.Fits fresh cs) (rest : List Char) :
    readSingle g false (quoteSingle indent fresh cs ++ '\'' :: '\n' :: rest) =
      some (g.text ++ cs, '\n' :: rest) := by
  induction cs generalizing g fresh with
  | nil =>
    rw [quoteSingle, fits.indentation]
    simp [readSingle]
  | cons c cs ih =>
    obtain ⟨blankBreak, breakBlank⟩ := h.blank_or_break
    have printable := h.printable c List.mem_cons_self
    have noFeed : c ≠ '\n' := fun hc => h.noFeed (by simp [hc])
    have next := ih h.tail (.blanks (.inl rfl))
    by_cases hbreak : isBreak c = true
    · have hquote : c ≠ '\'' := by
        rintro rfl
        cases hbreak
      obtain ⟨fits', text⟩ := fits.append_break hbreak noFeed (breakBlank hbreak)
      rw [quoteSingle, if_pos hbreak, List.cons_append, readSingle, if_neg (by decide),
        if_neg hquote, if_pos hbreak, breakText_of_isPrintable printable hbreak, ih h.tail fits',
        text, List.append_assoc]
      rfl
    · rw [quoteSingle, if_neg hbreak, List.append_assoc, List.append_assoc, fits.indentation]
      by_cases hquote : c = '\''
      · subst hquote
        simp [readSingle, next, Gap.text, Gap.empty]
      · rw [if_neg hquote, List.singleton_append, readSingle, if_neg (by decide), if_neg hquote,
          if_neg hbreak]
        by_cases hblank : c = ' '
        · subst hblank
          cases fits with
          | breaks _ _ head => exact absurd rfl head
          | @blanks bs =>
            have fits' : Gap.Fits ⟨bs ++ [' '], []⟩ false cs := .blanks (.inr (blankBreak rfl))
            rw [if_pos (by decide)]
            simpa [Gap.text] using ih h.tail fits'
        · rw [if_neg (mt (isBlank_iff_of_isPrintable printable).1 hblank)]
          simp [next, Gap.text, Gap.empty]

theorem IsSingleText.readInline {cs : List Char} (h : IsSingleText cs) (indent parent : ℕ)
    (rest : List Char) :
    readInline parent ('\'' :: quoteSingle indent false cs ++ '\'' :: '\n' :: rest) =
      some (.text (String.ofList cs), nextToken 0 rest) := by
  have read : readSingle .empty false (quoteSingle indent false cs ++ '\'' :: '\n' :: rest) =
      some (cs, '\n' :: rest) :=
    readSingle_quoteSingle indent h (.blanks (.inl rfl)) rest
  simp only [List.cons_append, Yaml.readInline, if_true, read]
  rfl

end SingleQuoted

section DoubleQuoted

theorem readInline_doubleQuoted (parent : ℕ) (cs rest : List Char) :
    readInline parent ('"' :: cs.flatMap escape ++ '"' :: '\n' :: rest) =
      some (.text (String.ofList cs), nextToken 0 rest) := by
  have enough : cs.length < (cs.flatMap escape ++ '"' :: '\n' :: rest).length + 1 := by
    have := length_le_length_flatMap_escape cs
    rw [List.length_append]
    omega
  rw [List.cons_append, readInline, if_neg (by decide), if_pos rfl, readDouble_quoted enough]
  rfl

end DoubleQuoted

section Literal

/-- Whether a line begins behind a text; `fresh` says that one begins in front of it. -/
def endsFresh (fresh : Bool) : List Char → Bool
  | [] => fresh
  | c :: cs => endsFresh (isBreak c) cs

theorem endsFresh_append (fresh : Bool) (cs : List Char) (c : Char) :
    endsFresh fresh (cs ++ [c]) = isBreak c := by
  induction cs generalizing fresh with
  | nil => rfl
  | cons d cs ih => exact ih (isBreak d)

theorem readBlock_blockLines (indent : ℕ) {cs : List Char}
    (printable : ∀ c ∈ cs, isPrintable c = true) (fresh : Bool) (rest : List Char) :
    readBlock indent (if fresh then 0 else indent) (blockLines indent fresh cs ++ rest) =
      let read := readBlock indent (if endsFresh fresh cs then 0 else indent) rest
      (cs ++ read.1, read.2) := by
  induction cs generalizing fresh with
  | nil => rfl
  | cons c cs ih =>
    obtain ⟨hc, hcs⟩ := List.forall_mem_cons.1 printable
    by_cases hbreak : isBreak c = true
    · have next := ih hcs true
      rw [if_pos rfl] at next
      rw [blockLines, if_pos hbreak, List.cons_append, readBlock, if_pos hbreak, next,
        breakText_of_isPrintable hc hbreak]
      simp only [endsFresh, hbreak]
      rfl
    · have start (cs : List Char) : readBlock indent (if fresh then 0 else indent)
          ((if fresh then indentation indent else []) ++ cs) = readBlock indent indent cs := by
        cases fresh with
        | false => rfl
        | true => exact (readBlock_indentation indent (by simp) cs).trans (by simp)
      have next := ih hcs false
      rw [if_neg (by decide)] at next
      rw [blockLines, if_neg hbreak, List.append_assoc, start, List.cons_append, readBlock,
        if_neg hbreak, if_neg (Nat.lt_irrefl _), next]
      simp only [endsFresh, hbreak]
      rfl

def chompOf (cs : List Char) : Chomp :=
  match cs.reverse with
  | [] => .strip
  | c :: before =>
    if !isBreak c then .strip else if before.head?.all isBreak then .keep else .clip

theorem readHints_blockHints (cs rest : List Char) :
    readHints ⟨none, .clip⟩ (blockHints cs ++ '\n' :: rest) =
      some (⟨if cs.head?.any fun c => isSpace c || isBreak c then some 2 else none, chompOf cs⟩,
        rest) := by
  unfold blockHints chompOf
  generalize (cs.head?.any fun c => isSpace c || isBreak c) = leading
  cases cs.reverse with
  | nil => cases leading <;> rfl
  | cons c before =>
    dsimp only
    cases isBreak c <;> cases before.head?.all isBreak <;> cases leading <;> rfl

theorem chompOf_apply {cs : List Char} (nonempty : cs ≠ []) :
    (chompOf cs).apply (cs ++ if cs.getLast?.any isBreak then [] else ['\n']) = cs := by
  obtain ⟨before, c, rfl⟩ : ∃ before c, cs = before ++ [c] :=
    ⟨_, _, (List.dropLast_append_getLast nonempty).symm⟩
  simp only [chompOf, List.reverse_append, List.reverse_cons, List.reverse_nil, List.nil_append,
    List.singleton_append, List.getLast?_concat, Option.any_some]
  by_cases hc : isBreak c = true
  · rw [hc]
    rcases List.eq_nil_or_concat before with rfl | ⟨start, d, rfl⟩
    · simp [Chomp.apply]
    · by_cases hd : isBreak d = true
      · simp [hd, Chomp.apply]
      · have drop : (start ++ [d] ++ [c]).rdropWhile isBreak = start ++ [d] := by
          rw [List.rdropWhile_concat_pos _ _ _ hc, List.rdropWhile_concat_neg _ _ _ hd]
        have clip : Chomp.clip.apply (start ++ [d] ++ [c]) = start ++ [d] ++ [c] := by
          rw [Chomp.apply, drop]
          split
          · next h => simp at h
          · next h => rw [← h, List.take_of_length_le (by simp)]
        simpa [hd] using clip
  · have drop : (before ++ [c] ++ ['\n']).rdropWhile isBreak = before ++ [c] := by
      rw [List.rdropWhile_concat_pos _ _ _ (by decide), List.rdropWhile_concat_neg _ _ _ hc]
    simpa [hc, Chomp.apply] using drop

theorem widest_indentation {c : Char} (blank : c ≠ ' ') (noBreak : isBreak c = false)
    (column k : ℕ) (cs : List Char) : widest column (indentation k ++ c :: cs) = column + k := by
  induction k generalizing column with
  | zero => simp [indentation, widest, blank, noBreak]
  | succ k ih =>
    have hcons : indentation (k + 1) ++ c :: cs = ' ' :: (indentation k ++ c :: cs) := rfl
    rw [hcons, widest, if_pos rfl, ih]
    omega

theorem indentation_blockHints {cs : List Char} (nonempty : cs ≠ []) (parent : ℕ)
    (rest : List Char) :
    Hints.indentation
      ⟨if cs.head?.any fun c => isSpace c || isBreak c then some 2 else none, chompOf cs⟩ parent
      (blockLines (parent + 2) true cs ++ rest) = parent + 2 := by
  obtain ⟨c, cs, rfl⟩ := List.exists_cons_of_ne_nil nonempty
  by_cases leading : (isSpace c || isBreak c) = true
  · simp [Hints.indentation, leading]
  · obtain ⟨blank, noBreak⟩ : c ≠ ' ' ∧ isBreak c = false := by simpa [isSpace] using leading
    have first : blockLines (parent + 2) true (c :: cs) ++ rest =
        indentation (parent + 2) ++ c :: (blockLines (parent + 2) false cs ++ rest) := by
      simp [blockLines, noBreak]
    rw [first]
    simp only [Hints.indentation, List.head?_cons, Option.any_some, leading,
      widest_indentation blank noBreak]
    simp

theorem endsFresh_eq {cs : List Char} (nonempty : cs ≠ []) (fresh : Bool) :
    endsFresh fresh cs = cs.getLast?.any isBreak := by
  rw [← List.dropLast_append_getLast nonempty, endsFresh_append, List.getLast?_concat,
    Option.any_some]

theorem readBlock_literal {indent : ℕ} {cs : List Char} (nonempty : cs ≠ [])
    (printable : ∀ c ∈ cs, isPrintable c = true) {rest : List Char} (below : Below indent rest) :
    readBlock indent 0 (blockLines indent true cs ++
        ((if cs.getLast?.any isBreak then [] else ['\n']) ++ rest)) =
      (cs ++ (if cs.getLast?.any isBreak then [] else ['\n']), nextToken 0 rest) := by
  have read := readBlock_blockLines indent printable true
    ((if cs.getLast?.any isBreak then [] else ['\n']) ++ rest)
  rw [if_pos rfl, endsFresh_eq nonempty] at read
  rw [read]
  cases cs.getLast?.any isBreak with
  | true => simp [below.readBlock]
  | false =>
    have last : readBlock indent indent ('\n' :: rest) = (['\n'], nextToken 0 rest) := by
      rw [readBlock, if_pos (by decide), below.readBlock]
      rfl
    simp [last]

theorem readInline_literal {parent : ℕ} {cs : List Char} (nonempty : cs ≠ [])
    (printable : ∀ c ∈ cs, isPrintable c = true) {rest : List Char}
    (below : Below (parent + 2) rest) :
    readInline parent ('|' :: blockHints cs ++ '\n' :: blockLines (parent + 2) true cs ++
        (if cs.getLast?.any isBreak then [] else ['\n']) ++ rest) =
      some (.text (String.ofList cs), nextToken 0 rest) := by
  simp only [List.cons_append, List.append_assoc]
  rw [readInline, if_neg (by decide), if_neg (by decide), if_pos rfl, readHints_blockHints]
  simp only [Option.bind_eq_bind, Option.bind_some, indentation_blockHints nonempty,
    readBlock_literal nonempty printable below, chompOf_apply nonempty]
  rfl

end Literal

section Styles

theorem of_needsEscapes {cs : List Char} (h : needsEscapes cs = false) :
    (∀ c ∈ cs, isPrintable c = true) ∧ hasPair isSpace isBreak cs = false := by
  obtain ⟨printable, noPair⟩ := Bool.or_eq_false_iff.1 h
  exact ⟨by simpa using printable, noPair⟩

theorem isSingleText_of_allowed {cs : List Char} (h : singleQuotedAllowed cs = true)
    (noFeed : '\n' ∉ cs) : IsSingleText cs := by
  simp only [singleQuotedAllowed, Bool.and_eq_true, Bool.not_eq_true'] at h
  obtain ⟨printable, noPair⟩ := of_needsEscapes h.1
  exact ⟨printable, noFeed, noPair, h.2⟩

theorem isPlainText_of_allowed {cs : List Char} (unambiguous : isAmbiguous cs = false)
    (h : plainAllowed cs = true) : IsPlainText cs := by
  simp only [plainAllowed, singleQuotedAllowed, Bool.and_eq_true, Bool.not_eq_true'] at h
  obtain ⟨⟨⟨⟨⟨escapes, -⟩, noBreak⟩, noMark⟩, head⟩, last⟩ := h
  refine ⟨unambiguous, (of_needsEscapes escapes).1, by simpa using noBreak, noMark, ?_, ?_⟩
  · intro space
    simp [space, isSpace] at head
  · intro space
    simp [space, isSpace] at last

def Style.Suits (cs : List Char) : Style → Prop
  | plain => IsPlainText cs
  | singleQuoted => IsSingleText cs
  | doubleQuoted => True
  | literal => cs ≠ [] ∧ ∀ c ∈ cs, isPrintable c = true

theorem suits_style (cs : List Char) : (style cs).Suits cs := by
  unfold style
  split
  · next hfeed =>
    split
    · next hliteral =>
      simp only [literalAllowed, Bool.and_eq_true, Bool.not_eq_true'] at hliteral
      refine ⟨?_, (of_needsEscapes hliteral.1).1⟩
      rintro rfl
      cases hfeed
    · trivial
  · next hfeed =>
    split
    · next hplain =>
      rw [Bool.and_eq_true, Bool.not_eq_true'] at hplain
      exact isPlainText_of_allowed hplain.1 hplain.2
    · split
      · next hsingle => exact isSingleText_of_allowed hsingle (by simpa using hfeed)
      · trivial

/-- A scalar below keys at column `parent` reads as its text, if the next token is not indented as
far as the lines of a block would be. -/
theorem readInline_scalar {parent : ℕ} (cs : List Char) {rest : List Char}
    (below : Below (parent + 2) rest) :
    readInline parent (scalar (parent + 2) cs ++ rest) =
      some (.text (String.ofList cs), nextToken 0 rest) := by
  have suits := suits_style cs
  unfold scalar
  cases hstyle : style cs with
  | plain =>
    rw [hstyle] at suits
    rw [List.append_assoc]
    exact suits.readInline parent rest
  | singleQuoted =>
    rw [hstyle] at suits
    rw [List.append_assoc]
    exact suits.readInline (parent + 2) parent rest
  | doubleQuoted =>
    rw [List.append_assoc]
    exact readInline_doubleQuoted parent cs rest
  | literal =>
    rw [hstyle] at suits
    exact readInline_literal suits.1 suits.2 below

theorem exists_scalar_eq_cons (indent : ℕ) (cs : List Char) :
    ∃ c rest, scalar indent cs = c :: rest ∧ isBlankOrBreak c = false := by
  have suits := suits_style cs
  unfold scalar
  cases hstyle : style cs with
  | plain =>
    rw [hstyle] at suits
    obtain ⟨c, rest, rfl, visible⟩ := suits.exists_cons
    exact ⟨c, rest ++ ['\n'], rfl, visible⟩
  | singleQuoted => exact ⟨'\'', _, rfl, rfl⟩
  | doubleQuoted => exact ⟨'"', _, rfl, rfl⟩
  | literal => exact ⟨'|', _, rfl, rfl⟩

end Styles

end PegGrammar.Yaml
