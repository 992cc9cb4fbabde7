import PegGrammar.Format.Registry
import PegGrammar.Proofs.Lambda.Texts

/-!
Reading displayed terms. Where all names are letters, the first characters of a displayed term tell
the constructor that made it: in parentheses stands a keyword, a `λ` or the term that is applied, and
no term begins with the word of a keyword. What a displayed term is followed by, if it is no letter,
is then no part of it, so the operands of a term can be taken off one behind the other.
-/

namespace PegGrammar.Lambda

namespace Term

def lettered : Term → Bool
  | .zero | .truth | .falsity => true
  | .succ t | .pred t | .isZero t => t.lettered
  | .var name => isLetterName name
  | .abs param body => isLetterName param && body.lettered
  | .app left right => left.lettered && right.lettered
  | .cond c t e => c.lettered && t.lettered && e.lettered

def word : Term → String
  | .truth => "true"
  | .falsity => "false"
  | .var name => name
  | _ => ""

end Term

def leadingWord (cs : List Char) : String := String.ofList (cs.takeWhile isLetter)

def EndsWord (cs : List Char) : Prop := ∀ c ∈ cs.head?, isLetter c = false

theorem EndsWord.takeWhile {cs : List Char} (h : EndsWord cs) : cs.takeWhile isLetter = [] := by
  cases cs with
  | nil => rfl
  | cons c cs => exact List.takeWhile_cons_of_neg (by simp [h c rfl])

theorem endsWord_nil : EndsWord [] := nofun

theorem endsWord_cons {c : Char} (h : isLetter c = false) (cs : List Char) : EndsWord (c :: cs) := by
  rintro _ ⟨⟩
  exact h

/-- The type of the term that a text begins with. -/
def leadingType : List Char → String
  | '(' :: cs =>
    match leadingWord cs with
    | "succ" => "Succ"
    | "pred" => "Pred"
    | "iszero" => "IsZero"
    | "if" => "If"
    | _ => if cs.head? = some 'λ' then "Abs" else "App"
  | cs =>
    match leadingWord cs with
    | "" => "Zero"
    | "true" => "True"
    | "false" => "False"
    | _ => "Var"

namespace Term

variable {t u : Term} {r r' : List Char}

theorem leadingWord_display (ht : t.lettered = true) (hr : EndsWord r) :
    leadingWord (t.display.toList ++ r) = t.word := by
  cases t with
  | var name =>
    obtain ⟨c, hc, rfl⟩ := isLetterName_iff.1 ht
    simp [display, leadingWord, word, hc, hr.takeWhile]
  | truth | falsity => simp [display, leadingWord, word, isLetter, hr.takeWhile]
  | zero | succ | pred | isZero | abs | app | cond => simp [display, leadingWord, word, isLetter]

theorem head?_display_ne (ht : t.lettered = true) : (t.display.toList ++ r).head? ≠ some 'λ' := by
  cases t with
  | var name =>
    obtain ⟨c, hc, rfl⟩ := isLetterName_iff.1 ht
    have hne : c ≠ 'λ' := by
      rintro rfl
      simp [isLetter] at hc
    simpa [display] using hne
  | _ => simp [display]

theorem word_notMem_keywords (ht : t.lettered = true) :
    t.word ∉ ["succ", "pred", "iszero", "if"] := by
  cases t with
  | var name =>
    obtain ⟨c, -, rfl⟩ := isLetterName_iff.1 ht
    simp [word, ← String.toList_inj]
  | _ => simp [word]

theorem leadingType_display (ht : t.lettered = true) (hr : EndsWord r) :
    leadingType (t.display.toList ++ r) = t.nodeType := by
  have hword := leadingWord_display ht hr
  cases t with
  | zero | truth | falsity =>
    simp [display, leadingType, leadingWord, isLetter, hr.takeWhile, nodeType]
  | succ | pred | isZero | abs | cond =>
    simp [display, leadingType, leadingWord, isLetter, nodeType]
  | var name =>
    obtain ⟨c, hc, rfl⟩ := isLetterName_iff.1 ht
    have hparen : c ≠ '(' := by
      rintro rfl
      simp [isLetter] at hc
    have hconstant : String.singleton c ∉ ["", "true", "false"] := by simp [← String.toList_inj]
    simp_all [leadingType, display, word, nodeType]
  | app left right =>
    -- the word behind the parenthesis is that of `left`, which is none of a keyword
    rw [lettered, Bool.and_eq_true] at ht
    have hafter : EndsWord (' ' :: (right.display.toList ++ ')' :: r)) := endsWord_cons rfl _
    have hkeyword := word_notMem_keywords ht.1
    rw [← leadingWord_display ht.1 hafter] at hkeyword
    have hlambda := head?_display_ne (r := ' ' :: (right.display.toList ++ ')' :: r)) ht.1
    simp_all [leadingType, display, nodeType]

theorem nodeType_eq_of_display_append (ht : t.lettered = true) (hu : u.lettered = true)
    (hr : EndsWord r) (hr' : EndsWord r')
    (h : t.display.toList ++ r = u.display.toList ++ r') : t.nodeType = u.nodeType := by
  rw [← leadingType_display ht hr, h, leadingType_display hu hr']

theorem eq_of_display_append (ht : t.lettered = true) (hu : u.lettered = true) (hr : EndsWord r)
    (hr' : EndsWord r') (h : t.display.toList ++ r = u.display.toList ++ r') : t = u ∧ r = r' := by
  -- behind each operand stands a blank or a parenthesis, so that the next one can be taken off
  have blank (cs : List Char) : EndsWord (' ' :: cs) := endsWord_cons rfl cs
  have paren (cs : List Char) : EndsWord (')' :: cs) := endsWord_cons rfl cs
  induction t generalizing u r r' with
  | zero | truth | falsity =>
    cases u with
    | zero | truth | falsity => simp_all [display]
    | _ => exact absurd (nodeType_eq_of_display_append ht hu hr hr' h) (by simp [nodeType])
  | var name =>
    cases u with
    | var name' =>
      obtain ⟨c, -, rfl⟩ := isLetterName_iff.1 ht
      obtain ⟨d, -, rfl⟩ := isLetterName_iff.1 hu
      obtain ⟨rfl, rfl⟩ : c = d ∧ r = r' := by simpa [display] using h
      exact ⟨rfl, rfl⟩
    | _ => exact absurd (nodeType_eq_of_display_append ht hu hr hr' h) (by simp [nodeType])
  | succ t ih =>
    cases u with
    | succ u =>
      obtain ⟨rfl, hrest⟩ := ih (u := u) ht hu (paren r) (paren r') (by simpa [display] using h)
      exact ⟨rfl, (List.cons.inj hrest).2⟩
    | _ => exact absurd (nodeType_eq_of_display_append ht hu hr hr' h) (by simp [nodeType])
  | pred t ih =>
    cases u with
    | pred u =>
      obtain ⟨rfl, hrest⟩ := ih (u := u) ht hu (paren r) (paren r') (by simpa [display] using h)
      exact ⟨rfl, (List.cons.inj hrest).2⟩
    | _ => exact absurd (nodeType_eq_of_display_append ht hu hr hr' h) (by simp [nodeType])
  | isZero t ih =>
    cases u with
    | isZero u =>
      obtain ⟨rfl, hrest⟩ := ih (u := u) ht hu (paren r) (paren r') (by simpa [display] using h)
      exact ⟨rfl, (List.cons.inj hrest).2⟩
    | _ => exact absurd (nodeType_eq_of_display_append ht hu hr hr' h) (by simp [nodeType])
  | abs param body ih =>
    cases u with
    | abs param' body' =>
      simp only [lettered, Bool.and_eq_true] at ht hu
      obtain ⟨c, -, rfl⟩ := isLetterName_iff.1 ht.1
      obtain ⟨d, -, rfl⟩ := isLetterName_iff.1 hu.1
      obtain ⟨rfl, hbody⟩ : c = d ∧
          body.display.toList ++ ')' :: r = body'.display.toList ++ ')' :: r' := by
        simpa [display] using h
      obtain ⟨rfl, hrest⟩ := ih ht.2 hu.2 (paren r) (paren r') hbody
      exact ⟨rfl, (List.cons.inj hrest).2⟩
    | _ => exact absurd (nodeType_eq_of_display_append ht hu hr hr' h) (by simp [nodeType])
  | app left right ihl ihr =>
    cases u with
    | app left' right' =>
      simp only [lettered, Bool.and_eq_true] at ht hu
      obtain ⟨rfl, hright⟩ := ihl ht.1 hu.1 (blank _) (blank _) (by simpa [display] using h)
      obtain ⟨rfl, hrest⟩ := ihr ht.2 hu.2 (paren r) (paren r') (List.cons.inj hright).2
      exact ⟨rfl, (List.cons.inj hrest).2⟩
    | _ => exact absurd (nodeType_eq_of_display_append ht hu hr hr' h) (by simp [nodeType])
  | cond c t e ihc iht ihe =>
    cases u with
    | cond c' t' e' =>
      simp only [lettered, Bool.and_eq_true] at ht hu
      obtain ⟨rfl, hthen⟩ := ihc ht.1.1 hu.1.1 (blank _) (blank _) (by simpa [display] using h)
      obtain ⟨rfl, helse⟩ := iht ht.1.2 hu.1.2 (blank _) (blank _) (by simpa using hthen)
      obtain ⟨rfl, hrest⟩ := ihe ht.2 hu.2 (paren r) (paren r') (by simpa using helse)
      exact ⟨rfl, (List.cons.inj hrest).2⟩
    | _ => exact absurd (nodeType_eq_of_display_append ht hu hr hr' h) (by simp [nodeType])

theorem label_snapshot (t : Term) : (Domain.snapshot t).label = t.display := by
  cases t <;> rfl

/-- The text of a term whose names are letters is the text of no other such term. Nor is it the label
of another one, or what another one is printed as in the format of values. -/
theorem eq_of_display_eq {t u : Term} (ht : t.lettered = true) (hu : u.lettered = true) :
    (t.display = u.display → t = u) ∧
    ((Domain.snapshot t).label = (Domain.snapshot u).label → t = u) ∧
    (FormatRegistry.builtin.serialize "value" (Domain.snapshot t) =
      FormatRegistry.builtin.serialize "value" (Domain.snapshot u) → t = u) := by
  have read (h : t.display = u.display) : t = u :=
    (eq_of_display_append ht hu endsWord_nil endsWord_nil (by rw [h])).1
  have printed (s : Snapshot) :
      FormatRegistry.builtin.serialize "value" s = .ok (s.label ++ "\n") := rfl
  refine ⟨read, fun h => read ?_, fun h => read ?_⟩
  · rwa [label_snapshot, label_snapshot] at h
  · rw [printed, printed, label_snapshot, label_snapshot] at h
    exact (String.append_left_inj "\n").1 (Except.ok.inj h)

theorem eq_of_display_eq_applications :
    let left : Term := .app (.app (.var "t") .truth) (.var "i")
    let right : Term := .app (.var "t") (.app .truth (.var "i"))
    left.lettered = true ∧ right.lettered = true ∧ left.display = "((t true) i)" ∧
    right.display = "(t (true i))" ∧ left.display ≠ right.display ∧
    FormatRegistry.builtin.serialize "value" (Domain.snapshot left) ≠
      FormatRegistry.builtin.serialize "value" (Domain.snapshot right) := by
  intro left right
  have hleft : left.lettered = true := by decide
  have hright : right.lettered = true := by decide
  obtain ⟨display, -, value⟩ := eq_of_display_eq hleft hright
  have hne : left ≠ right := by decide
  exact ⟨hleft, hright, rfl, rfl, fun h => hne (display h), fun h => hne (value h)⟩

end Term

end PegGrammar.Lambda
