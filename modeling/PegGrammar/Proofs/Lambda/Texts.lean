import PegGrammar.Lambda.Grammar
import Mathlib.Data.List.Basic

/-!
How lambda terms are written, which terms can be read back, and how an application is spelled.

A text may have any number of blanks where it needs one. A term that ends in a variable goes on as
an application if blanks and a letter follow, so no such term can stand in front of a keyword, and
what stands left of an argument is a variable or an application itself.
-/

namespace PegGrammar.Lambda

def isLetter (c : Char) : Bool := 'a' ≤ c && c ≤ 'z'

def isLetterName (name : String) : Bool :=
  match name.toList with
  | [c] => isLetter c
  | _ => false

theorem isLetterName_iff {name : String} :
    isLetterName name = true ↔ ∃ c, isLetter c = true ∧ name = String.singleton c := by
  constructor
  · intro h
    unfold isLetterName at h
    split at h
    · next c hc => exact ⟨c, h, String.toList_inj.1 (by rw [hc, String.toList_singleton])⟩
    · simp at h
  · intro h
    obtain ⟨c, hc, rfl⟩ := h
    simpa [isLetterName] using hc

theorem ne_blank_of_isLetter {c : Char} (h : isLetter c = true) : c ≠ ' ' := by
  intro h'
  subst h'
  simp [isLetter] at h

theorem isLetter_singleton_iff {c : Char} :
    isLetterName (String.singleton c) = true ↔ isLetter c = true := by
  simp [isLetterName]

def Term.endsInVariable : Term → Bool
  | .zero | .truth | .falsity => false
  | .succ t | .pred t | .isZero t => t.endsInVariable
  | .var _ | .app .. => true
  | .abs _ body => body.endsInVariable
  | .cond _ _ alternative => alternative.endsInVariable

def Term.isVariable : Term → Bool
  | .var _ => true
  | _ => false

/-- A variable or an application, which are what an argument can be given to. -/
def Term.isSpine : Term → Bool
  | .var _ | .app .. => true
  | _ => false

/-- The terms that have a text to be read from. -/
def Term.admissible : Term → Bool
  | .zero | .truth | .falsity => true
  | .succ t | .pred t | .isZero t => t.admissible
  | .var name => isLetterName name
  | .abs param body => isLetterName param && body.admissible
  | .app left right => left.isSpine && right.isVariable && left.admissible && right.admissible
  | .cond c t e =>
    !c.endsInVariable && !t.endsInVariable && c.admissible && t.admissible && e.admissible

def blanks (more : ℕ) : List Char := List.replicate (more + 1) ' '

@[simp] theorem blanks_zero : blanks 0 = [' '] := rfl

theorem blanks_succ (i : ℕ) : blanks (i + 1) = ' ' :: blanks i := rfl

@[simp] theorem length_blanks (i : ℕ) : (blanks i).length = i + 1 := by simp [blanks]

/-- The texts of a term. -/
inductive Spells : Term → List Char → Prop
  | zero : Spells .zero "0".toList
  | truth : Spells .truth "true".toList
  | falsity : Spells .falsity "false".toList
  | succ {t : Term} {cs : List Char} (i : ℕ) (h : Spells t cs) :
      Spells (.succ t) ("succ".toList ++ (blanks i ++ cs))
  | pred {t : Term} {cs : List Char} (i : ℕ) (h : Spells t cs) :
      Spells (.pred t) ("pred".toList ++ (blanks i ++ cs))
  | isZero {t : Term} {cs : List Char} (i : ℕ) (h : Spells t cs) :
      Spells (.isZero t) ("iszero".toList ++ (blanks i ++ cs))
  | var (name : String) : Spells (.var name) name.toList
  | app {left : Term} {cs : List Char} (i : ℕ) (name : String) (h : Spells left cs) :
      Spells (.app left (.var name)) (cs ++ (blanks i ++ name.toList))
  | abs {body : Term} {cs : List Char} (param : String) (h : Spells body cs) :
      Spells (.abs param body) ("λ".toList ++ (param.toList ++ (".".toList ++ cs)))
  | cond {c t e : Term} {cs ds es : List Char} (i₁ i₂ i₃ i₄ i₅ : ℕ) (hc : Spells c cs)
      (ht : Spells t ds) (he : Spells e es) :
      Spells (.cond c t e) ("if".toList ++ (blanks i₁ ++ (cs ++ (blanks i₂ ++ ("then".toList ++
        (blanks i₃ ++ (ds ++ (blanks i₄ ++ ("else".toList ++ (blanks i₅ ++ es))))))))))

/-! A variable with arguments. -/

def spellArguments (args : List (ℕ × Char)) : List Char :=
  args.flatMap fun arg => blanks arg.1 ++ [arg.2]

def Term.applyTo (left : Term) (args : List (ℕ × Char)) : Term :=
  args.foldl (fun left arg => left.app (.var (String.singleton arg.2))) left

def StartsArgument (cs : List Char) : Prop :=
  ∃ i c rest, cs = blanks i ++ c :: rest ∧ isLetter c = true

theorem not_startsArgument_of_head {cs : List Char} (h : cs.head? ≠ some ' ') :
    ¬ StartsArgument cs := by
  intro h'
  obtain ⟨i, c, rest, rfl, _⟩ := h'
  cases i <;> simp [blanks_succ] at h

theorem spellArguments_cons (arg : ℕ × Char) (args : List (ℕ × Char)) :
    spellArguments (arg :: args) = blanks arg.1 ++ arg.2 :: spellArguments args := by
  simp [spellArguments]

theorem exists_arguments (cs : List Char) :
    ∃ args rest, cs = spellArguments args ++ rest ∧ (∀ arg ∈ args, isLetter arg.2 = true) ∧
      ¬ StartsArgument rest := by
  induction hn : cs.length using Nat.strongRecOn generalizing cs with
  | ind n ih =>
    by_cases h : StartsArgument cs
    · obtain ⟨i, c, rest, rfl, hc⟩ := h
      have hlt : rest.length < n := by
        simp only [← hn, List.length_append, length_blanks, List.length_cons]
        omega
      obtain ⟨args, rest', rfl, hargs, hrest⟩ := ih _ hlt rest rfl
      refine ⟨(i, c) :: args, rest', ?_, List.forall_mem_cons.2 ⟨hc, hargs⟩, hrest⟩
      simp [spellArguments_cons]
    · exact ⟨[], cs, rfl, by simp, h⟩

theorem Spells.applyTo {left : Term} {cs : List Char} (h : Spells left cs)
    (args : List (ℕ × Char)) : Spells (left.applyTo args) (cs ++ spellArguments args) := by
  induction args generalizing left cs with
  | nil => simpa [spellArguments, Term.applyTo] using h
  | cons arg args ih =>
    have happ := h.app arg.1 (String.singleton arg.2)
    have hrest := ih happ
    simpa [spellArguments_cons, Term.applyTo] using hrest

theorem Term.admissible_applyTo {left : Term} (hs : left.isSpine = true)
    (ha : left.admissible = true) {args : List (ℕ × Char)}
    (hargs : ∀ arg ∈ args, isLetter arg.2 = true) : (left.applyTo args).admissible = true := by
  induction args generalizing left with
  | nil => exact ha
  | cons arg args ih =>
    obtain ⟨hc, hargs⟩ := List.forall_mem_cons.1 hargs
    refine ih rfl ?_ hargs
    simp [admissible, hs, ha, isVariable, isLetter_singleton_iff, hc]

theorem Spells.exists_applyTo {t : Term} {cs : List Char} (h : Spells t cs)
    (ha : t.admissible = true) (hs : t.isSpine = true) :
    ∃ c args, isLetter c = true ∧ (∀ arg ∈ args, isLetter arg.2 = true) ∧
      t = (Term.var (String.singleton c)).applyTo args ∧ cs = c :: spellArguments args := by
  induction h with
  | var name =>
    obtain ⟨c, hc, rfl⟩ := isLetterName_iff.1 ha
    exact ⟨c, [], hc, by simp, rfl, by simp [spellArguments]⟩
  | @app left cs i name h ih =>
    simp only [Term.admissible, Bool.and_eq_true] at ha
    obtain ⟨⟨⟨hspine, _⟩, hleft⟩, hname⟩ := ha
    obtain ⟨c, args, hc, hargs, rfl, rfl⟩ := ih hleft hspine
    obtain ⟨d, hd, rfl⟩ := isLetterName_iff.1 hname
    refine ⟨c, args ++ [(i, d)], hc, ?_, ?_, ?_⟩
    · intro arg harg
      rcases List.mem_append.1 harg with harg | harg
      · exact hargs arg harg
      · obtain rfl := List.mem_singleton.1 harg
        exact hd
    · simp [Term.applyTo]
    · simp [spellArguments]
  | _ => simp [Term.isSpine] at hs

theorem Spells.head_ne_blank {t : Term} {cs : List Char} (h : Spells t cs)
    (ha : t.admissible = true) (rest : List Char) : (cs ++ rest).head? ≠ some ' ' := by
  by_cases hs : t.isSpine
  · obtain ⟨c, args, hc, _, _, rfl⟩ := h.exists_applyTo ha hs
    simpa using ne_blank_of_isLetter hc
  · cases h <;> simp_all [Term.isSpine]

theorem exists_spells {t : Term} (ha : t.admissible = true) : ∃ cs, Spells t cs := by
  induction t with
  | zero => exact ⟨_, .zero⟩
  | truth => exact ⟨_, .truth⟩
  | falsity => exact ⟨_, .falsity⟩
  | succ t ih =>
    obtain ⟨cs, h⟩ := ih ha
    exact ⟨_, .succ 0 h⟩
  | pred t ih =>
    obtain ⟨cs, h⟩ := ih ha
    exact ⟨_, .pred 0 h⟩
  | isZero t ih =>
    obtain ⟨cs, h⟩ := ih ha
    exact ⟨_, .isZero 0 h⟩
  | var name => exact ⟨_, .var name⟩
  | abs param body ih =>
    simp only [Term.admissible, Bool.and_eq_true] at ha
    obtain ⟨cs, h⟩ := ih ha.2
    exact ⟨_, .abs param h⟩
  | app left right ihl ihr =>
    simp only [Term.admissible, Bool.and_eq_true] at ha
    obtain ⟨⟨⟨_, hvar⟩, hleft⟩, _⟩ := ha
    obtain ⟨cs, h⟩ := ihl hleft
    cases right with
    | var name => exact ⟨_, .app 0 name h⟩
    | _ => simp [Term.isVariable] at hvar
  | cond c t e ihc iht ihe =>
    simp only [Term.admissible, Bool.and_eq_true] at ha
    obtain ⟨⟨⟨_, hc⟩, ht⟩, he⟩ := ha
    obtain ⟨cs, hc⟩ := ihc hc
    obtain ⟨ds, ht⟩ := iht ht
    obtain ⟨es, he⟩ := ihe he
    exact ⟨_, .cond 0 0 0 0 0 hc ht he⟩

end PegGrammar.Lambda
