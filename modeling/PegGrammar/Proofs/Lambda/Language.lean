import PegGrammar.Proofs.Lambda.Rules
import PegGrammar.Proofs.Fuel

/-!
The language of the lambda grammar. A text is read as a term exactly if it is one of the texts of
the term and the term is admissible, so every admissible term can be read and no text is read as
two of them.

A rule may also stop inside a word, as in `if` where it finds the variable `i`. That does no harm:
what follows is neither a blank nor the end, and nothing in the grammar goes on there.
-/

namespace PegGrammar.Lambda

variable {s u v : Cursor} {t : Term} {n : Node Term}

/-- An admissible term is written between the cursors, and all its arguments have been taken. -/
structure Reads (t : Term) (s u : Cursor) : Prop where
  admissible : t.admissible = true
  written : ∃ cs, Spells t cs ∧ s.Spans cs u
  ends : t.endsInVariable = true → ¬ StartsArgument u.ahead

/-! What the rules match is a term. -/

theorem Reads.prepend {t' : Term} {ds : List Char} (h : Reads t v u) (hs : s.Spans ds v)
    (admissible : t'.admissible = t.admissible)
    (endsInVariable : t'.endsInVariable = t.endsInVariable)
    (spells : ∀ cs, Spells t cs → Spells t' (ds ++ cs)) : Reads t' s u := by
  obtain ⟨cs, hcs, hv⟩ := h.written
  exact ⟨admissible.trans h.admissible, ⟨_, spells cs hcs, hs.trans hv⟩,
    fun he => h.ends (endsInVariable.symm.trans he)⟩

theorem Reads.operator {keyword : String} {make : Term → Term} (h : Reads t v u)
    (hs : Introduces keyword s v) (admissible : (make t).admissible = t.admissible)
    (endsInVariable : (make t).endsInVariable = t.endsInVariable)
    (spells : ∀ i cs, Spells t cs → Spells (make t) (keyword.toList ++ (blanks i ++ cs))) :
    Reads (make t) s u := by
  obtain ⟨i, hs, _⟩ := hs
  refine h.prepend hs admissible endsInVariable ?_
  intro cs hcs
  rw [List.append_assoc]
  exact spells i cs hcs

theorem Reads.endsInVariable_eq_false {keyword : String} (h : Reads t s u)
    (hs : Separates keyword u v) (hk : ∃ c cs, keyword.toList = c :: cs ∧ isLetter c = true) :
    t.endsInVariable = false := by
  obtain ⟨c, cs, hkeyword, hc⟩ := hk
  obtain ⟨i, r, hb, _, j, hr, _⟩ := hs
  cases he : t.endsInVariable with
  | false => rfl
  | true =>
    refine absurd ⟨i, c, cs ++ (blanks j ++ v.ahead), ?_, hc⟩ (h.ends he)
    rw [hb.ahead_eq, hr.ahead_eq, hkeyword]
    simp

theorem Reads.cond {c e : Term} {a b d f g : Cursor} (hif : Introduces "if" s a)
    (hc : Reads c a b) (hthen : Separates "then" b d) (ht : Reads t d f)
    (helse : Separates "else" f g) (he : Reads e g u) : Reads (.cond c t e) s u := by
  have hcv := hc.endsInVariable_eq_false hthen ⟨_, _, rfl, rfl⟩
  have htv := ht.endsInVariable_eq_false helse ⟨_, _, rfl, rfl⟩
  obtain ⟨i₁, hif, _⟩ := hif
  obtain ⟨i₂, _, hb, _, i₃, hthen, _⟩ := hthen
  obtain ⟨i₄, _, hf, _, i₅, helse, _⟩ := helse
  obtain ⟨cs, hcs, hca⟩ := hc.written
  obtain ⟨ds, hds, htd⟩ := ht.written
  obtain ⟨es, hes, heg⟩ := he.written
  refine ⟨?_, ⟨_, .cond i₁ i₂ i₃ i₄ i₅ hcs hds hes, ?_⟩, he.ends⟩
  · simp [Term.admissible, hcv, htv, hc.admissible, ht.admissible, he.admissible]
  · have h := hif.trans (hca.trans (hb.trans (hthen.trans (htd.trans (hf.trans
      (helse.trans heg))))))
    simpa only [List.append_assoc] using h

theorem Reads.spine {c : Char} {args : List (ℕ × Char)} (hc : isLetter c = true)
    (hargs : ∀ arg ∈ args, isLetter arg.2 = true) (hs : s.Spans (c :: spellArguments args) u)
    (hu : ¬ StartsArgument u.ahead) :
    Reads ((Term.var (String.singleton c)).applyTo args) s u := by
  have hname : (Term.var (String.singleton c)).admissible = true := isLetter_singleton_iff.2 hc
  have hspells := (Spells.var (String.singleton c)).applyTo args
  rw [String.toList_singleton] at hspells
  exact ⟨Term.admissible_applyTo rfl hname hargs, ⟨_, hspells, hs⟩, fun _ => hu⟩

/-- The induction is on what is left of the text: every part of a term starts behind a keyword or
a parameter. -/
theorem reads_of_yields (h : Yields rules term s (some (.value t, u))) : Reads t s u := by
  induction hn : s.ahead.length using Nat.strong_induction_on generalizing s t u with
  | _ k ih =>
    subst hn
    have shorter : ∀ {v w : Cursor} {t : Term}, v.ahead.length < s.ahead.length →
        Yields rules term v (some (.value t, w)) → Reads t v w :=
      fun hlt h => ih _ hlt h rfl
    obtain ⟨name, hname, h, fails⟩ := choice_of_term h
    simp only [choices, List.mem_cons, List.not_mem_nil, or_false] at hname
    rcases hname with rfl | rfl | rfl | rfl | rfl | rfl | rfl | rfl | rfl | rfl
    · obtain ⟨hs, ⟨⟩⟩ := constant_some_iff.1 ((Yields.reference_iff rfl).1 h)
      exact ⟨rfl, ⟨_, .zero, hs⟩, by simp [Term.endsInVariable]⟩
    · obtain ⟨hs, ⟨⟩⟩ := constant_some_iff.1 ((Yields.reference_iff rfl).1 h)
      exact ⟨rfl, ⟨_, .truth, hs⟩, by simp [Term.endsInVariable]⟩
    · obtain ⟨hs, ⟨⟩⟩ := constant_some_iff.1 ((Yields.reference_iff rfl).1 h)
      exact ⟨rfl, ⟨_, .falsity, hs⟩, by simp [Term.endsInVariable]⟩
    · obtain ⟨v, t, hs, ht, ⟨⟩⟩ := operator_some_iff.1 ((Yields.reference_iff rfl).1 h)
      exact (shorter hs.length_ahead_lt ht).operator hs rfl rfl fun i _ => .succ i
    · obtain ⟨v, t, hs, ht, ⟨⟩⟩ := operator_some_iff.1 ((Yields.reference_iff rfl).1 h)
      exact (shorter hs.length_ahead_lt ht).operator hs rfl rfl fun i _ => .pred i
    · obtain ⟨v, t, hs, ht, ⟨⟩⟩ := operator_some_iff.1 ((Yields.reference_iff rfl).1 h)
      exact (shorter hs.length_ahead_lt ht).operator hs rfl rfl fun i _ => .isZero i
    · obtain ⟨a, b, d, f, g, c, t, e, hif, hc, hthen, ht, helse, he, ⟨⟩⟩ := if_some_iff.1 h
      have ha := hif.length_ahead_lt
      have hd := hthen.length_ahead_lt
      have hg := helse.length_ahead_lt
      have hb := hc.length_ahead_le
      have hf := ht.length_ahead_le
      exact (shorter ha hc).cond hif hthen (shorter (by omega) ht) helse (shorter (by omega) he)
    · obtain ⟨c, args, hc, _, hargs, hs, hu, ⟨⟩⟩ := app_some_iff.1 h
      exact .spine hc hargs hs hu
    · obtain ⟨c, hc, hs, ⟨⟩⟩ := var_some_iff.1 h
      -- a variable is only tried once applications have failed, so no argument follows
      have hu := (app_none_iff hc hs).1 (fails rfl)
      have hr : Reads ((Term.var (String.singleton c)).applyTo []) s u := .spine hc (by simp) hs hu
      exact hr
    · obtain ⟨c, v, t, hc, hs, ht, ⟨⟩⟩ := abs_some_iff.1 h
      have hl := hs.length_ahead_eq
      simp only [List.length_cons] at hl
      refine (shorter (by omega) ht).prepend hs ?_ rfl ?_
      · simp [Term.admissible, isLetter_singleton_iff, hc]
      · intro cs hcs
        simpa using hcs.abs (String.singleton c)

/-! The texts of an admissible term are matched. -/

def Stops (cs : List Char) : Prop := ∀ c, cs.head? = some c → c = ' '

theorem stops_nil : Stops [] := by simp [Stops]

theorem stops_blanks (i : ℕ) (cs : List Char) : Stops (blanks i ++ cs) := by
  intro c hc
  cases i with
  | zero => simpa using hc.symm
  | succ i => simpa [blanks_succ] using hc.symm

theorem stops_spellArguments {args : List (ℕ × Char)} {cs : List Char} (hcs : Stops cs) :
    Stops (spellArguments args ++ cs) := by
  cases args with
  | nil => exact hcs
  | cons arg args =>
    rw [spellArguments_cons, List.append_assoc]
    exact stops_blanks _ _

theorem keywords_differ_of_letter {c : Char} {cs : List Char} (hc : isLetter c = true)
    (hcs : Stops cs) : ∀ rule ∈ keywords, ¬ rule.2.toList <+: c :: cs := by
  have hzero : c ≠ '0' := by
    intro h
    subst h
    simp [isLetter] at hc
  cases cs with
  | nil => simp [keywords, hzero.symm]
  | cons d cs =>
    obtain rfl : d = ' ' := hcs d rfl
    simp [keywords, hzero.symm]

theorem yields_spine {c : Char} {args : List (ℕ × Char)} (hc : isLetter c = true)
    (hargs : ∀ arg ∈ args, isLetter arg.2 = true) (hs : s.Spans (c :: spellArguments args) u)
    (hu : Stops u.ahead) (hend : ¬ StartsArgument u.ahead) :
    Yields rules term s (some (.value ((Term.var (String.singleton c)).applyTo args), u)) := by
  have fails : ∀ name ∈ keywords.map Prod.fst, Yields rules (.reference name) s none := by
    apply keywords_fail
    rw [hs.ahead_eq]
    exact keywords_differ_of_letter hc (stops_spellArguments hu)
  cases args with
  | nil =>
    have happ := (app_none_iff hc hs).2 hend
    have hfails := List.forall_mem_append.2 ⟨fails, List.forall_mem_singleton.2 happ⟩
    exact term_of_choice rfl hfails (var_some_iff.2 ⟨c, hc, hs, rfl⟩)
  | cons arg args =>
    have happ := app_some_iff.2 ⟨c, _, hc, List.cons_ne_nil arg args, hargs, hs, hend, rfl⟩
    exact term_of_choice rfl fails happ

theorem yields_abs {c : Char} (hc : isLetter c = true) (hs : s.Spans ['λ', c, '.'] v)
    (h : Yields rules term v (some (.value t, u))) :
    Yields rules term s (some (.value (.abs (String.singleton c) t), u)) := by
  have fails : ∀ name ∈ keywords.map Prod.fst, Yields rules (.reference name) s none := by
    apply keywords_fail
    simp [keywords, hs.ahead_eq]
  have hl : ∀ d rest, s.ahead = d :: rest → isLetter d = false := by
    intro d rest hd
    obtain ⟨rfl, _⟩ := List.cons.inj (hd.symm.trans hs.ahead_eq)
    rfl
  have happ : Yields rules (.reference "app") s none := by
    refine yields_none_iff.2 fun n w hw => ?_
    obtain ⟨d, args, hd, _, _, hsp, _⟩ := app_some_iff.1 hw
    simp [hl d _ hsp.ahead_eq] at hd
  have hvar : Yields rules (.reference "var") s none := by
    refine yields_none_iff.2 fun n w hw => ?_
    obtain ⟨d, hd, hsp, _⟩ := var_some_iff.1 hw
    simp [hl d _ hsp.ahead_eq] at hd
  have hfails := List.forall_mem_append.2 ⟨fails, List.forall_mem_cons.2
    ⟨happ, List.forall_mem_singleton.2 hvar⟩⟩
  exact term_of_choice rfl hfails (abs_some_iff.2 ⟨c, v, t, hc, hs, h, rfl⟩)

theorem introduces_of_spans {keyword : String} {i : ℕ} {cs : List Char}
    (hs : s.Spans (keyword.toList ++ (blanks i ++ cs)) u) (hcs : (cs ++ u.ahead).head? ≠ some ' ') :
    ∃ v, Introduces keyword s v ∧ v.Spans cs u := by
  rw [← List.append_assoc] at hs
  obtain ⟨v, hk, hv⟩ := hs.split
  exact ⟨v, ⟨i, hk, by rwa [hv.ahead_eq]⟩, hv⟩

theorem separates_of_spans {keyword : String} {i j : ℕ} {cs : List Char}
    (hs : s.Spans (blanks i ++ (keyword.toList ++ (blanks j ++ cs))) u)
    (hk : ∀ rest, (keyword.toList ++ rest).head? ≠ some ' ')
    (hcs : (cs ++ u.ahead).head? ≠ some ' ') : ∃ v, Separates keyword s v ∧ v.Spans cs u := by
  obtain ⟨r, hb, hr⟩ := hs.split
  obtain ⟨v, hi, hv⟩ := introduces_of_spans hr hcs
  refine ⟨v, ⟨i, r, hb, ?_, hi⟩, hv⟩
  rw [hr.ahead_eq, List.append_assoc]
  exact hk _

theorem Spells.yields_of_isSpine {cs : List Char} (h : Spells t cs) (ha : t.admissible = true)
    (hspine : t.isSpine = true) (hs : s.Spans cs u) (hu : Stops u.ahead)
    (hend : ¬ StartsArgument u.ahead) : Yields rules term s (some (.value t, u)) := by
  obtain ⟨c, args, hc, hargs, rfl, rfl⟩ := h.exists_applyTo ha hspine
  exact yields_spine hc hargs hs hu hend

theorem yields_constant (name : String) {keyword : String}
    (hfound : rules.resolve name = some ((Expr.literal keyword).withMap fun _ => t))
    (hname : (name, keyword) ∈ keywords) (hs : s.Spans keyword.toList u) :
    Yields rules term s (some (.value t, u)) :=
  term_of_keyword hname hs.isPrefix (.reference hfound (constant_some_iff.2 ⟨hs, rfl⟩))

theorem yields_operator (name : String) {keyword : String} {make : Term → Term}
    (hfound : rules.resolve name = some (operator keyword make))
    (hname : (name, keyword) ∈ keywords) (hk : Introduces keyword s v)
    (h : Yields rules term v (some (.value t, u))) :
    Yields rules term s (some (.value (make t), u)) :=
  term_of_keyword hname hk.isPrefix (.reference hfound (operator_some_iff.2 ⟨v, t, hk, h, rfl⟩))

theorem Spells.yields_term {cs : List Char} (h : Spells t cs) (ha : t.admissible = true)
    (hs : s.Spans cs u) (hu : Stops u.ahead)
    (hend : t.endsInVariable = true → ¬ StartsArgument u.ahead) :
    Yields rules term s (some (.value t, u)) := by
  induction h generalizing s u with
  | zero => exact yields_constant "zero" rfl (by decide) hs
  | truth => exact yields_constant "true" rfl (by decide) hs
  | falsity => exact yields_constant "false" rfl (by decide) hs
  | succ i h ih =>
    obtain ⟨v, hk, hv⟩ := introduces_of_spans hs (h.head_ne_blank ha _)
    exact yields_operator "succ" rfl (by decide) hk (ih ha hv hu hend)
  | pred i h ih =>
    obtain ⟨v, hk, hv⟩ := introduces_of_spans hs (h.head_ne_blank ha _)
    exact yields_operator "pred" rfl (by decide) hk (ih ha hv hu hend)
  | isZero i h ih =>
    obtain ⟨v, hk, hv⟩ := introduces_of_spans hs (h.head_ne_blank ha _)
    exact yields_operator "iszero" rfl (by decide) hk (ih ha hv hu hend)
  | var name => exact (Spells.var name).yields_of_isSpine ha rfl hs hu (hend rfl)
  | app i name h ih => exact (h.app i name).yields_of_isSpine ha rfl hs hu (hend rfl)
  | @abs body cs param h ih =>
    simp only [Term.admissible, Bool.and_eq_true] at ha
    obtain ⟨hparam, ha⟩ := ha
    obtain ⟨c, hc, rfl⟩ := isLetterName_iff.1 hparam
    rw [String.toList_singleton] at hs
    change s.Spans (['λ', c, '.'] ++ cs) u at hs
    obtain ⟨v, hv, hbody⟩ := hs.split
    exact yields_abs hc hv (ih ha hbody hu hend)
  | @cond c t e cs ds es i₁ i₂ i₃ i₄ i₅ hc ht he ihc iht ihe =>
    simp only [Term.admissible, Bool.and_eq_true, Bool.not_eq_true'] at ha
    obtain ⟨⟨⟨⟨hcv, htv⟩, hca⟩, hta⟩, hea⟩ := ha
    have hcs := hc.head_ne_blank hca (blanks i₂ ++ ("then".toList ++ (blanks i₃ ++ (ds ++
      (blanks i₄ ++ ("else".toList ++ (blanks i₅ ++ es)))))) ++ u.ahead)
    have hds := ht.head_ne_blank hta (blanks i₄ ++ ("else".toList ++ (blanks i₅ ++ es)) ++ u.ahead)
    have hes := he.head_ne_blank hea u.ahead
    obtain ⟨a, hif, ha⟩ := introduces_of_spans hs (by simpa using hcs)
    obtain ⟨b, hcond, hb⟩ := ha.split
    obtain ⟨d, hthen, hd⟩ := separates_of_spans hb (by simp) (by simpa using hds)
    obtain ⟨f, hconsequent, hf⟩ := hd.split
    obtain ⟨g, helse, hg⟩ := separates_of_spans hf (by simp) hes
    -- blanks follow the condition and the consequent, and neither takes them for an argument
    have hbu : Stops b.ahead := by
      rw [hb.ahead_eq, List.append_assoc]
      exact stops_blanks _ _
    have hfu : Stops f.ahead := by
      rw [hf.ahead_eq, List.append_assoc]
      exact stops_blanks _ _
    have hcy := ihc hca hcond hbu (by simp [hcv])
    have hty := iht hta hconsequent hfu (by simp [htv])
    have hey := ihe hea hg hu hend
    have hrule := if_some_iff.2 ⟨a, b, d, f, g, c, t, e, hif, hcy, hthen, hty, helse, hey, rfl⟩
    have hname : ("if", "if") ∈ keywords := by decide
    exact term_of_keyword hname hif.isPrefix hrule

theorem value_parseValue_eq_some_iff {input : String} :
    (grammar.parseValue input).value = some t ↔ t.admissible = true ∧ Spells t input.toList := by
  rw [Grammar.value_parseValue_eq_some_iff]
  constructor
  · intro h
    obtain ⟨rule, u, found, hu, h⟩ := h
    have hterm : Yields rules term (.start input) (some (.value t, u)) := .reference found h
    have hreads := reads_of_yields hterm
    obtain ⟨cs, hcs, hs⟩ := hreads.written
    have hinput : input.toList = cs := by simpa [Cursor.start, hu] using hs.ahead_eq
    exact ⟨hreads.admissible, hinput ▸ hcs⟩
  · intro h
    obtain ⟨ha, h⟩ := h
    obtain ⟨u, hs, hu⟩ := (Cursor.start input).exists_spans_ahead
    have hend : ¬ StartsArgument u.ahead := by
      rw [hu]
      exact not_startsArgument_of_head (by simp)
    have hterm := h.yields_term ha hs (hu ▸ stops_nil) fun _ => hend
    exact ⟨_, u, resolve_term, hu, (Yields.reference_iff resolve_term).1 hterm⟩

theorem Spells.unique {t t' : Term} {input : String} (ha : t.admissible = true)
    (ha' : t'.admissible = true) (h : Spells t input.toList) (h' : Spells t' input.toList) :
    t = t' := by
  have hv := value_parseValue_eq_some_iff.2 ⟨ha, h⟩
  have hv' := value_parseValue_eq_some_iff.2 ⟨ha', h'⟩
  exact Option.some.inj (hv.symm.trans hv')

/-- A text is read as a term exactly if the term is admissible and the text is one of its texts;
every admissible term has a text, and no text belongs to two of them. -/
theorem parseValue_iff_spells :
    (∀ input t, (grammar.parseValue input).value = some t ↔
      t.admissible = true ∧ Spells t input.toList) ∧
    (∀ t : Term, t.admissible = true → ∃ input : String, Spells t input.toList) ∧
    ∀ (t t' : Term) (input : String), t.admissible = true → t'.admissible = true →
      Spells t input.toList → Spells t' input.toList → t = t' := by
  refine ⟨fun input t => value_parseValue_eq_some_iff, ?_,
    fun t t' input ha ha' => Spells.unique ha ha'⟩
  intro t ha
  obtain ⟨cs, h⟩ := exists_spells ha
  exact ⟨String.ofList cs, by simpa using h⟩

def conditionalCall : Term :=
  .cond (.isZero .zero) (.abs "x" .zero) (.app (.var "f") (.var "x"))

theorem parseValue_conditionalCall :
    (grammar.parseValue "if iszero 0 then λx.0 else f  x").value = some conditionalCall ∧
      (∃ input : String, Spells conditionalCall input.toList) ∧
      ∀ t : Term, t.admissible = true → Spells t "if iszero 0 then λx.0 else f  x".toList →
        t = conditionalCall := by
  have ha : conditionalCall.admissible = true := by decide
  have h : Spells conditionalCall "if iszero 0 then λx.0 else f  x".toList :=
    .cond 0 0 0 0 0 (.isZero 0 .zero) (.abs "x" .zero) (.app 1 "x" (.var "f"))
  obtain ⟨parses, written, unique⟩ := parseValue_iff_spells
  exact ⟨(parses _ _).2 ⟨ha, h⟩, written _ ha, fun t ht hs => unique t _ _ ht ha hs h⟩

end PegGrammar.Lambda
