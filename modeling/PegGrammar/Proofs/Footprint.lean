import PegGrammar.Proofs.Lookup

/-!
Footprints. A run looks up the names that its expression refers to, and then those that the rules
found under them refer to. Two sets of rules that answer alike for these names give the same runs,
whatever else they hold.
-/

namespace PegGrammar

variable {V : Type}

namespace RuleSet

/-- The least set of names that holds those an expression refers to and, with a name that has a
rule, those the rule refers to. -/
inductive Footprint (rules : RuleSet V) (e : Expr V) : String → Prop
  | refers {name : String} (h : name ∈ e.references) : Footprint rules e name
  | through {name next : String} {rule : Expr V} (h : Footprint rules e name)
      (found : rules.resolve name = some rule) (refers : next ∈ rule.references) :
      Footprint rules e next

def define (rules : RuleSet V) (name : String) (rule : Expr V) : RuleSet V := (name, rule) :: rules

def remove (rules : RuleSet V) (name : String) : RuleSet V := rules.filter (·.1 != name)

variable {rules : RuleSet V} {name other : String}

theorem resolve_define_of_ne (hne : other ≠ name) (rule : Expr V) :
    (rules.define name rule).resolve other = rules.resolve other := by
  rw [resolve, define, List.lookup_cons, beq_false_of_ne hne]
  rfl

theorem resolve_remove_of_ne (hne : other ≠ name) :
    (rules.remove name).resolve other = rules.resolve other := by
  induction rules with
  | nil => rfl
  | cons rule rules ih =>
    obtain ⟨first, e⟩ := rule
    simp only [resolve, remove, List.filter_cons, List.lookup_cons] at ih ⊢
    by_cases hf : first = name
    · subst hf
      simpa [beq_false_of_ne hne] using ih
    · simp only [bne_iff_ne, ne_eq, hf, not_false_eq_true, if_true, List.lookup_cons, ih]

end RuleSet

namespace Expr

section Step

variable {f g : Expr V → Cursor → Run V}

theorem runParts_eq_of_eq {ps : List (Expr V)} (same : ∀ p ∈ ps, f p = g p) (done : List (Node V))
    (s : Cursor) : runParts f done ps s = runParts g done ps s := by
  induction ps generalizing done s with
  | nil => rfl
  | cons p ps ih =>
    obtain ⟨hp, hps⟩ := List.forall_mem_cons.1 same
    simp only [runParts, hp, ih hps]

theorem runChoices_eq_of_eq {cs : List (Expr V)} (same : ∀ c ∈ cs, f c = g c) (s : Cursor) :
    runChoices f cs s = runChoices g cs s := by
  induction cs with
  | nil => rfl
  | cons c cs ih =>
    obtain ⟨hc, hcs⟩ := List.forall_mem_cons.1 same
    simp only [runChoices, hc, ih hcs]

theorem step_eq_of_eq {rules rules' : RuleSet V} {e : Expr V} (parts : ∀ p ∈ e.parts, f p = g p)
    (names : ∀ name, e = .reference name → rules.resolve name = rules'.resolve name)
    (found : ∀ name rule, e = .reference name → rules.resolve name = some rule → f rule = g rule)
    (rounds : Nat) : step rules f rounds e = step rules' g rounds e := by
  funext s
  cases e with
  | literal text => rfl
  | charClass cls => rfl
  | sequence ps => exact runParts_eq_of_eq parts [] s
  | repetition body min max =>
    have hb := parts body List.mem_cons_self
    simp only [step, hb]
  | alternation cs => exact runChoices_eq_of_eq parts s
  | reference name =>
    have hn := names name rfl
    simp only [step, ← hn]
    cases hr : rules.resolve name with
    | none => rfl
    | some rule => simp only [found name rule rfl hr]
  | hooked body h =>
    have hb := parts body List.mem_cons_self
    simp only [step, hb]

end Step

variable {rules rules' : RuleSet V} {e : Expr V}
  (agree : ∀ name, rules.Footprint e name → rules.resolve name = rules'.resolve name)

include agree

theorem run_eq_of_footprint (fuel : Nat) {p : Expr V}
    (inside : ∀ name ∈ p.references, rules.Footprint e name) :
    p.run rules fuel = p.run rules' fuel := by
  induction fuel generalizing p with
  | zero => rfl
  | succ fuel ih =>
    apply step_eq_of_eq
    · intro q hq
      exact ih fun name hn => inside name (references_subset_of_mem_parts hq hn)
    · rintro name rfl
      exact agree name (inside name List.mem_cons_self)
    · rintro name rule rfl hr
      exact ih fun next hn => .through (inside name List.mem_cons_self) hr hn

theorem apply_eq_of_footprint {s : Cursor} (ends : (e.apply rules s).Ends) :
    e.apply rules' s = e.apply rules s := by
  have hrun := run_eq_of_footprint agree (fuelFor rules e s) fun _ hn => .refers hn
  have hs : e.apply rules s = e.run rules' (fuelFor rules e s) s := congrFun hrun s
  rw [hs] at ends ⊢
  exact apply_eq_run ends

theorem outcome_apply_eq_of_footprint (s : Cursor) :
    (e.apply rules' s).outcome = (e.apply rules s).outcome := by
  by_cases ends : (e.apply rules s).Ends
  · rw [apply_eq_of_footprint agree ends]
  · -- the two sets give the same runs for each amount of fuel, so neither ever ends
    have ends' : ¬(e.apply rules' s).Ends := by
      intro h
      have hrun := run_eq_of_footprint agree (fuelFor rules' e s) fun _ hn => .refers hn
      have hs : e.run rules (fuelFor rules' e s) s = e.apply rules' s := congrFun hrun s
      rw [← hs] at h
      exact ends (ends_apply h)
    rw [not_not.1 ends, not_not.1 ends']

end Expr

theorem Grammar.value_parseRule_eq_of_footprint {g g' : Grammar V} {name : String}
    (agree : ∀ other, g.rules.Footprint (.reference name) other →
      g.rules.resolve other = g'.rules.resolve other) (input : String) :
    (g'.parseRule name input).value = (g.parseRule name input).value := by
  have hname : g'.rule? name = g.rule? name := (agree name (.refers List.mem_cons_self)).symm
  unfold parseRule
  rw [hname]
  cases hr : g.rule? name with
  | none => rfl
  | some rule =>
    have inside : ∀ other, g.rules.Footprint rule other →
        g.rules.resolve other = g'.rules.resolve other := by
      intro other h
      apply agree
      induction h with
      | refers h => exact .through (.refers List.mem_cons_self) hr h
      | through _ found refers ih => exact ih.through found refers
    have ho := Expr.outcome_apply_eq_of_footprint inside (.start input)
    simp only [ho]
    cases (rule.apply g.rules (.start input)).outcome.match? with
    | none => rfl
    | some result =>
      dsimp only
      split <;> rfl

/-- Rules that answer alike for the footprint of an expression give it the same outcome at every
place, and the same trace where it comes to an end. So no rule outside the footprint matters,
whether it is added, taken away or given another body, and grammars that agree on the footprint of
a name parse alike from it. -/
theorem outcome_apply_footprint (rules : RuleSet V) (e : Expr V) :
    (∀ rules' : RuleSet V,
      (∀ name, rules.Footprint e name → rules.resolve name = rules'.resolve name) →
      ∀ s, (e.apply rules' s).outcome = (e.apply rules s).outcome ∧
        ((e.apply rules s).Ends → e.apply rules' s = e.apply rules s)) ∧
    (∀ name, ¬rules.Footprint e name → ∀ s,
      (∀ rule, (e.apply (rules.define name rule) s).outcome = (e.apply rules s).outcome) ∧
        (e.apply (rules.remove name) s).outcome = (e.apply rules s).outcome) ∧
    ∀ (g g' : Grammar V) (name : String), (∀ other, g.rules.Footprint (.reference name) other →
        g.rules.resolve other = g'.rules.resolve other) →
      ∀ input, (g'.parseRule name input).value = (g.parseRule name input).value := by
  refine ⟨fun rules' agree s => ⟨?_, ?_⟩, fun name outside s => ⟨fun rule => ?_, ?_⟩,
    fun g g' name agree input => ?_⟩
  · exact Expr.outcome_apply_eq_of_footprint agree s
  · exact Expr.apply_eq_of_footprint agree
  · apply Expr.outcome_apply_eq_of_footprint
    intro other inside
    have hne : other ≠ name := fun h => outside (h ▸ inside)
    rw [RuleSet.resolve_define_of_ne hne]
  · apply Expr.outcome_apply_eq_of_footprint
    intro other inside
    have hne : other ≠ name := fun h => outside (h ▸ inside)
    rw [RuleSet.resolve_remove_of_ne hne]
  · exact Grammar.value_parseRule_eq_of_footprint agree input

theorem outcome_apply_footprint_digits :
    ¬Numeral.rules.Footprint (.reference "digits") "sign" ∧
      ((Expr.reference "digits").apply (Numeral.rules.remove "sign") (.start "42")).outcome =
        ((Expr.reference "digits").apply Numeral.rules (.start "42")).outcome ∧
      ((Expr.reference "digits").apply Numeral.rules (.start "42")).outcome.match?.map
        (·.2.offset) = some 2 := by
  have only : ∀ name, Numeral.rules.Footprint (.reference "digits") name → name = "digits" := by
    intro name h
    induction h with
    | refers h => exact List.mem_singleton.1 h
    | through _ found refers ih =>
      subst ih
      cases (show some _ = some _ from found)
      cases refers
  have outside : ¬Numeral.rules.Footprint (.reference "digits") "sign" := by
    intro h
    have := only "sign" h
    simp at this
  obtain ⟨-, unmoved, -⟩ := outcome_apply_footprint Numeral.rules (.reference "digits")
  exact ⟨outside, (unmoved "sign" outside (.start "42")).2, by decide +kernel⟩

end PegGrammar
