import PegGrammar.Proofs.Hooks
import PegGrammar.Proofs.Lambda.Rules

/-!
The hooks of the lambda grammar. Each of them takes a node apart by places and counts, and the node
comes from the body it is on: a character, a sequence with terms at known places, or a variable and
a repetition of arguments. Since every term that a body has read is a value by then, each hook finds
what it looks for, and none ever refuses a match.
-/

namespace PegGrammar.Lambda

variable {s u : Cursor} {n : Node Term}

theorem isSome_variableTerm (h : Yields rules (.charClass (.range 'a' 'z')) s (some (n, u))) :
    (variableTerm n).isSome := by
  cases h with
  | charClass next member => rfl

theorem isSome_application
    (h : Yields rules (.sequence [.reference "var", .repetition argument 1 none]) s (some (n, u))) :
    (application n).isSome := by
  simp only [Yields.sequence_cons_some_iff, Yields.sequence_nil_some_iff, var_some_iff,
    Yields.repetition_some_iff argument_some_iff (by simp)] at h
  obtain ⟨_, _, _, ⟨c, -, -, rfl⟩, ⟨_, _, _, ⟨args, -, -, -, -, rfl⟩, ⟨⟨⟩, -⟩, ⟨⟩⟩, rfl⟩ := h
  rw [application_arguments]
  rfl

theorem isSome_abstraction (h : Yields rules
      (.sequence [.literal "λ", .reference "var", .literal ".", term]) s (some (n, u))) :
    (abstraction n).isSome := by
  simp only [Yields.sequence_cons_some_iff, Yields.sequence_nil_some_iff, Yields.literal_some_iff,
    var_some_iff] at h
  obtain ⟨_, _, _, ⟨rfl, -⟩, ⟨_, _, _, ⟨c, -, -, rfl⟩, ⟨_, _, _, ⟨rfl, -⟩,
    ⟨_, _, _, ht, ⟨⟨⟩, -⟩, ⟨⟩⟩, ⟨⟩⟩, ⟨⟩⟩, rfl⟩ := h
  obtain ⟨t, rfl⟩ := value_of_term ht
  rfl

theorem isSome_operator {keyword : String} (make : Term → Term)
    (h : Yields rules (.sequence [.literal keyword, blank, term]) s (some (n, u))) :
    ((lastTerm? n).map make).isSome := by
  obtain ⟨_, _, _, -, -, last, rfl⟩ := introduction_some_iff.1 h
  obtain ⟨_, _, _, ht, hns, ⟨⟩⟩ := Yields.sequence_cons_some_iff.1 last
  obtain ⟨⟨⟩, -⟩ := Yields.sequence_nil_some_iff.1 hns
  obtain ⟨t, rfl⟩ := value_of_term ht
  rfl

theorem isSome_conditional (h : Yields rules (.sequence [.literal "if", blank, term, blank,
      .literal "then", blank, term, blank, .literal "else", blank, term]) s (some (n, u))) :
    (conditional n).isSome := by
  obtain ⟨_, _, _, -, -, condition, rfl⟩ := introduction_some_iff.1 h
  obtain ⟨c, _, _, _, _, _, _, -, -, -, -, -, consequent, ⟨⟩⟩ := clause_some_iff.1 condition
  obtain ⟨t, _, _, _, _, _, _, -, -, -, -, -, last, ⟨⟩⟩ := clause_some_iff.1 consequent
  obtain ⟨_, _, _, he, hns, ⟨⟩⟩ := Yields.sequence_cons_some_iff.1 last
  obtain ⟨⟨⟩, -⟩ := Yields.sequence_nil_some_iff.1 hns
  obtain ⟨e, rfl⟩ := value_of_term he
  rfl

theorem hooksFit_hooked {body : Expr Term} {k : Hook Term} (hbody : body.HooksFit rules)
    (takes : ∀ {s u n}, Yields rules body s (some (n, u)) → (k n).isSome) :
    (Expr.hooked body k).HooksFit rules :=
  Expr.everyHook_hooked_iff.2 ⟨fun _ _ _ => takes, hbody⟩

theorem hooksFit_constant (keyword : String) (t : Term) :
    ((Expr.literal keyword).withMap fun _ => t).HooksFit rules :=
  hooksFit_hooked (by simp [Expr.HooksFit, Expr.EveryHook, Expr.subterms]) fun _ => rfl

theorem hooksFit_operator (keyword : String) (make : Term → Term) :
    (operator keyword make).HooksFit rules :=
  hooksFit_hooked (by simp [Expr.HooksFit, Expr.EveryHook, Expr.subterms, Expr.subtermsList])
    (isSome_operator make)

theorem hooksFit : rules.HooksFit := by
  simp only [RuleSet.HooksFit, rules, List.forall_mem_cons]
  refine ⟨?term, hooksFit_hooked ?var isSome_variableTerm, hooksFit_hooked ?app isSome_application,
    hooksFit_hooked ?abs isSome_abstraction, hooksFit_hooked ?cond isSome_conditional,
    hooksFit_constant _ _, hooksFit_constant _ _, hooksFit_constant _ _, hooksFit_operator _ _,
    hooksFit_operator _ _, hooksFit_operator _ _, ?blanks,
    List.forall_mem_nil _⟩
  all_goals
    simp [Expr.HooksFit, Expr.EveryHook, Expr.repeated, Expr.subterms, Expr.subtermsList]

theorem hooked_of_mem_rules : ∀ rule ∈ rules,
    rule.1 ∈ ["term", "ws"] ∨ ∃ body k, rule.2 = .hooked body k := by
  simp [rules, Expr.withMap, Expr.withHook, operator]

theorem value_of_rule {name : String} {rule : Expr Term} (found : rules.resolve name = some rule)
    (hname : name ≠ "ws") (h : Yields rules rule s (some (n, u))) : ∃ t, n = .value t := by
  obtain hterm | ⟨body, k, hbody⟩ := hooked_of_mem_rules _ (RuleSet.mem_of_resolve found)
  · obtain rfl : name = "term" := by simpa [hname] using hterm
    exact value_of_term (.reference found h)
  · obtain rfl : rule = .hooked body k := hbody
    obtain ⟨_, t, -, -, rfl⟩ := Yields.hooked_some_iff.1 h
    exact ⟨t, rfl⟩

theorem isSome_parseValue (input : String) :
    (grammar.parseValue input).value.isSome = (grammar.parse input).value.isSome := by
  change ((grammar.parse input).value.bind Node.value?).isSome = _
  cases hparse : (grammar.parse input).value with
  | none => rfl
  | some node =>
    obtain ⟨rule, t, found, -, h⟩ := Grammar.value_parseRule_eq_some_iff.1 hparse
    obtain ⟨v, rfl⟩ := value_of_rule found (by decide) h
    rfl

/-- No hook of the grammar refuses a node that it is given, in whatever rule and at whatever place,
and all rules but the one for blanks make values of what they match. So the grammar without hooks
recognizes the same, and a text that is accepted stands for a term. -/
theorem hooks_never_refuse :
    rules.HooksFit ∧
    (∀ name rule, rules.resolve name = some rule → ∀ s : Cursor,
      Event.declined ∉ (rule.apply rules s).trace ∧
      (name ≠ "ws" → ∀ node stop, (rule.apply rules s).outcome = .matched node stop →
        ∃ t, node = .value t) ∧
      ((rule.apply rules s).outcome = .noMatch ↔
        (rule.unhooked.apply rules.unhooked s).outcome = .noMatch) ∧
      ∀ stop, (∃ node, (rule.apply rules s).outcome = .matched node stop) ↔
        ∃ node, (rule.unhooked.apply rules.unhooked s).outcome = .matched node stop) ∧
    (∀ name input, (grammar.unhooked.parseRule name input).value.isSome =
      (grammar.parseRule name input).value.isSome) ∧
    ∀ input, (grammar.parseValue input).value.isSome = (grammar.parse input).value.isSome := by
  refine ⟨hooksFit, fun name rule found s => ?_, Grammar.isSome_parseRule_unhooked hooksFit,
    isSome_parseValue⟩
  · have hf : rule.HooksFit rules := hooksFit _ (RuleSet.mem_of_resolve found)
    have alike {o : Option Cursor} : Recognizes rules rule s o ↔
        Recognizes rules.unhooked rule.unhooked s o := (recognizes_unhooked_iff hooksFit hf).symm
    refine ⟨hooksFit.declined_notMem_trace hf s, fun hname node stop h => ?_, ?_, fun stop => ?_⟩
    · exact value_of_rule found hname (Expr.outcome_apply_eq_iff.1 h)
    · rw [Expr.noMatch_iff, alike, Expr.noMatch_iff]
    · rw [Expr.exists_matched_iff, alike, Expr.exists_matched_iff]

theorem hooks_never_refuse_application :
    let s := (Cursor.start "succ f  x").read 5
    ∃ rule node, rules.resolve "app" = some rule ∧ "app" ≠ "ws" ∧
      Event.declined ∉ (rule.apply rules s).trace ∧
      (rule.apply rules s).outcome = .matched node (s.read 4) ∧ (∃ t, node = .value t) ∧
      ∃ node, (rule.unhooked.apply rules.unhooked s).outcome = .matched node (s.read 4) := by
  intro s
  obtain ⟨-, runs, -, -⟩ := hooks_never_refuse
  obtain ⟨told, makes, -, stops⟩ := runs "app" _ rfl s
  have ran : ((Expr.hooked (.sequence [.reference "var", .repetition argument 1 none])
      application).apply rules s).outcome =
        .matched (.value (.app (.var "f") (.var "x"))) (s.read 4) := rfl
  exact ⟨_, _, rfl, by decide, told, ran, makes (by decide) _ _ ran, (stops _).1 ⟨_, ran⟩⟩

end PegGrammar.Lambda
