import Mathlib.Data.Fintype.Card
import Mathlib.Data.Fintype.EquivFin
import Mathlib.Logic.Relation
import PegGrammar.Lambda.Grammar
import PegGrammar.Catalog
import PegGrammar.Proofs.Fuel

/-!
Left recursion, which is all that keeps a run from ending. A rule leads to another if it refers to
it in front of everything that must consume text. Without a cycle of such steps every expression
yields a result at every place.

The argument goes by what is left of the text, then by how far a rule leads, then by the parts of an
expression. What a sequence runs behind a part that did not move is reached on the left, because
only a nullable part can match without moving; everything else runs on less text.
-/

namespace PegGrammar

variable {V : Type} {rules : RuleSet V}

/-- What may match without consuming anything. -/
inductive Nullable (rules : RuleSet V) : Expr V → Prop
  | literal : Nullable rules (.literal "")
  | sequence {ps : List (Expr V)} (all : ∀ p ∈ ps, Nullable rules p) :
      Nullable rules (.sequence ps)
  | repetitionOptional {body : Expr V} {max : Option ℕ} :
      Nullable rules (.repetition body 0 max)
  | repetition {body : Expr V} {min : ℕ} {max : Option ℕ} (h : Nullable rules body) :
      Nullable rules (.repetition body min max)
  | alternation {cs : List (Expr V)} {c : Expr V} (hc : c ∈ cs) (h : Nullable rules c) :
      Nullable rules (.alternation cs)
  | reference {name : String} {rule : Expr V} (found : rules.resolve name = some rule)
      (h : Nullable rules rule) : Nullable rules (.reference name)
  | hooked {body : Expr V} {k : Hook V} (h : Nullable rules body) : Nullable rules (.hooked body k)

/-- The names that an expression refers to at a place that it may run before it consumes anything. -/
inductive Leads (rules : RuleSet V) : Expr V → String → Prop
  | reference {name : String} : Leads rules (.reference name) name
  | sequence (before after : List (Expr V)) {p : Expr V} {name : String}
      (skips : ∀ q ∈ before, Nullable rules q) (h : Leads rules p name) :
      Leads rules (.sequence (before ++ p :: after)) name
  | repetition {body : Expr V} {min : ℕ} {max : Option ℕ} {name : String}
      (h : Leads rules body name) : Leads rules (.repetition body min max) name
  | alternation {cs : List (Expr V)} {c : Expr V} {name : String} (hc : c ∈ cs)
      (h : Leads rules c name) : Leads rules (.alternation cs) name
  | hooked {body : Expr V} {k : Hook V} {name : String} (h : Leads rules body name) :
      Leads rules (.hooked body k) name

namespace RuleSet

def LeftReaches (rules : RuleSet V) (a b : String) : Prop :=
  ∃ rule, rules.resolve a = some rule ∧ Leads rules rule b

def LeftAcyclic (rules : RuleSet V) : Prop :=
  ∀ name, ¬ Relation.TransGen rules.LeftReaches name name

end RuleSet

section Shape

variable {t name m : String} {cls : CharClass} {p body : Expr V} {ps cs : List (Expr V)}
  {min : ℕ} {max : Option ℕ} {k : Hook V}

@[simp] theorem nullable_literal_iff : Nullable rules (.literal t) ↔ t = "" := by
  constructor
  · intro h
    cases h
    rfl
  · intro h
    subst h
    exact .literal

@[simp] theorem not_nullable_charClass : ¬ Nullable rules (.charClass cls) := nofun

@[simp] theorem nullable_sequence_iff :
    Nullable rules (.sequence ps) ↔ ∀ p ∈ ps, Nullable rules p := by
  constructor
  · intro h
    cases h
    assumption
  · exact .sequence

@[simp] theorem nullable_repetition_iff :
    Nullable rules (.repetition body min max) ↔ min = 0 ∨ Nullable rules body := by
  constructor
  · intro h
    cases h with
    | repetitionOptional => exact .inl rfl
    | repetition h => exact .inr h
  · intro h
    rcases h with rfl | h
    · exact .repetitionOptional
    · exact .repetition h

@[simp] theorem nullable_reference_iff :
    Nullable rules (.reference name) ↔
      ∃ rule, rules.resolve name = some rule ∧ Nullable rules rule := by
  constructor
  · intro h
    cases h
    exact ⟨_, ‹_›, ‹_›⟩
  · intro h
    obtain ⟨rule, found, h⟩ := h
    exact .reference found h

@[simp] theorem nullable_hooked_iff : Nullable rules (.hooked body k) ↔ Nullable rules body := by
  constructor
  · intro h
    cases h
    assumption
  · exact .hooked

@[simp] theorem not_leads_literal : ¬ Leads rules (.literal t) name := nofun

@[simp] theorem not_leads_charClass : ¬ Leads rules (.charClass cls) name := nofun

@[simp] theorem leads_reference_iff : Leads rules (.reference m) name ↔ m = name := by
  constructor
  · intro h
    cases h
    rfl
  · intro h
    subst h
    exact .reference

@[simp] theorem not_leads_sequence_nil : ¬ Leads rules (.sequence []) name := by
  intro h
  generalize he : Expr.sequence ([] : List (Expr V)) = e at h
  cases h with
  | sequence skips h => simp at he
  | _ => simp at he

@[simp] theorem leads_sequence_cons_iff :
    Leads rules (.sequence (p :: ps)) name ↔
      Leads rules p name ∨ Nullable rules p ∧ Leads rules (.sequence ps) name := by
  constructor
  · intro h
    generalize he : Expr.sequence (p :: ps) = e at h
    cases h with
    | @sequence before after q name skips h =>
      cases before with
      | nil =>
        obtain ⟨rfl, rfl⟩ := by simpa using he
        exact .inl h
      | cons b before =>
        obtain ⟨rfl, rfl⟩ := by simpa using he
        exact .inr ⟨skips p List.mem_cons_self,
          .sequence before after (fun q hq => skips q (List.mem_cons_of_mem p hq)) h⟩
    | _ => simp at he
  · intro h
    rcases h with h | ⟨hp, h⟩
    · exact .sequence [] ps (by simp) h
    · generalize he : Expr.sequence ps = e at h
      cases h with
      | sequence before after skips h =>
        obtain rfl := by simpa using he
        exact .sequence (p :: before) after (by simpa using ⟨hp, skips⟩) h
      | _ => simp at he

@[simp] theorem leads_repetition_iff :
    Leads rules (.repetition body min max) name ↔ Leads rules body name := by
  constructor
  · intro h
    cases h
    assumption
  · exact .repetition

@[simp] theorem leads_alternation_iff :
    Leads rules (.alternation cs) name ↔ ∃ c ∈ cs, Leads rules c name := by
  constructor
  · intro h
    cases h
    exact ⟨_, ‹_›, ‹_›⟩
  · intro h
    obtain ⟨c, hc, h⟩ := h
    exact .alternation hc h

@[simp] theorem leads_hooked_iff : Leads rules (.hooked body k) name ↔ Leads rules body name := by
  constructor
  · intro h
    cases h
    assumption
  · exact .hooked

end Shape

theorem Yields.nullable {e : Expr V} {s : Cursor} {n : Node V}
    (h : Yields rules e s (some (n, s))) : Nullable rules e := by
  generalize hr : some (n, s) = r at h
  induction h generalizing n with
  | @literal text s starts =>
    obtain ⟨rfl, hs⟩ : n = _ ∧ s = s.read text.length := by simpa using hr
    by_contra ht
    have hpos : 0 < text.toList.length := List.length_pos_iff.2 (by simpa using ht)
    have hle := starts.length_le
    have hl := congrArg (fun c : Cursor => c.ahead.length) hs
    simp only [Cursor.ahead_read, List.length_drop, String.length_toList] at hl hle hpos
    omega
  | @charClass cls s c next member =>
    obtain ⟨rfl, hs⟩ : n = _ ∧ s = s.read 1 := by simpa using hr
    obtain ⟨cs, ha⟩ := List.head?_eq_some_iff.1 next
    have hl := congrArg (fun c : Cursor => c.ahead.length) hs
    simp [ha] at hl
  | sequenceEmpty => simp
  | sequence first others ihf iho =>
    obtain ⟨rfl, rfl⟩ := by simpa using hr
    obtain rfl := first.stop_eq_of_return others
    have hps := nullable_sequence_iff.1 (iho rfl)
    exact .sequence (List.forall_mem_cons.2 ⟨ihf rfl, hps⟩)
  | repetitionFull | repetitionEnds => exact .repetitionOptional
  | repetitionStalls room stalls ih =>
    obtain ⟨rfl, _⟩ := by simpa using hr
    exact .repetition (ih rfl)
  | repetition room moves first others ihf iho =>
    obtain ⟨rfl, rfl⟩ := by simpa using hr
    exact absurd (first.stop_eq_of_return others) moves
  | @alternation c cs s r first ih => exact .alternation List.mem_cons_self (ih hr)
  | alternationOther first others ihf iho =>
    cases iho hr with
    | alternation hc h => exact .alternation (List.mem_cons_of_mem _ hc) h
  | reference found runs ih => exact .reference found (ih hr)
  | hooked matches_ taken ih =>
    obtain ⟨_, rfl⟩ := by simpa using hr
    exact .hooked (ih rfl)
  | literalFails | charClassFails | sequenceFailsFirst | sequenceFailsLater | repetitionFullShort
  | repetitionEndsShort | repetitionFailsLater | alternationEmpty | referenceFails
  | hookedDeclines | hookedFails => simp at hr

/-- An expression has a result at a place if the rules that it leads to have one there and
everything has one where less of the text is left. -/
theorem exists_yields_of_leads {s : Cursor}
    (shorter : ∀ t : Cursor, t.ahead.length < s.ahead.length → ∀ e, ∃ r, Yields rules e t r)
    (e : Expr V) (leads : ∀ name, Leads rules e name → ∃ r, Yields rules (.reference name) s r) :
    ∃ r, Yields rules e s r := by
  induction e using Expr.induction_parts with
  | step e ih =>
    cases e with
    | literal text =>
      by_cases ht : text.toList <+: s.ahead
      · exact ⟨_, .literal ht⟩
      · exact ⟨_, .literalFails ht⟩
    | charClass cls =>
      by_cases hc : ∃ c, s.ahead.head? = some c ∧ cls.accepts c = true
      · obtain ⟨c, next, member⟩ := hc
        exact ⟨_, .charClass next member⟩
      · exact ⟨_, .charClassFails fun c next => by simpa [next] using hc⟩
    | sequence ps =>
      simp only [Expr.parts] at ih
      induction ps with
      | nil => exact ⟨_, .sequenceEmpty⟩
      | cons p ps ihps =>
        have hp := ih p List.mem_cons_self fun name h => leads name (by simp [h])
        obtain ⟨_ | ⟨n, t⟩, first⟩ := hp
        · exact ⟨_, .sequenceFailsFirst first⟩
        · have others : ∃ r, Yields rules (.sequence ps) t r := by
            by_cases ht : t = s
            · -- the first part did not move, so it is nullable and the others are led to as well
              subst ht
              exact ihps (fun q hq => ih q (List.mem_cons_of_mem p hq))
                fun name h => leads name (by simp [first.nullable, h])
            · exact shorter t (first.length_ahead_lt ht) _
          obtain ⟨_ | ⟨n', u⟩, others⟩ := others
          · exact ⟨_, .sequenceFailsLater first others⟩
          · obtain ⟨ns, rfl⟩ := others.node_of_sequence
            exact ⟨_, .sequence first others⟩
    | repetition body min max =>
      by_cases room : max = some 0
      · subst room
        cases min with
        | zero => exact ⟨_, .repetitionFull⟩
        | succ min => exact ⟨_, .repetitionFullShort⟩
      · have hb := ih body (by simp [Expr.parts]) fun name h => leads name (by simp [h])
        obtain ⟨_ | ⟨n, t⟩, first⟩ := hb
        · cases min with
          | zero => exact ⟨_, .repetitionEnds room first⟩
          | succ min => exact ⟨_, .repetitionEndsShort room first⟩
        · by_cases ht : t = s
          · subst ht
            exact ⟨_, .repetitionStalls room first⟩
          · obtain ⟨_ | ⟨n', u⟩, others⟩ := shorter t (first.length_ahead_lt ht)
              (.repetition body (min - 1) (max.map (· - 1)))
            · exact ⟨_, .repetitionFailsLater room ht first others⟩
            · obtain ⟨ns, rfl⟩ := others.node_of_repetition
              exact ⟨_, .repetition room ht first others⟩
    | alternation cs =>
      simp only [Expr.parts] at ih
      induction cs with
      | nil => exact ⟨_, .alternationEmpty⟩
      | cons c cs ihcs =>
        have hc := ih c List.mem_cons_self fun name h => leads name (by simp [h])
        obtain ⟨_ | r, first⟩ := hc
        · obtain ⟨r, others⟩ := ihcs (fun d hd => ih d (List.mem_cons_of_mem c hd))
            fun name h => leads name (by simpa using .inr (by simpa using h))
          exact ⟨r, .alternationOther first others⟩
        · exact ⟨_, .alternation first⟩
    | reference name => exact leads name .reference
    | hooked body k =>
      obtain ⟨_ | ⟨n, t⟩, hb⟩ := ih body (by simp [Expr.parts]) fun name h => leads name (.hooked h)
      · exact ⟨_, .hookedFails hb⟩
      · cases hk : k n with
        | none => exact ⟨_, .hookedDeclines hb hk⟩
        | some v => exact ⟨_, .hooked hb hk⟩

namespace RuleSet

theorem wellFounded_of_leftAcyclic (h : rules.LeftAcyclic) :
    WellFounded fun b a => rules.LeftReaches a b := by
  let Name := {name : String // name ∈ rules.map Prod.fst}
  have defined : ∀ {a b}, rules.LeftReaches a b → a ∈ rules.map Prod.fst := by
    intro a b h'
    obtain ⟨rule, found, _⟩ := h'
    exact List.mem_map_of_mem (mem_of_resolve found)
  let before : Name → Name → Prop := fun b a => Relation.TransGen rules.LeftReaches a.1 b.1
  have : IsTrans Name before := ⟨fun _ _ _ hab hbc => hbc.trans hab⟩
  have : Std.Irrefl before := ⟨fun a ha => h a.1 ha⟩
  have : Finite Name := inferInstanceAs (Finite {name // name ∈ rules.map Prod.fst})
  have wf : WellFounded before := Finite.wellFounded_of_trans_of_irrefl before
  -- names without a rule lead nowhere, and there are finitely many others
  have acc : ∀ a : Name, Acc (fun b a => rules.LeftReaches a b) a.1 := by
    intro a
    induction a using wf.induction with
    | _ a ih =>
      refine ⟨_, fun b hb => ?_⟩
      by_cases hd : b ∈ rules.map Prod.fst
      · exact ih ⟨b, hd⟩ (.single hb)
      · exact ⟨_, fun c hc => absurd (defined hc) hd⟩
  refine ⟨fun a => ?_⟩
  by_cases hd : a ∈ rules.map Prod.fst
  · exact acc ⟨a, hd⟩
  · exact ⟨_, fun b hb => absurd (defined hb) hd⟩

theorem leftAcyclic_of_rank (rank : String → ℕ)
    (lowers : ∀ a b, rules.LeftReaches a b → rank b < rank a) : rules.LeftAcyclic := by
  intro name h
  have hlt : ∀ {a b}, Relation.TransGen rules.LeftReaches a b → rank b < rank a := by
    intro a b hab
    induction hab with
    | single h => exact lowers _ _ h
    | tail _ h ih => exact (lowers _ _ h).trans ih
  exact absurd (hlt h) (lt_irrefl _)

theorem exists_yields (h : rules.LeftAcyclic) (e : Expr V) (s : Cursor) :
    ∃ r, Yields rules e s r := by
  induction hn : s.ahead.length using Nat.strong_induction_on generalizing e s with
  | _ n ih =>
    subst hn
    have shorter : ∀ t : Cursor, t.ahead.length < s.ahead.length → ∀ e, ∃ r, Yields rules e t r :=
      fun t ht e => ih _ ht e t rfl
    have named : ∀ name, ∃ r, Yields rules (.reference name) s r := by
      intro name
      induction name using (wellFounded_of_leftAcyclic h).induction with
      | _ name ihn =>
        cases found : rules.resolve name with
        | none => exact ⟨_, .referenceFails found⟩
        | some rule =>
          obtain ⟨r, hr⟩ := exists_yields_of_leads shorter rule fun b hb =>
            ihn b ⟨rule, found, hb⟩
          exact ⟨r, .reference found hr⟩
    exact exists_yields_of_leads shorter e fun name _ => named name

end RuleSet

def Lambda.leftRank : String → ℕ
  | "term" => 2
  | "app" => 1
  | _ => 0

theorem Lambda.leftAcyclic : Lambda.rules.LeftAcyclic := by
  apply RuleSet.leftAcyclic_of_rank leftRank
  intro a b h
  obtain ⟨rule, found, leads⟩ := h
  have resolve_var : Lambda.rules.resolve "var" =
      some ((Expr.charClass (.range 'a' 'z')).withHook variableTerm) := rfl
  have hr := RuleSet.mem_of_resolve found
  simp only [Lambda.rules, List.mem_cons, Prod.mk.injEq, List.not_mem_nil, or_false] at hr
  rcases hr with ⟨rfl, rfl⟩ | ⟨rfl, rfl⟩ | ⟨rfl, rfl⟩ | ⟨rfl, rfl⟩ | ⟨rfl, rfl⟩ | ⟨rfl, rfl⟩ |
    ⟨rfl, rfl⟩ | ⟨rfl, rfl⟩ | ⟨rfl, rfl⟩ | ⟨rfl, rfl⟩ | ⟨rfl, rfl⟩ | ⟨rfl, rfl⟩
  case inl =>
    simp at leads
    rcases leads with rfl | rfl | rfl | rfl | rfl | rfl | rfl | rfl | rfl | rfl <;> decide
  case inr.inr.inl =>
    simp [Expr.withHook, resolve_var] at leads
    subst leads
    decide
  all_goals
    simp [Expr.withHook, Expr.withMap, operator, Expr.repeated] at leads

theorem Numeral.leftAcyclic : Numeral.rules.LeftAcyclic := by
  apply RuleSet.leftAcyclic_of_rank fun name => if name = "signed" then 1 else 0
  intro a b h
  obtain ⟨rule, found, leads⟩ := h
  have hr := RuleSet.mem_of_resolve found
  simp only [Numeral.rules, List.mem_cons, Prod.mk.injEq, List.not_mem_nil, or_false] at hr
  rcases hr with ⟨rfl, rfl⟩ | ⟨rfl, rfl⟩ | ⟨rfl, rfl⟩
  · simp [Expr.withHook, Expr.optional] at leads
    rcases leads with rfl | rfl <;> decide
  · simp at leads
  · simp [Expr.repeated] at leads

def Grammar.Returns (g : Grammar V) (name input : String) : Prop :=
  ∀ rule, g.rule? name = some rule → (rule.apply g.rules (.start input)).outcome ≠ .unfinished

theorem Grammar.returns_of_leftAcyclic (g : Grammar V) (h : g.rules.LeftAcyclic)
    (name input : String) : g.Returns name input :=
  fun rule _ => Expr.ends_apply_iff.2 (RuleSet.exists_yields h rule _)

/-- Every run over rules without left recursion comes to an end, and so does parsing with the
ready-made grammars. -/
theorem outcome_apply_ne_unfinished :
    (∀ (V : Type) (rules : RuleSet V), rules.LeftAcyclic → ∀ (e : Expr V) (s : Cursor),
      (e.apply rules s).outcome ≠ .unfinished) ∧
    ∀ name input, Lambda.grammar.Returns name input ∧ Numeral.grammar.Returns name input := by
  refine ⟨fun V rules h e s => Expr.ends_apply_iff.2 (RuleSet.exists_yields h e s), ?_⟩
  intro name input
  exact ⟨Lambda.grammar.returns_of_leftAcyclic Lambda.leftAcyclic name input,
    Numeral.grammar.returns_of_leftAcyclic Numeral.leftAcyclic name input⟩

def nested : RuleSet Unit := [
  ("nested", .sequence [.literal "(", .repetition (.optional (.reference "nested")) 2 none,
    .literal ")"])]

theorem outcome_apply_nested :
    nested.LeftAcyclic ∧
      ((Expr.reference "nested").apply nested (.start "(()())")).outcome ≠ .unfinished := by
  have h : nested.LeftAcyclic := by
    apply RuleSet.leftAcyclic_of_rank fun _ => 0
    intro a b h
    obtain ⟨rule, found, leads⟩ := h
    have hr := RuleSet.mem_of_resolve found
    simp only [nested, List.mem_singleton, Prod.mk.injEq] at hr
    obtain ⟨rfl, rfl⟩ := hr
    simp at leads
  exact ⟨h, outcome_apply_ne_unfinished.1 Unit nested h (.reference "nested") (.start "(()())")⟩

end PegGrammar
