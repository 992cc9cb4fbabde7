import PegGrammar.Catalog
import PegGrammar.Proofs.Fuel

/-!
Lookups. A run only enters expressions that the one it started from and the rules are made of, so
what it tells follows from what these refer to and how their hooks answer. In a grammar that could
be built all of them refer to rules alone, so no run looks up a name that is missing, however deep
and on whatever attempt, finished or given up.

Building also enters each name with the place of its rule in the list. A lookup goes by that place,
which is always one of the list and always holds the rule of that very name.
-/

namespace PegGrammar

variable {V : Type}

namespace Run

def Tells (P : Event → Prop) (r : Run V) : Prop := ∀ event ∈ r.trace, P event

namespace Tells

variable {P : Event → Prop} {r : Run V}

theorem of_trace_nil (h : r.trace = []) : r.Tells P := by simp [Tells, h]

theorem after {events : List Event} (h : r.Tells P) (he : ∀ event ∈ events, P event) :
    (r.after events).Tells P := by
  intro event hm
  rcases List.mem_append.1 hm with hm | hm
  · exact he event hm
  · exact h event hm

theorem andThen {next : Node V → Cursor → Run V} (h : r.Tells P)
    (hn : ∀ n t, r.outcome = .matched n t → (next n t).Tells P) : (r.andThen next).Tells P := by
  unfold Run.andThen
  cases hr : r.outcome with
  | matched n t => exact (hn n t hr).after h
  | noMatch | unfinished => exact h

theorem orElse {next : Unit → Run V} (h : r.Tells P) (hn : (next ()).Tells P) :
    (r.orElse next).Tells P := by
  unfold Run.orElse
  cases r.outcome with
  | noMatch => exact hn.after h
  | matched n t | unfinished => exact h

theorem hook {k : Hook V} (h : r.Tells P)
    (hk : ∀ n t, r.outcome = .matched n t → k n = none → P .declined) : (r.hook k).Tells P := by
  unfold Run.hook
  cases hr : r.outcome with
  | matched n t =>
    cases hn : k n with
    | some v =>
      simp only [hn]
      exact h
    | none =>
      simp only [hn]
      intro event hm
      rcases List.mem_append.1 hm with hm | hm
      · exact h event hm
      · obtain rfl := List.mem_singleton.1 hm
        exact hk n t hr hn
  | noMatch | unfinished => exact h

end Tells

end Run

namespace Expr

/-- Where the events of a run over expressions that `C` covers come from. -/
structure Explains (rules : RuleSet V) (C : Expr V → Prop) (P : Event → Prop) : Prop
    extends Covers rules C where
  entered : ∀ name offset, C (.reference name) → P (.entered name offset)
  undefinedRule : ∀ name, C (.reference name) → rules.resolve name = none → P (.undefinedRule name)
  declined : ∀ body h s n t, C (.hooked body h) → Yields rules body s (some (n, t)) → h n = none →
    P .declined

section Step

variable {rules : RuleSet V} {C : Expr V → Prop} {P : Event → Prop}
  {run : Expr V → Cursor → Run V}
  (tells : ∀ e s, C e → (run e s).Tells P)

include tells

theorem tells_runParts {ps : List (Expr V)} (hC : ∀ p ∈ ps, C p) (done : List (Node V))
    (s : Cursor) : (runParts run done ps s).Tells P := by
  induction ps generalizing done s with
  | nil => exact .of_trace_nil rfl
  | cons p ps ih =>
    obtain ⟨hp, hps⟩ := List.forall_mem_cons.1 hC
    exact (tells p s hp).andThen fun n t _ => ih hps (n :: done) t

theorem tells_runChoices {cs : List (Expr V)} (hC : ∀ c ∈ cs, C c) (s : Cursor) :
    (runChoices run cs s).Tells P := by
  induction cs with
  | nil => exact .of_trace_nil rfl
  | cons c cs ih =>
    obtain ⟨hc, hcs⟩ := List.forall_mem_cons.1 hC
    exact (tells c s hc).orElse (ih hcs)

theorem tells_runRepeatedly {body : Expr V} (hb : C body) (rounds needed : Nat)
    (left : Option Nat) (done : List (Node V)) (s : Cursor) :
    (runRepeatedly (run body) rounds needed left done s).Tells P := by
  have ends : ∀ needed done s, (endRepetition needed done s : Run V).Tells P := by
    intro needed done s
    unfold endRepetition
    split <;> exact .of_trace_nil rfl
  induction rounds generalizing needed left done s with
  | zero => exact .of_trace_nil rfl
  | succ rounds ih =>
    have hr := tells body s hb
    simp only [runRepeatedly]
    split
    · exact ends needed done s
    · cases (run body s).outcome with
      | matched n t =>
        refine Run.Tells.after ?_ hr
        split
        · exact .of_trace_nil rfl
        · exact ih _ _ _ _
      | noMatch => exact (ends needed done s).after hr
      | unfinished => exact hr

theorem tells_step (explains : Explains rules C P)
    (sound : ∀ e s r, (run e s).outcome = .ofMatch r → Yields rules e s r)
    {e : Expr V} (he : C e) (rounds : Nat) (s : Cursor) : (step rules run rounds e s).Tells P := by
  have hp := explains.parts e he
  cases e with
  | literal text =>
    simp only [step]
    split <;> exact .of_trace_nil rfl
  | charClass cls =>
    simp only [step]
    split
    · split <;> exact .of_trace_nil rfl
    · exact .of_trace_nil rfl
  | sequence ps => exact tells_runParts tells hp [] s
  | repetition body min max =>
    exact tells_runRepeatedly tells (hp body List.mem_cons_self) rounds min max [] s
  | alternation cs => exact tells_runChoices tells hp s
  | reference name =>
    have entered := explains.entered name s.offset he
    simp only [step]
    cases hn : rules.resolve name with
    | some rule =>
      have hrule := tells rule s (explains.rule name rule hn)
      exact hrule.after (by simpa using entered)
    | none =>
      have missing := explains.undefinedRule name he hn
      simpa [Run.Tells] using ⟨entered, missing⟩
  | hooked body h =>
    refine (tells body s (hp body List.mem_cons_self)).hook fun n t hr hn => ?_
    exact explains.declined body h s n t he (sound body s (some (n, t)) hr) hn

end Step

variable {rules : RuleSet V} {C : Expr V → Prop} {P : Event → Prop}

theorem tells_run (explains : Explains rules C P) (fuel : Nat) {e : Expr V} (he : C e)
    (s : Cursor) : (e.run rules fuel s).Tells P := by
  induction fuel generalizing e s with
  | zero => exact .of_trace_nil rfl
  | succ fuel ih =>
    exact tells_step (fun e s he => ih he s) explains (fun _ _ _ => yields_of_run) he fuel s

theorem referencesList_eq_flatMap (es : List (Expr V)) :
    referencesList es = es.flatMap references := by
  induction es with
  | nil => rfl
  | cons e es ih => simp [referencesList, ih]

theorem references_subset_of_mem_parts {e p : Expr V} (h : p ∈ e.parts) :
    p.references ⊆ e.references := by
  intro name hn
  cases e with
  | literal | charClass | reference => simp [parts] at h
  | sequence ps =>
    rw [references, referencesList_eq_flatMap]
    exact List.mem_flatMap.2 ⟨p, h, hn⟩
  | alternation cs =>
    rw [references, referencesList_eq_flatMap]
    exact List.mem_flatMap.2 ⟨p, h, hn⟩
  | repetition body _ _ | hooked body _ =>
    obtain rfl := List.mem_singleton.1 h
    exact hn

end Expr

def Event.Found (rules : RuleSet V) : Event → Prop
  | .entered name _ => ∃ rule, rules.resolve name = some rule
  | .undefinedRule _ => False
  | .declined => True

theorem Record.line?_ne_warn_of_found {rules : RuleSet V} {event : Event}
    (h : event.Found rules) (text : String) : (Record.event event).line? ≠ some (.warn, text) := by
  cases event with
  | entered name offset => simp [Record.line?]
  | undefinedRule name => exact h.elim
  | declined => simp [Record.line?]

namespace RuleSet

variable {rules : RuleSet V} {root name : String} {rule : Expr V}

theorem exists_resolve_iff : (∃ rule, rules.resolve name = some rule) ↔ name ∈ rules.names := by
  rw [← Option.isSome_iff_exists, resolve, List.lookup_isSome_iff, names, List.mem_map]
  exact exists_congr fun p => and_congr_right fun _ => beq_iff_eq.trans eq_comm

theorem resolve_of_mem (distinct : rules.names.Nodup) (h : (name, rule) ∈ rules) :
    rules.resolve name = some rule := by
  obtain ⟨before, after, rfl⟩ := List.append_of_mem h
  refine List.lookup_eq_some_iff.2 ⟨before, after, rfl, fun p hp => ?_⟩
  simp only [names, List.map_append, List.map_cons, List.nodup_append] at distinct
  have hne := distinct.2.2 p.1 (List.mem_map_of_mem hp) name List.mem_cons_self
  simpa using hne.symm

theorem WellFormed.resolve_iff (wf : rules.WellFormed root) :
    rules.resolve name = some rule ↔ (name, rule) ∈ rules :=
  ⟨mem_of_resolve, resolve_of_mem wf.names_distinct⟩

theorem WellFormed.explains (wf : rules.WellFormed root) :
    Expr.Explains rules (fun e => ∀ name ∈ e.references, name ∈ rules.names)
      (Event.Found rules) where
  parts _ he _ hp name hn := he name (Expr.references_subset_of_mem_parts hp hn)
  rule _ _ found := wf.references_defined _ (mem_of_resolve found)
  entered name _ he := exists_resolve_iff.2 (he name List.mem_cons_self)
  undefinedRule name he missing := by
    obtain ⟨rule, found⟩ := exists_resolve_iff.2 (he name List.mem_cons_self)
    simp [missing] at found
  declined _ _ _ _ _ _ _ _ := trivial

theorem WellFormed.tells_run (wf : rules.WellFormed root) (found : rules.resolve name = some rule)
    (fuel : Nat) (s : Cursor) : (rule.run rules fuel s).Tells (Event.Found rules) :=
  Expr.tells_run wf.explains fuel (wf.references_defined _ (mem_of_resolve found)) s

/-- Enters each name with the place of its rule, the first one at `i`, unless the name is no
identifier or has been entered before. -/
def enter : Nat → Std.HashMap String Nat → RuleSet V → Except BuildError (Std.HashMap String Nat)
  | _, index, [] => .ok index
  | i, index, (name, _) :: rules =>
    if !isRuleName name then .error (.invalidRuleName name)
    else if index.contains name then .error (.duplicateRule name)
    else enter (i + 1) (index.insert name i) rules

def index (rules : RuleSet V) : Except BuildError (Std.HashMap String Nat) := enter 0 ∅ rules

theorem enter_eq_error_iff {i : Nat} {index : Std.HashMap String Nat} {seen : List String}
    (same : ∀ name, index.contains name = seen.contains name) {fault : BuildError} :
    enter i index rules = .error fault ↔ nameFault? seen rules = some fault := by
  induction rules generalizing i index seen with
  | nil => simp [enter, nameFault?]
  | cons rule rules ih =>
    obtain ⟨name, e⟩ := rule
    simp only [enter, nameFault?, same]
    split
    · simp
    · split
      · simp
      · apply ih
        intro other
        rw [Std.HashMap.contains_insert, List.contains_cons, same, Bool.beq_comm]

theorem getElem?_of_enter {i : Nat} {index index' : Std.HashMap String Nat}
    (h : enter i index rules = .ok index') (name : String) (place : Nat) :
    index'[name]? = some place ↔
      index[name]? = some place ∨ ∃ k rule, rules[k]? = some (name, rule) ∧ place = i + k := by
  induction rules generalizing i index with
  | nil =>
    obtain rfl : index = index' := by simpa [enter] using h
    simp
  | cons rule rules ih =>
    obtain ⟨first, e⟩ := rule
    simp only [enter] at h
    split at h
    · simp at h
    · split at h
      · simp at h
      · next hnew =>
        rw [ih h, Std.HashMap.getElem?_insert]
        by_cases hname : first = name
        · subst hname
          have hnone : index[first]? = none := by simpa using hnew
          simp only [beq_self_eq_true, if_true, hnone, Option.some.injEq, reduceCtorEq, false_or]
          constructor
          · rintro (rfl | ⟨k, rule, hk, rfl⟩)
            · exact ⟨0, e, rfl, rfl⟩
            · exact ⟨k + 1, rule, hk, by omega⟩
          · rintro ⟨k, rule, hk, rfl⟩
            cases k with
            | zero => exact .inl rfl
            | succ k => exact .inr ⟨k, rule, hk, by omega⟩
        · simp only [beq_iff_eq, hname, if_false]
          refine or_congr_right ⟨?_, ?_⟩
          · rintro ⟨k, rule, hk, rfl⟩
            exact ⟨k + 1, rule, hk, by omega⟩
          · rintro ⟨k, rule, hk, rfl⟩
            cases k with
            | zero => simp [hname] at hk
            | succ k => exact ⟨k, rule, hk, by omega⟩

theorem WellFormed.exists_index (wf : rules.WellFormed root) :
    ∃ index, rules.index = .ok index ∧ ∀ name,
      index[name]?.map (rules[·]?) = (rules.resolve name).map fun rule => some (name, rule) := by
  have hfault : nameFault? [] rules = none :=
    nameFault?_eq_none_iff.2 ⟨fun n hn => ⟨wf.names_valid n hn, by simp⟩, wf.names_distinct⟩
  cases hi : rules.index with
  | error fault =>
    have empty : ∀ name, (∅ : Std.HashMap String Nat).contains name =
        ([] : List String).contains name := by simp
    have hsome := (enter_eq_error_iff empty).1 hi
    simp [hfault] at hsome
  | ok index =>
    refine ⟨index, rfl, fun name => ?_⟩
    have places := getElem?_of_enter hi name
    cases hn : index[name]? with
    | some place =>
      obtain h | ⟨k, rule, hk, rfl⟩ := (places place).1 hn
      · simp at h
      · have found := resolve_of_mem wf.names_distinct (List.mem_of_getElem? hk)
        simp [hk, found]
    | none =>
      have missing : rules.resolve name = none := by
        by_contra hne
        obtain ⟨rule, found⟩ := Option.ne_none_iff_exists'.1 hne
        obtain ⟨k, hk⟩ := List.mem_iff_getElem?.1 (mem_of_resolve found)
        have hsome := (places (0 + k)).2 (.inr ⟨k, rule, hk, rfl⟩)
        simp [hn] at hsome
      simp [missing]

end RuleSet

namespace Grammar

variable {g : Grammar V}

theorem build_eq_ok_iff {root : String} {rules : RuleSet V} :
    build root rules = .ok g ↔ g.root = root ∧ g.rules = rules := by
  obtain ⟨root', rules', wf⟩ := g
  unfold build
  split
  · next fault hf =>
    simp only [reduceCtorEq, false_iff]
    rintro ⟨rfl, rfl⟩
    simp [RuleSet.fault?_eq_none_iff.2 wf] at hf
  · simp [eq_comm]

theorem mem_log_parseRule {name input : String} {record : Record}
    (h : record ∈ (g.parseRule name input).log) :
    (∃ rule, g.rule? name = some rule ∧
      ∃ event ∈ (rule.apply g.rules (.start input)).trace, record = .event event) ∨
    ∃ matched total, record = .rejectedRest name matched total := by
  unfold parseRule at h
  cases hr : g.rule? name with
  | none => simp [hr] at h
  | some rule =>
    simp only [hr] at h
    split at h
    · obtain ⟨event, he, rfl⟩ := List.mem_map.1 h
      exact .inl ⟨rule, rfl, event, he, rfl⟩
    · split at h
      · obtain ⟨event, he, rfl⟩ := List.mem_map.1 h
        exact .inl ⟨rule, rfl, event, he, rfl⟩
      · rcases List.mem_append.1 h with h | h
        · obtain ⟨event, he, rfl⟩ := List.mem_map.1 h
          exact .inl ⟨rule, rfl, event, he, rfl⟩
        · exact .inr ⟨_, _, List.mem_singleton.1 h⟩

theorem log_parseRule_ne_warn (name input text : String) :
    ∀ record ∈ (g.parseRule name input).log, record.line? ≠ some (.warn, text) := by
  intro record hm
  obtain ⟨rule, found, event, he, rfl⟩ | ⟨matched, total, rfl⟩ := mem_log_parseRule hm
  · exact Record.line?_ne_warn_of_found (g.wellFormed.tells_run found _ _ event he) text
  · simp [Record.line?]

end Grammar

/-- In a grammar that could be built no lookup fails: not in a run from one of its rules, at any
place, with any amount of fuel and whether or not it ends, so that parsing warns of nothing; and
each name leads to the place in the list of rules where the rule stands that was given that name. -/
theorem lookups_of_build {root : String} {rules : RuleSet V} {g : Grammar V}
    (built : Grammar.build root rules = .ok g) :
    (∀ name rule, g.rule? name = some rule → ∀ s : Cursor,
      (rule.apply g.rules s).Tells (Event.Found g.rules) ∧
        ∀ fuel, (rule.run g.rules fuel s).Tells (Event.Found g.rules)) ∧
    (∀ name input text, ∀ record ∈ (g.parseRule name input).log ++ (g.parse input).log ++
      (g.parseValue input).log, record.line? ≠ some (.warn, text)) ∧
    (∀ name rule, g.rule? name = some rule ↔ (name, rule) ∈ rules) ∧
    ∃ index, rules.index = .ok index ∧ ∀ name,
      index[name]?.map (g.rules[·]?) = (g.rule? name).map fun rule => some (name, rule) := by
  obtain ⟨rfl, rfl⟩ := Grammar.build_eq_ok_iff.1 built
  refine ⟨fun name rule found s => ?_, fun name input text record hm => ?_, fun name rule => ?_,
    g.wellFormed.exists_index⟩
  · exact ⟨g.wellFormed.tells_run found _ s, fun fuel => g.wellFormed.tells_run found fuel s⟩
  · rcases List.mem_append.1 hm with hm | hm
    · rcases List.mem_append.1 hm with hm | hm
      · exact Grammar.log_parseRule_ne_warn name input text record hm
      · exact Grammar.log_parseRule_ne_warn g.root input text record hm
    · exact Grammar.log_parseRule_ne_warn g.root input text record hm
  · exact g.wellFormed.resolve_iff

theorem lookups_of_build_signed :
    Grammar.build "signed" Numeral.rules = .ok Numeral.grammar ∧
      (Numeral.grammar.parse "4-2").log = [.event (.entered "sign" 0), .event (.entered "digits" 0),
        .rejectedRest "signed" 1 3] ∧
      (∀ record ∈ (Numeral.grammar.parse "4-2").log, ∀ text, record.line? ≠ some (.warn, text)) ∧
      Numeral.grammar.rule? "digits" = some (.repeated (.charClass (.range '0' '9')) 1) := by
  have built : Grammar.build "signed" Numeral.rules = .ok Numeral.grammar :=
    Grammar.build_eq_ok_iff.2 ⟨rfl, rfl⟩
  obtain ⟨-, silent, registered, -⟩ := lookups_of_build built
  refine ⟨built, by decide +kernel, fun record hm text => ?_, (registered _ _).2 ?_⟩
  · exact silent "signed" "4-2" text record (by simp [hm])
  · simp [Numeral.rules]

end PegGrammar
