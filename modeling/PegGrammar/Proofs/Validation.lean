import PegGrammar.Proofs.Footprint
import PegGrammar.Proofs.Listing

/-!
Which rules make a grammar, and which fault is reported of those that do not. Names are checked
first, rule by rule, then the root, then references, again rule by rule and within a rule from left
to right. So a fault is reported exactly if everything that is checked before it is in order.

Rules in another order make a grammar too, and it parses alike: a run only looks rules up, and the
fuel it is given depends on their sizes.
-/

namespace PegGrammar

variable {V : Type}

def IsAsciiLetter (c : Char) : Prop := 'a' ≤ c ∧ c ≤ 'z' ∨ 'A' ≤ c ∧ c ≤ 'Z'

def IsIdentifier (name : String) : Prop :=
  ∃ c cs, name.toList = c :: cs ∧ (IsAsciiLetter c ∨ c = '_') ∧
    ∀ d ∈ cs, IsAsciiLetter d ∨ ('0' ≤ d ∧ d ≤ '9') ∨ d = '_'

theorem isAlpha_iff {c : Char} : c.isAlpha = true ↔ IsAsciiLetter c := by
  have ranges : c.isAlpha = (decide (c.val ≥ 'A'.val ∧ c.val ≤ 'Z'.val) ||
      decide (c.val ≥ 'a'.val) && decide (c.val ≤ 'z'.val)) := rfl
  simp [ranges, IsAsciiLetter, Char.le_def, or_comm]

theorem isAlphanum_iff {c : Char} :
    c.isAlphanum = true ↔ IsAsciiLetter c ∨ ('0' ≤ c ∧ c ≤ '9') := by
  simp [Char.isAlphanum, isAlpha_iff, Char.isDigit, Char.le_def]

theorem isRuleName_iff_isIdentifier {name : String} :
    isRuleName name = true ↔ IsIdentifier name := by
  simp only [isRuleName_iff, IsIdentifier, Bool.or_eq_true, isAlpha_iff, isAlphanum_iff, beq_iff_eq,
    or_assoc]

/-- The leftmost name of an expression for which `P` holds. -/
inductive Expr.Leftmost (P : String → Prop) : Expr V → String → Prop
  | reference {name : String} (h : P name) : Leftmost P (.reference name) name
  | sequence {before after : List (Expr V)} {part : Expr V} {name : String}
      (clear : ∀ e ∈ before, ∀ other ∈ e.references, ¬P other) (h : Leftmost P part name) :
      Leftmost P (.sequence (before ++ part :: after)) name
  | alternation {before after : List (Expr V)} {choice : Expr V} {name : String}
      (clear : ∀ e ∈ before, ∀ other ∈ e.references, ¬P other) (h : Leftmost P choice name) :
      Leftmost P (.alternation (before ++ choice :: after)) name
  | repetition {body : Expr V} {min : Nat} {max : Option Nat} {name : String}
      (h : Leftmost P body name) : Leftmost P (.repetition body min max) name
  | hooked {body : Expr V} {hook : Hook V} {name : String} (h : Leftmost P body name) :
      Leftmost P (.hooked body hook) name

namespace Expr

variable {p : String → Bool} {name : String}

theorem find?_flatMap_references_eq_some_iff {es : List (Expr V)} :
    (es.flatMap references).find? p = some name ↔
      ∃ before e after, es = before ++ e :: after ∧ e.references.find? p = some name ∧
        ∀ b ∈ before, ∀ other ∈ b.references, ¬p other = true := by
  simp only [List.find?_flatMap, List.findSome?_eq_some_iff, List.find?_eq_none]

theorem find?_references_eq_some_iff (e : Expr V) :
    e.references.find? p = some name ↔ e.Leftmost (p · = true) name := by
  induction e using induction_parts with
  | step e ih =>
    cases e with
    | literal text | charClass cls =>
      simp only [references, List.find?_nil, reduceCtorEq, false_iff]
      intro h
      cases h
    | sequence ps =>
      rw [references, referencesList_eq_flatMap, find?_flatMap_references_eq_some_iff]
      constructor
      · rintro ⟨before, e, after, rfl, he, clear⟩
        exact .sequence clear ((ih e (by simp [parts])).1 he)
      · intro h
        cases h with
        | sequence clear h => exact ⟨_, _, _, rfl, (ih _ (by simp [parts])).2 h, clear⟩
    | alternation cs =>
      rw [references, referencesList_eq_flatMap, find?_flatMap_references_eq_some_iff]
      constructor
      · rintro ⟨before, e, after, rfl, he, clear⟩
        exact .alternation clear ((ih e (by simp [parts])).1 he)
      · intro h
        cases h with
        | alternation clear h => exact ⟨_, _, _, rfl, (ih _ (by simp [parts])).2 h, clear⟩
    | repetition body min max =>
      rw [references, ih body List.mem_cons_self]
      constructor
      · exact .repetition
      · intro h
        cases h with
        | repetition h => exact h
    | hooked body hook =>
      rw [references, ih body List.mem_cons_self]
      constructor
      · exact .hooked
      · intro h
        cases h with
        | hooked h => exact h
    | reference other =>
      simp only [references, List.find?_singleton]
      constructor
      · intro h
        split at h
        · next hp =>
          cases h
          exact .reference hp
        · cases h
      · intro h
        cases h with
        | reference hp => simp [hp]

end Expr

namespace RuleSet

variable {root : String} {rules : RuleSet V} {fault : BuildError}

structure NamesInOrder (rules : RuleSet V) : Prop where
  valid : ∀ name ∈ rules.names, IsIdentifier name
  distinct : rules.names.Nodup

inductive FirstFault (root : String) (rules : RuleSet V) : BuildError → Prop
  | invalidRuleName {before after : RuleSet V} {name : String} {e : Expr V}
      (split : rules = before ++ (name, e) :: after) (inOrder : before.NamesInOrder)
      (invalid : ¬IsIdentifier name) : FirstFault root rules (.invalidRuleName name)
  | duplicateRule {before after : RuleSet V} {name : String} {e : Expr V}
      (split : rules = before ++ (name, e) :: after) (inOrder : before.NamesInOrder)
      (valid : IsIdentifier name) (again : name ∈ before.names) :
      FirstFault root rules (.duplicateRule name)
  | undefinedRoot (inOrder : rules.NamesInOrder) (missing : root ∉ rules.names) :
      FirstFault root rules (.undefinedRoot root)
  | undefinedReference {before after : RuleSet V} {name missing : String} {e : Expr V}
      (inOrder : rules.NamesInOrder) (defined : root ∈ rules.names)
      (split : rules = before ++ (name, e) :: after)
      (clear : ∀ rule ∈ before, ∀ other ∈ rule.2.references, other ∈ rules.names)
      (dangling : e.Leftmost (· ∉ rules.names) missing) :
      FirstFault root rules (.undefinedReference name missing)

theorem nameFault?_nil_eq_none_iff : nameFault? [] rules = none ↔ rules.NamesInOrder := by
  simp only [nameFault?_eq_none_iff, List.not_mem_nil, not_false_eq_true, and_true,
    isRuleName_iff_isIdentifier]
  exact ⟨fun h => ⟨h.1, h.2⟩, fun h => ⟨h.1, h.2⟩⟩

theorem nameFault?_append {seen : List String} {before after : RuleSet V} :
    nameFault? seen (before ++ after) =
      (nameFault? seen before).or (nameFault? (before.names.reverse ++ seen) after) := by
  induction before generalizing seen with
  | nil => rfl
  | cons rule before ih =>
    obtain ⟨name, e⟩ := rule
    simp only [List.cons_append, nameFault?, ih, names, List.map_cons, List.reverse_cons,
      List.append_assoc, List.nil_append]
    split
    · rfl
    · split <;> rfl

theorem nameFault?_cons_of_valid {name : String} (valid : IsIdentifier name) (seen : List String)
    (e : Expr V) (rules : RuleSet V) : nameFault? seen ((name, e) :: rules) =
      if name ∈ seen then some (.duplicateRule name) else nameFault? (name :: seen) rules := by
  simp [nameFault?, isRuleName_iff_isIdentifier.2 valid]

theorem nameFault?_cons_of_invalid {name : String} (invalid : ¬IsIdentifier name)
    (seen : List String) (e : Expr V) (rules : RuleSet V) :
    nameFault? seen ((name, e) :: rules) = some (.invalidRuleName name) := by
  simp [nameFault?, mt isRuleName_iff_isIdentifier.1 invalid]

theorem exists_of_nameFault?_eq_some {seen : List String} (h : nameFault? seen rules = some fault) :
    ∃ (before : RuleSet V) (name : String) (e : Expr V) (after : RuleSet V),
      rules = before ++ (name, e) :: after ∧ nameFault? seen before = none ∧
        nameFault? (before.names.reverse ++ seen) [(name, e)] = some fault := by
  induction rules using List.reverseRecOn with
  | nil => cases h
  | append_singleton rules rule ih =>
    rw [nameFault?_append, Option.or_eq_some_iff] at h
    obtain h | ⟨hnone, h⟩ := h
    · obtain ⟨before, name, e, after, rfl, hbefore, hfault⟩ := ih h
      exact ⟨before, name, e, after ++ [rule], by simp, hbefore, hfault⟩
    · exact ⟨rules, rule.1, rule.2, [], rfl, hnone, h⟩

theorem nameFault?_nil_eq_some_iff : nameFault? [] rules = some fault ↔
    ∃ (before : RuleSet V) (name : String) (e : Expr V) (after : RuleSet V),
      rules = before ++ (name, e) :: after ∧ before.NamesInOrder ∧
      (¬IsIdentifier name ∧ fault = .invalidRuleName name ∨
        IsIdentifier name ∧ name ∈ before.names ∧ fault = .duplicateRule name) := by
  constructor
  · intro h
    obtain ⟨before, name, e, after, hsplit, hbefore, hfault⟩ := exists_of_nameFault?_eq_some h
    refine ⟨before, name, e, after, hsplit, nameFault?_nil_eq_none_iff.1 hbefore, ?_⟩
    by_cases valid : IsIdentifier name
    · rw [nameFault?_cons_of_valid valid] at hfault
      split at hfault
      · next hseen =>
        cases hfault
        exact .inr ⟨valid, by simpa using hseen, rfl⟩
      · cases hfault
    · rw [nameFault?_cons_of_invalid valid] at hfault
      cases hfault
      exact .inl ⟨valid, rfl⟩
  · rintro ⟨before, name, e, after, rfl, inOrder, h⟩
    rw [nameFault?_append, nameFault?_nil_eq_none_iff.2 inOrder, Option.none_or]
    obtain ⟨invalid, rfl⟩ | ⟨valid, again, rfl⟩ := h
    · exact nameFault?_cons_of_invalid invalid _ e after
    · rw [nameFault?_cons_of_valid valid, if_pos (by simpa using again)]

theorem referenceFault?_eq_some_iff {defined : List String} :
    referenceFault? defined rules = some fault ↔
      ∃ before name e after missing, rules = before ++ (name, e) :: after ∧
        (∀ rule ∈ before, ∀ other ∈ rule.2.references, other ∈ defined) ∧
        e.Leftmost (· ∉ defined) missing ∧ fault = .undefinedReference name missing := by
  have leftmost (e : Expr V) (missing : String) :
      e.references.find? (!defined.contains ·) = some missing ↔
        e.Leftmost (· ∉ defined) missing := by
    simp [Expr.find?_references_eq_some_iff]
  induction rules with
  | nil => simp [referenceFault?]
  | cons rule rules ih =>
    obtain ⟨first, body⟩ := rule
    rw [referenceFault?]
    cases hfind : body.references.find? (!defined.contains ·) with
    | some missing =>
      have hleft := (leftmost body missing).1 hfind
      constructor
      · rintro h
        cases h
        exact ⟨[], first, body, rules, missing, rfl, by simp, hleft, rfl⟩
      · rintro ⟨before, name, e, after, other, hsplit, clear, hother, rfl⟩
        cases before with
        | nil =>
          cases hsplit
          rw [(leftmost body other).2 hother] at hfind
          cases hfind
          rfl
        | cons rule before =>
          cases hsplit
          have hdangling := List.find?_some hfind
          have hdefined := clear _ List.mem_cons_self missing (List.mem_of_find?_eq_some hfind)
          simp [hdefined] at hdangling
    | none =>
      have hclear : ∀ other ∈ body.references, other ∈ defined := by simpa using hfind
      refine ih.trans ⟨?_, ?_⟩
      · rintro ⟨before, name, e, after, missing, rfl, clear, hleft, rfl⟩
        exact ⟨(first, body) :: before, name, e, after, missing, rfl,
          List.forall_mem_cons.2 ⟨hclear, clear⟩, hleft, rfl⟩
      · rintro ⟨before, name, e, after, missing, hsplit, clear, hleft, rfl⟩
        cases before with
        | nil =>
          cases hsplit
          rw [(leftmost body missing).2 hleft] at hfind
          cases hfind
        | cons rule before =>
          cases hsplit
          exact ⟨before, name, e, after, missing, rfl, (List.forall_mem_cons.1 clear).2, hleft, rfl⟩

theorem fault?_eq_some_iff : fault? root rules = some fault ↔ FirstFault root rules fault := by
  unfold fault?
  constructor
  · intro h
    split at h
    · next hname =>
      cases h
      obtain ⟨before, name, e, after, hsplit, inOrder, ⟨invalid, rfl⟩ | ⟨valid, again, rfl⟩⟩ :=
        nameFault?_nil_eq_some_iff.1 hname
      · exact .invalidRuleName hsplit inOrder invalid
      · exact .duplicateRule hsplit inOrder valid again
    · next hnone =>
      have inOrder := nameFault?_nil_eq_none_iff.1 hnone
      split at h
      · next hroot =>
        obtain ⟨before, name, e, after, missing, hsplit, clear, dangling, rfl⟩ :=
          referenceFault?_eq_some_iff.1 h
        exact .undefinedReference inOrder (by simpa using hroot) hsplit clear dangling
      · next hroot =>
        cases h
        exact .undefinedRoot inOrder (by simpa using hroot)
  · intro h
    cases h with
    | invalidRuleName split inOrder invalid =>
      rw [nameFault?_nil_eq_some_iff.2 ⟨_, _, _, _, split, inOrder, .inl ⟨invalid, rfl⟩⟩]
    | duplicateRule split inOrder valid again =>
      rw [nameFault?_nil_eq_some_iff.2 ⟨_, _, _, _, split, inOrder, .inr ⟨valid, again, rfl⟩⟩]
    | undefinedRoot inOrder missing => simp [nameFault?_nil_eq_none_iff.2 inOrder, missing]
    | undefinedReference inOrder defined split clear dangling =>
      simpa [nameFault?_nil_eq_none_iff.2 inOrder, defined] using
        referenceFault?_eq_some_iff.2 ⟨_, _, _, _, _, split, clear, dangling, rfl⟩

example : fault? "start" ([("item", .reference "digit"), ("item", .literal "x")] : RuleSet Unit) =
    some (.duplicateRule "item") := by decide +kernel

theorem size_eq_of_perm {rules' : RuleSet V} (h : rules.Perm rules') : rules.size = rules'.size := by
  induction h with
  | nil => rfl
  | cons rule _ ih => simp [size, ih]
  | swap rule rule' rules => simp [size, Nat.add_left_comm]
  | trans _ _ ih ih' => exact ih.trans ih'

theorem WellFormed.of_perm {rules' : RuleSet V} (wf : rules.WellFormed root)
    (h : rules'.Perm rules) : rules'.WellFormed root := by
  have hnames : rules'.names.Perm rules.names := h.map _
  refine ⟨fun name hn => wf.names_valid name (hnames.mem_iff.1 hn),
    hnames.nodup_iff.2 wf.names_distinct, hnames.mem_iff.2 wf.root_defined, fun rule hr name hn => ?_⟩
  exact hnames.mem_iff.2 (wf.references_defined rule (h.mem_iff.1 hr) name hn)

theorem WellFormed.resolve_eq_of_perm {rules' : RuleSet V} (wf : rules.WellFormed root)
    (h : rules'.Perm rules) (name : String) : rules'.resolve name = rules.resolve name := by
  ext rule
  rw [wf.resolve_iff, (wf.of_perm h).resolve_iff, h.mem_iff]

end RuleSet

theorem Expr.apply_eq_of_perm {root : String} {rules rules' : RuleSet V}
    (wf : rules.WellFormed root) (h : rules'.Perm rules) (e : Expr V) (s : Cursor) :
    e.apply rules' s = e.apply rules s := by
  have agree : ∀ name, rules'.Footprint e name → rules'.resolve name = rules.resolve name :=
    fun name _ => wf.resolve_eq_of_perm h name
  have hrun := run_eq_of_footprint agree (fuelFor rules' e s) fun _ hn => .refers hn
  have hfuel : fuelFor rules' e s = fuelFor rules e s := by
    simp only [fuelFor, RuleSet.size_eq_of_perm h]
  rw [apply, apply, hrun, hfuel]

namespace Grammar

variable {root : String} {rules : RuleSet V}

theorem build_eq_error_iff {fault : BuildError} :
    build root rules = .error fault ↔ rules.FirstFault root fault := by
  rw [← RuleSet.fault?_eq_some_iff]
  unfold build
  split
  · next fault' hfault => simp [hfault]
  · next hnone => simp [hnone]

theorem exists_build_eq_ok_iff : (∃ g, build root rules = .ok g) ↔
    (∀ name ∈ rules.names, IsIdentifier name) ∧ rules.names.Nodup ∧ root ∈ rules.names ∧
      ∀ rule ∈ rules, ∀ name ∈ rule.2.references, name ∈ rules.names := by
  have wellFormed : (∃ g, build root rules = .ok g) ↔ rules.WellFormed root := by
    simp only [build_eq_ok_iff]
    constructor
    · rintro ⟨g, rfl, rfl⟩
      exact g.wellFormed
    · exact fun wf => ⟨⟨root, rules, wf⟩, rfl, rfl⟩
  rw [wellFormed]
  simp only [← isRuleName_iff_isIdentifier]
  exact ⟨fun wf => ⟨wf.1, wf.2, wf.3, wf.4⟩, fun h => ⟨h.1, h.2.1, h.2.2.1, h.2.2.2⟩⟩

theorem parseRule_eq_of_perm {g g' : Grammar V} (h : g'.rules.Perm g.rules) (name input : String) :
    g'.parseRule name input = g.parseRule name input := by
  have hname : g'.rule? name = g.rule? name := g.wellFormed.resolve_eq_of_perm h name
  simp only [parseRule, hname, Expr.apply_eq_of_perm g.wellFormed h]

end Grammar

/-- Rules with a root make a grammar exactly if the names are distinct identifiers, the root is one
of them, and so is every name that a rule refers to; otherwise the first fault is reported. The
grammar has the rules under their names, in the order given, and nothing under any other name. In
whatever order they are given, they make a grammar with the same rules, which parses alike. -/
theorem build_reports_first_fault (root : String) (rules : RuleSet V) :
    ((∃ g, Grammar.build root rules = .ok g) ↔
      (∀ name ∈ rules.names, IsIdentifier name) ∧ rules.names.Nodup ∧ root ∈ rules.names ∧
        ∀ rule ∈ rules, ∀ name ∈ rule.2.references, name ∈ rules.names) ∧
    (∀ fault, Grammar.build root rules = .error fault ↔ rules.FirstFault root fault) ∧
    ∀ g, Grammar.build root rules = .ok g →
      g.root = root ∧ g.ruleNames = rules.map Prod.fst ∧
      (∀ name rule, g.rule? name = some rule ↔ (name, rule) ∈ rules) ∧
      (∀ name, g.rule? name = none ↔ name ∉ rules.map Prod.fst) ∧
      ∀ rules' : RuleSet V, rules'.Perm rules → ∃ g', Grammar.build root rules' = .ok g' ∧
        (∀ name, g'.rule? name = g.rule? name) ∧
        ∀ name input, g'.parseRule name input = g.parseRule name input ∧
          g'.parse input = g.parse input ∧ g'.parseValue input = g.parseValue input := by
  refine ⟨Grammar.exists_build_eq_ok_iff, fun fault => Grammar.build_eq_error_iff, fun g built => ?_⟩
  obtain ⟨rfl, rfl⟩ := Grammar.build_eq_ok_iff.1 built
  refine ⟨rfl, rfl, fun name rule => g.wellFormed.resolve_iff, fun name => ?_, fun rules' h => ?_⟩
  · have missing : (¬∃ rule, g.rules.resolve name = some rule) ↔ name ∉ g.rules.names :=
      not_congr RuleSet.exists_resolve_iff
    rwa [← Option.isSome_iff_exists, Bool.not_eq_true, Option.isSome_eq_false_iff,
      Option.isNone_iff_eq_none] at missing
  · let g' : Grammar V := ⟨g.root, rules', g.wellFormed.of_perm h⟩
    have parses : ∀ name input, g'.parseRule name input = g.parseRule name input :=
      Grammar.parseRule_eq_of_perm h
    refine ⟨g', Grammar.build_eq_ok_iff.2 ⟨rfl, rfl⟩, g.wellFormed.resolve_eq_of_perm h,
      fun name input => ⟨parses name input, parses g.root input, ?_⟩⟩
    have hparse : g'.parse input = g.parse input := parses g.root input
    simp only [Grammar.parseValue, hparse]

theorem build_reports_first_fault_numerals :
    Grammar.build "signed" Numeral.rules = .ok Numeral.grammar ∧
      ∃ g', Grammar.build "signed" Numeral.rules.reverse = .ok g' ∧
        g'.parseValue "-42" = Numeral.grammar.parseValue "-42" ∧
        (Numeral.grammar.parseValue "-42").value = some (-42) ∧
        Numeral.grammar.rule? "mark" = none := by
  have built : Grammar.build "signed" Numeral.rules = .ok Numeral.grammar :=
    Grammar.build_eq_ok_iff.2 ⟨rfl, rfl⟩
  obtain ⟨-, -, given⟩ := build_reports_first_fault "signed" Numeral.rules
  obtain ⟨-, -, -, missing, reordered⟩ := given _ built
  obtain ⟨g', built', -, parses⟩ := reordered _ Numeral.rules.reverse_perm
  exact ⟨built, g', built', (parses "signed" "-42").2.2, rfl, (missing "mark").2 (by decide)⟩

end PegGrammar
