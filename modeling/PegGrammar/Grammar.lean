import PegGrammar.Expr.Run

/-!
Grammars: named rules with a root, checked once when they are put together. `Grammar.build` reports
the first fault in a fixed order: names by rule, then the root, then references by rule.

A text is accepted only as a whole: a match that leaves text over is turned down like any other
failure, and only the log tells the difference.
-/

namespace PegGrammar

inductive BuildError
  | undefinedRoot (root : String)
  | duplicateRule (name : String)
  | invalidRuleName (name : String)
  | undefinedReference (rule reference : String)
deriving DecidableEq, Repr

def BuildError.message : BuildError → String
  | .undefinedRoot root => s!"root rule '{root}' is not defined"
  | .duplicateRule name => s!"rule '{name}' is defined more than once"
  | .invalidRuleName name => s!"invalid rule name '{name}'"
  | .undefinedReference rule reference => s!"rule '{rule}' refers to undefined rule '{reference}'"

def isRuleName (name : String) : Bool :=
  match name.toList with
  | [] => false
  | c :: cs => (c.isAlpha || c == '_') && cs.all fun c => c.isAlphanum || c == '_'

namespace RuleSet

variable {V : Type}

def names (rules : RuleSet V) : List String := rules.map (·.1)

/-- What a root and rules must be for a grammar to be made of them. -/
structure WellFormed (root : String) (rules : RuleSet V) : Prop where
  names_valid : ∀ name ∈ rules.names, isRuleName name = true
  names_distinct : rules.names.Nodup
  root_defined : root ∈ rules.names
  references_defined : ∀ rule ∈ rules, ∀ name ∈ rule.2.references, name ∈ rules.names

/-- The first name that is no identifier or stands in `seen`, the names of the rules before. -/
def nameFault? : (seen : List String) → RuleSet V → Option BuildError
  | _, [] => none
  | seen, (name, _) :: rules =>
    if !isRuleName name then some (.invalidRuleName name)
    else if seen.contains name then some (.duplicateRule name)
    else nameFault? (name :: seen) rules

def referenceFault? (defined : List String) : RuleSet V → Option BuildError
  | [] => none
  | (name, e) :: rules =>
    match e.references.find? (!defined.contains ·) with
    | some missing => some (.undefinedReference name missing)
    | none => referenceFault? defined rules

def fault? (root : String) (rules : RuleSet V) : Option BuildError :=
  match nameFault? [] rules with
  | some e => some e
  | none =>
    if rules.names.contains root then referenceFault? rules.names rules
    else some (.undefinedRoot root)

theorem nameFault?_eq_none_iff {seen : List String} {rules : RuleSet V} :
    nameFault? seen rules = none ↔
      (∀ name ∈ rules.names, isRuleName name = true ∧ name ∉ seen) ∧ rules.names.Nodup := by
  induction rules generalizing seen with
  | nil => simp [nameFault?, names]
  | cons rule rules ih =>
    obtain ⟨name, e⟩ := rule
    by_cases hv : isRuleName name = true <;> by_cases hs : name ∈ seen <;>
      simp_all [nameFault?, names]
    grind

theorem referenceFault?_eq_none_iff {defined : List String} {rules : RuleSet V} :
    referenceFault? defined rules = none ↔
      ∀ rule ∈ rules, ∀ name ∈ rule.2.references, name ∈ defined := by
  induction rules with
  | nil => simp [referenceFault?]
  | cons rule rules ih =>
    obtain ⟨name, e⟩ := rule
    cases h : e.references.find? (!defined.contains ·) with
    | none =>
      simp only [referenceFault?, h, ih, List.mem_cons, forall_eq_or_imp]
      simp only [List.find?_eq_none, Bool.not_eq_true', Bool.not_eq_false] at h
      exact ⟨fun hr => ⟨fun n hn => by simpa using h n hn, hr⟩, fun hr => hr.2⟩
    | some missing =>
      have hm := List.mem_of_find?_eq_some h
      have hd := List.find?_some h
      simp only [referenceFault?, h]
      simp only [reduceCtorEq, false_iff]
      intro hall
      have := hall (name, e) (by simp) missing hm
      simp [this] at hd

theorem fault?_eq_none_iff {root : String} {rules : RuleSet V} :
    fault? root rules = none ↔ WellFormed root rules := by
  constructor
  · intro h
    unfold fault? at h
    split at h
    · simp at h
    · next hn =>
      split at h
      · next hr =>
        obtain ⟨h₁, h₂⟩ := nameFault?_eq_none_iff.1 hn
        exact ⟨fun n hm => (h₁ n hm).1, h₂, by simpa using hr, referenceFault?_eq_none_iff.1 h⟩
      · simp at h
  · intro ⟨h₁, h₂, h₃, h₄⟩
    have hn : nameFault? [] rules = none :=
      nameFault?_eq_none_iff.2 ⟨fun n hm => ⟨h₁ n hm, by simp⟩, h₂⟩
    simp [fault?, hn, h₃, referenceFault?_eq_none_iff.2 h₄]

end RuleSet

inductive Record
  | event (e : Event)
  | rejectedRest (rule : String) (matched total : Nat)
  | built (rules : Nat) (root : String)
deriving DecidableEq, Repr

inductive LogLevel
  | warn
  | debug
  | trace
deriving DecidableEq, Repr

def Record.line? : Record → Option (LogLevel × String)
  | .event (.entered rule offset) => some (.trace, s!"rule '{rule}' at offset {offset}")
  | .event (.undefinedRule name) => some (.warn, s!"reference to undefined rule '{name}'")
  | .event .declined => none
  | .rejectedRest rule matched total =>
    some (.debug, s!"rule '{rule}' matched {matched} of {total} bytes; rejecting trailing input")
  | .built rules root => some (.debug, s!"built grammar with {rules} rules rooted at '{root}'")

structure Logged (α : Type) where
  value : α
  log : List Record

structure Grammar (V : Type) where
  root : String
  rules : RuleSet V
  wellFormed : rules.WellFormed root

namespace Grammar

variable {V : Type}

def build (root : String) (rules : RuleSet V) : Except BuildError (Grammar V) :=
  match h : rules.fault? root with
  | some e => .error e
  | none => .ok ⟨root, rules, RuleSet.fault?_eq_none_iff.1 h⟩

def builtRecord (g : Grammar V) : Record := .built g.rules.length g.root

def ruleNames (g : Grammar V) : List String := g.rules.names

def rule? (g : Grammar V) (name : String) : Option (Expr V) := g.rules.resolve name

def parseRule (g : Grammar V) (name input : String) : Logged (Option (Node V)) :=
  match g.rule? name with
  | none => ⟨none, []⟩
  | some rule =>
    let r := rule.apply g.rules (.start input)
    let log := r.trace.map Record.event
    match r.outcome.match? with
    | none => ⟨none, log⟩
    | some (node, stop) =>
      if stop.isComplete then ⟨some node, log⟩
      else ⟨none, log ++ [.rejectedRest name stop.offset stop.size]⟩

def parse (g : Grammar V) (input : String) : Logged (Option (Node V)) := g.parseRule g.root input

def parseValue (g : Grammar V) (input : String) : Logged (Option V) :=
  let r := g.parse input
  ⟨r.value.bind Node.value?, r.log⟩

def listed (g : Grammar V) : RuleSet V :=
  (g.rules.filter (·.1 == g.root)) ++ g.rules.filter (·.1 != g.root)

def nameWidth (g : Grammar V) : Nat := g.ruleNames.foldl (fun n name => max n name.utf8ByteSize) 0

def displayRule (width : Nat) (rule : String × Expr V) : String :=
  rule.1 ++ "".pushn ' ' (width - rule.1.length) ++ " <- " ++ rule.2.display ++ "\n"

def display (g : Grammar V) : String :=
  String.join (g.listed.map (displayRule g.nameWidth))

def dump (g : Grammar V) : String :=
  let rule (r : String × Expr V) : String :=
    "(" ++ Text.quoteString r.1 ++ ", " ++ r.2.dump ++ ")"
  "Grammar \x7b root: " ++ Text.quoteString g.root ++ ", rules: [" ++
    ", ".intercalate (g.rules.map rule) ++ "] \x7d"

end Grammar

end PegGrammar
