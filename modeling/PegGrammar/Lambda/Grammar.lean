import PegGrammar.Grammar
import PegGrammar.Node

/-!
Terms of the lambda calculus with booleans, natural numbers and conditionals, and their grammar. A
term is displayed with everything but constants and variables in parentheses.

Choice is ordered: keywords come before variables and application before a single variable, so an
application takes every variable that follows it. Application associates to the left.
-/

namespace PegGrammar.Lambda

inductive Term
  | zero
  | truth
  | falsity
  | succ (t : Term)
  | pred (t : Term)
  | isZero (t : Term)
  | var (name : String)
  | abs (param : String) (body : Term)
  | app (left right : Term)
  | cond (condition consequent alternative : Term)
deriving DecidableEq, Inhabited

namespace Term

def display : Term → String
  | .zero => "0"
  | .truth => "true"
  | .falsity => "false"
  | .succ t => "(succ " ++ t.display ++ ")"
  | .pred t => "(pred " ++ t.display ++ ")"
  | .isZero t => "(iszero " ++ t.display ++ ")"
  | .var name => name
  | .abs param body => "(λ" ++ param ++ "." ++ body.display ++ ")"
  | .app left right => "(" ++ left.display ++ " " ++ right.display ++ ")"
  | .cond c t e => "(if " ++ c.display ++ " then " ++ t.display ++ " else " ++ e.display ++ ")"

def nodeType : Term → String
  | .zero => "Zero"
  | .truth => "True"
  | .falsity => "False"
  | .succ _ => "Succ"
  | .pred _ => "Pred"
  | .isZero _ => "IsZero"
  | .var _ => "Var"
  | .abs .. => "Abs"
  | .app .. => "App"
  | .cond .. => "If"

def snapshot (t : Term) : Snapshot :=
  ⟨t.nodeType, t.display,
    match t with
    | .zero | .truth | .falsity | .var _ => []
    | .succ t | .pred t | .isZero t => [t.snapshot]
    | .abs param body => [⟨"Var", param, []⟩, body.snapshot]
    | .app left right => [left.snapshot, right.snapshot]
    | .cond c t e => [c.snapshot, t.snapshot, e.snapshot]⟩

def dump : Term → String
  | .zero => "Zero"
  | .truth => "True"
  | .falsity => "False"
  | .succ t => "Succ(" ++ t.dump ++ ")"
  | .pred t => "Pred(" ++ t.dump ++ ")"
  | .isZero t => "IsZero(" ++ t.dump ++ ")"
  | .var name => "Var(" ++ Text.quoteString name ++ ")"
  | .abs param body =>
    "Abs \x7b param: " ++ Text.quoteString param ++ ", body: " ++ body.dump ++ " \x7d"
  | .app left right => "App(" ++ left.dump ++ ", " ++ right.dump ++ ")"
  | .cond c t e => "If(" ++ c.dump ++ ", " ++ t.dump ++ ", " ++ e.dump ++ ")"

instance : Domain Term := ⟨snapshot, dump⟩

end Term

def terms? (n : Node Term) : Option (List Term) := n.children?.map (·.filterMap Node.value?)

def lastTerm? (n : Node Term) : Option Term := terms? n >>= List.getLast?

/-- Folds a variable and what follows it into applications. -/
def application (n : Node Term) : Option Term := do
  match ← n.children? with
  | head :: rest :: _ =>
    (← rest.children?).foldlM (fun left arg => (lastTerm? arg).map left.app) (← head.value?)
  | _ => none

def abstraction (n : Node Term) : Option Term := do
  match ← terms? n with
  | [.var name, body] => some (.abs name body)
  | _ => none

def conditional (n : Node Term) : Option Term := do
  match ← terms? n with
  | [c, t, e] => some (.cond c t e)
  | _ => none

def variableTerm (n : Node Term) : Option Term := n.char?.map fun c => .var (String.singleton c)

abbrev blank : Expr Term := .reference "ws"

abbrev term : Expr Term := .reference "term"

def operator (keyword : String) (make : Term → Term) : Expr Term :=
  (Expr.sequence [.literal keyword, blank, term]).withHook fun n => (lastTerm? n).map make

def rules : RuleSet Term := [
  ("term", .alternation
    (["zero", "true", "false", "succ", "pred", "iszero", "if", "app", "var", "abs"].map
      .reference)),
  ("var", (Expr.charClass (.range 'a' 'z')).withHook variableTerm),
  ("app", (Expr.sequence [.reference "var", .repeated (.sequence [blank, .reference "var"]) 1]).withHook
    application),
  ("abs", (Expr.sequence [.literal "λ", .reference "var", .literal ".", term]).withHook abstraction),
  ("if", (Expr.sequence [.literal "if", blank, term, blank, .literal "then", blank, term, blank,
    .literal "else", blank, term]).withHook conditional),
  ("zero", (Expr.literal "0").withMap fun _ => .zero),
  ("true", (Expr.literal "true").withMap fun _ => .truth),
  ("false", (Expr.literal "false").withMap fun _ => .falsity),
  ("succ", operator "succ" .succ),
  ("pred", operator "pred" .pred),
  ("iszero", operator "iszero" .isZero),
  ("ws", .repeated (.literal " ") 1)]

theorem rules_fault?_eq_none : rules.fault? "term" = none := by decide +kernel

def grammar : Grammar Term := ⟨"term", rules, RuleSet.fault?_eq_none_iff.1 rules_fault?_eq_none⟩

end PegGrammar.Lambda
