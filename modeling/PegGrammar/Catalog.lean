import PegGrammar.Grammar
import PegGrammar.Node
import PegGrammar.Text

/-!
The ready-made grammars by name, and the smaller one of them: decimal integers with an optional
sign. A numeral stands for a 64-bit integer; one that is out of range is refused. The digits alone
keep their generic node.
-/

namespace PegGrammar.Numeral

def int64? (text : String) : Option Int64 :=
  ((Text.integer? text.toList).filter fun i => -Int.pow 2 63 ≤ i ∧ i < Int.pow 2 63).map Int64.ofInt

def display (n : Int64) : String := toString n.toInt

instance : Domain Int64 := ⟨fun n => ⟨"Integer", display n, []⟩, display⟩

def rules : RuleSet Int64 := [
  ("signed", (Expr.sequence [.optional (.reference "sign"), .reference "digits"]).withHook fun n =>
    n.matchedText >>= int64?),
  ("sign", .alternation [.literal "+", .literal "-"]),
  ("digits", .repeated (.charClass (.range '0' '9')) 1)]

theorem rules_fault?_eq_none : rules.fault? "signed" = none := by decide +kernel

def grammar : Grammar Int64 := ⟨"signed", rules, RuleSet.fault?_eq_none_iff.1 rules_fault?_eq_none⟩

end PegGrammar.Numeral

namespace PegGrammar.Catalog

def names : List String := ["lambda", "number"]

def describe? : String → Option String
  | "lambda" => some "Lambda calculus with booleans, naturals and conditionals"
  | "number" => some "Optionally signed decimal integers"
  | _ => none

end PegGrammar.Catalog
