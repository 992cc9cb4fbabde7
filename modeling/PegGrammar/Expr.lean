import PegGrammar.CharClass.Basic
import PegGrammar.Node

/-!
Grammar expressions. An expression describes what to match; a hook on it turns the node of a match
into a value, or refuses the match. References name rules and are looked up when the expression
runs, so rules may refer to themselves and to rules not written yet.

The displayed form puts the parts of a sequence and the choices of an alternation in parentheses
and writes repetition behind its body.
-/

namespace PegGrammar

/-- What is done with the node of a match: a value takes its place, or there is no match. -/
abbrev Hook (V : Type) := Node V → Option V

inductive Expr (V : Type)
  | literal (text : String)
  | charClass (cls : CharClass)
  | sequence (parts : List (Expr V))
  | repetition (body : Expr V) (min : Nat) (max : Option Nat)
  | alternation (choices : List (Expr V))
  | reference (name : String)
  | hooked (body : Expr V) (hook : Hook V)

namespace Expr

variable {V : Type}

instance : Inhabited (Expr V) := ⟨.literal ""⟩

def repeated (body : Expr V) (min : Nat) : Expr V := .repetition body min none

def optional (body : Expr V) : Expr V := .repetition body 0 (some 1)

def withHook : Expr V → Hook V → Expr V
  | .hooked body _, h => .hooked body h
  | e, h => .hooked e h

def withMap (e : Expr V) (f : Node V → V) : Expr V := e.withHook fun n => some (f n)

def hasHook : Expr V → Bool
  | .hooked .. => true
  | _ => false

mutual

def references : Expr V → List String
  | .literal _ | .charClass _ => []
  | .sequence ps => referencesList ps
  | .alternation cs => referencesList cs
  | .repetition b _ _ => b.references
  | .reference n => [n]
  | .hooked b _ => b.references

def referencesList : List (Expr V) → List String
  | [] => []
  | e :: es => e.references ++ referencesList es

end

mutual

def size : Expr V → Nat
  | .literal _ | .charClass _ | .reference _ => 1
  | .sequence ps => sizeList ps + 1
  | .alternation cs => sizeList cs + 1
  | .repetition b _ _ => b.size + 1
  | .hooked b _ => b.size + 1

def sizeList : List (Expr V) → Nat
  | [] => 0
  | e :: es => e.size + sizeList es

end

def displayBounds : Nat → Option Nat → String
  | 0, none => "*"
  | 1, none => "+"
  | 0, some 1 => "?"
  | n, none => "\x7b" ++ toString n ++ ",\x7d"
  | n, some m => "\x7b" ++ toString n ++ "," ++ toString m ++ "\x7d"

mutual

def display : Expr V → String
  | .literal t => Text.quoteString t
  | .charClass c => c.display
  | .sequence ps => "(" ++ " ".intercalate (displays ps) ++ ")"
  | .alternation cs => "(" ++ " / ".intercalate (displays cs) ++ ")"
  | .repetition b min max => b.display ++ displayBounds min max
  | .reference n => n
  | .hooked b _ => b.display

def displays : List (Expr V) → List String
  | [] => []
  | e :: es => e.display :: displays es

end

def dump (e : Expr V) : String :=
  "Combinator \x7b expr: " ++ e.display ++ ", transform: " ++ (if e.hasHook then "true" else "false")
    ++ " \x7d"

end Expr

end PegGrammar
