import PegGrammar.Text

/-!
The result of a match, and snapshots of it. A generic node records the text it matched; a value is
whatever a hook put in the place of a node, and nothing above it looks inside.

A snapshot is a plain tree of a type, a label and children, which is all that output formats see of
a result. Generic nodes are labelled with the text they matched, in quotes, or with the number of
their children when a value hides the text.
-/

namespace PegGrammar

inductive Node (V : Type)
  | literal (text : String)
  | char (c : Char)
  | sequence (children : List (Node V))
  | repetition (children : List (Node V))
  | value (v : V)
deriving Inhabited

namespace Node

variable {V : Type}

mutual

def decEq [DecidableEq V] : (a b : Node V) → Decidable (a = b)
  | .literal s, .literal t => decidable_of_iff (s = t) (by simp)
  | .char c, .char d => decidable_of_iff (c = d) (by simp)
  | .sequence xs, .sequence ys =>
    match decEqList xs ys with
    | isTrue h => isTrue (by rw [h])
    | isFalse h => isFalse fun e => h (by injection e)
  | .repetition xs, .repetition ys =>
    match decEqList xs ys with
    | isTrue h => isTrue (by rw [h])
    | isFalse h => isFalse fun e => h (by injection e)
  | .value v, .value w => decidable_of_iff (v = w) (by simp)
  | .literal _, .char _ | .literal _, .sequence _ | .literal _, .repetition _
  | .literal _, .value _ | .char _, .literal _ | .char _, .sequence _ | .char _, .repetition _
  | .char _, .value _ | .sequence _, .literal _ | .sequence _, .char _ | .sequence _, .repetition _
  | .sequence _, .value _ | .repetition _, .literal _ | .repetition _, .char _
  | .repetition _, .sequence _ | .repetition _, .value _ | .value _, .literal _ | .value _, .char _
  | .value _, .sequence _ | .value _, .repetition _ => isFalse nofun

def decEqList [DecidableEq V] : (xs ys : List (Node V)) → Decidable (xs = ys)
  | [], [] => isTrue rfl
  | [], _ :: _ | _ :: _, [] => isFalse nofun
  | x :: xs, y :: ys =>
    match decEq x y, decEqList xs ys with
    | isTrue h, isTrue hs => isTrue (by rw [h, hs])
    | isFalse h, _ => isFalse fun e => h (by injection e)
    | _, isFalse hs => isFalse fun e => hs (by injection e)

end

instance [DecidableEq V] : DecidableEq (Node V) := decEq

def kind : Node V → String
  | .literal _ => "Literal"
  | .char _ => "Char"
  | .sequence _ => "Sequence"
  | .repetition _ => "Repetition"
  | .value _ => "Value"

def value? : Node V → Option V
  | .value v => some v
  | _ => none

def char? : Node V → Option Char
  | .char c => some c
  | _ => none

def literal? : Node V → Option String
  | .literal t => some t
  | _ => none

def children? : Node V → Option (List (Node V))
  | .sequence cs | .repetition cs => some cs
  | _ => none

def children (n : Node V) : List (Node V) := n.children?.getD []

mutual

/-- The text that the node matched, unless a value hides some of it. -/
def matchedText : Node V → Option String
  | .literal t => some t
  | .char c => some (String.singleton c)
  | .sequence cs => matchedTexts cs
  | .repetition cs => matchedTexts cs
  | .value _ => none

def matchedTexts : List (Node V) → Option String
  | [] => some ""
  | n :: ns => do return (← n.matchedText) ++ (← matchedTexts ns)

end

mutual

def dump (dumpValue : V → String) : Node V → String
  | .literal t => "Literal(" ++ Text.quoteString t ++ ")"
  | .char c => "Char(" ++ Text.quoteChar c ++ ")"
  | .sequence cs => "Sequence([" ++ ", ".intercalate (dumps dumpValue cs) ++ "])"
  | .repetition cs => "Repetition([" ++ ", ".intercalate (dumps dumpValue cs) ++ "])"
  | .value v => "Value(" ++ dumpValue v ++ ")"

def dumps (dumpValue : V → String) : List (Node V) → List String
  | [] => []
  | n :: ns => n.dump dumpValue :: dumps dumpValue ns

end

end Node

structure Snapshot where
  nodeType : String
  label : String
  children : List Snapshot
deriving Inhabited

/-- What the values of a grammar offer to whoever prints them. -/
class Domain (V : Type) where
  snapshot : V → Snapshot
  dump : V → String

namespace Node

variable {V : Type} [Domain V]

def groupLabel (n : Node V) : String :=
  match n.matchedText with
  | some text => Text.quoteString text
  | none => toString n.children.length ++ " items"

mutual

def snapshot : Node V → Snapshot
  | .literal t => ⟨"Literal", Text.quoteString t, []⟩
  | .char c => ⟨"Char", Text.quoteChar c, []⟩
  | .sequence cs => ⟨"Sequence", groupLabel (.sequence cs), snapshots cs⟩
  | .repetition cs => ⟨"Repetition", groupLabel (.repetition cs), snapshots cs⟩
  | .value v => Domain.snapshot v

def snapshots : List (Node V) → List Snapshot
  | [] => []
  | n :: ns => n.snapshot :: snapshots ns

end

end Node

end PegGrammar
