import PegGrammar.Text
import PegGrammar.Toml.Item
import PegGrammar.Unicode.Case

/-!
Settings before they have types: trees of tables and arrays whose parts remember the file they come
from. Values that no file gave, and tables that several files share, have no origin.

A path to a setting is a name, then names behind dots and indices in brackets. A table is merged
entry by entry into what is there; any other value takes the place of what was there. Keys are kept
in lower case.
-/

namespace PegGrammar.Settings

inductive Leaf
  | nil
  | boolean (b : Bool)
  | integer (n : Int)
  | float (x : Float)
  | string (s : String)
deriving Inhabited

inductive Value
  | leaf (origin : Option String) (leaf : Leaf)
  | array (origin : Option String) (items : List Value)
  | table (origin : Option String) (entries : List (String × Value))
deriving Inhabited

namespace Value

def nil : Value := .leaf none .nil

def origin : Value → Option String
  | .leaf o _ | .array o _ | .table o _ => o

mutual

def ofToml (file : Option String) : Toml.Item → Value
  | .string s => .leaf file (.string s)
  | .integer n => .leaf file (.integer n)
  | .float x => .leaf file (.float x)
  | .boolean b => .leaf file (.boolean b)
  | .dateTime text => .leaf file (.string text)
  | .array items => .array file (ofTomlItems file items)
  | .inlineTable es => .table file (ofTomlEntries file es)
  | .table _ es => .table file (ofTomlEntries file es)
  | .tables members => .array file (ofTomlMembers file members)

def ofTomlItems (file : Option String) : List Toml.Item → List Value
  | [] => []
  | i :: is => ofToml file i :: ofTomlItems file is

def ofTomlEntries (file : Option String) : List (String × Toml.Item) → List (String × Value)
  | [] => []
  | (key, i) :: es => (key, ofToml file i) :: ofTomlEntries file es

def ofTomlMembers (file : Option String) : List (List (String × Toml.Item)) → List Value
  | [] => []
  | es :: members => .table file (ofTomlEntries file es) :: ofTomlMembers file members

end

end Value

/-!
Paths to settings: a name, then names behind dots and indices in brackets. Names are made of ASCII
letters, digits, blanks, underscores and hyphens, and are kept in lower case.
-/

inductive Step
  | child (name : String)
  | index (n : Int)
deriving DecidableEq, Repr

structure KeyPath where
  root : String
  steps : List Step
deriving DecidableEq, Repr

inductive PathError
  | name
  | punctuation
  | digit
  | range
deriving DecidableEq, Repr

def PathError.message : PathError → String
  | .name => "IsA"
  | .punctuation => "Char"
  | .digit => "Digit"
  | .range => "Map on Result"

namespace KeyPath

def isNameChar (c : Char) : Bool := c.isAlphanum || c == ' ' || c == '_' || c == '-'

def readName? (cs : List Char) : Option (String × List Char) :=
  let name := cs.takeWhile isNameChar
  if name.isEmpty then none
  else some (String.ofList (name.map Char.toLower), cs.dropWhile isNameChar)

def skipBlanks (cs : List Char) : List Char := cs.dropWhile fun c => c == ' ' || c == '\t'

def readIndex (cs : List Char) : Except PathError (Int × List Char) :=
  let cs := skipBlanks cs
  let negative := cs.head? == some '-'
  let cs := if negative then cs.tail else cs
  match Text.number? 10 (cs.takeWhile (·.isDigit)) with
  | none => .error .digit
  | some n =>
    let n : Int := if negative then -n else n
    if n < -Int.pow 2 63 ∨ Int.pow 2 63 ≤ n then .error .range
    else
      match skipBlanks (cs.dropWhile (·.isDigit)) with
      | ']' :: rest => .ok (n, rest)
      | _ => .error .punctuation

def readStep (cs : List Char) : Except PathError (Step × List Char) :=
  match cs with
  | '.' :: rest =>
    match readName? rest with
    | some (name, rest) => .ok (.child name, rest)
    | none => .error .punctuation
  | '[' :: rest => do
    let (n, rest) ← readIndex rest
    return (.index n, rest)
  | _ => .error .punctuation

def readSteps : Nat → List Char → Except PathError (List Step)
  | _, [] => .ok []
  | 0, _ => .error .punctuation
  | fuel + 1, cs => do
    let (step, rest) ← readStep cs
    let steps ← readSteps fuel rest
    return step :: steps

def read (text : String) : Except PathError KeyPath :=
  match readName? text.toList with
  | none => .error .name
  | some (root, rest) => do return ⟨root, ← readSteps rest.length rest⟩

end KeyPath

abbrev Entries := List (String × Value)

namespace Entries

def put (es : Entries) (key : String) (v : Value) : Entries :=
  if es.any (·.1 == key) then es.map fun e => if e.1 = key then (key, v) else e
  else es ++ [(key, v)]

end Entries

namespace Value

def asTable : Value → Option String × Entries
  | .table o es => (o, es)
  | _ => (none, [])

mutual

def mergeAt (target : Value) (key : String) : Value → Value
  | .table _ incoming =>
    let (o, es) := target.asTable
    let key := Unicode.lowercase key
    .table o (es.put key (mergeAll ((es.lookup key).getD (.table none [])) incoming))
  | .leaf origin l =>
    let (o, es) := target.asTable
    .table o (es.put (Unicode.lowercase key) (.leaf origin l))
  | .array origin items =>
    let (o, es) := target.asTable
    .table o (es.put (Unicode.lowercase key) (.array origin items))

/-- Merges entries one after the other; without entries the target stays what it is. -/
def mergeAll (target : Value) : List (String × Value) → Value
  | [] => target
  | (key, v) :: es => mergeAll (mergeAt target key v) es

end

def asArray : Value → Option String × List Value
  | .array o items => (o, items)
  | _ => (none, [])

/-- The place that an index means, negative ones counting from the end. -/
def place (n : Int) (length : Nat) : Nat := if 0 ≤ n then n.toNat else length - n.natAbs

def padTo (items : List Value) (i : Nat) : List Value :=
  items ++ List.replicate (i + 1 - items.length) nil

/-- Merges a value in at the end of a way through tables and arrays, making them where they are
missing. -/
def mergeAlong (target : Value) (v : Value) : List Step → Value
  | [] => v
  | [.child name] => target.mergeAt name v
  | .child name :: steps =>
    let (o, es) := target.asTable
    .table o (es.put name (mergeAlong ((es.lookup name).getD nil) v steps))
  | .index n :: steps =>
    let (o, items) := target.asArray
    let i := place n items.length
    let items := padTo items i
    .array o (items.set i (mergeAlong (items[i]?.getD nil) v steps))

def mergePath (target : Value) (path : KeyPath) (v : Value) : Value :=
  target.mergeAlong v (.child path.root :: path.steps)

def mergeEntry (target : Value) (key : String) (v : Value) : Value :=
  match KeyPath.read key with
  | .ok path => target.mergePath path v
  | .error _ => target.mergeAt key v

end Value

end PegGrammar.Settings
