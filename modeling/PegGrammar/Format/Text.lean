import PegGrammar.Json
import PegGrammar.Node
import PegGrammar.Yaml

/-!
Snapshots written out: as a drawing of the tree, as JSON, which is read as well, and as YAML.
-/

namespace PegGrammar.Snapshot

/-!
Drawings of trees, one line per node. A line shows, for each node above, whether it has a later
sibling, then a connector, an icon for the type and the label. Long labels are cut off.
-/

def defaultLabelWidth : Nat := 30

def shorten (width : Nat) (label : String) : String :=
  if width < label.length then String.ofList (label.toList.take width) ++ "..." else label

def icon : String → String
  | "Sequence" => "⋯"
  | "Repetition" => "☰"
  | "Literal" => "◦"
  | "Char" => "•"
  | "Abs" => "λ"
  | "App" => "@"
  | "If" => "?"
  | _ => "○"

def caption (width : Nat) (s : Snapshot) : String :=
  icon s.nodeType ++ " " ++ shorten width s.label ++ "\n"

mutual

/-- The lines below a node; `margin` is what stands before the connectors of its children. -/
def drawChildren (width : Nat) (margin : String) : List Snapshot → String
  | [] => ""
  | [s] => margin ++ "└─ " ++ caption width s ++ drawBelow width (margin ++ "  ") s
  | s :: ss =>
    margin ++ "├─ " ++ caption width s ++ drawBelow width (margin ++ "│ ") s ++
      drawChildren width margin ss

def drawBelow (width : Nat) (margin : String) : Snapshot → String
  | ⟨_, _, children⟩ => drawChildren width margin children

end

def drawing (width : Nat) (s : Snapshot) : String :=
  caption width s ++ drawChildren width "" s.children

/-!
Snapshots as JSON: objects with the fields `node_type`, `label` and `children`. An array of the
three in that order is read too, fields of other names are passed over, and of several faults the
first in the order `children`, `label`, `node_type` is reported.
-/

mutual

def toJson : Snapshot → Json
  | ⟨nodeType, label, children⟩ =>
    .object [("node_type", .string nodeType), ("label", .string label),
      ("children", .array (toJsons children))]

def toJsons : List Snapshot → List Json
  | [] => []
  | s :: ss => s.toJson :: toJsons ss

end

inductive ReadError
  | missingField (name : String)
  | wrongType (found : Json) (expected : String)
  | tooShort (length : Nat)
  | tooLong (length : Nat)

def describe : Json → String
  | .null => "null"
  | .bool b => s!"boolean `{b}`"
  | .number (.integer n) => s!"integer `{n}`"
  | .number (.float x) => "floating point `" ++ Decimal.compact x ++ "`"
  | .string s => "string " ++ Text.quoteString s
  | .array _ => "sequence"
  | .object _ => "map"

def ReadError.message : ReadError → String
  | .missingField name => s!"missing field `{name}`"
  | .wrongType found expected => s!"invalid type: {describe found}, expected {expected}"
  | .tooShort n => s!"invalid length {n}, expected struct NodeSnapshot with 3 elements"
  | .tooLong n => s!"invalid length {n}, expected fewer elements in array"

def readText : Json → Except ReadError String
  | .string s => .ok s
  | v => .error (.wrongType v "a string")

abbrev Candidate := Json × Except ReadError (List Snapshot)

def ofFields (fields : List (String × Candidate)) : Except ReadError Snapshot := do
  let field (name : String) : Option Candidate :=
    (fields.reverse.find? (·.1 == name)).map (·.2)
  let children ← (field "children").mapM (·.2)
  let label ← (field "label").mapM fun f => readText f.1
  let nodeType ← (field "node_type").mapM fun f => readText f.1
  match nodeType, label, children with
  | none, _, _ => .error (.missingField "node_type")
  | _, none, _ => .error (.missingField "label")
  | _, _, none => .error (.missingField "children")
  | some nodeType, some label, some children => .ok ⟨nodeType, label, children⟩

def ofItems (items : List Candidate) : Except ReadError Snapshot := do
  match items with
  | [] => .error (.tooShort 0)
  | nodeType :: items =>
    let nodeType ← readText nodeType.1
    match items with
    | [] => .error (.tooShort 1)
    | label :: items =>
      let label ← readText label.1
      match items with
      | [] => .error (.tooShort 2)
      | children :: items =>
        let children ← children.2
        if items.isEmpty then return ⟨nodeType, label, children⟩
        else .error (.tooLong (items.length + 3))

mutual

def ofJson : Json → Except ReadError Snapshot
  | .object fields => ofFields (fieldCandidates fields)
  | .array items => ofItems (itemCandidates items)
  | v => .error (.wrongType v "struct NodeSnapshot")

def readChildren : Json → Except ReadError (List Snapshot)
  | .array items => ofJsons items
  | v => .error (.wrongType v "a sequence")

def ofJsons : List Json → Except ReadError (List Snapshot)
  | [] => .ok []
  | v :: vs => do
    let s ← ofJson v
    let ss ← ofJsons vs
    return s :: ss

def fieldCandidates : List (String × Json) → List (String × Candidate)
  | [] => []
  | (name, v) :: fields => (name, v, readChildren v) :: fieldCandidates fields

def itemCandidates : List Json → List Candidate
  | [] => []
  | v :: vs => (v, readChildren v) :: itemCandidates vs

end

def jsonText (s : Snapshot) : String := s.toJson.pretty ++ "\n"

/-!
Snapshots as YAML: a block mapping for each node. The items of a sequence are not indented below
its key, so a level of children takes two columns, those of the hyphen before its first key.
-/

mutual

/-- Writes a node whose keys stand at column `indent` in front of `rest`; its first key is on a
started line. -/
def yamlLines (indent : Nat) : Snapshot → (rest : List Char) → List Char
  | ⟨nodeType, label, children⟩, rest =>
    "node_type: ".toList ++ Yaml.scalar (indent + 2) nodeType.toList ++
      Yaml.indentation indent ++ "label: ".toList ++ Yaml.scalar (indent + 2) label.toList ++
      Yaml.indentation indent ++
      match children with
      | [] => "children: []\n".toList ++ rest
      | s :: ss => "children:\n".toList ++ yamlItems indent (s :: ss) rest

def yamlItems (indent : Nat) : List Snapshot → (rest : List Char) → List Char
  | [], rest => rest
  | s :: ss, rest =>
    Yaml.indentation indent ++ '-' :: ' ' :: yamlLines (indent + 2) s (yamlItems indent ss rest)

end

def yamlText (s : Snapshot) : String := String.ofList (s.yamlLines 0 [])

end PegGrammar.Snapshot
