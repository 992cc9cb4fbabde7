import PegGrammar.Format.Text

/-!
Output formats by name. A registry keeps its formats in ascending order of their names, one for
each name; registering a name again replaces its format.
-/

namespace PegGrammar

inductive FormatError
  | notFound (name : String)
  | failed (reason : String)
deriving DecidableEq, Repr

def FormatError.message : FormatError → String
  | .notFound name => s!"Format '{name}' not found"
  | .failed reason => s!"Serialization error: {reason}"

structure Format where
  name : String
  description : String
  render : Snapshot → Except FormatError String

namespace Format

def treeviz (width : Nat) : Format where
  name := "treeviz"
  description := "Visual tree representation with connectors and Unicode icons"
  render s := .ok (s.drawing width)

def json : Format where
  name := "json"
  description := "Snapshot tree as pretty-printed JSON"
  render s := .ok s.jsonText

def yaml : Format where
  name := "yaml"
  description := "Snapshot tree as YAML"
  render s := .ok s.yamlText

def value : Format where
  name := "value"
  description := "Root label only"
  render s := .ok (s.label ++ "\n")

/-- Puts a format into an ascending list, in the place of one of the same name. -/
def insert (f : Format) : List Format → List Format
  | [] => [f]
  | g :: gs =>
    if f.name < g.name then f :: g :: gs
    else if f.name = g.name then f :: gs
    else g :: insert f gs

end Format

structure FormatRegistry where
  formats : List Format

namespace FormatRegistry

def empty : FormatRegistry := ⟨[]⟩

def register (r : FormatRegistry) (f : Format) : FormatRegistry := ⟨f.insert r.formats⟩

def get? (r : FormatRegistry) (name : String) : Option Format := r.formats.find? (·.name == name)

def names (r : FormatRegistry) : List String := r.formats.map (·.name)

def serialize (r : FormatRegistry) (name : String) (s : Snapshot) : Except FormatError String :=
  match r.get? name with
  | some f => f.render s
  | none => .error (.notFound name)

def builtin : FormatRegistry :=
  [Format.treeviz Snapshot.defaultLabelWidth, .json, .yaml, .value].foldl register empty

end FormatRegistry

end PegGrammar
