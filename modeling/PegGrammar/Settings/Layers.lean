import PegGrammar.Files
import PegGrammar.Settings.Basic
import PegGrammar.Toml.Reader

/-!
Settings in layers. At the bottom are the built-in settings, then files in the order in which they
were added, and on top of them the single values set by hand, wherever in between these were set.
-/

namespace PegGrammar.Settings

/-- A file of settings; one that is not required is passed over if it cannot be read. -/
structure Source where
  name : String
  required : Bool
deriving DecidableEq, Repr

structure Layers where
  sources : List Source
  overrides : List (KeyPath × Value)

namespace Layers

def builtin : Layers := ⟨[], []⟩

def withFile (l : Layers) (name : String) : Layers :=
  { l with sources := l.sources ++ [⟨name, true⟩] }

def withOptionalFile (l : Layers) (name : String) : Layers :=
  { l with sources := l.sources ++ [⟨name, false⟩] }

def withOverride (l : Layers) (key : String) (v : Leaf) : Except Error Layers :=
  match KeyPath.read key with
  | .error e => .error (.path e)
  | .ok path =>
    .ok { l with overrides := l.overrides.filter (·.1 != path) ++ [(path, .leaf none v)] }

def defaults : Value :=
  .table none [
    ("output", .table none [
      ("format", .leaf none (.string "treeviz")),
      ("label_width", .leaf none (.integer 30))]),
    ("parse", .table none [
      ("grammar", .leaf none (.string "lambda")),
      ("trim_trailing_newline", .leaf none (.boolean true))])]

/-- The name with `.toml` behind its last part, unless that part is no name of a file. -/
def extended? (name : String) : Option String :=
  match (Files.parts name).reverse.dropWhile Files.isStill with
  | [] => none
  | last :: before =>
    if last = ".." then none else some ("/".intercalate ((last ++ ".toml") :: before).reverse)

def candidates (name : String) : List String := name :: (extended? name).toList

def find? (files : Files) (name : String) : Option String :=
  (candidates name).find? fun n => (files n).isFile

def mergeSource (files : Files) (tree : Value) (source : Source) : Except Error Value :=
  match find? files source.name with
  | none => if source.required then .error (.missingFile source.name) else .ok tree
  | some name =>
    match (files name).read with
    | .error reason => if source.required then .error (.unreadable reason) else .ok tree
    | .ok text =>
      let file := Files.normalize name
      match Toml.read? text with
      | none => .error (.malformed file)
      | some es =>
        .ok ((Value.ofTomlEntries (some file) es).foldl (fun t e => t.mergeEntry e.1 e.2) tree)

def tree (files : Files) (l : Layers) : Except Error Value := do
  let tree ← l.sources.foldlM (mergeSource files) defaults
  return l.overrides.foldl (fun t o => t.mergePath o.1 o.2) tree

def build (files : Files) (l : Layers) : Except Error Settings := do (← l.tree files).toSettings

end Layers

end PegGrammar.Settings
