/-!
TOML documents as they are read. A table remembers how it came to be, since that decides what may
still be added to it: a header opens a table once and only if nothing but headers of tables below
implied it, and dotted keys add only to tables that dotted keys made.
-/

namespace PegGrammar.Toml

/-- How a table came to be: as a step of a header, as a step of a dotted key, or by its own
header. -/
inductive Made
  | implied
  | dotted
  | header
deriving DecidableEq, Repr

inductive Item
  | string (s : String)
  | integer (n : Int)
  | float (x : Float)
  | boolean (b : Bool)
  | dateTime (text : String)
  | array (items : List Item)
  | inlineTable (entries : List (String × Item))
  | table (made : Made) (entries : List (String × Item))
  | tables (members : List (List (String × Item)))
deriving Inhabited

abbrev Entries := List (String × Item)

namespace Entries

def replace (es : Entries) (key : String) (item : Item) : Entries :=
  es.map fun e => if e.1 = key then (key, item) else e

/-- Changes the table at the end of a path, making the tables on the way that are missing. A step
onto a list of tables goes to its last member. Dotted keys do not step into tables with headers. -/
def update {α : Type} (dotted : Bool) (change : Made → Entries → Option (Entries × α)) :
    List String → Made → Entries → Option (Entries × α)
  | [], made, es => change made es
  | key :: path, _, es =>
    match es.lookup key with
    | none => do
      let made : Made := if dotted then .dotted else .implied
      let (sub, a) ← update dotted change path made []
      return (es ++ [(key, .table made sub)], a)
    | some (.table made sub) =>
      if dotted && made == .header then none
      else do
        let (sub, a) ← update dotted change path made sub
        return (es.replace key (.table made sub), a)
    | some (.tables members) =>
      match members.reverse with
      | [] => none
      | last :: before => do
        let (last, a) ← update dotted change path .header last
        return (es.replace key (.tables (last :: before).reverse), a)
    | some _ => none

def insert (es : Entries) (path : List String) (key : String) (item : Item) : Option Entries :=
  let add (made : Made) (es : Entries) : Option (Entries × Unit) :=
    if (made == .dotted) == path.isEmpty || (es.lookup key).isSome then none
    else some (es ++ [(key, item)], ())
  (update true add path .header es).map (·.1)

end Entries

structure Document where
  root : Entries
  path : List String
  isMember : Bool
  current : Entries

namespace Document

def empty : Document := ⟨[], [], false, []⟩

def close (d : Document) : Option Entries :=
  match d.path.getLast? with
  | none => some d.current
  | some key =>
    let attach (_ : Made) (es : Entries) : Option (Entries × Unit) :=
      match es.lookup key, d.isMember with
      | none, true => some (es ++ [(key, .tables [d.current])], ())
      | none, false => some (es ++ [(key, .table .header d.current)], ())
      | some (.tables members), true => some (es.replace key (.tables (members ++ [d.current])), ())
      | _, _ => none
    (Entries.update false attach d.path.dropLast .header d.root).map (·.1)

def openTable (d : Document) (path : List String) (key : String) : Option Document := do
  let root ← d.close
  let take (_ : Made) (es : Entries) : Option (Entries × Entries) :=
    match es.lookup key with
    | none => some (es, [])
    | some (.table .implied sub) => some (es.filter (·.1 != key), sub)
    | some _ => none
  let (root, sub) ← Entries.update false take path .header root
  return ⟨root, path ++ [key], false, sub⟩

def openMember (d : Document) (path : List String) (key : String) : Option Document := do
  let root ← d.close
  let check (_ : Made) (es : Entries) : Option (Entries × Unit) :=
    match es.lookup key with
    | none | some (.tables _) => some (es, ())
    | some _ => none
  let (root, _) ← Entries.update false check path .header root
  return ⟨root, path ++ [key], true, []⟩

def insert (d : Document) (path : List String) (key : String) (item : Item) : Option Document := do
  return { d with current := ← d.current.insert path key item }

end Document

end PegGrammar.Toml
