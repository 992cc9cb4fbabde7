import PegGrammar.Toml.Scalar

/-!
Reading TOML documents. A document is read line by line: a key and its value, the header of a table
or a member of a list of tables, or nothing but a comment.
-/

namespace PegGrammar.Toml

def skipComment (cs : List Char) : Option (List Char) :=
  match cs with
  | '#' :: cs =>
    let rest := cs.dropWhile isText
    match rest with
    | [] => some []
    | _ => (newline? rest).map fun _ => rest
  | cs => some cs

def endLine (cs : List Char) : Option (List Char) := do
  match ← skipComment (skipBlanks cs) with
  | [] => some []
  | rest => newline? rest

def skipGap : Nat → List Char → Option (List Char)
  | 0, cs => some cs
  | fuel + 1, cs =>
    match skipBlanks cs with
    | '#' :: rest => skipComment ('#' :: rest) >>= skipGap fuel
    | rest =>
      match newline? rest with
      | some rest => skipGap fuel rest
      | none => some rest

def isBareKey (c : Char) : Bool := c.isAlphanum || c == '-' || c == '_'

def readSimpleKey (cs : List Char) : Option (String × List Char) :=
  match cs with
  | '"' :: rest => (readLine '"' true (rest.length + 1) rest).map fun p => (String.ofList p.1, p.2)
  | '\'' :: rest => (readLine '\'' false (rest.length + 1) rest).map fun p => (String.ofList p.1, p.2)
  | cs =>
    let key := cs.takeWhile isBareKey
    if key.isEmpty then none else some (String.ofList key, cs.dropWhile isBareKey)

/-- How deep arrays and inline tables may be nested, and how many parts a key may have. -/
def maxNesting : Nat := 79

def readParts : Nat → List Char → Option (List String × String × List Char)
  | 0, _ => none
  | allowed + 1, cs => do
    let (key, rest) ← readSimpleKey (skipBlanks cs)
    match skipBlanks rest with
    | '.' :: rest => do
      let (path, last, rest) ← readParts allowed rest
      return (key :: path, last, rest)
    | rest => return ([], key, rest)

def readKey (cs : List Char) : Option (List String × String × List Char) := readParts maxNesting cs

mutual

/-- Reads a value; `nesting` counts the arrays and inline tables that may still be opened. -/
def readValue : Nat → Nat → List Char → Option (Item × List Char)
  | 0, _, _ => none
  | fuel + 1, nesting, cs =>
    match cs with
    | '"' :: _ | '\'' :: _ => (readString cs).map fun p => (.string p.1, p.2)
    | 't' :: 'r' :: 'u' :: 'e' :: rest => some (.boolean true, rest)
    | 'f' :: 'a' :: 'l' :: 's' :: 'e' :: rest => some (.boolean false, rest)
    | '[' :: rest =>
      if nesting = 0 then none
      else (readItems fuel (nesting - 1) rest).map fun p => (.array p.1, p.2)
    | '\x7b' :: rest =>
      if nesting = 0 then none
      else
        match skipBlanks rest with
        | '\x7d' :: rest => some (.inlineTable [], rest)
        | rest => (readPairs fuel (nesting - 1) [] rest).map fun p => (.inlineTable p.1, p.2)
    | cs =>
      match readDateTime cs with
      | some r => some r
      | none => readNumber cs

def readItems : Nat → Nat → List Char → Option (List Item × List Char)
  | 0, _, _ => none
  | fuel + 1, nesting, cs => do
    match ← skipGap cs.length cs with
    | ']' :: rest => return ([], rest)
    | rest =>
      let (item, rest) ← readValue fuel nesting rest
      match ← skipGap rest.length rest with
      | ']' :: rest => return ([item], rest)
      | ',' :: rest => (readItems fuel nesting rest).map fun p => (item :: p.1, p.2)
      | _ => none

def readPairs : Nat → Nat → Entries → List Char → Option (Entries × List Char)
  | 0, _, _, _ => none
  | fuel + 1, nesting, es, cs => do
    let (path, key, rest) ← readKey cs
    let (item, rest) ← readValue fuel nesting (skipBlanks (← expect '=' rest))
    let es ← es.insert path key item
    match skipBlanks rest with
    | '\x7d' :: rest => return (es, rest)
    | ',' :: rest => readPairs fuel nesting es rest
    | _ => none

end

def readHeader (d : Document) (cs : List Char) : Option (Document × List Char) := do
  match cs with
  | '[' :: rest =>
    let (path, key, rest) ← readKey rest
    let rest ← expect ']' (← expect ']' rest)
    return (← d.openMember path key, ← endLine rest)
  | rest =>
    let (path, key, rest) ← readKey rest
    return (← d.openTable path key, ← endLine (← expect ']' rest))

def readLinesInto : Nat → Document → List Char → Option Document
  | 0, _, _ => none
  | fuel + 1, d, cs => do
    match skipBlanks cs with
    | [] => return d
    | '[' :: rest =>
      let (d, rest) ← readHeader d rest
      readLinesInto fuel d rest
    | rest =>
      match rest.head?.any (fun c => c == '#' || c == '\n' || c == '\r') with
      | true => endLine rest >>= readLinesInto fuel d
      | false =>
        let (path, key, rest) ← readKey rest
        let rest := skipBlanks (← expect '=' rest)
        let (item, rest) ← readValue (2 * rest.length + 2) maxNesting rest
        readLinesInto fuel (← d.insert path key item) (← endLine rest)

def read? (text : String) : Option Entries := do
  let cs := match text.toList with
    | '\ufeff' :: cs => cs
    | cs => cs
  (← readLinesInto (cs.length + 1) .empty cs).close

end PegGrammar.Toml
