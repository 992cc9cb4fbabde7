import PegGrammar.Text

/-!
JSON values, how they are written and how they are read. An integer of at most 64 bits is kept
exactly; any other number is a floating-point number. An object keeps its fields in the order in
which they are written.
-/

namespace PegGrammar

inductive JsonNumber
  | integer (n : Int)
  | float (x : Float)
deriving Inhabited

inductive Json
  | null
  | bool (b : Bool)
  | number (n : JsonNumber)
  | string (s : String)
  | array (items : List Json)
  | object (fields : List (String × Json))
deriving Inhabited

namespace Json

def ofNat (n : Nat) : Json := .number (.integer n)

def ofInt (n : Int) : Json := .number (.integer n)

def field? (name : String) : Json → Option Json
  | .object fields => (fields.reverse.find? (·.1 == name)).map (·.2)
  | _ => none

end Json

end PegGrammar

/-!
Writing JSON, on one line or with every item on a line of its own, indented by two blanks a level.
Strings keep every character but quotes, backslashes and control characters below the blank.
-/

namespace PegGrammar.Json

def escape (c : Char) : List Char :=
  match c with
  | '"' => ['\\', '"']
  | '\\' => ['\\', '\\']
  | '\x08' => ['\\', 'b']
  | '\x0c' => ['\\', 'f']
  | '\n' => ['\\', 'n']
  | '\r' => ['\\', 'r']
  | '\t' => ['\\', 't']
  | c =>
    if c.toNat < 32 then
      ['\\', 'u', '0', '0', Nat.digitChar (c.toNat / 16), Nat.digitChar (c.toNat % 16)]
    else [c]

def quote (s : String) : List Char := '"' :: s.toList.flatMap escape ++ ['"']

def JsonNumber.write : JsonNumber → List Char
  | .integer n => (toString n).toList
  | .float x => (Decimal.compact x).toList

/-- How the items of an array or object are set apart. -/
structure Layout where
  lineStart : Nat → List Char
  colon : List Char

def compactLayout : Layout := ⟨fun _ => [], [':']⟩

def prettyLayout : Layout := ⟨fun depth => '\n' :: List.replicate (2 * depth) ' ', [':', ' ']⟩

def Layout.closing {α : Type} (layout : Layout) (depth : Nat) (items : List α) : List Char :=
  if items.isEmpty then [] else layout.lineStart depth

mutual

def writeWith (layout : Layout) (depth : Nat) : Json → (rest : List Char) → List Char
  | .null, rest => "null".toList ++ rest
  | .bool b, rest => (if b then "true" else "false").toList ++ rest
  | .number n, rest => JsonNumber.write n ++ rest
  | .string s, rest => quote s ++ rest
  | .array items, rest =>
    '[' :: writeItems layout (depth + 1) [] items (layout.closing depth items ++ ']' :: rest)
  | .object fields, rest =>
    '\x7b' :: writeFields layout (depth + 1) [] fields
      (layout.closing depth fields ++ '\x7d' :: rest)

def writeItems (layout : Layout) (depth : Nat) (comma : List Char) :
    List Json → (rest : List Char) → List Char
  | [], rest => rest
  | item :: items, rest =>
    comma ++ layout.lineStart depth ++
      writeWith layout depth item (writeItems layout depth [','] items rest)

def writeFields (layout : Layout) (depth : Nat) (comma : List Char) :
    List (String × Json) → (rest : List Char) → List Char
  | [], rest => rest
  | (name, item) :: fields, rest =>
    comma ++ layout.lineStart depth ++ quote name ++ layout.colon ++
      writeWith layout depth item (writeFields layout depth [','] fields rest)

end

def compact (v : Json) : String := String.ofList (writeWith compactLayout 0 v [])

def pretty (v : Json) : String := String.ofList (writeWith prettyLayout 0 v [])

/-!
Reading JSON. Nothing but blanks may follow the value; control characters must be escaped inside
strings, and surrogates must come in pairs.
-/

def isBlank (c : Char) : Bool := c == ' ' || c == '\t' || c == '\n' || c == '\r'

def skipBlanks (cs : List Char) : List Char := cs.dropWhile isBlank

def readUnit? (cs : List Char) : Option (Nat × List Char) :=
  if (cs.take 4).length = 4 then (Text.number? 16 (cs.take 4)).map (·, cs.drop 4) else none

/-- Reads what follows `\u`, together with a second escape after a high surrogate. -/
def readCodePoint? (cs : List Char) : Option (Char × List Char) := do
  let (unit, rest) ← readUnit? cs
  if 0xd800 ≤ unit ∧ unit < 0xdc00 then
    match rest with
    | '\\' :: 'u' :: rest =>
      let (low, rest) ← readUnit? rest
      if 0xdc00 ≤ low ∧ low < 0xe000 then
        return (← Text.scalar? (0x10000 + (unit - 0xd800) * 0x400 + (low - 0xdc00)), rest)
      else none
    | _ => none
  else return (← Text.scalar? unit, rest)

def readEscape? : List Char → Option (Char × List Char)
  | '"' :: cs => some ('"', cs)
  | '\\' :: cs => some ('\\', cs)
  | '/' :: cs => some ('/', cs)
  | 'b' :: cs => some ('\x08', cs)
  | 'f' :: cs => some ('\x0c', cs)
  | 'n' :: cs => some ('\n', cs)
  | 'r' :: cs => some ('\r', cs)
  | 't' :: cs => some ('\t', cs)
  | 'u' :: cs => readCodePoint? cs
  | _ => none

def readString? : Nat → List Char → Option (List Char × List Char)
  | 0, _ => none
  | fuel + 1, cs =>
    match cs with
    | [] => none
    | '"' :: rest => some ([], rest)
    | '\\' :: rest => do
      let (c, rest) ← readEscape? rest
      let (cs, rest) ← readString? fuel rest
      return (c :: cs, rest)
    | c :: rest =>
      if c.toNat < 32 then none else (readString? fuel rest).map fun p => (c :: p.1, p.2)

def readDigits (cs : List Char) : List Char × List Char :=
  (cs.takeWhile (·.isDigit), cs.dropWhile (·.isDigit))

def readFraction? : List Char → Option (List Char × List Char)
  | '.' :: cs =>
    let (ds, rest) := readDigits cs
    if ds.isEmpty then none else some (ds, rest)
  | cs => some ([], cs)

def readExponent? : List Char → Option (Option Int × List Char)
  | c :: cs =>
    if c = 'e' ∨ c = 'E' then
      let (negative, cs) :=
        match cs with
        | '-' :: cs => (true, cs)
        | '+' :: cs => (false, cs)
        | cs => (false, cs)
      let (ds, rest) := readDigits cs
      (Text.number? 10 ds).map fun n => (some (if negative then -(n : Int) else n), rest)
    else some (none, c :: cs)
  | [] => some (none, [])

def readNumber? (cs : List Char) : Option (JsonNumber × List Char) := do
  let negative := cs.head? == some '-'
  let (whole, rest) := readDigits (if negative then cs.tail else cs)
  if whole.isEmpty ∨ (whole.head? = some '0' ∧ 1 < whole.length) then none
  else
    let (fraction, rest) ← readFraction? rest
    let (exponent, rest) ← readExponent? rest
    let n := (Text.number? 10 whole).getD 0
    let isInteger := fraction.isEmpty && exponent.isNone &&
      (if negative then n != 0 && n ≤ Nat.pow 2 63 else n < Nat.pow 2 64)
    if isInteger then return (.integer (if negative then -(n : Int) else n), rest)
    else
      let x := Decimal.Written.toFloat ⟨whole, fraction, exponent.getD 0⟩
      return (.float (if negative then -x else x), rest)

mutual

def readValue? : Nat → List Char → Option (Json × List Char)
  | 0, _ => none
  | fuel + 1, cs =>
    match skipBlanks cs with
    | 'n' :: 'u' :: 'l' :: 'l' :: rest => some (.null, rest)
    | 't' :: 'r' :: 'u' :: 'e' :: rest => some (.bool true, rest)
    | 'f' :: 'a' :: 'l' :: 's' :: 'e' :: rest => some (.bool false, rest)
    | '"' :: rest => (readString? fuel rest).map fun p => (.string (String.ofList p.1), p.2)
    | '[' :: rest =>
      match skipBlanks rest with
      | ']' :: rest => some (.array [], rest)
      | rest => (readItems? fuel rest).map fun p => (.array p.1, p.2)
    | '\x7b' :: rest =>
      match skipBlanks rest with
      | '\x7d' :: rest => some (.object [], rest)
      | rest => (readFields? fuel rest).map fun p => (.object p.1, p.2)
    | cs => (readNumber? cs).map fun p => (.number p.1, p.2)

def readItems? : Nat → List Char → Option (List Json × List Char)
  | 0, _ => none
  | fuel + 1, cs => do
    let (item, rest) ← readValue? fuel cs
    match skipBlanks rest with
    | ']' :: rest => return ([item], rest)
    | ',' :: rest => (readItems? fuel rest).map fun p => (item :: p.1, p.2)
    | _ => none

def readFields? : Nat → List Char → Option (List (String × Json) × List Char)
  | 0, _ => none
  | fuel + 1, cs => do
    match skipBlanks cs with
    | '"' :: rest =>
      let (name, rest) ← readString? fuel rest
      match skipBlanks rest with
      | ':' :: rest =>
        let (item, rest) ← readValue? fuel rest
        let field := (String.ofList name, item)
        match skipBlanks rest with
        | '\x7d' :: rest => return ([field], rest)
        | ',' :: rest => (readFields? fuel rest).map fun p => (field :: p.1, p.2)
        | _ => none
      | _ => none
    | _ => none

end

/-- Reads a text that holds one JSON value. No character takes more than two steps. -/
def read? (text : String) : Option Json := do
  let cs := text.toList
  let (v, rest) ← readValue? (2 * cs.length + 2) cs
  if (skipBlanks rest).isEmpty then return v else none

end PegGrammar.Json
