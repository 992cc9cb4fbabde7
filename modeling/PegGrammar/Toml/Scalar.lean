import PegGrammar.Text
import PegGrammar.Toml.Item

/-!
Reading the TOML values that have no parts: strings, numbers, dates and times. Each reader answers
with what is left of the text.
-/

namespace PegGrammar.Toml

def isBlank (c : Char) : Bool := c == ' ' || c == '\t'

def skipBlanks (cs : List Char) : List Char := cs.dropWhile isBlank

def isText (c : Char) : Bool := c == '\t' || (32 ≤ c.toNat && c.toNat != 127)

def newline? : List Char → Option (List Char)
  | '\n' :: cs => some cs
  | '\r' :: '\n' :: cs => some cs
  | _ => none

def readCodePoint (count : Nat) (cs : List Char) : Option (Char × List Char) :=
  if (cs.take count).length = count then
    ((Text.number? 16 (cs.take count)).bind Text.scalar?).map (·, cs.drop count)
  else none

def readEscape : List Char → Option (Char × List Char)
  | 'b' :: cs => some ('\x08', cs)
  | 't' :: cs => some ('\t', cs)
  | 'n' :: cs => some ('\n', cs)
  | 'f' :: cs => some ('\x0c', cs)
  | 'r' :: cs => some ('\r', cs)
  | '"' :: cs => some ('"', cs)
  | '\\' :: cs => some ('\\', cs)
  | 'u' :: cs => readCodePoint 4 cs
  | 'U' :: cs => readCodePoint 8 cs
  | _ => none

def readLine (quote : Char) (escapes : Bool) : Nat → List Char → Option (List Char × List Char)
  | 0, _ => none
  | fuel + 1, cs =>
    match cs with
    | [] => none
    | c :: rest =>
      if c = quote then some ([], rest)
      else if escapes && c = '\\' then do
        let (c, rest) ← readEscape rest
        let (cs, rest) ← readLine quote escapes fuel rest
        return (c :: cs, rest)
      else if isText c then (readLine quote escapes fuel rest).map fun p => (c :: p.1, p.2)
      else none

def skipLines : Nat → List Char → List Char
  | 0, cs => cs
  | fuel + 1, cs =>
    match newline? (skipBlanks cs) with
    | some rest => skipLines fuel rest
    | none => skipBlanks cs

/-- Reads the rest of a string on several lines. Up to two quotes may stand right before the three
that end it, and a backslash at the end of a line joins it to the next text. -/
def readLines (quote : Char) (escapes : Bool) : Nat → List Char → Option (List Char × List Char)
  | 0, _ => none
  | fuel + 1, cs =>
    match newline? cs with
    | some rest => (readLines quote escapes fuel rest).map fun p => ('\n' :: p.1, p.2)
    | none =>
      match cs with
      | [] => none
      | c :: rest =>
        if c = quote then
          let quotes := min 5 (cs.takeWhile (· == quote)).length
          if quotes < 3 then (readLines quote escapes fuel rest).map fun p => (c :: p.1, p.2)
          else some (List.replicate (quotes - 3) quote, cs.drop quotes)
        else if escapes && c = '\\' then
          match newline? (skipBlanks rest) with
          | some rest => readLines quote escapes fuel (skipLines rest.length rest)
          | none => do
            let (c, rest) ← readEscape rest
            let (cs, rest) ← readLines quote escapes fuel rest
            return (c :: cs, rest)
        else if isText c then (readLines quote escapes fuel rest).map fun p => (c :: p.1, p.2)
        else none

def readString (cs : List Char) : Option (String × List Char) :=
  match cs with
  | [] => none
  | q :: rest =>
    let escapes := q == '"'
    let chars :=
      match rest with
      | q₂ :: q₃ :: rest' =>
        if q₂ = q ∧ q₃ = q then
          readLines q escapes (rest'.length + 1) ((newline? rest').getD rest')
        else readLine q escapes (rest.length + 1) rest
      | _ => readLine q escapes (rest.length + 1) rest
    chars.map fun p => (String.ofList p.1, p.2)

def readDigits (isDigit : Char → Bool) : List Char → Option (List Char × List Char)
  | [] => none
  | c :: cs =>
    if !isDigit c then none
    else
      let rec more : List Char → List Char × List Char
        | [] => ([], [])
        | '_' :: d :: cs =>
          if isDigit d then let (ds, rest) := more cs; (d :: ds, rest) else ([], '_' :: d :: cs)
        | d :: cs =>
          if isDigit d then let (ds, rest) := more cs; (d :: ds, rest) else ([], d :: cs)
      let (ds, rest) := more cs
      some (c :: ds, rest)

def readWhole : List Char → Option (List Char × List Char)
  | '0' :: cs => some (['0'], cs)
  | cs => readDigits Char.isDigit cs

def readSign : List Char → Bool × List Char
  | '-' :: cs => (true, cs)
  | '+' :: cs => (false, cs)
  | cs => (false, cs)

def integer? (n : Int) : Option Item :=
  if -Int.pow 2 63 ≤ n ∧ n < Int.pow 2 63 then some (.integer n) else none

def readRadix (base : Nat) (cs : List Char) : Option (Item × List Char) := do
  let (ds, rest) ← readDigits (fun c => (Text.digitValue? base c).isSome) cs
  return (← integer? (← Text.number? base ds), rest)

def readDecimal (cs : List Char) : Option (Item × List Char) := do
  let (negative, rest) := readSign cs
  match rest with
  | 'i' :: 'n' :: 'f' :: rest => return (.float (if negative then -1.0 / 0.0 else 1.0 / 0.0), rest)
  | 'n' :: 'a' :: 'n' :: rest => return (.float (0.0 / 0.0), rest)
  | _ =>
    let (whole, rest) ← readWhole rest
    let (fraction, rest) ←
      match rest with
      | '.' :: rest => readDigits Char.isDigit rest
      | rest => some ([], rest)
    let (exponent, rest) ←
      match rest with
      | c :: rest' =>
        if c = 'e' ∨ c = 'E' then do
          let (negative, rest) := readSign rest'
          let (ds, rest) ← readDigits Char.isDigit rest
          let n ← Text.number? 10 ds
          some (some (if negative then -(n : Int) else n), rest)
        else some (none, rest)
      | [] => some (none, [])
    if fraction.isEmpty && exponent.isNone then
      let n := (Text.number? 10 whole).getD 0
      return (← integer? (if negative then -(n : Int) else n), rest)
    else
      let x := Decimal.Written.toFloat ⟨whole, fraction, exponent.getD 0⟩
      if negative then return (.float (-x), rest)
      else if x == 1.0 / 0.0 then none
      else return (.float x, rest)

def readNumber : List Char → Option (Item × List Char)
  | '0' :: 'x' :: cs => readRadix 16 cs
  | '0' :: 'o' :: cs => readRadix 8 cs
  | '0' :: 'b' :: cs => readRadix 2 cs
  | cs => readDecimal cs

def readFixed (count : Nat) (cs : List Char) : Option (Nat × List Char) :=
  if (cs.take count).length = count then (Text.number? 10 (cs.take count)).map (·, cs.drop count)
  else none

def expect (c : Char) : List Char → Option (List Char)
  | d :: cs => if d = c then some cs else none
  | [] => none

def padded (width n : Nat) : List Char :=
  let ds := Nat.toDigits 10 n
  List.replicate (width - ds.length) '0' ++ ds

def daysIn (year month : Nat) : Nat :=
  if month = 2 then
    if year % 4 = 0 ∧ (year % 100 ≠ 0 ∨ year % 400 = 0) then 29 else 28
  else if month = 4 ∨ month = 6 ∨ month = 9 ∨ month = 11 then 30 else 31

def readDate (cs : List Char) : Option (List Char × List Char) := do
  let (year, rest) ← readFixed 4 cs
  let (month, rest) ← readFixed 2 (← expect '-' rest)
  let (day, rest) ← readFixed 2 (← expect '-' rest)
  if 1 ≤ month ∧ month ≤ 12 ∧ 1 ≤ day ∧ day ≤ daysIn year month then
    return (padded 4 year ++ '-' :: padded 2 month ++ '-' :: padded 2 day, rest)
  else none

/-- The digits behind the point of a second: nine at most, and no zeros at the end. -/
def fractionText (ds : List Char) : List Char :=
  match ((ds.take 9).reverse.dropWhile (· == '0')).reverse with
  | [] => []
  | ds => '.' :: ds

def readTime (cs : List Char) : Option (List Char × List Char) := do
  let (hour, rest) ← readFixed 2 cs
  let (minute, rest) ← readFixed 2 (← expect ':' rest)
  let (second, rest) ← readFixed 2 (← expect ':' rest)
  if 24 ≤ hour ∨ 60 ≤ minute ∨ 60 < second then none
  else
    let whole := padded 2 hour ++ ':' :: padded 2 minute ++ ':' :: padded 2 second
    match rest with
    | '.' :: d :: rest' =>
      if d.isDigit then
        let ds := (d :: rest').takeWhile (·.isDigit)
        return (whole ++ fractionText ds, (d :: rest').dropWhile (·.isDigit))
      else return (whole, rest)
    | _ => return (whole, rest)

def readOffset (cs : List Char) : Option (List Char × List Char) :=
  match cs with
  | 'Z' :: rest | 'z' :: rest => some (['Z'], rest)
  | c :: rest =>
    if c = '+' ∨ c = '-' then do
      let (hour, rest) ← readFixed 2 rest
      let (minute, rest) ← readFixed 2 (← expect ':' rest)
      if 24 ≤ hour ∨ 60 ≤ minute then none
      else
        let sign := if hour = 0 ∧ minute = 0 then '+' else c
        return (sign :: padded 2 hour ++ ':' :: padded 2 minute, rest)
    else none
  | [] => none

def readDateTime (cs : List Char) : Option (Item × List Char) :=
  let item (p : List Char × List Char) : Item × List Char := (.dateTime (String.ofList p.1), p.2)
  match readDate cs with
  | none => (readTime cs).map item
  | some (date, rest) =>
    let time :=
      match rest with
      | c :: rest => if c = 'T' ∨ c = 't' ∨ c = ' ' then readTime rest else none
      | [] => none
    match time with
    | none => some (item (date, rest))
    | some (time, rest) =>
      let text := date ++ 'T' :: time
      match readOffset rest with
      | some (offset, rest) => some (item (text ++ offset, rest))
      | none => some (item (text, rest))

end PegGrammar.Toml
