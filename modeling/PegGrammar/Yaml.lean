import PegGrammar.Text

/-!
YAML scalars as the values of block mappings. Text with line feeds is written as a literal block,
ambiguous text in single quotes and other text plain, as far as the text allows the style; plain
text that is not allowed goes into single quotes, and what neither those nor a block can hold goes
into double quotes, where everything can be escaped.

A text is ambiguous if a reader would take it for null, a boolean or a number, or if it looks like
a number to some readers: digits with a leading zero.
-/

namespace PegGrammar.Yaml

def isNull (cs : List Char) : Bool :=
  ["", "null", "Null", "NULL", "~"].any (·.toList == cs)

def isBoolean (cs : List Char) : Bool :=
  ["true", "True", "TRUE", "false", "False", "FALSE"].any (·.toList == cs)

def strip? (mark cs : List Char) : Option (List Char) :=
  if mark.isPrefixOf cs then some (cs.drop mark.length) else none

def isZeroPadded (cs : List Char) : Bool :=
  let digits := match cs with
    | '-' :: cs | '+' :: cs => cs
    | cs => cs
  1 < digits.length && digits.head? == some '0' && digits.tail.all (·.isDigit)

def radixes : List (List Char × Nat) := [(['0', 'x'], 16), (['0', 'o'], 8), (['0', 'b'], 2)]

def isInteger (cs : List Char) : Bool :=
  let unsigned := (strip? ['+'] cs).getD cs
  let within (bound : Nat) (n : Option Nat) : Bool := n.any (· < bound)
  radixes.any (fun r =>
    within (Nat.pow 2 128) ((strip? r.1 unsigned).bind (Text.number? r.2)) ||
      within (Nat.pow 2 127 + 1) ((strip? ('-' :: r.1) cs).bind (Text.number? r.2))) ||
    !isZeroPadded cs &&
      (within (Nat.pow 2 128) (Text.number? 10 unsigned) ||
        within (Nat.pow 2 127 + 1) ((strip? ['-'] cs).bind (Text.number? 10)))

def isFinite (coefficient : Nat) (exponent : Int) : Bool :=
  let digits := ((toString coefficient).length : Int)
  if coefficient = 0 || digits + exponent < 300 then true
  else if 310 < digits + exponent then false
  else
    -- the least number that rounds to infinity
    let bound := Nat.pow 2 1024 - Nat.pow 2 970
    coefficient * Nat.pow 10 exponent.toNat < bound * Nat.pow 10 (-exponent).toNat

def isUnsignedFloat (cs : List Char) : Bool :=
  let whole := cs.takeWhile (·.isDigit)
  let rest := cs.dropWhile (·.isDigit)
  let (fraction, rest) :=
    match rest with
    | '.' :: rest => (rest.takeWhile (·.isDigit), rest.dropWhile (·.isDigit))
    | rest => ([], rest)
  let exponent : Option Int :=
    match rest with
    | [] => some 0
    | c :: rest => if c = 'e' ∨ c = 'E' then Text.integer? rest else none
  match Text.number? 10 (whole ++ fraction), exponent with
  | some n, some e => isFinite n (e - fraction.length)
  | _, _ => false

def isFloat (cs : List Char) : Bool :=
  let unsigned := (strip? ['+'] cs).getD cs
  [".inf", ".Inf", ".INF"].any (·.toList == unsigned) ||
    ["-.inf", "-.Inf", "-.INF", ".nan", ".NaN", ".NAN"].any (·.toList == cs) ||
    isUnsignedFloat unsigned || ((strip? ['-'] cs).map isUnsignedFloat).getD false

/-- Whether an unquoted text would not, or not to every reader, be a string. -/
def isAmbiguous (cs : List Char) : Bool :=
  isNull cs || isBoolean cs || isInteger cs || isZeroPadded cs || isFloat cs

inductive Style
  | plain
  | singleQuoted
  | doubleQuoted
  | literal
deriving DecidableEq, Repr

def isBreak (c : Char) : Bool :=
  c == '\r' || c == '\n' || c == '\u0085' || c == '\u2028' || c == '\u2029'

def isBlankOrBreak (c : Char) : Bool := c == ' ' || c == '\t' || isBreak c || c == '\x00'

def isPrintable (c : Char) : Bool :=
  let n := c.toNat
  n == 0x0a || (0x20 ≤ n && n ≤ 0x7e) || (0xa0 ≤ n && n ≤ 0xd7ff) ||
    (0xe000 ≤ n && n ≤ 0xfffd && n != 0xfeff) || 0x10000 ≤ n

def indicators : List Char :=
  ['#', ',', '[', ']', '\x7b', '\x7d', '&', '*', '!', '|', '>', '\'', '"', '%', '@', '\x60']

def endsToken (cs : List Char) : Bool := cs.head?.all isBlankOrBreak

/-- Whether a plain scalar would be cut or taken for a mark after its first character; `blank` says
that a blank stands before. -/
def hasInnerMark (blank : Bool) : List Char → Bool
  | [] => false
  | c :: cs =>
    (c == ':' && endsToken cs) || (c == '#' && blank) || hasInnerMark (isBlankOrBreak c) cs

def hasMark (cs : List Char) : Bool :=
  ['-', '-', '-'].isPrefixOf cs || ['.', '.', '.'].isPrefixOf cs ||
    match cs with
    | [] => false
    | c :: cs =>
      indicators.contains c || ((c == '?' || c == ':' || c == '-') && endsToken cs) ||
        hasInnerMark (isBlankOrBreak c) cs

def hasPair (p q : Char → Bool) (cs : List Char) : Bool :=
  (cs.zip cs.tail).any fun (c, d) => p c && q d

def isSpace (c : Char) : Bool := c == ' '

def needsEscapes (cs : List Char) : Bool := cs.any (!isPrintable ·) || hasPair isSpace isBreak cs

def singleQuotedAllowed (cs : List Char) : Bool := !needsEscapes cs && !hasPair isBreak isSpace cs

def plainAllowed (cs : List Char) : Bool :=
  singleQuotedAllowed cs && !cs.any isBreak && !hasMark cs &&
    !cs.head?.any isSpace && !cs.getLast?.any isSpace

def literalAllowed (cs : List Char) : Bool :=
  !needsEscapes cs && !cs.getLast?.any isSpace

def style (cs : List Char) : Style :=
  if cs.contains '\n' then if literalAllowed cs then .literal else .doubleQuoted
  else if !isAmbiguous cs && plainAllowed cs then .plain
  else if singleQuotedAllowed cs then .singleQuoted
  else .doubleQuoted

def upperHex (width n : Nat) : List Char :=
  let digits := (Nat.toDigits 16 n).map Char.toUpper
  List.replicate (width - digits.length) '0' ++ digits

def escape (c : Char) : List Char :=
  match c with
  | '\x00' => ['\\', '0']
  | '\x07' => ['\\', 'a']
  | '\x08' => ['\\', 'b']
  | '\t' => ['\\', 't']
  | '\n' => ['\\', 'n']
  | '\x0b' => ['\\', 'v']
  | '\x0c' => ['\\', 'f']
  | '\r' => ['\\', 'r']
  | '\x1b' => ['\\', 'e']
  | '"' => ['\\', '"']
  | '\\' => ['\\', '\\']
  | '\u0085' => ['\\', 'N']
  | '\u2028' => ['\\', 'L']
  | '\u2029' => ['\\', 'P']
  | c =>
    if isPrintable c then [c]
    else if c.toNat ≤ 0xff then '\\' :: 'x' :: upperHex 2 c.toNat
    else if c.toNat ≤ 0xffff then '\\' :: 'u' :: upperHex 4 c.toNat
    else '\\' :: 'U' :: upperHex 8 c.toNat

def indentation (indent : Nat) : List Char := List.replicate indent ' '

/-- Text between single quotes. After a line break, and at the end if a break stands there, the
line is indented; `fresh` says that a break stands before. -/
def quoteSingle (indent : Nat) (fresh : Bool) : List Char → List Char
  | [] => if fresh then indentation indent else []
  | c :: cs =>
    if isBreak c then c :: quoteSingle indent true cs
    else
      (if fresh then indentation indent else []) ++
        (if c = '\'' then ['\'', '\''] else [c]) ++ quoteSingle indent false cs

def blockLines (indent : Nat) (fresh : Bool) : List Char → List Char
  | [] => []
  | c :: cs =>
    if isBreak c then c :: blockLines indent true cs
    else (if fresh then indentation indent else []) ++ c :: blockLines indent false cs

def blockHints (cs : List Char) : List Char :=
  (if cs.head?.any fun c => isSpace c || isBreak c then ['2'] else []) ++
    match cs.reverse with
    | c :: rest =>
      if !isBreak c then ['-']
      else if rest.head?.all isBreak then ['+'] else []
    | [] => ['-']

def scalar (indent : Nat) (cs : List Char) : List Char :=
  match style cs with
  | .plain => cs ++ ['\n']
  | .singleQuoted => '\'' :: quoteSingle indent false cs ++ ['\'', '\n']
  | .doubleQuoted => '"' :: cs.flatMap escape ++ ['"', '\n']
  | .literal =>
    '|' :: blockHints cs ++ '\n' :: blockLines indent true cs ++
      if cs.getLast?.any isBreak then [] else ['\n']

end PegGrammar.Yaml
