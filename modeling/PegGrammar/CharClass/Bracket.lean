import PegGrammar.CharClass.SetExpr
import PegGrammar.Text

/-!
Bracket expressions: the notation for sets of characters between `[` and `]`. Items stand side by
side for their union, a leading `^` negates, brackets nest, and `&&`, `--` and `~~` join what is
on their left with what is on their right, all three with the same weight and weaker than union.

A `]` right after the opening bracket is an item, and so is the character after the hyphen of a
range, whatever it is. Where Unicode is off, sets hold ASCII characters only, so that nothing can
be negated there.
-/

namespace PegGrammar.CharClass

inductive Atom
  | char (c : Char)
  | set (s : SetExpr)
  | assertion (c : Char)

def isEscapable (c : Char) : Bool := c.toNat < 128 && !c.isAlphanum && c != '<' && c != '>'

def codePoint? (ds : List Char) : Except PatternFault Char :=
  match (Text.number? 16 ds).bind Text.scalar? with
  | some c => .ok c
  | none => .error .badCodePoint

/-- The code point after `\x`, `\u` or `\U`: so many digits, or any number of them in braces. Two
digits are a byte where Unicode is off, and only the ASCII ones are characters. -/
def readCodePoint (m : Mode) (count : Nat) (cs : List Char) :
    Except PatternFault (Atom × List Char) :=
  match m.skip cs with
  | '\x7b' :: cs =>
    match m.upToBrace? false cs with
    | none => .error .unclosed
    | some (ds, rest) => do return (.char (← codePoint? ds), rest)
  | cs =>
    match m.take? count cs with
    | none => .error .unclosed
    | some (ds, rest) => do
      let c ← codePoint? ds
      if count = 2 ∧ !m.unicode ∧ 128 ≤ c.toNat then .error .notAscii else return (.char c, rest)

def splitAt? (sep : List Char) : List Char → Option (List Char × List Char)
  | [] => none
  | c :: cs =>
    if sep.isPrefixOf (c :: cs) then some ([], (c :: cs).drop sep.length)
    else (splitAt? sep cs).map fun p => (c :: p.1, p.2)

def namedProperty (m : Mode) (name : List Char) (negated : Bool) : Except PatternFault SetExpr :=
  let found :=
    match splitAt? ['!', '='] name with
    | some (key, value) => (Unicode.propertyValue? key value).map (·, !negated)
    | none =>
      match (splitAt? [':'] name).orElse fun _ => splitAt? ['='] name with
      | some (key, value) => (Unicode.propertyValue? key value).map (·, negated)
      | none => (Unicode.property? name).map (·, negated)
  match found with
  | some (sets, negated) =>
    if m.unicode then .ok (.property sets m.casing negated) else .error .notAscii
  | none => .error .unknownProperty

def readProperty (m : Mode) (negated : Bool) (cs : List Char) :
    Except PatternFault (Atom × List Char) :=
  match m.skip cs with
  | [] => .error .unclosed
  | '\x7b' :: cs =>
    match m.upToBrace? false cs with
    | none => .error .unclosed
    | some (name, rest) => do return (.set (← namedProperty m name negated), rest)
  | '\\' :: _ => .error .unknownProperty
  | c :: cs => do return (.set (← namedProperty m [c] negated), cs)

def asciiClass? : String → Option (List Nat)
  | "alnum" => some [48, 58, 65, 91, 97, 123]
  | "alpha" => some [65, 91, 97, 123]
  | "ascii" => some [0, 128]
  | "blank" => some [9, 10, 32, 33]
  | "cntrl" => some [0, 32, 127, 128]
  | "digit" => some [48, 58]
  | "graph" => some [33, 127]
  | "lower" => some [97, 123]
  | "print" => some [32, 127]
  | "punct" => some [33, 48, 58, 65, 91, 97, 123, 127]
  | "space" => some [9, 14, 32, 33]
  | "upper" => some [65, 91]
  | "word" => some [48, 58, 65, 91, 95, 96, 97, 123]
  | "xdigit" => some [48, 58, 65, 71, 97, 103]
  | _ => none

def asciiClass (name : String) : Unicode.Property := [⟨((asciiClass? name).getD []).toArray⟩]

def shorthand (m : Mode) (sets : Unicode.Property) (name : String) (negated : Bool) :
    Except PatternFault Atom :=
  if m.unicode then .ok (.set (.property sets .exact negated))
  else if negated then .error .notAscii
  else .ok (.set (.property (asciiClass name) .exact false))

def readEscape (m : Mode) : List Char → Except PatternFault (Atom × List Char)
  | [] => .error .unclosed
  | 'x' :: cs => readCodePoint m 2 cs
  | 'u' :: cs => readCodePoint m 4 cs
  | 'U' :: cs => readCodePoint m 8 cs
  | 'p' :: cs => readProperty m false cs
  | 'P' :: cs => readProperty m true cs
  | 'd' :: cs => return (← shorthand m Unicode.decimalDigit "digit" false, cs)
  | 'D' :: cs => return (← shorthand m Unicode.decimalDigit "digit" true, cs)
  | 's' :: cs => return (← shorthand m Unicode.whiteSpace "space" false, cs)
  | 'S' :: cs => return (← shorthand m Unicode.whiteSpace "space" true, cs)
  | 'w' :: cs => return (← shorthand m Unicode.wordCharacter "word" false, cs)
  | 'W' :: cs => return (← shorthand m Unicode.wordCharacter "word" true, cs)
  | 'a' :: cs => .ok (.char '\x07', cs)
  | 'f' :: cs => .ok (.char '\x0c', cs)
  | 't' :: cs => .ok (.char '\t', cs)
  | 'n' :: cs => .ok (.char '\n', cs)
  | 'r' :: cs => .ok (.char '\r', cs)
  | 'v' :: cs => .ok (.char '\x0b', cs)
  | c :: cs =>
    if isEscapable c then .ok (.char c, cs)
    else if ['A', 'z', 'b', 'B', '<', '>'].contains c then .ok (.assertion c, cs)
    else .error .unknownEscape

def readAtom (m : Mode) : List Char → Except PatternFault (Atom × List Char)
  | [] => .error .unclosed
  | '\\' :: cs => readEscape m cs
  | c :: cs => .ok (.char c, cs)

def charRange (m : Mode) (first last : Char) : Except PatternFault SetExpr :=
  if last < first then .error .reversedRange
  else if !m.unicode ∧ 128 ≤ last.toNat then .error .notAscii
  else .ok (.range first last m.casing)

def Atom.item (m : Mode) : Atom → Except PatternFault SetExpr
  | .char c => charRange m c c
  | .set s => .ok s
  | .assertion _ => .error .notACharacter

def Atom.range (m : Mode) : Atom → Atom → Except PatternFault SetExpr
  | .char first, .char last => charRange m first last
  | _, _ => .error .notACharacter

def readRange (m : Mode) (cs : List Char) : Except PatternFault (SetExpr × List Char) := do
  let (first, rest) ← readAtom m cs
  match m.skip rest with
  | [] => .error .unclosed
  | '-' :: rest =>
    if m.peek rest = some ']' ∨ m.peek rest = some '-' then return (← first.item m, '-' :: rest)
    else
      let (last, rest) ← readAtom m (m.skip rest)
      return (← first.range m last, rest)
  | rest => return (← first.item m, rest)

def readPosix? (m : Mode) : List Char → Option (Except PatternFault SetExpr × List Char)
  | ':' :: cs =>
    let negated := cs.head? == some '^'
    let cs := if negated then cs.tail else cs
    match cs.dropWhile (· != ':') with
    | ':' :: ']' :: rest =>
      (asciiClass? (String.ofList (cs.takeWhile (· != ':')))).map fun edges =>
        if negated && !m.unicode then (.error .notAscii, rest)
        else (.ok (.property [⟨edges.toArray⟩] m.casing negated), rest)
    | _ => none
  | _ => none

inductive Token
  | opening
  | closing
  | op (kind : SetOp)
  | item (s : SetExpr)

def nextToken (m : Mode) : List Char → Except PatternFault (Token × List Char)
  | '[' :: cs =>
    match readPosix? m cs with
    | some (s, rest) => return (.item (← s), rest)
    | none => .ok (.opening, cs)
  | ']' :: cs => .ok (.closing, cs)
  | '&' :: '&' :: cs => .ok (.op .inter, cs)
  | '-' :: '-' :: cs => .ok (.op .diff, cs)
  | '~' :: '~' :: cs => .ok (.op .symmDiff, cs)
  | cs => do let (s, rest) ← readRange m cs; return (.item s, rest)

/-- One bracket that is still open: the operator that waits for its right side, with its left
side, and the union of the items since. Only hyphens have been read while it is `fresh`. -/
structure Level where
  negated : Bool
  fresh : Bool
  pending : Option (SetOp × SetExpr)
  items : SetExpr

namespace Level

def add (l : Level) (s : SetExpr) : Level :=
  match l.items with
  | .empty => { l with items := s }
  | items => { l with items := .union items s }

def body (l : Level) : SetExpr :=
  match l.pending with
  | none => l.items
  | some (kind, left) => .op kind left l.items

def join (l : Level) (kind : SetOp) : Level :=
  { l with pending := some (kind, l.body), items := .empty }

def close (m : Mode) (l : Level) : Except PatternFault SetExpr :=
  if l.negated && !m.unicode then .error .notAscii else .ok (.nested l.body l.negated)

def start (m : Mode) (cs : List Char) : Level × List Char :=
  match m.skip cs with
  | '^' :: cs => (⟨true, true, none, .empty⟩, cs)
  | cs => (⟨false, true, none, .empty⟩, cs)

def takeLeading? (l : Level) : List Char → Option (Level × List Char)
  | '-' :: cs => if l.fresh then some (l.add (.range '-' '-' .exact), cs) else none
  | ']' :: cs =>
    if l.fresh && l.items == .empty then
      some ({ l.add (.range ']' ']' .exact) with fresh := false }, cs)
    else none
  | _ => none

end Level

/-- Reads tokens until the outermost open bracket is closed; `outer` holds the brackets around
`level`, innermost first. Every token takes a character, so `fuel` counts characters. -/
def readLevels (m : Mode) :
    Nat → List Level → Level → List Char → Except PatternFault (SetExpr × List Char)
  | 0, _, _, _ => .error .unclosed
  | fuel + 1, outer, level, cs =>
    match level.takeLeading? (m.skip cs) with
    | some (level, rest) => readLevels m fuel outer level rest
    | none => do
      let level := { level with fresh := false }
      let (token, rest) ← nextToken m (m.skip cs)
      match token with
      | .item s => readLevels m fuel outer (level.add s) rest
      | .op kind => readLevels m fuel outer (level.join kind) rest
      | .opening =>
        let (inner, rest) := Level.start m rest
        readLevels m fuel (level :: outer) inner rest
      | .closing =>
        let s ← level.close m
        match outer with
        | [] => return (s, rest)
        | l :: outer => readLevels m fuel outer (l.add s) rest

def readBracket (m : Mode) (cs : List Char) : Except PatternFault (SetExpr × List Char) :=
  let (level, rest) := Level.start m cs
  readLevels m (cs.length + 1) [] level rest

end PegGrammar.CharClass
