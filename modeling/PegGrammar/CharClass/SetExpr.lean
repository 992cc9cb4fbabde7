import PegGrammar.Unicode.Case

/-!
Set expressions: what a bracket expression denotes. `contains` is their meaning, one character at
a time; every operator is pointwise, so the laws of sets are laws of `Bool`.
-/

namespace PegGrammar.CharClass

inductive Casing
  | exact
  | ascii
  | unicode
deriving DecidableEq, Repr

def Casing.variants : Casing → Char → List Char
  | .exact, c => [c]
  | .ascii, c => [c.toLower, c.toUpper]
  | .unicode, c => Unicode.caseVariants c

inductive SetOp
  | inter
  | diff
  | symmDiff
deriving DecidableEq, Repr

def SetOp.apply : SetOp → Bool → Bool → Bool
  | .inter, a, b => a && b
  | .diff, a, b => a && !b
  | .symmDiff, a, b => a != b

inductive SetExpr
  | empty
  | range (first last : Char) (casing : Casing)
  | property (sets : Unicode.Property) (casing : Casing) (negated : Bool)
  | nested (body : SetExpr) (negated : Bool)
  | union (left right : SetExpr)
  | op (kind : SetOp) (left right : SetExpr)
deriving Inhabited, BEq

namespace SetExpr

def any : SetExpr := .property [] .exact true

def contains : SetExpr → Char → Bool
  | .empty, _ => false
  | .range first last casing, c => (casing.variants c).any fun d => first ≤ d && d ≤ last
  | .property sets casing negated, c => (casing.variants c).any sets.holds != negated
  | .nested body negated, c => body.contains c != negated
  | .union left right, c => left.contains c || right.contains c
  | .op kind left right, c => kind.apply (left.contains c) (right.contains c)

mutual

def depth : SetExpr → Nat
  | .empty | .range .. | .property .. => 0
  | .nested body _ => body.depth + 1
  | .union left right => max left.itemDepth right.depth + 1
  | .op _ left right => max left.depth right.depth + 1

def itemDepth : SetExpr → Nat
  | .union left right => max left.itemDepth right.depth
  | .empty | .range .. | .property .. => 0
  | .nested body _ => body.depth + 1
  | .op _ left right => max left.depth right.depth + 1

end

end SetExpr

/-!
Modes: what the flags of a pattern have switched on where a part of it is read. Most flags change
what the parts stand for. The verbose flag changes how the text is read: blanks stand for nothing,
and neither does the rest of a line from a `#` on.
-/

inductive PatternFault
  | unclosed
  | unknownEscape
  | badCodePoint
  | unknownProperty
  | notACharacter
  | reversedRange
  | notAscii
  | tooDeep
  | tooLarge
  | badFlags
  | badGroup
  | badRepetition
deriving DecidableEq, Repr

structure Mode where
  anyCase : Bool := false
  byLine : Bool := false
  dotMatchesBreaks : Bool := false
  returnBreaks : Bool := false
  unicode : Bool := true
  verbose : Bool := false
deriving DecidableEq, Repr

def isBlank (c : Char) : Bool := Unicode.whiteSpace.holds c

namespace Mode

def casing (m : Mode) : Casing :=
  if m.anyCase then if m.unicode then .unicode else .ascii else .exact

def set? (value : Bool) (m : Mode) : Char → Option Mode
  | 'i' => some { m with anyCase := value }
  | 'm' => some { m with byLine := value }
  | 's' => some { m with dotMatchesBreaks := value }
  | 'R' => some { m with returnBreaks := value }
  | 'u' => some { m with unicode := value }
  | 'x' => some { m with verbose := value }
  | 'U' => some m
  | _ => none

/-- The mode that a text of flags leads to. Those behind a hyphen are turned off; no character
stands twice, and a hyphen does not stand last. -/
def afterFlags? (m : Mode) (flags : List Char) : Option Mode :=
  if flags.Nodup ∧ flags.getLast? ≠ some '-' then do
    let on ← (flags.takeWhile (· != '-')).foldlM (set? true) m
    ((flags.dropWhile (· != '-')).drop 1).foldlM (set? false) on
  else none

def dropBlanks : (comment : Bool) → List Char → List Char
  | _, [] => []
  | true, c :: cs => dropBlanks (c != '\n') cs
  | false, c :: cs =>
    if isBlank c then dropBlanks false cs
    else if c = '#' then dropBlanks true cs
    else c :: cs

def skip (m : Mode) (cs : List Char) : List Char := if m.verbose then dropBlanks false cs else cs

/-- The character that decides what a hyphen in front of the text is. A comment is looked into,
unlike where a text is read. -/
def peek (m : Mode) (cs : List Char) : Option Char :=
  if m.verbose then
    match cs.dropWhile isBlank with
    | '#' :: cs => (cs.dropWhile isBlank).head?
    | cs => cs.head?
  else cs.head?

def take? (m : Mode) : Nat → List Char → Option (List Char × List Char)
  | 0, cs => some ([], cs)
  | n + 1, cs =>
    match m.skip cs with
    | [] => none
    | c :: cs => (m.take? n cs).map fun p => (c :: p.1, p.2)

def upToBrace? (m : Mode) : (comment : Bool) → List Char → Option (List Char × List Char)
  | _, [] => none
  | true, c :: cs => m.upToBrace? (c != '\n') cs
  | false, c :: cs =>
    if c = '\x7d' then some ([], cs)
    else if m.verbose && isBlank c then m.upToBrace? false cs
    else if m.verbose && c == '#' then m.upToBrace? true cs
    else (m.upToBrace? false cs).map fun p => (c :: p.1, p.2)

end Mode

end PegGrammar.CharClass
