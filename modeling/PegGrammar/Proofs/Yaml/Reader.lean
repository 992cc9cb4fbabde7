import Mathlib.Data.List.DropRight
import PegGrammar.Yaml

/-!
A reader of YAML in block style: mappings, sequences and scalars of all styles but the folded one.
Of flow collections only the empty sequence is read. Line breaks are those of YAML 1.1; a line or
paragraph separator stays what it is, any other break reads as a line feed. What an unquoted scalar
stands for is decided by its text.

The reader moves from token to token and knows the column of the token it stands at. Collections are
told apart by the columns of their keys and hyphens; the items of a sequence may stand at the column
of the key in front of it.
-/

namespace PegGrammar.Yaml

inductive Tree
  | null
  | boolean (b : Bool)
  | number (written : String)
  | text (s : String)
  | sequence (items : List Tree)
  | mapping (entries : List (String × Tree))

/-- What stands at a place: a value, and the column and the text of the token behind it. -/
abbrev Read (α : Type) := α × ℕ × List Char

section Tokens

def isReadable (c : Char) : Bool :=
  let n := c.toNat
  n == 0x09 || n == 0x0a || n == 0x0d || (0x20 ≤ n && n ≤ 0x7e) || n == 0x85 ||
    (0xa0 ≤ n && n ≤ 0xd7ff) || (0xe000 ≤ n && n ≤ 0xfffd && n != 0xfeff) || 0x10000 ≤ n

def isBlank (c : Char) : Bool := c == ' ' || c == '\t'

def breakText (c : Char) : Char := if c = '\u2028' ∨ c = '\u2029' then c else '\n'

def nextToken (column : ℕ) : List Char → ℕ × List Char
  | [] => (0, [])
  | c :: cs =>
    if c = ' ' then nextToken (column + 1) cs
    else if isBreak c then nextToken 0 cs
    else (column, c :: cs)

def endLine? (cs : List Char) : Option (ℕ × List Char) :=
  match cs.dropWhile isBlank with
  | [] => some (0, [])
  | c :: rest => if isBreak c then some (nextToken 0 rest) else none

def startsItem (cs : List Char) : Bool := cs.head? == some '-' && endsToken cs.tail

end Tokens

section Plain

def reserved : List Char :=
  [',', '[', ']', '\x7b', '\x7d', '#', '&', '*', '!', '|', '>', '\'', '"', '%', '@', '\x60']

def startsPlain : List Char → Bool
  | [] => false
  | c :: cs =>
    !isBlankOrBreak c && !reserved.contains c &&
      !((c == '-' || c == '?' || c == ':') && endsToken cs)

/-- Plain text goes on to the end of the line, to a colon that ends a key, or to a comment; `blank`
says that a blank stands before. -/
def readPlain (blank : Bool) : List Char → List Char × List Char
  | [] => ([], [])
  | c :: cs =>
    if isBreak c || c == ':' && endsToken cs || c == '#' && blank then ([], c :: cs)
    else
      let (text, rest) := readPlain (isBlankOrBreak c) cs
      (c :: text, rest)

def trimBlanks (cs : List Char) : List Char := cs.rdropWhile isBlank

def nullWords : List String := ["", "~", "null", "Null", "NULL"]

def trueWords : List String := ["true", "True", "TRUE"]

def falseWords : List String := ["false", "False", "FALSE"]

def isDecimal (cs : List Char) : Bool :=
  (Text.integer? cs).any fun n => -Int.pow 2 127 ≤ n ∧ n < Int.pow 2 128

def resolve (cs : List Char) : Tree :=
  if nullWords.any (·.toList == cs) then .null
  else if trueWords.any (·.toList == cs) then .boolean true
  else if falseWords.any (·.toList == cs) then .boolean false
  else if isDecimal cs || isInteger cs || isFloat cs then .number (String.ofList cs)
  else .text (String.ofList cs)

def key? (cs : List Char) : Option (String × List Char) :=
  if startsPlain cs then
    match readPlain false cs with
    | (text, ':' :: rest) => some (String.ofList (trimBlanks text), rest)
    | _ => none
  else none

end Plain

section Quoted

/-- What has been passed since the last character of quoted text: blanks on one line, or line breaks
and the blanks around them. -/
structure Gap where
  blanks : List Char
  breaks : List Char

def Gap.empty : Gap := ⟨[], []⟩

def Gap.text (g : Gap) : List Char :=
  match g.breaks with
  | [] => g.blanks
  | ['\n'] => [' ']
  | '\n' :: breaks => breaks
  | breaks => breaks

def readSingle (g : Gap) (quote : Bool) : List Char → Option (List Char × List Char)
  | [] => if quote then some (g.text, []) else none
  | c :: cs =>
    if quote then
      if c = '\'' then (readSingle .empty false cs).map fun p => (g.text ++ c :: p.1, p.2)
      else some (g.text, c :: cs)
    else if c = '\'' then readSingle g true cs
    else if isBreak c then readSingle ⟨[], g.breaks ++ [breakText c]⟩ false cs
    else if isBlank c then
      readSingle (if g.breaks.isEmpty then ⟨g.blanks ++ [c], []⟩ else g) false cs
    else (readSingle .empty false cs).map fun p => (g.text ++ c :: p.1, p.2)

def readCode? (width : ℕ) (cs : List Char) : Option (Char × List Char) :=
  if cs.length < width then none
  else do
    let n ← Text.number? 16 (cs.take width)
    return (← Text.scalar? n, cs.drop width)

def readEscape? : List Char → Option (Char × List Char)
  | '0' :: cs => some ('\x00', cs)
  | 'a' :: cs => some ('\x07', cs)
  | 'b' :: cs => some ('\x08', cs)
  | 't' :: cs => some ('\t', cs)
  | 'n' :: cs => some ('\n', cs)
  | 'v' :: cs => some ('\x0b', cs)
  | 'f' :: cs => some ('\x0c', cs)
  | 'r' :: cs => some ('\r', cs)
  | 'e' :: cs => some ('\x1b', cs)
  | ' ' :: cs => some (' ', cs)
  | '"' :: cs => some ('"', cs)
  | '/' :: cs => some ('/', cs)
  | '\\' :: cs => some ('\\', cs)
  | 'N' :: cs => some ('\u0085', cs)
  | '_' :: cs => some ('\u00a0', cs)
  | 'L' :: cs => some ('\u2028', cs)
  | 'P' :: cs => some ('\u2029', cs)
  | 'x' :: cs => readCode? 2 cs
  | 'u' :: cs => readCode? 4 cs
  | 'U' :: cs => readCode? 8 cs
  | _ => none

def readDouble : ℕ → List Char → Option (List Char × List Char)
  | 0, _ | _, [] => none
  | fuel + 1, c :: cs =>
    if c = '"' then some ([], cs)
    else if c = '\\' then do
      let (c, cs) ← readEscape? cs
      let (text, rest) ← readDouble fuel cs
      return (c :: text, rest)
    else if isBreak c then none
    else (readDouble fuel cs).map fun p => (c :: p.1, p.2)

end Quoted

section Block

inductive Chomp
  | clip
  | strip
  | keep

def Chomp.apply (text : List Char) : Chomp → List Char
  | keep => text
  | strip => text.rdropWhile isBreak
  | clip =>
    match text.rdropWhile isBreak with
    | [] => []
    | c :: cs => text.take ((c :: cs).length + 1)

structure Hints where
  indent : Option ℕ
  chomp : Chomp

def readHints (h : Hints) : List Char → Option (Hints × List Char)
  | [] => some (h, [])
  | c :: cs =>
    if isBreak c then some (h, cs)
    else if isBlank c then readHints h cs
    else if c = '-' then readHints { h with chomp := .strip } cs
    else if c = '+' then readHints { h with chomp := .keep } cs
    else if c.isDigit && c != '0' then readHints { h with indent := some (c.toNat - '0'.toNat) } cs
    else none

def widest (column : ℕ) : List Char → ℕ
  | [] => column
  | c :: cs =>
    if c = ' ' then widest (column + 1) cs
    else if isBreak c then max column (widest 0 cs)
    else column

def Hints.indentation (h : Hints) (parent : ℕ) (cs : List Char) : ℕ :=
  match h.indent with
  | some n => parent + n
  | none => max (parent + 1) (widest 0 cs)

def readBlock (indent column : ℕ) : List Char → Read (List Char)
  | [] => ([], 0, [])
  | c :: cs =>
    if isBreak c then
      let (text, next) := readBlock indent 0 cs
      (breakText c :: text, next)
    else if column < indent then
      if c = ' ' then readBlock indent (column + 1) cs else ([], column, c :: cs)
    else
      let (text, next) := readBlock indent column cs
      (c :: text, next)

end Block

def readInline (parent : ℕ) : List Char → Option (Read Tree)
  | [] => none
  | c :: cs =>
    if c = '\'' then do
      let (text, rest) ← readSingle .empty false cs
      return (.text (String.ofList text), ← endLine? rest)
    else if c = '"' then do
      let (text, rest) ← readDouble (cs.length + 1) cs
      return (.text (String.ofList text), ← endLine? rest)
    else if c = '|' then do
      let (hints, rest) ← readHints ⟨none, .clip⟩ cs
      let (text, next) := readBlock (hints.indentation parent rest) 0 rest
      return (.text (String.ofList (hints.chomp.apply text)), next)
    else if c = '[' && cs.head? == some ']' then
      (endLine? cs.tail).map (.sequence [], ·)
    else if startsPlain (c :: cs) then
      let (text, rest) := readPlain false (c :: cs)
      (endLine? rest).map (resolve (trimBlanks text), ·)
    else none

mutual

def readNode : (fuel parent column : ℕ) → List Char → Option (Read Tree)
  | 0, _, _, _ => none
  | fuel + 1, parent, column, cs =>
    if startsItem cs then
      (readItems fuel column column cs).map fun p => (.sequence p.1, p.2)
    else if (key? cs).isSome then
      (readEntries fuel column column cs).map fun p => (.mapping p.1, p.2)
    else readInline parent cs

def readItems : (fuel column here : ℕ) → List Char → Option (Read (List Tree))
  | 0, _, _, _ => none
  | fuel + 1, column, here, cs =>
    if here = column && startsItem cs then do
      let (inner, rest) := nextToken (column + 1) cs.tail
      let (item, here, rest) ←
        if column < inner then readNode fuel column inner rest else some (.null, inner, rest)
      let (items, next) ← readItems fuel column here rest
      return (item :: items, next)
    else some ([], here, cs)

def readEntries : (fuel column here : ℕ) → List Char → Option (Read (List (String × Tree)))
  | 0, _, _, _ => none
  | fuel + 1, column, here, cs =>
    if here = column && !cs.isEmpty then do
      let (key, rest) ← key? cs
      let rest := rest.dropWhile isBlank
      let (value, here, rest) ←
        if rest.head?.all isBreak then
          let (inner, rest) := nextToken 0 rest
          if column < inner || inner == column && startsItem rest then
            readNode fuel column inner rest
          else some (.null, inner, rest)
        else readInline column rest
      let (entries, next) ← readEntries fuel column here rest
      return ((key, value) :: entries, next)
    else some ([], here, cs)

end

/-- The tree that a text stands for. Each step of the reader reads a character, so it cannot make
more of them than there are. -/
def read? (text : String) : Option Tree :=
  let cs := text.toList
  if cs.all isReadable then do
    let (column, start) := nextToken 0 cs
    let (tree, _, rest) ← readNode (2 * cs.length + 2) 0 column start
    if rest.isEmpty then some tree else none
  else none

end PegGrammar.Yaml
