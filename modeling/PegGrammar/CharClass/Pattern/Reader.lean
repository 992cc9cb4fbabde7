import PegGrammar.CharClass.Bracket
import PegGrammar.CharClass.Pattern.Size

/-!
Reading patterns. `onBracket` puts one bracket expression between the anchors. Where it closes
before the end of its text, what follows is pattern text like any other, so everything that a
pattern can be is read here; flags change the `Mode` from where they stand to the end of the group.
-/

namespace PegGrammar.CharClass

namespace Pattern

def lineBreaks (m : Mode) : Unicode.Property :=
  if m.returnBreaks then [⟨#[10, 11, 13, 14]⟩] else [⟨#[10, 11]⟩]

def dot (m : Mode) : Except PatternFault Pattern :=
  if !m.unicode then .error .notAscii
  else if m.dotMatchesBreaks then .ok (.one .any)
  else .ok (.one (.property (lineBreaks m) .exact true))

def lineStart (m : Mode) : Pattern :=
  .anchor .any (if m.byLine then .property (lineBreaks m) .exact false else .empty)

def lineEnd (m : Mode) : Pattern :=
  .anchor (if m.byLine then .property (lineBreaks m) .exact false else .empty) .any

def word (m : Mode) (negated : Bool) : SetExpr :=
  .property (if m.unicode then Unicode.wordCharacter else asciiClass "word") .exact negated

def wordAnchor? (m : Mode) : String → Option Pattern
  | "start" => some (.anchor (word m false) .empty)
  | "end" => some (.anchor .empty (word m false))
  | "start-half" => some (.anchor .any (word m true))
  | "end-half" => some (.anchor (word m true) .any)
  | _ => none

def isNamePart (c : Char) : Bool := c.isAlpha || c == '-'

/-- Reads the rest of an assertion whose letter is given. Braces after `\b` that do not start with
a letter are a repetition, and left to be read as such. -/
def assertion (m : Mode) (c : Char) (rest : List Char) :
    Except PatternFault (Pattern × List Char) :=
  match c, rest with
  | 'A', _ => .ok (.anchor .any .empty, rest)
  | 'z', _ => .ok (.anchor .empty .any, rest)
  | 'B', _ => .ok (.anchor (word m true) (word m true), rest)
  | '<', _ => .ok (.anchor (word m false) .empty, rest)
  | '>', _ => .ok (.anchor .empty (word m false), rest)
  | _, '\x7b' :: name =>
    if ((m.skip name).head?.map isNamePart).getD false then
      match m.upToBrace? false name with
      | some (name, rest) =>
        match wordAnchor? m (String.ofList name) with
        | some p => .ok (p, rest)
        | none => .error .unknownEscape
      | none => .error .unclosed
    else .ok (.anchor (word m false) (word m false), rest)
  | _, _ => .ok (.anchor (word m false) (word m false), rest)

def count? (cs : List Char) : Option Nat :=
  let cs := cs.dropWhile isBlank
  if (cs.dropWhile (·.isDigit)).all isBlank then
    (Text.number? 10 (cs.takeWhile (·.isDigit))).filter (· < Nat.pow 2 32)
  else none

def bounds? (cs : List Char) : Option (Nat × Option Nat) := do
  let min ← count? (cs.takeWhile (· != ','))
  match cs.dropWhile (· != ',') with
  | [] => return (min, some min)
  | [_] => return (min, none)
  | _ :: cs =>
    let max ← count? cs
    if min ≤ max then return (min, some max) else none

def readRepetition (m : Mode) :
    Nat → Pattern → List Char → Except PatternFault (Pattern × List Char)
  | 0, p, cs => .ok (p, cs)
  | fuel + 1, p, cs =>
    let lazily (rest : List Char) : List Char := if rest.head? == some '?' then rest.tail else rest
    match m.skip cs with
    | '*' :: rest => readRepetition m fuel (.repeated p 0 none) (lazily rest)
    | '+' :: rest => readRepetition m fuel (.repeated p 1 none) (lazily rest)
    | '?' :: rest => readRepetition m fuel (.repeated p 0 (some 1)) (lazily rest)
    | '\x7b' :: rest =>
      match m.upToBrace? false rest with
      | none => .error .unclosed
      | some (bounds, rest) =>
        match bounds? bounds with
        | none => .error .badRepetition
        | some (min, max) => readRepetition m fuel (.repeated p min max) (lazily (m.skip rest))
    | cs => .ok (p, cs)

def isGroupName : List Char → Bool
  | [] => false
  | c :: cs =>
    (c == '_' || Unicode.alphabetic.holds c) &&
      cs.all fun c => ['_', '.', '[', ']'].contains c || Unicode.alphanumeric.holds c

inductive GroupMark
  | opening (kind : GroupKind) (inside : Mode)
  | flags (after : Mode)

def readGroupMark (m : Mode) (cs : List Char) : Except PatternFault (GroupMark × List Char) :=
  let named (cs : List Char) : Except PatternFault (GroupMark × List Char) :=
    let name := cs.takeWhile (· != '>')
    match cs.dropWhile (· != '>') with
    | _ :: rest => if isGroupName name then .ok (.opening (.named name) m, rest) else .error .badGroup
    | [] => .error .badGroup
  match cs with
  | '?' :: 'P' :: '<' :: rest => named rest
  | '?' :: '<' :: rest => named rest
  | '?' :: rest =>
    let isFlag (c : Char) : Bool := c != ':' && c != ')'
    match m.afterFlags? (rest.takeWhile isFlag), rest.dropWhile isFlag with
    | some after, ':' :: cs => .ok (.opening .plain after, cs)
    | some after, ')' :: cs =>
      if rest.head? = some ')' then .error .badRepetition else .ok (.flags after, cs)
    | _, _ => .error .badFlags
  | cs => .ok (.opening .numbered m, cs)

def append : Option Pattern → Pattern → Pattern
  | none, q => q
  | some p, q => .seq p q

/-- Reads alternatives up to a closing parenthesis or the end; `choices` are those before the
current one, `parts` is what the current one has so far. Flags hold across the alternatives. -/
def readAlternatives :
    Nat → Mode → Option Pattern → Option Pattern → List Char →
      Except PatternFault (Pattern × List Char)
  | 0, _, _, _, _ => .error .badGroup
  | fuel + 1, m, choices, parts, cs =>
    let choice : Pattern := parts.getD .empty
    let finished : Pattern := (choices.map (.alt · choice)).getD choice
    let continueWith (p : Pattern) (rest : List Char) := do
      let (p, rest) ← readRepetition m rest.length p rest
      readAlternatives fuel m choices (some (append parts p)) rest
    match m.skip cs with
    | [] => .ok (finished, [])
    | ')' :: rest => .ok (finished, ')' :: rest)
    | '|' :: rest => readAlternatives fuel m (some finished) none rest
    | '(' :: rest => do
      match ← readGroupMark m (m.skip rest) with
      | (.flags after, rest) =>
        readAlternatives fuel after choices (some (append parts .empty)) rest
      | (.opening kind inside, rest) =>
        let (body, rest) ← readAlternatives fuel inside none none rest
        match rest with
        | ')' :: rest => continueWith (.group kind body) rest
        | _ => .error .badGroup
    | '[' :: rest => do
      let (s, rest) ← readBracket m rest
      continueWith (.one s) rest
    | '.' :: rest => do continueWith (← dot m) rest
    | '^' :: rest => continueWith (lineStart m) rest
    | '$' :: rest => continueWith (lineEnd m) rest
    | '*' :: _ | '+' :: _ | '?' :: _ | '\x7b' :: _ => .error .badRepetition
    | '\\' :: rest => do
      match ← readEscape m rest with
      | (.char c, rest) => continueWith (.one (.range c c m.casing)) rest
      | (.set s, rest) => continueWith (.one s) rest
      | (.assertion c, rest) =>
        let (p, rest) ← assertion m c rest
        continueWith p rest
    | c :: rest => continueWith (.one (.range c c m.casing)) rest

def maxDepth : Nat := 250

def read (cs : List Char) : Except PatternFault Pattern := do
  let (p, rest) ← readAlternatives (cs.length + 1) {} none none cs
  if !rest.isEmpty ∨ ¬p.groupNames.Nodup then .error .badGroup
  else if maxDepth < p.depth then .error .tooDeep
  else if p.isTooLarge then .error .tooLarge
  else .ok p

def onBracket (body : List Char) : Except PatternFault Pattern :=
  read ('^' :: '[' :: body ++ [']', '$'])

end Pattern

end PegGrammar.CharClass
