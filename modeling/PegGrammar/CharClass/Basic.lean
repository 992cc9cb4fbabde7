import PegGrammar.CharClass.Pattern.Reader

/-!
Character classes: what one character of a text may be. A class is a range, a list of characters
or a bracket expression, which is read once when the class is made.

`closesEarly` looks for a `]` that would end the brackets before the end of the text between them;
such a text is refused before it is read.
-/

namespace PegGrammar

/-- Whether an unescaped `]` in `cs` stands outside the brackets opened there. `first` says that
nothing stands before `cs`, where a `]` is plain; `escaped` that a backslash does. -/
def CharClass.closesBefore : (first escaped : Bool) → (depth : Nat) → List Char → Bool
  | _, _, _, [] => false
  | _, true, depth, _ :: cs => closesBefore false false depth cs
  | first, false, depth, c :: cs =>
    if c = '\\' then closesBefore false true depth cs
    else if c = '[' then closesBefore false false (depth + 1) cs
    else if c = ']' then
      if first then closesBefore false false depth cs
      else
        match depth with
        | 0 => true
        | depth + 1 => closesBefore false false depth cs
    else closesBefore false false depth cs

def CharClass.closesEarly (body : List Char) : Bool :=
  closesBefore true false 0 (match body with | '^' :: cs => cs | cs => cs)

inductive CharClass
  | range (first last : Char)
  | listed (members : List Char)
  | bracket (source : String) (pattern : CharClass.Pattern)
deriving Inhabited

namespace CharClass

inductive Error
  | closesEarly (source : String)
  | malformed (source : String) (fault : PatternFault)
deriving DecidableEq, Repr

def PatternFault.message : PatternFault → String
  | .unclosed => "the text ends inside the class"
  | .unknownEscape => "a backslash stands before a character it does not go with"
  | .badCodePoint => "no character has that code point"
  | .unknownProperty => "no property has that name"
  | .notACharacter => "a range or an item is not a character"
  | .reversedRange => "a range ends before it starts"
  | .notAscii => "more than ASCII characters where Unicode is off"
  | .tooDeep => "parts are nested too deep"
  | .tooLarge => "repetitions are too large"
  | .badFlags => "flags are not well formed"
  | .badGroup => "a group is not well formed"
  | .badRepetition => "a repetition is not well formed"

def Error.message : Error → String
  | .closesEarly source =>
    s!"invalid character class [{source}]: unescaped ']' ends the class early"
  | .malformed source fault => s!"invalid character class [{source}]: {fault.message}"

def oneOf (members : String) : CharClass := .listed members.toList

def ofBracket (source : String) : Except Error CharClass :=
  if closesEarly source.toList then .error (.closesEarly source)
  else
    match Pattern.onBracket source.toList with
    | .ok pattern => .ok (.bracket source pattern)
    | .error fault => .error (.malformed source fault)

def accepts : CharClass → Char → Bool
  | .range first last, c => first ≤ c && c ≤ last
  | .listed members, c => members.contains c
  | .bracket _ pattern, c => pattern.occursIn c

def displayMember (c : Char) : List Char :=
  if c = ']' ∨ c = '\\' ∨ c = '^' ∨ c = '-' then ['\\', c] else [c]

def display : CharClass → String
  | .range first last => String.ofList ['[', first, '-', last, ']']
  | .listed members => String.ofList ('[' :: members.flatMap displayMember ++ [']'])
  | .bracket source _ => "[" ++ source ++ "]"

end CharClass

end PegGrammar
