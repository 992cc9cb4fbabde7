import PegGrammar.Settings.Tree

/-!
The settings of the command line, and how they are taken from a tree of values. A setting accepts
values of other types that can stand for it: text accepts booleans and numbers, counts accept
booleans, floating-point numbers and text, and switches accept numbers and words.
-/

namespace PegGrammar.Settings

inductive Found
  | leaf (l : Leaf)
  | sequence
  | map
deriving Inhabited

inductive Error
  | missingFile (name : String)
  | unreadable (reason : String)
  | malformed (file : String)
  | path (e : PathError)
  | wrongType (found : Found) (expected key : String) (origin : Option String)
  | notRecord (found : Leaf) (record : String)
  | tooShort (length : Nat) (record : String) (fields : Nat)
  | missingField (name : String)
deriving Inhabited

def Found.describe : Found → String
  | .leaf .nil => "unit value"
  | .leaf (.boolean b) => s!"boolean `{b}`"
  | .leaf (.integer n) => s!"64-bit integer `{n}`"
  | .leaf (.float x) => "floating point `" ++ Decimal.positional x false ++ "`"
  | .leaf (.string s) => "string " ++ Text.quoteString s
  | .sequence => "sequence"
  | .map => "map"

def Leaf.describe : Leaf → String
  | .nil => "unit value"
  | .boolean b => s!"boolean `{b}`"
  | .integer n => s!"integer `{n}`"
  | .float x => "floating point `" ++ Decimal.positional x true ++ "`"
  | .string s => "string " ++ Text.quoteString s

def Error.message : Error → String
  | .missingFile name => "configuration file \"" ++ name ++ "\" not found"
  | .unreadable reason => reason
  | .malformed file => "not a TOML document in " ++ file
  | .path e => e.message
  | .wrongType found expected key origin =>
    s!"invalid type: {found.describe}, expected {expected} for key `{key}`" ++
      match origin with
      | some file => " in " ++ file
      | none => ""
  | .notRecord found record => s!"invalid type: {found.describe}, expected struct {record}"
  | .tooShort length record fields =>
    s!"invalid length {length}, expected struct {record} with {fields} elements"
  | .missingField name => s!"missing field `{name}`"

structure OutputSettings where
  format : String
  labelWidth : Nat
deriving DecidableEq, Repr

structure ParseSettings where
  grammar : String
  rule : Option String
  trimTrailingNewline : Bool
deriving DecidableEq, Repr

end Settings

structure Settings where
  output : Settings.OutputSettings
  parse : Settings.ParseSettings
deriving DecidableEq, Repr

namespace Settings

def trimLineEnd (text : String) : String :=
  match text.toList.reverse with
  | '\n' :: '\r' :: cs => String.ofList cs.reverse
  | '\n' :: cs => String.ofList cs.reverse
  | _ => text

def ParseSettings.prepare (s : ParseSettings) (text : String) : String :=
  if s.trimTrailingNewline then trimLineEnd text else text

/-- The whole number nearest to a floating-point number, halves away from zero, within 64 bits. -/
def roundToCount (x : Float) : Nat := x.round.toUInt64.toNat

namespace Value

def found : Value → Found
  | .leaf _ l => .leaf l
  | .array .. => .sequence
  | .table .. => .map

def mistyped {α : Type} (v : Value) (expected key : String) : Except Error α :=
  .error (.wrongType v.found expected key v.origin)

def toText (key : String) (v : Value) : Except Error String :=
  match v with
  | .leaf _ (.string s) => .ok s
  | .leaf _ (.boolean b) => .ok (if b then "true" else "false")
  | .leaf _ (.integer n) => .ok (toString n)
  | .leaf _ (.float x) => .ok (Decimal.positional x false)
  | _ => v.mistyped "a string" key

def toOptionalText (key : String) (v : Value) : Except Error (Option String) :=
  match v with
  | .leaf _ .nil => .ok none
  | v => (v.toText key).map some

def count? (s : String) : Option Nat :=
  let digits := match s.toList with
    | '+' :: cs => cs
    | cs => cs
  (Text.number? 10 digits).filter (· < Nat.pow 2 64)

def toCount (key : String) (v : Value) : Except Error Nat :=
  match v with
  | .leaf _ (.integer n) =>
    if 0 ≤ n then .ok n.toNat else v.mistyped "an unsigned 64 bit or less integer" key
  | .leaf _ (.boolean b) => .ok (if b then 1 else 0)
  | .leaf _ (.float x) => .ok (roundToCount x)
  | .leaf _ (.string s) =>
    let word := Unicode.lowercase s
    if ["true", "on", "yes"].contains word then .ok 1
    else if ["false", "off", "no"].contains word then .ok 0
    else
      match count? s with
      | some n => .ok n
      | none => v.mistyped "an integer" key
  | _ => v.mistyped "an integer" key

def toSwitch (key : String) (v : Value) : Except Error Bool :=
  match v with
  | .leaf _ (.boolean b) => .ok b
  | .leaf _ (.integer n) => .ok (n != 0)
  | .leaf _ (.float x) => .ok (x != 0.0)
  | .leaf origin (.string s) =>
    let word := Unicode.lowercase s
    if ["1", "true", "on", "yes"].contains word then .ok true
    else if ["0", "false", "off", "no"].contains word then .ok false
    else .error (.wrongType (.leaf (.string word)) "a boolean" key origin)
  | _ => v.mistyped "a boolean" key

def OutputSettings.ofEntries (es : Entries) : Except Error OutputSettings := do
  let format ← (es.lookup "format").mapM (toText "output.format")
  let labelWidth ← (es.lookup "label_width").mapM (toCount "output.label_width")
  match format, labelWidth with
  | none, _ => .error (.missingField "format")
  | _, none => .error (.missingField "label_width")
  | some format, some labelWidth => .ok ⟨format, labelWidth⟩

def OutputSettings.ofItems (items : List Value) : Except Error OutputSettings := do
  match items with
  | [] => .error (.tooShort 0 "OutputConfig" 2)
  | format :: items =>
    let format ← format.toText "output[0]"
    match items with
    | [] => .error (.tooShort 1 "OutputConfig" 2)
    | labelWidth :: _ => return ⟨format, ← labelWidth.toCount "output[1]"⟩

def toOutputSettings : Value → Except Error OutputSettings
  | .table _ es => OutputSettings.ofEntries es
  | .array _ items => OutputSettings.ofItems items
  | .leaf _ l => .error (.notRecord l "OutputConfig")

def ParseSettings.ofEntries (es : Entries) : Except Error ParseSettings := do
  let grammar ← (es.lookup "grammar").mapM (toText "parse.grammar")
  let rule ← (es.lookup "rule").mapM (toOptionalText "parse.rule")
  let trim ← (es.lookup "trim_trailing_newline").mapM (toSwitch "parse.trim_trailing_newline")
  match grammar, trim with
  | none, _ => .error (.missingField "grammar")
  | _, none => .error (.missingField "trim_trailing_newline")
  | some grammar, some trim => .ok ⟨grammar, rule.getD none, trim⟩

def ParseSettings.ofItems (items : List Value) : Except Error ParseSettings := do
  match items with
  | [] => .error (.tooShort 0 "ParseConfig" 3)
  | grammar :: items =>
    let grammar ← grammar.toText "parse[0]"
    match items with
    | [] => .error (.tooShort 2 "ParseConfig" 3)
    | rule :: items =>
      let rule ← rule.toOptionalText "parse[1]"
      match items with
      | [] => .error (.tooShort 2 "ParseConfig" 3)
      | trim :: _ => return ⟨grammar, rule, ← trim.toSwitch "parse[2]"⟩

def toParseSettings : Value → Except Error ParseSettings
  | .table _ es => ParseSettings.ofEntries es
  | .array _ items => ParseSettings.ofItems items
  | .leaf _ l => .error (.notRecord l "ParseConfig")

def toSettings (v : Value) : Except Error Settings := do
  let (_, es) := v.asTable
  let output ← (es.lookup "output").mapM toOutputSettings
  let parse ← (es.lookup "parse").mapM toParseSettings
  match output, parse with
  | none, _ => .error (.missingField "output")
  | _, none => .error (.missingField "parse")
  | some output, some parse => .ok ⟨output, parse⟩

end Value

end Settings

end PegGrammar
