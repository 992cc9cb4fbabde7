import PegGrammar.Unicode.Category
import PegGrammar.Unicode.BinaryProperty
import PegGrammar.Unicode.Script
import PegGrammar.Unicode.TextBreak

/-!
Properties of characters by name. Names are compared loosely: case, blanks, underscores, hyphens
and a leading `is` do not count. A property is given as sets of code points, of which it is the
union.
-/

namespace PegGrammar.Unicode

abbrev Property := List CodeSet

def Property.holds (p : Property) (c : Char) : Bool := p.any (·.contains c.toNat)

def looseName (name : List Char) : List Char :=
  let fold (cs : List Char) : List Char :=
    (cs.filter fun c => c.toNat < 128 && c != ' ' && c != '_' && c != '-').map Char.toLower
  match name with
  | i :: s :: rest =>
    if (i == 'i' || i == 'I') && (s == 's' || s == 'S') then
      -- `isc` names a property of its own, not the category `c`
      if fold rest = ['c'] then ['i', 's', 'c'] else fold rest
    else fold name
  | _ => fold name

def row? (table : List (List String × CodeSet)) (name : String) : Option Property :=
  (table.find? (·.1.contains name)).map ([·.2])

/-- The categories that a group of categories stands for, each by its short name. -/
def categoryGroup? : String → Option (List String)
  | "c" | "other" => some ["cc", "cf", "cn", "co"]
  | "l" | "letter" => some ["ll", "lm", "lo", "lt", "lu"]
  | "lc" | "casedletter" => some ["ll", "lt", "lu"]
  | "m" | "mark" | "combiningmark" => some ["mc", "me", "mn"]
  | "n" | "number" => some ["nd", "nl", "no"]
  | "p" | "punctuation" | "punct" => some ["pc", "pd", "pe", "pf", "pi", "po", "ps"]
  | "s" | "symbol" => some ["sc", "sk", "sm", "so"]
  | "z" | "separator" => some ["zl", "zp", "zs"]
  | _ => none

def categoryUnion (names : List String) : Property :=
  names.flatMap fun name => (row? categories name).getD []

def category? (name : String) : Option Property :=
  match name with
  | "any" => some [⟨#[0]⟩]
  | "ascii" => some [⟨#[0, 128]⟩]
  | "assigned" => some ((categories.filter (!·.1.contains "cn")).map (·.2))
  | _ => ((categoryGroup? name).map categoryUnion).orElse fun _ => row? categories name

/-- The characters that were assigned in a version of the standard or before it. -/
def assignedBy? (version : String) : Option Property :=
  (ages.findIdx? (·.1.contains version)).map fun i => (ages.take (i + 1)).map (·.2)

def property? (name : List Char) : Option Property :=
  let name := String.ofList (looseName name)
  let binary := if name = "cf" || name = "sc" || name = "lc" then none else row? binaryProperties name
  (binary.orElse fun _ => category? name).orElse fun _ => row? scripts name

def propertyValue? (name value : List Char) : Option Property :=
  let value := String.ofList (looseName value)
  match String.ofList (looseName name) with
  | "gc" | "generalcategory" => category? value
  | "sc" | "script" => row? scripts value
  | "scx" | "scriptextensions" => row? scriptExtensions value
  | "age" => assignedBy? value
  | "gcb" | "graphemeclusterbreak" => row? graphemeBreaks value
  | "wb" | "wordbreak" => row? wordBreaks value
  | "sb" | "sentencebreak" => row? sentenceBreaks value
  | _ => none

def decimalDigit : Property := categoryUnion ["nd"]

def whiteSpace : Property := (row? binaryProperties "whitespace").getD []

def graphemeExtend : Property := (row? binaryProperties "grext").getD []

def alphabetic : Property := (row? binaryProperties "alphabetic").getD []

def alphanumeric : Property := alphabetic ++ categoryUnion ["nd", "nl", "no"]

def wordCharacter : Property :=
  alphabetic ++ categoryUnion ["mc", "me", "mn", "nd", "pc"] ++
    (row? binaryProperties "joincontrol").getD []

def unprintable : Property := categoryUnion ["cc", "cf", "cn", "co", "zl", "zp", "zs"]

end PegGrammar.Unicode
