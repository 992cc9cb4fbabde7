/-!
Command lines. Options that every command knows may stand before and after its name. A value may be
joined to its option or follow it, several short options may share one hyphen, and two hyphens end
the options. A command line that breaks a rule is rejected as a whole.
-/

namespace PegGrammar.CommandLine

inductive OptionKind
  | value
  | count
  | version
  | help
deriving DecidableEq, Repr

structure OptionSpec where
  long : String
  short : Char
  kind : OptionKind
deriving DecidableEq, Repr

structure CommandSpec where
  options : List OptionSpec
  operands : Nat
  negativeNumbers : Bool
  commands : List String

def commonOptions : List OptionSpec :=
  [⟨"verbose", 'v', .count⟩, ⟨"config", 'c', .value⟩, ⟨"help", 'h', .help⟩]

def grammarOption : OptionSpec := ⟨"grammar", 'g', .value⟩

def programSpec : CommandSpec :=
  ⟨commonOptions ++ [⟨"version", 'V', .version⟩], 0, false, ["parse", "grammar", "formats", "help"]⟩

def parseSpec : CommandSpec :=
  ⟨commonOptions ++ [⟨"file", 'i', .value⟩, grammarOption, ⟨"rule", 'r', .value⟩,
    ⟨"format", 'f', .value⟩], 1, true, []⟩

def grammarSpec : CommandSpec := ⟨commonOptions ++ [grammarOption], 0, false, []⟩

def formatsSpec : CommandSpec := ⟨commonOptions, 0, false, []⟩

structure Given where
  values : List (String × String)
  operands : List String
  verbosity : Nat
  pending : Option String
  ended : Bool

namespace Given

def nothing : Given := ⟨[], [], 0, none, false⟩

def setValue (g : Given) (option value : String) : Option Given :=
  if (g.values.lookup option).isSome then none
  else some { g with values := g.values ++ [(option, value)], pending := none }

def addOperand (g : Given) (spec : CommandSpec) (operand : String) : Option Given :=
  if g.operands.length < spec.operands then some { g with operands := g.operands ++ [operand] }
  else none

end Given

inductive Progress
  | on (g : Given)
  | version
  | help

/-- Digits, with one point and one exponent mark allowed behind the first of them. -/
def isNumber (cs : List Char) : Bool :=
  let rec go (first point mark : Bool) : List Char → Bool
    | [] => true
    | c :: cs =>
      if c.isDigit then go false point mark cs
      else if c = '.' then !first && !point && !mark && go false true mark cs
      else if c = 'e' then !first && !mark && !cs.isEmpty && go false point true cs
      else false
  go true false false cs

def readOption (g : Given) (o : OptionSpec) (joined : Option String) : Option Progress :=
  if g.pending.isSome then none
  else
    match o.kind, joined with
    | .value, some v => (g.setValue o.long v).map .on
    | .value, none => some (.on { g with pending := some o.long })
    | .count, none => some (.on { g with verbosity := g.verbosity + 1 })
    | .version, none => some .version
    | .help, none => some .help
    | _, some _ => none

def readLong (spec : CommandSpec) (g : Given) (cs : List Char) : Option Progress := do
  let name := String.ofList (cs.takeWhile (· != '='))
  let joined := match cs.dropWhile (· != '=') with
    | _ :: value => some (String.ofList value)
    | [] => none
  let o ← spec.options.find? (·.long == name)
  readOption g o joined

def readShort (spec : CommandSpec) (g : Given) : List Char → Option Progress
  | [] => some (.on g)
  | c :: cs => do
    let o ← spec.options.find? (·.short == c)
    match o.kind, cs with
    | .value, [] => readOption g o none
    | .value, '=' :: value => readOption g o (some (String.ofList value))
    | .value, value => readOption g o (some (String.ofList value))
    | _, cs =>
      match ← readOption g o none with
      | .on g => readShort spec g cs
      | p => some p

def readPlain (spec : CommandSpec) (g : Given) (arg : String) : Option Progress :=
  match g.pending with
  | some option => (g.setValue option arg).map .on
  | none => (g.addOperand spec arg).map .on

def readArgument (spec : CommandSpec) (g : Given) (arg : String) : Option Progress :=
  if g.ended then (g.addOperand spec arg).map .on
  else
    match arg.toList with
    | ['-', '-'] => if g.pending.isSome then none else some (.on { g with ended := true })
    | '-' :: '-' :: cs => readLong spec g cs
    | '-' :: c :: cs =>
      let awaited := g.pending.isSome || g.operands.length < spec.operands
      if spec.negativeNumbers && awaited && isNumber (c :: cs) then readPlain spec g arg
      else readShort spec g (c :: cs)
    | _ => readPlain spec g arg

inductive Reading
  | done (g : Given)
  | command (g : Given) (name : String) (rest : List String)
  | version
  | help

def readArguments (spec : CommandSpec) (g : Given) : List String → Option Reading
  | [] => if g.pending.isSome then none else some (.done g)
  | arg :: rest =>
    if !g.ended && g.pending.isNone && spec.commands.contains arg then some (.command g arg rest)
    else do
      match ← readArgument spec g arg with
      | .on g => readArguments spec g rest
      | .version => some .version
      | .help => some .help

inductive Command
  | parse (input file grammar rule format : Option String)
  | grammar (grammar : Option String)
  | formats
deriving DecidableEq, Repr

structure Invocation where
  verbosity : Nat
  config : Option String
  command : Command
deriving DecidableEq, Repr

inductive Request
  | run (i : Invocation)
  | version
  | help
deriving DecidableEq, Repr

def command? (name : String) (g : Given) : Option Command :=
  let value (option : String) : Option String := g.values.lookup option
  match name with
  | "parse" =>
    if g.operands.isEmpty == (value "file").isNone then none
    else some (.parse g.operands.head? (value "file") (value "grammar") (value "rule") (value "format"))
  | "grammar" => some (.grammar (value "grammar"))
  | "formats" => some .formats
  | _ => none

def commandSpec? : String → Option CommandSpec
  | "parse" => some parseSpec
  | "grammar" => some grammarSpec
  | "formats" => some formatsSpec
  | _ => none

/-- Reads the arguments of the program, unless they are to be rejected. What is said behind the name
of the command goes before what is said in front of it. -/
def Request.read? (args : List String) : Option Request := do
  match ← readArguments programSpec .nothing args with
  | .version => return .version
  | .help => return .help
  | .done _ => none
  | .command _ "help" rest =>
    if rest.isEmpty || rest.length == 1 && rest.all programSpec.commands.contains then return .help
    else none
  | .command outer name rest =>
    match ← readArguments (← commandSpec? name) .nothing rest with
    | .version => return .version
    | .help => return .help
    | .command .. => none
    | .done inner =>
      let verbosity := if inner.verbosity = 0 then outer.verbosity else inner.verbosity
      let config := (inner.values.lookup "config").orElse fun _ => outer.values.lookup "config"
      return .run ⟨verbosity, config, ← command? name inner⟩

end PegGrammar.CommandLine
