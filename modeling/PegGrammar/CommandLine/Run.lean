import PegGrammar.Catalog
import PegGrammar.CommandLine.Arguments
import PegGrammar.Format.Registry
import PegGrammar.Lambda.Grammar
import PegGrammar.Settings.Layers

/-!
What the program does with a command line: it parses a text with one of the ready-made grammars and
prints the result, lists the rules of a grammar, or lists the formats and grammars there are.
Something goes to the output only if nothing fails.
-/

namespace PegGrammar.CommandLine

inductive Failure
  | noParse
  | unknownGrammar (name : String)
  | unknownRule (name : String)
  | unreadable (file reason : String)
  | settings (e : Settings.Error)
  | format (e : FormatError)

def Failure.message : Failure → String
  | .noParse => "no parse"
  | .unknownGrammar name =>
    "Error: unknown grammar '" ++ name ++ "' (available: " ++ ", ".intercalate Catalog.names ++ ")"
  | .unknownRule name => s!"Error: grammar has no rule named '{name}'"
  | .unreadable file reason => s!"Error: error reading {file}: {reason}"
  | .settings e => s!"Error: configuration error: {e.message}"
  | .format e => s!"Error: {e.message}"

structure Exit where
  code : Nat
  stdout : String
  stderr : String
deriving DecidableEq, Repr

def localSettings : String := "parcom.toml"

def programName : String := "parcom"

def programVersion : String := "0.1.0"

def usage : String :=
  "Usage: " ++ programName ++ " [-v]... [-c FILE] COMMAND\n\n" ++
  "Commands:\n" ++
  "  parse INPUT | -i FILE  [-g GRAMMAR] [-r RULE] [-f FORMAT]\n" ++
  "  grammar  [-g GRAMMAR]\n" ++
  "  formats\n"

def recordLine (r : Record) : Option (LogLevel × String) :=
  r.line?.map fun (level, text) =>
    let mark := match level with
      | .warn => "WARN "
      | .debug => "DEBUG"
      | .trace => "TRACE"
    let part := match r with
      | .event _ => "combinator"
      | _ => "grammar"
    (level, "[" ++ mark ++ " " ++ programName ++ "::" ++ part ++ "] " ++ text ++ "\n")

def shows (verbosity : Nat) : LogLevel → Bool
  | .warn => true
  | .debug => 1 ≤ verbosity
  | .trace => 2 ≤ verbosity

def messages (verbosity : Nat) (log : List Record) : String :=
  String.join ((log.filterMap recordLine).filterMap fun (level, line) =>
    if shows verbosity level then some line else none)

/-- The settings of a command: the local file if there is one, the file named by `--config`, then
what the options of the command say. -/
def settings (files : Files) (config grammar rule format : Option String) :
    Except Settings.Error Settings := do
  let layers := Settings.Layers.builtin.withOptionalFile localSettings
  let layers := match config with
    | some name => layers.withFile name
    | none => layers
  let set (l : Settings.Layers) (key : String) (v : Option String) :=
    match v with
    | some s => l.withOverride key (.string s)
    | none => .ok l
  let layers ← set layers "parse.grammar" grammar
  let layers ← set layers "parse.rule" rule
  let layers ← set layers "output.format" format
  layers.build files

def render {V : Type} [Domain V] (g : Grammar V) (rule : Option String) (input : String)
    (output : Settings.OutputSettings) : Logged (Except Failure String) :=
  let rule := rule.getD g.root
  match g.rule? rule with
  | none => ⟨.error (.unknownRule rule), [g.builtRecord]⟩
  | some _ =>
    let r := g.parseRule rule input
    let log := g.builtRecord :: r.log
    match r.value with
    | none => ⟨.error .noParse, log⟩
    | some node =>
      let registry := FormatRegistry.builtin.register (.treeviz output.labelWidth)
      match registry.serialize output.format node.snapshot with
      | .ok text => ⟨.ok text, log⟩
      | .error e => ⟨.error (.format e), log⟩

def source (files : Files) (input file : Option String) : Except Failure String :=
  match file with
  | some name =>
    match (files name).read with
    | .ok text => .ok text
    | .error reason => .error (.unreadable name reason)
  | none => .ok (input.getD "")

def runParse (files : Files) (config input file grammar rule format : Option String) :
    Logged (Except Failure String) :=
  match settings files config grammar rule format with
  | .error e => ⟨.error (.settings e), []⟩
  | .ok s =>
    match source files input file with
    | .error e => ⟨.error e, []⟩
    | .ok text =>
      let text := s.parse.prepare text
      match s.parse.grammar with
      | "lambda" => render Lambda.grammar s.parse.rule text s.output
      | "number" => render Numeral.grammar s.parse.rule text s.output
      | name => ⟨.error (.unknownGrammar name), []⟩

def runGrammar (files : Files) (config grammar : Option String) : Logged (Except Failure String) :=
  match settings files config grammar none none with
  | .error e => ⟨.error (.settings e), []⟩
  | .ok s =>
    match s.parse.grammar with
    | "lambda" => ⟨.ok Lambda.grammar.display, [Lambda.grammar.builtRecord]⟩
    | "number" => ⟨.ok Numeral.grammar.display, [Numeral.grammar.builtRecord]⟩
    | name => ⟨.error (.unknownGrammar name), []⟩

def listing : String :=
  let entry (name description : String) : String := "  " ++ name ++ "\n    " ++ description ++ "\n"
  "Available output formats:\n\n" ++
    String.join (FormatRegistry.builtin.formats.map fun f => entry f.name f.description) ++
    "\nAvailable grammars:\n\n" ++
    String.join (Catalog.names.map fun name => entry name ((Catalog.describe? name).getD ""))

def runCommand (files : Files) (i : Invocation) : Logged (Except Failure String) :=
  match i.command with
  | .parse input file grammar rule format =>
    runParse files i.config input file grammar rule format
  | .grammar grammar => runGrammar files i.config grammar
  | .formats => ⟨.ok listing, []⟩

def runInvocation (files : Files) (i : Invocation) : Exit :=
  let r := runCommand files i
  let log := messages i.verbosity r.log
  match r.value with
  | .ok text => ⟨0, text, log⟩
  | .error e => ⟨1, "", log ++ e.message ++ "\n"⟩

def run (files : Files) (args : List String) : Exit :=
  match Request.read? args with
  | none => ⟨2, "", usage⟩
  | some .help => ⟨0, usage, ""⟩
  | some .version => ⟨0, programName ++ " " ++ programVersion ++ "\n", ""⟩
  | some (.run i) => runInvocation files i

def fileNames (args : List String) : List String :=
  match Request.read? args with
  | some (.run i) =>
    Settings.Layers.candidates localSettings ++
      (i.config.map Settings.Layers.candidates).getD [] ++
      match i.command with
      | .parse _ (some file) _ _ _ => [file]
      | _ => []
  | _ => []

end PegGrammar.CommandLine
