import PegGrammar.CommandLine.Run
import PegGrammar.Proofs.Lookup
import PegGrammar.Proofs.Settings.Layers

/-!
The command that parses a text. Its run goes through a chain of checks: the settings, the source,
the grammar, the rule, the parse and the format. The first check that fails decides how the run
ends, with a message and no output; if none fails, the output is the result in the format.
-/

namespace PegGrammar.CommandLine

open Settings (Call load)

structure ParseArguments where
  config : Option String
  input : Option String
  file : Option String
  grammar : Option String
  rule : Option String
  format : Option String

namespace ParseArguments

def calls (a : ParseArguments) : List Call :=
  .optionalFile localSettings :: (a.config.map .file).toList ++
    (a.grammar.map fun s => .override .grammar (.string s)).toList ++
    (a.rule.map fun s => .override .rule (.string s)).toList ++
    (a.format.map fun s => .override .format (.string s)).toList

def command (a : ParseArguments) : Command := .parse a.input a.file a.grammar a.rule a.format

end ParseArguments

structure ReadyGrammar where
  Value : Type
  domain : Domain Value
  grammar : Grammar Value

namespace ReadyGrammar

instance (g : ReadyGrammar) : Domain g.Value := g.domain

def find? : String → Option ReadyGrammar
  | "lambda" => some ⟨Lambda.Term, inferInstance, Lambda.grammar⟩
  | "number" => some ⟨Int64, inferInstance, Numeral.grammar⟩
  | _ => none

def parse? (g : ReadyGrammar) (rule text : String) : Option Snapshot :=
  (g.grammar.parseRule rule text).value.map Node.snapshot

def rule (g : ReadyGrammar) (s : Settings) : String := s.parse.rule.getD g.grammar.root

end ReadyGrammar

def output? (width : ℕ) (s : Snapshot) : String → Option String
  | "treeviz" => some (s.drawing width)
  | "json" => some s.jsonText
  | "yaml" => some s.yamlText
  | "value" => some (s.label ++ "\n")
  | _ => none

section Checks

variable (files : Files) (a : ParseArguments)

/-- The settings load, the source can be read, and this is the text to parse. -/
structure Prepared (s : Settings) (text : String) : Prop where
  settings : load files a.calls = .ok s
  source : ∃ source, text = s.parse.prepare source ∧
    (a.file = none ∧ a.input = some source ∨ ∃ name, a.file = some name ∧ files name = .text source)

structure Chosen (s : Settings) (text : String) (g : ReadyGrammar) : Prop
    extends Prepared files a s text where
  grammar : ReadyGrammar.find? s.parse.grammar = some g

structure Ruled (s : Settings) (text : String) (g : ReadyGrammar) : Prop
    extends Chosen files a s text g where
  rule : g.rule s ∈ g.grammar.ruleNames

structure Parsed (s : Settings) (text : String) (g : ReadyGrammar) (result : Snapshot) : Prop
    extends Ruled files a s text g where
  parse : g.parse? (g.rule s) text = some result

/-- How the chain of checks ends: at the first check that fails, or with an output. -/
inductive Ends : Except Failure String → Prop
  | settings {e : Settings.Error} (fails : load files a.calls = .error e) :
      Ends (.error (.settings e))
  | source {s : Settings} {name reason : String} (loads : load files a.calls = .ok s)
      (named : a.file = some name) (fails : (files name).read = .error reason) :
      Ends (.error (.unreadable name reason))
  | grammar {s : Settings} {text : String} (prepared : Prepared files a s text)
      (fails : ReadyGrammar.find? s.parse.grammar = none) :
      Ends (.error (.unknownGrammar s.parse.grammar))
  | rule {s : Settings} {text : String} {g : ReadyGrammar} (chosen : Chosen files a s text g)
      (fails : g.rule s ∉ g.grammar.ruleNames) :
      Ends (.error (.unknownRule (g.rule s)))
  | parse {s : Settings} {text : String} {g : ReadyGrammar} (ruled : Ruled files a s text g)
      (fails : g.parse? (g.rule s) text = none) :
      Ends (.error .noParse)
  | format {s : Settings} {text : String} {g : ReadyGrammar} {result : Snapshot}
      (parsed : Parsed files a s text g result)
      (fails : output? s.output.labelWidth result s.output.format = none) :
      Ends (.error (.format (.notFound s.output.format)))
  | output {s : Settings} {text out : String} {g : ReadyGrammar} {result : Snapshot}
      (parsed : Parsed files a s text g result)
      (written : output? s.output.labelWidth result s.output.format = some out) :
      Ends (.ok out)

end Checks

theorem foldlM_perform_option (k : Settings.Setting) (v : Option String) (l : Settings.Layers) :
    (v.map fun s => Call.override k (.string s)).toList.foldlM Call.perform l =
      match v with
      | some s => l.withOverride k.key (.string s)
      | none => .ok l := by
  cases v with
  | none => rfl
  | some s => simp [Call.perform]

theorem settings_eq_load (files : Files) (a : ParseArguments) :
    settings files a.config a.grammar a.rule a.format = load files a.calls := by
  have hgrammar : Settings.Setting.grammar.key = "parse.grammar" := rfl
  have hrule : Settings.Setting.rule.key = "parse.rule" := rfl
  have hformat : Settings.Setting.format.key = "output.format" := rfl
  obtain ⟨config, input, file, grammar, rule, format⟩ := a
  simp only [settings, load, ParseArguments.calls, List.foldlM_append, foldlM_perform_option,
    hgrammar, hrule, hformat, bind_assoc]
  cases config <;> rfl

theorem serialize_register_treeviz (width : ℕ) (name : String) (s : Snapshot) :
    (FormatRegistry.builtin.register (.treeviz width)).serialize name s =
      match output? width s name with
      | some text => .ok text
      | none => .error (.notFound name) := by
  have registered : FormatRegistry.builtin.register (.treeviz width) =
      ⟨[.json, .treeviz width, .value, .yaml]⟩ := by
    simp (disch := decide) only [FormatRegistry.builtin, FormatRegistry.register, List.foldl_cons,
      List.foldl_nil, FormatRegistry.empty, Format.insert, Format.json, Format.treeviz,
      Format.value, Format.yaml, if_pos, if_neg]
  rw [registered, FormatRegistry.serialize, FormatRegistry.get?]
  generalize hout : output? width s name = out
  unfold output? at hout
  split at hout
  case h_5 htreeviz hjson hyaml hvalue =>
    subst hout
    simp [Format.json, Format.treeviz, Format.value, Format.yaml, Ne.symm htreeviz, Ne.symm hjson,
      Ne.symm hyaml, Ne.symm hvalue]
  all_goals subst hout; rfl

section Log

def IsLogLine (verbosity : ℕ) (line : String) : Prop :=
  ∃ mark part text,
    line = "[" ++ mark ++ " " ++ programName ++ "::" ++ part ++ "] " ++ text ++ "\n" ∧
    (mark = "DEBUG" ∧ 1 ≤ verbosity ∨ mark = "TRACE" ∧ 2 ≤ verbosity)

def Silent (log : List Record) : Prop := ∀ record ∈ log, ∀ text, record.line? ≠ some (.warn, text)

theorem isLogLine_of_recordLine {r : Record} {level : LogLevel} {line : String} {verbosity : ℕ}
    (h : recordLine r = some (level, line)) (silent : ∀ text, r.line? ≠ some (.warn, text))
    (shown : shows verbosity level = true) : IsLogLine verbosity line := by
  obtain ⟨⟨level', text⟩, htext, hmade⟩ := Option.map_eq_some_iff.1 h
  obtain ⟨rfl, rfl⟩ := Prod.mk.inj hmade
  cases level' with
  | warn => exact absurd htext (silent text)
  | debug => exact ⟨"DEBUG", _, text, rfl, .inl ⟨rfl, of_decide_eq_true shown⟩⟩
  | trace => exact ⟨"TRACE", _, text, rfl, .inr ⟨rfl, of_decide_eq_true shown⟩⟩

theorem exists_messages_eq_join {log : List Record} (silent : Silent log) (verbosity : ℕ) :
    ∃ lines : List String, messages verbosity log = String.join lines ∧
      ∀ line ∈ lines, IsLogLine verbosity line := by
  refine ⟨_, rfl, fun line hline => ?_⟩
  obtain ⟨⟨level, line'⟩, hlevel, hshown⟩ := List.mem_filterMap.1 hline
  obtain ⟨shown, hsame⟩ := Option.ite_none_right_eq_some.1 hshown
  obtain rfl : line' = line := Option.some.inj hsame
  obtain ⟨record, hrecord, hmade⟩ := List.mem_filterMap.1 hlevel
  exact isLogLine_of_recordLine hmade (silent record hrecord) shown

theorem silent_render {V : Type} [Domain V] (g : Grammar V) (rule : Option String) (input : String)
    (output : Settings.OutputSettings) : Silent (render g rule input output).log := by
  have built (text : String) : g.builtRecord.line? ≠ some (.warn, text) := by
    simp [Grammar.builtRecord, Record.line?]
  intro record hrecord text
  have cases_log : record = g.builtRecord ∨
      record ∈ (g.parseRule (rule.getD g.root) input).log := by
    unfold render at hrecord
    dsimp only at hrecord
    split at hrecord
    · exact .inl (List.mem_singleton.1 hrecord)
    · split at hrecord
      · exact List.mem_cons.1 hrecord
      · split at hrecord <;> exact List.mem_cons.1 hrecord
  rcases cases_log with rfl | hlog
  · exact built text
  · exact g.log_parseRule_ne_warn _ _ text record hlog

end Log

section Source

theorem exists_command?_of_read? {args : List String} {i : Invocation}
    (h : Request.read? args = some (.run i)) : ∃ name g, command? name g = some i.command := by
  simp only [Request.read?, Option.bind_eq_bind, Option.bind_eq_some_iff] at h
  obtain ⟨reading, -, h⟩ := h
  split at h
  · cases h
  · cases h
  · cases h
  · split at h <;> cases h
  · next outer name rest hhelp =>
    obtain ⟨spec, -, h⟩ := Option.bind_eq_some_iff.1 h
    obtain ⟨inner, -, h⟩ := Option.bind_eq_some_iff.1 h
    split at h
    · cases h
    · cases h
    · cases h
    · next g =>
      obtain ⟨command, hcommand, h⟩ := Option.bind_eq_some_iff.1 h
      cases h
      exact ⟨name, g, hcommand⟩

theorem isSome_input_of_read? {args : List String} {verbosity : ℕ} {a : ParseArguments}
    (h : Request.read? args = some (.run ⟨verbosity, a.config, a.command⟩)) :
    a.input.isSome = a.file.isNone := by
  obtain ⟨name, g, hcommand⟩ := exists_command?_of_read? h
  unfold command? at hcommand
  split at hcommand
  · obtain ⟨one, hsame⟩ := Option.ite_none_left_eq_some.1 hcommand
    simp only [ParseArguments.command, Option.some.injEq, Command.parse.injEq] at hsame
    obtain ⟨hinput, hfile, -⟩ := hsame
    rw [← hinput, ← hfile]
    dsimp only at one
    revert one
    cases g.operands <;> cases g.values.lookup "file" <;> simp
  all_goals cases hcommand

theorem source_eq_ok_iff {files : Files} {a : ParseArguments}
    (one : a.input.isSome = a.file.isNone) {text : String} :
    source files a.input a.file = .ok text ↔
      a.file = none ∧ a.input = some text ∨
        ∃ name, a.file = some name ∧ files name = .text text := by
  unfold source
  cases hfile : a.file with
  | none =>
    obtain ⟨input, hinput⟩ := Option.isSome_iff_exists.1 (one.trans (by rw [hfile]; rfl))
    simp [hinput]
  | some name => cases hread : files name <;> simp [FileState.read, hread]

theorem source_eq_error_iff {files : Files} {a : ParseArguments} {e : Failure} :
    source files a.input a.file = .error e ↔
      ∃ name reason, a.file = some name ∧ (files name).read = .error reason ∧
        e = .unreadable name reason := by
  unfold source
  cases hfile : a.file with
  | none => simp
  | some name => cases hread : (files name).read <;> simp [hread, eq_comm]

end Source

section Run

def ReadyGrammar.render (g : ReadyGrammar) (s : Settings) (text : String) :
    Logged (Except Failure String) :=
  CommandLine.render g.grammar s.parse.rule text s.output

theorem runParse_eq (files : Files) (a : ParseArguments) :
    runParse files a.config a.input a.file a.grammar a.rule a.format =
      match load files a.calls with
      | .error e => ⟨.error (.settings e), []⟩
      | .ok s =>
        match source files a.input a.file with
        | .error e => ⟨.error e, []⟩
        | .ok text =>
          match ReadyGrammar.find? s.parse.grammar with
          | some g => g.render s (s.parse.prepare text)
          | none => ⟨.error (.unknownGrammar s.parse.grammar), []⟩ := by
  rw [runParse, settings_eq_load]
  cases load files a.calls with
  | error e => rfl
  | ok s =>
    cases source files a.input a.file with
    | error e => rfl
    | ok text =>
      dsimp only
      split
      · next hname =>
        rw [hname]
        rfl
      · next hname =>
        rw [hname]
        rfl
      · next notLambda notNumber =>
        have unknown : ReadyGrammar.find? s.parse.grammar = none := by
          unfold ReadyGrammar.find?
          split
          · next hname => exact absurd hname notLambda
          · next hname => exact absurd hname notNumber
          · rfl
        rw [unknown]

theorem ReadyGrammar.render_of_notMem {g : ReadyGrammar} {s : Settings}
    (h : g.rule s ∉ g.grammar.ruleNames) (text : String) :
    (g.render s text).value = .error (.unknownRule (g.rule s)) := by
  have unknown : g.grammar.rule? (g.rule s) = none :=
    Option.eq_none_iff_forall_ne_some.2 fun rule hrule =>
      h (RuleSet.exists_resolve_iff.1 ⟨rule, hrule⟩)
  unfold ReadyGrammar.rule at unknown ⊢
  simp only [ReadyGrammar.render, CommandLine.render, unknown]

theorem ReadyGrammar.render_of_mem {g : ReadyGrammar} {s : Settings}
    (h : g.rule s ∈ g.grammar.ruleNames) (text : String) :
    (g.render s text).value =
      match g.parse? (g.rule s) text with
      | none => .error .noParse
      | some result =>
        match output? s.output.labelWidth result s.output.format with
        | some out => .ok out
        | none => .error (.format (.notFound s.output.format)) := by
  obtain ⟨rule, known⟩ := RuleSet.exists_resolve_iff.2 h
  replace known : g.grammar.rule? (g.rule s) = some rule := known
  unfold ReadyGrammar.rule at known ⊢
  simp only [ReadyGrammar.render, CommandLine.render, ReadyGrammar.parse?, known,
    serialize_register_treeviz]
  cases (g.grammar.parseRule (s.parse.rule.getD g.grammar.root) text).value with
  | none => rfl
  | some node =>
    simp only [Option.map_some]
    cases output? s.output.labelWidth node.snapshot s.output.format <;> rfl

theorem silent_runParse (files : Files) (a : ParseArguments) :
    Silent (runParse files a.config a.input a.file a.grammar a.rule a.format).log := by
  rw [runParse_eq]
  have nothing : Silent [] := by simp [Silent]
  split
  · exact nothing
  · split
    · exact nothing
    · split
      · next g _ => exact silent_render g.grammar _ _ _
      · exact nothing

theorem ends_iff {files : Files} {a : ParseArguments} (one : a.input.isSome = a.file.isNone)
    {result : Except Failure String} :
    Ends files a result ↔
      (runParse files a.config a.input a.file a.grammar a.rule a.format).value = result := by
  rw [runParse_eq]
  constructor
  · have prepared_source {s : Settings} {text : String} (prepared : Prepared files a s text) :
        load files a.calls = .ok s ∧
          ∃ given, source files a.input a.file = .ok given ∧ text = s.parse.prepare given := by
      obtain ⟨loads, given, htext, hgiven⟩ := prepared
      exact ⟨loads, given, (source_eq_ok_iff one).2 hgiven, htext⟩
    intro ends
    cases ends with
    | settings fails => rw [fails]
    | source loads named fails =>
      have hsource := source_eq_error_iff.2 ⟨_, _, named, fails, rfl⟩
      rw [loads, hsource]
    | grammar prepared fails =>
      obtain ⟨loads, given, hsource, rfl⟩ := prepared_source prepared
      rw [loads]
      simp only [hsource, fails]
    | rule chosen fails =>
      obtain ⟨loads, given, hsource, rfl⟩ := prepared_source chosen.toPrepared
      rw [loads]
      simp only [hsource, chosen.grammar]
      exact ReadyGrammar.render_of_notMem fails _
    | parse ruled fails =>
      obtain ⟨loads, given, hsource, rfl⟩ := prepared_source ruled.toPrepared
      rw [loads]
      simp only [hsource, ruled.grammar]
      simp only [ReadyGrammar.render_of_mem ruled.rule, fails]
    | format parsed fails =>
      obtain ⟨loads, given, hsource, rfl⟩ := prepared_source parsed.toPrepared
      rw [loads]
      simp only [hsource, parsed.grammar]
      simp only [ReadyGrammar.render_of_mem parsed.rule, parsed.parse, fails]
    | output parsed written =>
      obtain ⟨loads, given, hsource, rfl⟩ := prepared_source parsed.toPrepared
      rw [loads]
      simp only [hsource, parsed.grammar]
      simp only [ReadyGrammar.render_of_mem parsed.rule, parsed.parse, written]
  · rintro rfl
    cases hload : load files a.calls with
    | error e => exact .settings hload
    | ok s =>
      cases hsource : source files a.input a.file with
      | error e =>
        obtain ⟨name, reason, named, fails, rfl⟩ := source_eq_error_iff.1 hsource
        exact .source hload named fails
      | ok text =>
        have prepared : Prepared files a s (s.parse.prepare text) :=
          ⟨hload, text, rfl, (source_eq_ok_iff one).1 hsource⟩
        dsimp only
        cases hfind : ReadyGrammar.find? s.parse.grammar with
        | none => exact .grammar prepared hfind
        | some g =>
          have chosen : Chosen files a s (s.parse.prepare text) g := ⟨prepared, hfind⟩
          dsimp only
          by_cases hrule : g.rule s ∈ g.grammar.ruleNames
          · have ruled : Ruled files a s (s.parse.prepare text) g := ⟨chosen, hrule⟩
            rw [g.render_of_mem hrule]
            cases hparse : g.parse? (g.rule s) (s.parse.prepare text) with
            | none => exact .parse ruled hparse
            | some result =>
              have parsed : Parsed files a s (s.parse.prepare text) g result := ⟨ruled, hparse⟩
              dsimp only
              cases houtput : output? s.output.labelWidth result s.output.format with
              | none => exact .format parsed houtput
              | some out => exact .output parsed houtput
          · rw [g.render_of_notMem hrule]
            exact .rule chosen hrule

end Run

def IsErrorText (text : String) : Prop := ∃ rest, text = "Error: " ++ rest

theorem IsErrorText.append {text : String} (h : IsErrorText text) (more : String) :
    IsErrorText (text ++ more) := by
  obtain ⟨rest, rfl⟩ := h
  exact ⟨rest ++ more, String.append_assoc⟩

theorem message_eq_or_isErrorText (e : Failure) :
    e = .noParse ∧ e.message = "no parse" ∨ e ≠ .noParse ∧ IsErrorText e.message := by
  cases e with
  | noParse => exact .inl ⟨rfl, rfl⟩
  | unknownGrammar name =>
    have head : IsErrorText "Error: unknown grammar '" := ⟨"unknown grammar '", by decide⟩
    exact .inr ⟨by simp, (((head.append _).append _).append _).append _⟩
  | unknownRule name =>
    have head : IsErrorText "Error: grammar has no rule named '" :=
      ⟨"grammar has no rule named '", by decide⟩
    exact .inr ⟨by simp, (head.append _).append _⟩
  | unreadable file reason =>
    have head : IsErrorText "Error: error reading " := ⟨"error reading ", by decide⟩
    exact .inr ⟨by simp, ((head.append _).append _).append _⟩
  | settings e =>
    have head : IsErrorText "Error: configuration error: " :=
      ⟨"configuration error: ", by decide⟩
    exact .inr ⟨by simp, head.append _⟩
  | format e => exact .inr ⟨by simp, e.message, rfl⟩

/-- A run of the parse command ends as its chain of checks does, which has exactly one end. With an
output the code is 0 and this is all that is printed; otherwise the code is 1, nothing is printed
and the messages end with that of the first check that fails. In front of it there are no messages
but log lines, if they are asked for. -/
theorem run_parse (files : Files) {args : List String} {verbosity : ℕ} {a : ParseArguments}
    (read : Request.read? args = some (.run ⟨verbosity, a.config, a.command⟩)) :
    ∃ result, Ends files a result ∧ (∀ other, Ends files a other → other = result) ∧
      ∃ lines : List String, (∀ line ∈ lines, IsLogLine verbosity line) ∧
        match result with
        | .ok text => run files args = ⟨0, text, String.join lines⟩
        | .error e => run files args = ⟨1, "", String.join lines ++ e.message ++ "\n"⟩ ∧
          (e = .noParse ∧ e.message = "no parse" ∨ e ≠ .noParse ∧ IsErrorText e.message) := by
  have one := isSome_input_of_read? read
  obtain ⟨lines, hjoin, hlines⟩ := exists_messages_eq_join (silent_runParse files a) verbosity
  refine ⟨_, (ends_iff one).2 rfl, fun other h => ((ends_iff one).1 h).symm, lines, hlines, ?_⟩
  have hrun : run files args = runInvocation files ⟨verbosity, a.config, a.command⟩ := by
    rw [run, read]
  simp only [hrun, runInvocation, runCommand, ParseArguments.command, hjoin]
  cases (runParse files a.config a.input a.file a.grammar a.rule a.format).value with
  | ok text => rfl
  | error e => exact ⟨rfl, message_eq_or_isErrorText e⟩

def unknownArguments : ParseArguments :=
  ⟨none, some ")", none, some "klingon", some "verb", some "html"⟩

theorem ends_unknownArguments :
    Ends (fun _ => .absent) unknownArguments (.error (.unknownGrammar "klingon")) := by
  have missing (name : String) : Settings.Layers.find? (fun _ => .absent) name = none := by
    simp [Settings.Layers.find?, FileState.isFile]
  have sound : ∀ c ∈ unknownArguments.calls, c.Sound fun _ => .absent := by
    simp [unknownArguments, ParseArguments.calls, Call.Sound, Call.source?, Call.assignment?,
      Settings.Source.IsSound, missing, Settings.Setting.takes_iff]
  obtain ⟨s, loads, leaves⟩ := Settings.load_eq_ok sound
  have hgrammar : s.parse.grammar = "klingon" := by
    have hleaf : s.leaf .grammar = .string "klingon" := (congrFun leaves .grammar).trans rfl
    simpa [Settings.leaf] using hleaf
  rw [← hgrammar]
  refine .grammar ⟨loads, ")", rfl, .inl ⟨rfl, rfl⟩⟩ ?_
  rw [hgrammar]
  rfl

theorem run_parse_unknown :
    run (fun _ => .absent) ["parse", "-g", "klingon", "-r", "verb", ")", "-f", "html"] =
      ⟨1, "", "Error: unknown grammar 'klingon' (available: lambda, number)\n"⟩ := by
  have read : Request.read? ["parse", "-g", "klingon", "-r", "verb", ")", "-f", "html"] =
      some (.run ⟨0, unknownArguments.config, unknownArguments.command⟩) := by
    decide +kernel
  obtain ⟨result, -, unique, lines, hlines, hrun⟩ := run_parse (fun _ => .absent) read
  obtain rfl := unique _ ends_unknownArguments
  obtain rfl : lines = [] := by
    refine List.eq_nil_iff_forall_not_mem.2 fun line hline => ?_
    obtain ⟨-, -, -, -, ⟨-, shown⟩ | ⟨-, shown⟩⟩ := hlines line hline
    · exact absurd shown (by decide)
    · exact absurd shown (by decide)
  rw [hrun.1]
  decide

end PegGrammar.CommandLine
