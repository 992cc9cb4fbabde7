import PegGrammar.Settings.Layers

/-!
The built-in settings are those that their file gives. Such a file is made of comments, headers of
tables, and keys with their values, each on a line by itself. A line does to the document what it
does whatever lines come after it, so the whole file is read by reading its lines one at a time.
-/

namespace PegGrammar

namespace Toml

variable {d d' : Document} {line : String} {lines : List String} {key text : List Char}

section BareKeys

def IsBare (key : List Char) : Prop := key ≠ [] ∧ key.all isBareKey = true

instance (key : List Char) : Decidable (IsBare key) := inferInstanceAs (Decidable (_ ∧ _))

def keyStops : List Char := [' ', '\t', '\n', '\r', '#', '[', '"', '\'']

theorem isBareKey_eq_false {c : Char} (h : c ∈ keyStops) : isBareKey c = false := by
  have hall : keyStops.all (!isBareKey ·) = true := rfl
  simpa using List.all_eq_true.1 hall c h

theorem IsBare.exists_cons (h : IsBare key) : ∃ c cs, key = c :: cs ∧ c ∉ keyStops := by
  obtain ⟨ne, hkey⟩ := h
  obtain ⟨c, cs, rfl⟩ := List.exists_cons_of_ne_nil ne
  refine ⟨c, cs, rfl, fun hc => ?_⟩
  simp [isBareKey_eq_false hc] at hkey

theorem IsBare.skipBlanks_append (h : IsBare key) (rest : List Char) :
    skipBlanks (key ++ rest) = key ++ rest := by
  obtain ⟨c, cs, rfl, hc⟩ := h.exists_cons
  refine List.dropWhile_cons_of_neg fun blank => hc ?_
  obtain rfl | rfl : c = ' ' ∨ c = '\t' := by simpa [isBlank] using blank
  all_goals decide

theorem IsBare.readSimpleKey_append (h : IsBare key) {rest : List Char}
    (hrest : rest.head?.all (!isBareKey ·) = true) :
    readSimpleKey (key ++ rest) = some (String.ofList key, rest) := by
  have htake : (key ++ rest).takeWhile isBareKey = key := by
    rw [List.takeWhile_append_of_pos (List.all_eq_true.1 h.2)]
    cases rest <;> simp_all
  have hdrop : (key ++ rest).dropWhile isBareKey = rest := by
    rw [List.dropWhile_append_of_pos (List.all_eq_true.1 h.2)]
    cases rest <;> simp_all
  obtain ⟨c, cs, rfl, hc⟩ := h.exists_cons
  rw [List.cons_append] at *
  rw [readSimpleKey.eq_3, htake, hdrop]
  · rfl
  all_goals
    rintro r ⟨rfl, -⟩
    exact hc (by decide)

theorem IsBare.readKey_append (h : IsBare key) (rest : List Char)
    (hrest : rest.head?.all (!isBareKey ·) = true) (hlast : (skipBlanks rest).head? ≠ some '.') :
    readKey (key ++ rest) = some ([], String.ofList key, skipBlanks rest) := by
  rw [readKey, maxNesting, readParts, h.skipBlanks_append, h.readSimpleKey_append hrest]
  simp only [Option.bind_eq_bind, Option.bind_some]
  split
  · simp_all
  · rfl

theorem IsBare.readHeader_append (h : IsBare key)
    (hd : d.openTable [] (String.ofList key) = some d') (rest : List Char) :
    readHeader d (key ++ ']' :: '\n' :: rest) = some (d', rest) := by
  have hkey := h.readKey_append (']' :: '\n' :: rest) rfl (by simp [skipBlanks, isBlank])
  have hclose : skipBlanks (']' :: '\n' :: rest) = ']' :: '\n' :: rest := rfl
  have hend : endLine ('\n' :: rest) = some rest := rfl
  obtain ⟨c, cs, rfl, hc⟩ := h.exists_cons
  generalize String.ofList (c :: cs) = name at hd hkey
  rw [List.cons_append] at *
  rw [readHeader.eq_2, hkey]
  · simp [hd, hclose, hend, expect]
  · rintro r ⟨rfl, -⟩
    exact hc (by decide)

end BareKeys

section PlainStrings

def IsPlain (text : List Char) : Prop :=
  text.all (fun c => isText c && c != '"' && c != '\\') = true

instance (text : List Char) : Decidable (IsPlain text) := inferInstanceAs (Decidable (_ = _))

theorem IsPlain.readLine_append (h : IsPlain text) (rest : List Char) {fuel : Nat}
    (hfuel : text.length < fuel) :
    readLine '"' true fuel (text ++ '"' :: rest) = some (text, rest) := by
  induction text generalizing fuel with
  | nil =>
    obtain ⟨fuel, rfl⟩ := Nat.exists_eq_add_one_of_ne_zero (Nat.ne_zero_of_lt hfuel)
    rfl
  | cons c cs ih =>
    obtain ⟨fuel, rfl⟩ := Nat.exists_eq_add_one_of_ne_zero (Nat.ne_zero_of_lt hfuel)
    rw [IsPlain, List.all_cons, Bool.and_eq_true] at h
    obtain ⟨hc, hcs⟩ := h
    have hread := ih hcs (Nat.lt_of_succ_lt_succ hfuel)
    rw [List.cons_append, readLine]
    simp_all

theorem IsPlain.readString_append (h : IsPlain text) (rest : List Char) :
    readString ('"' :: (text ++ '"' :: '\n' :: rest)) =
      some (String.ofList text, '\n' :: rest) := by
  have hfuel : text.length < (text ++ '"' :: '\n' :: rest).length + 1 := by
    rw [List.length_append]
    omega
  have hread := h.readLine_append ('\n' :: rest) hfuel
  unfold readString
  obtain _ | ⟨c, _ | ⟨d, cs⟩⟩ := text
  all_goals simp_all [IsPlain]

end PlainStrings

section Lines

/-- Where a document stands behind a line of its text, whatever the lines after it are. -/
def ReadsLine (d : Document) (line : String) (d' : Document) : Prop :=
  ∀ fuel rest, readLinesInto (fuel + 1) d (line.toList ++ '\n' :: rest) = readLinesInto fuel d' rest

theorem ReadsLine.empty (d : Document) : ReadsLine d "" d := fun _ _ => rfl

theorem ReadsLine.comment (hmark : line.toList.head? = some '#')
    (htext : line.toList.all isText = true) (d : Document) : ReadsLine d line d := by
  intro fuel rest
  obtain ⟨text, hline⟩ := List.head?_eq_some_iff.1 hmark
  rw [hline] at htext ⊢
  have hskip (cs : List Char) : skipBlanks ('#' :: cs) = '#' :: cs := rfl
  have htail : (text ++ '\n' :: rest).dropWhile isText = '\n' :: rest := by
    rw [List.dropWhile_append_of_pos fun c hc => List.all_eq_true.1 htext c (.tail _ hc)]
    rfl
  have hend : endLine ('#' :: (text ++ '\n' :: rest)) = some rest := by
    rw [endLine, hskip, skipComment, htail]
    rfl
  rw [List.cons_append, readLinesInto, hskip]
  simp [hend]

theorem ReadsLine.header (key : List Char) (hline : line.toList = '[' :: (key ++ [']']))
    (hkey : IsBare key) (hd : d.openTable [] (String.ofList key) = some d') : ReadsLine d line d' := by
  intro fuel rest
  have hskip (cs : List Char) : skipBlanks ('[' :: cs) = '[' :: cs := rfl
  rw [hline, List.cons_append, List.append_assoc, readLinesInto, hskip]
  simp [hkey.readHeader_append hd]

theorem ReadsLine.entry (key value : List Char) {item : Item}
    (hline : line.toList = key ++ ' ' :: '=' :: value) (hkey : IsBare key)
    (hnew : d.current.lookup (String.ofList key) = none)
    (hvalue : ∀ fuel rest, readValue (fuel + 1) maxNesting (skipBlanks (value ++ '\n' :: rest)) =
      some (item, '\n' :: rest)) :
    ReadsLine d line { d with current := d.current ++ [(String.ofList key, item)] } := by
  intro fuel rest
  have hread := hkey.readKey_append (' ' :: '=' :: (value ++ '\n' :: rest)) rfl
    (by simp [skipBlanks, isBlank])
  have hskip (cs : List Char) : skipBlanks (' ' :: '=' :: cs) = '=' :: cs := rfl
  have hinsert : d.insert [] (String.ofList key) item =
      some { d with current := d.current ++ [(String.ofList key, item)] } := by
    simp [Document.insert, Entries.insert, Entries.update, hnew]
  have hend : endLine ('\n' :: rest) = some rest := rfl
  rw [hline, List.append_assoc, readLinesInto, hkey.skipBlanks_append]
  obtain ⟨c, cs, rfl, hc⟩ := hkey.exists_cons
  generalize String.ofList (c :: cs) = name at *
  rw [List.cons_append] at *
  -- a line that begins with a key is neither the end of the text nor a header nor a comment
  split
  next h => simp at h
  next h =>
    obtain ⟨rfl, -⟩ := List.cons.inj h
    exact absurd (by decide) hc
  next =>
    have hmark : (c == '#' || c == '\n' || c == '\r') = false := by simp_all [keyStops]
    simp only [List.head?_cons, Option.any_some, hmark]
    simp [hread, hskip, expect, hvalue, hinsert, hend]

theorem ReadsLine.string (key text : List Char)
    (hline : line.toList = key ++ ' ' :: '=' :: ' ' :: '"' :: (text ++ ['"'])) (hkey : IsBare key)
    (htext : IsPlain text) (hnew : d.current.lookup (String.ofList key) = none) :
    ReadsLine d line
      { d with current := d.current ++ [(String.ofList key, .string (String.ofList text))] } := by
  refine .entry key (' ' :: '"' :: (text ++ ['"'])) hline hkey hnew fun fuel rest => ?_
  have hskip (cs : List Char) : skipBlanks (' ' :: '"' :: cs) = '"' :: cs := rfl
  rw [List.cons_append, List.cons_append, List.append_assoc, hskip, readValue]
  simp [htext.readString_append]

inductive ReadsLines : Document → List String → Document → Prop
  | nil (d : Document) : ReadsLines d [] d
  | cons {d d₁ d₂ : Document} {line : String} {lines : List String}
      (head : ReadsLine d line d₁) (tail : ReadsLines d₁ lines d₂) : ReadsLines d (line :: lines) d₂

def unlines (lines : List String) : String := String.join (lines.map (· ++ "\n"))

theorem unlines_cons (line : String) (lines : List String) :
    (unlines (line :: lines)).toList = line.toList ++ '\n' :: (unlines lines).toList := by
  simp [unlines]

theorem length_le_unlines (lines : List String) :
    lines.length ≤ (unlines lines).toList.length := by
  induction lines with
  | nil => exact Nat.zero_le _
  | cons line lines ih =>
    rw [unlines_cons, List.length_append, List.length_cons, List.length_cons]
    omega

theorem ReadsLines.readLinesInto_eq (h : ReadsLines d lines d') {fuel : Nat}
    (hfuel : lines.length < fuel) : readLinesInto fuel d (unlines lines).toList = some d' := by
  -- each line takes one unit of fuel, and the end of the text takes one more
  induction h generalizing fuel with
  | nil d =>
    obtain ⟨fuel, rfl⟩ := Nat.exists_eq_add_one_of_ne_zero (Nat.ne_of_gt hfuel)
    rfl
  | cons head tail ih =>
    obtain ⟨fuel, rfl⟩ := Nat.exists_eq_add_one_of_ne_zero (Nat.ne_zero_of_lt hfuel)
    rw [unlines_cons, head]
    exact ih (Nat.lt_of_succ_lt_succ hfuel)

theorem ReadsLines.read?_eq (h : ReadsLines .empty lines d)
    (unmarked : (unlines lines).toList.head? ≠ some '\ufeff') :
    read? (unlines lines) = d.close := by
  have hlines := h.readLinesInto_eq (Nat.lt_succ_of_le (length_le_unlines lines))
  rw [read?]
  split
  · simp_all
  · simp [hlines]

end Lines

end Toml

namespace Settings.Layers

open Toml (ReadsLine ReadsLines)

/-- The lines of the file of built-in settings. -/
def defaultLines : List String := [
  "# Built-in defaults for the parcom command-line tool.",
  "# A user file passed with --config is layered on top of these values.",
  "",
  "[output]",
  "# One of: treeviz, json, yaml, value",
  "format = \"treeviz\"",
  "# Characters of each node label shown by treeviz before truncating",
  "label_width = 30",
  "",
  "[parse]",
  "# One of: lambda, number",
  "grammar = \"lambda\"",
  "# Parse with this rule instead of the grammar's root (unset = root)",
  "# rule = \"term\"",
  "# Drop a single trailing newline from file input before parsing",
  "trim_trailing_newline = true"]

def outputEntries : Toml.Entries := [("format", .string "treeviz"), ("label_width", .integer 30)]

def parseEntries : Toml.Entries :=
  [("grammar", .string "lambda"), ("trim_trailing_newline", .boolean true)]

def defaultEntries : Toml.Entries :=
  [("output", .table .header outputEntries), ("parse", .table .header parseEntries)]

theorem readsLine_output : ReadsLine .empty "[output]" ⟨[], ["output"], false, []⟩ :=
  .header "output".toList rfl (by decide) rfl

theorem readsLine_parse : ReadsLine ⟨[], ["output"], false, outputEntries⟩ "[parse]"
    ⟨[("output", .table .header outputEntries)], ["parse"], false, []⟩ :=
  .header "parse".toList rfl (by decide) rfl

variable {d : Toml.Document}

theorem readsLine_format (h : d.current.lookup "format" = none) :
    ReadsLine d "format = \"treeviz\""
      { d with current := d.current ++ [("format", .string "treeviz")] } :=
  .string "format".toList "treeviz".toList rfl (by decide) (by decide) h

theorem readsLine_labelWidth (h : d.current.lookup "label_width" = none) :
    ReadsLine d "label_width = 30"
      { d with current := d.current ++ [("label_width", .integer 30)] } := by
  refine .entry "label_width".toList " 30".toList rfl (by decide) h fun fuel rest => ?_
  -- a date is tried first, and that takes four characters at once
  cases rest with
  | nil => rfl
  | cons c rest => rfl

theorem readsLine_grammar (h : d.current.lookup "grammar" = none) :
    ReadsLine d "grammar = \"lambda\""
      { d with current := d.current ++ [("grammar", .string "lambda")] } :=
  .string "grammar".toList "lambda".toList rfl (by decide) (by decide) h

theorem readsLine_trim (h : d.current.lookup "trim_trailing_newline" = none) :
    ReadsLine d "trim_trailing_newline = true"
      { d with current := d.current ++ [("trim_trailing_newline", .boolean true)] } :=
  .entry "trim_trailing_newline".toList " true".toList rfl (by decide) h fun _ _ => rfl

theorem readsLines_defaultLines : ReadsLines .empty defaultLines
    ⟨[("output", .table .header outputEntries)], ["parse"], false, parseEntries⟩ := by
  refine .cons (.comment (by decide) (by decide) _) ?_
  refine .cons (.comment (by decide) (by decide) _) ?_
  refine .cons (.empty _) ?_
  refine .cons readsLine_output ?_
  refine .cons (.comment (by decide) (by decide) _) ?_
  refine .cons (readsLine_format rfl) ?_
  refine .cons (.comment (by decide) (by decide) _) ?_
  refine .cons (readsLine_labelWidth (by simp)) ?_
  refine .cons (.empty _) ?_
  refine .cons readsLine_parse ?_
  refine .cons (.comment (by decide) (by decide) _) ?_
  refine .cons (readsLine_grammar rfl) ?_
  refine .cons (.comment (by decide) (by decide) _) ?_
  refine .cons (.comment (by decide) (by decide) _) ?_
  refine .cons (.comment (by decide) (by decide) _) ?_
  exact .cons (readsLine_trim (by simp)) (.nil _)

theorem read?_defaultLines : Toml.read? (Toml.unlines defaultLines) = some defaultEntries := by
  have unmarked : (Toml.unlines defaultLines).toList.head? ≠ some '\ufeff' := by
    rw [defaultLines, Toml.unlines_cons]
    decide
  rw [readsLines_defaultLines.read?_eq unmarked]
  rfl

/-- The built-in settings are what the text of their file gives on top of no settings. -/
theorem merge_defaultLines :
    (Toml.read? (Toml.unlines defaultLines)).map (fun es =>
      (Value.ofTomlEntries none es).foldl (fun t e => t.mergeEntry e.1 e.2) (.table none [])) =
    some defaults := by
  rw [read?_defaultLines]
  rfl

end Settings.Layers

end PegGrammar
