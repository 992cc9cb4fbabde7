import Mathlib.Tactic.MkIffOfInductiveProp
import PegGrammar.Proofs.Settings.Tree
import PegGrammar.Settings.Layers

/-!
The five settings in a tree of values. The tree always holds a table for each section and a value of
the right type for each setting that is set. A document sets what it has values for, setting a value
by its path sets this one, either leaves all other settings as they are, and a tree with values of
the right types is taken as settings that have these values.
-/

namespace PegGrammar.Settings

inductive Setting
  | format
  | labelWidth
  | grammar
  | rule
  | trim
deriving DecidableEq, Repr

namespace Setting

def table : Setting → String
  | format | labelWidth => "output"
  | grammar | rule | trim => "parse"

def name : Setting → String
  | format => "format"
  | labelWidth => "label_width"
  | grammar => "grammar"
  | rule => "rule"
  | trim => "trim_trailing_newline"

def key (k : Setting) : String := k.table ++ "." ++ k.name

def path (k : Setting) : KeyPath := ⟨k.table, [.child k.name]⟩

@[mk_iff]
inductive Takes : Setting → Leaf → Prop
  | format (s : String) : Takes format (.string s)
  | labelWidth (n : ℕ) (h : n < Nat.pow 2 64) : Takes labelWidth (.integer n)
  | grammar (s : String) : Takes grammar (.string s)
  | rule (s : String) : Takes rule (.string s)
  | noRule : Takes rule .nil
  | trim (b : Bool) : Takes trim (.boolean b)

def default : Setting → Leaf
  | format => .string "treeviz"
  | labelWidth => .integer 30
  | grammar => .string "lambda"
  | rule => .nil
  | trim => .boolean true

theorem takes_default (k : Setting) : k.Takes k.default := by
  cases k
  case labelWidth => exact .labelWidth 30 (by decide)
  all_goals constructor

theorem read_key (k : Setting) : KeyPath.read k.key = .ok k.path := by
  cases k <;> rfl

theorem lowercase_name (k : Setting) : Unicode.lowercase k.name = k.name := by
  cases k <;> rfl

theorem eq_of_table_of_name {k l : Setting} (htable : k.table = l.table)
    (hname : k.name = l.name) : k = l := by
  revert htable hname
  cases k <;> cases l <;> decide

theorem path_inj {k l : Setting} : k.path = l.path ↔ k = l := by
  constructor
  · intro h
    obtain ⟨htable, hname⟩ : k.table = l.table ∧ k.name = l.name := by simpa [path] using h
    exact eq_of_table_of_name htable hname
  · rintro rfl
    rfl

end Setting

def leaf (s : Settings) : Setting → Leaf
  | .format => .string s.output.format
  | .labelWidth => .integer s.output.labelWidth
  | .grammar => .string s.parse.grammar
  | .rule => s.parse.rule.elim .nil .string
  | .trim => .boolean s.parse.trimTrailingNewline

theorem eq_of_leaf {s t : Settings} (h : ∀ k, s.leaf k = t.leaf k) : s = t := by
  obtain ⟨⟨f, w⟩, g, r, b⟩ := s
  obtain ⟨⟨f', w'⟩, g', r', b'⟩ := t
  have hformat := h .format
  have hwidth := h .labelWidth
  have hgrammar := h .grammar
  have hrule := h .rule
  have htrim := h .trim
  simp only [leaf, Leaf.string.injEq, Leaf.integer.injEq, Leaf.boolean.injEq,
    Int.natCast_inj] at hformat hwidth hgrammar htrim hrule
  have same : r = r' := by
    cases r <;> cases r' <;> simp_all
  simp [hformat, hwidth, hgrammar, htrim, same]

theorem exists_leaf_eq {σ : Setting → Leaf} (typed : ∀ k : Setting, k.Takes (σ k)) :
    ∃ s : Settings, s.leaf = σ := by
  obtain ⟨f, hf⟩ : ∃ f, σ .format = .string f := by
    simpa [Setting.takes_iff] using typed .format
  obtain ⟨w, -, hw⟩ : ∃ w : ℕ, w < 2 ^ 64 ∧ σ .labelWidth = .integer w := by
    simpa [Setting.takes_iff] using typed .labelWidth
  obtain ⟨g, hg⟩ : ∃ g, σ .grammar = .string g := by
    simpa [Setting.takes_iff] using typed .grammar
  obtain ⟨r, hr⟩ : ∃ r : Option String, σ .rule = r.elim .nil .string := by
    rcases (Setting.takes_iff _ _).1 (typed .rule) with h | h | h | h | h | h
    all_goals simp only [reduceCtorEq, false_and, exists_false, and_false] at h
    · exact ⟨some h.choose, h.choose_spec.2⟩
    · exact ⟨none, h.2⟩
  obtain ⟨b, hb⟩ : ∃ b, σ .trim = .boolean b := by
    simpa [Setting.takes_iff] using typed .trim
  refine ⟨⟨⟨f, w⟩, ⟨g, r, b⟩⟩, funext fun k => ?_⟩
  cases k <;> simp [leaf, hf, hw, hg, hr, hb]

section Document

def entriesOf? : Toml.Item → Option Toml.Entries
  | .inlineTable es | .table _ es => some es
  | _ => none

def leafOf? : Toml.Item → Option Leaf
  | .string s => some (.string s)
  | .integer n => some (.integer n)
  | .float x => some (.float x)
  | .boolean b => some (.boolean b)
  | _ => none

def value? (es : Toml.Entries) (k : Setting) : Option Leaf := do
  leafOf? (← valueAt? (← entriesOf? (← valueAt? es k.table)) k.name)

/-- A document whose keys are plain and stay apart, and in which what stands for a section is a
table and what stands for a setting is of its type. -/
structure IsSound (es : Toml.Entries) : Prop where
  plain : ∀ e ∈ es, IsPlain e.1
  distinct : DistinctKeys es
  tables : ∀ (k : Setting) (i : Toml.Item), valueAt? es k.table = some i →
    ∃ sub, entriesOf? i = some sub ∧ DistinctKeys sub ∧
      ∀ j, valueAt? sub k.name = some j → ∃ l, leafOf? j = some l ∧ k.Takes l

theorem IsSound.takes {es : Toml.Entries} (h : IsSound es) {k : Setting} {v : Leaf}
    (hv : value? es k = some v) : k.Takes v := by
  obtain ⟨i, hi, sub, hsub, j, hj, hv⟩ : ∃ i, valueAt? es k.table = some i ∧
      ∃ sub, entriesOf? i = some sub ∧ ∃ j, valueAt? sub k.name = some j ∧ leafOf? j = some v := by
    simpa [value?, Option.bind_eq_some_iff] using hv
  obtain ⟨sub', hsub', -, typed⟩ := h.tables k i hi
  obtain rfl : sub = sub' := Option.some.inj (hsub.symm.trans hsub')
  obtain ⟨l, hl, takes⟩ := typed j hj
  obtain rfl : v = l := Option.some.inj (hv.symm.trans hl)
  exact takes

theorem Value.ofTomlEntries_eq_map (file : Option String) (es : Toml.Entries) :
    Value.ofTomlEntries file es = es.map fun e => (e.1, Value.ofToml file e.2) := by
  induction es with
  | nil => rw [Value.ofTomlEntries]; rfl
  | cons e es ih => rw [Value.ofTomlEntries, ih]; rfl

theorem valueAt?_ofTomlEntries (file : Option String) (es : Toml.Entries) (key : String) :
    valueAt? (Value.ofTomlEntries file es) key = (valueAt? es key).map (Value.ofToml file) := by
  rw [Value.ofTomlEntries_eq_map, valueAt?, valueAt?, List.find?_map, Option.map_map,
    Option.map_map]
  rfl

theorem DistinctKeys.ofTomlEntries {es : Toml.Entries} (h : DistinctKeys es)
    (file : Option String) : DistinctKeys (Value.ofTomlEntries file es) := by
  rw [Value.ofTomlEntries_eq_map, DistinctKeys, List.map_map]
  exact h

theorem ofToml_of_entriesOf? {i : Toml.Item} {es : Toml.Entries} (h : entriesOf? i = some es)
    (file : Option String) :
    Value.ofToml file i = .table file (Value.ofTomlEntries file es) := by
  cases i <;> cases h <;> rw [Value.ofToml]

theorem ofToml_of_leafOf? {i : Toml.Item} {l : Leaf} (h : leafOf? i = some l)
    (file : Option String) : Value.ofToml file i = .leaf file l := by
  cases i <;> cases h <;> rw [Value.ofToml]

end Document

namespace Value

def at? (t : Value) (k : Setting) : Option Value := (t.child k.table).bind (·.child k.name)

/-- A tree that holds a value for each setting in the table of its section; what is not set may be
missing. -/
structure Holds (t : Value) (σ : Setting → Leaf) : Prop where
  tables : ∀ k : Setting, ∃ o es, t.child k.table = some (.table o es)
  values : ∀ k, (∃ o, t.at? k = some (.leaf o (σ k))) ∨ t.at? k = none ∧ σ k = .nil

theorem holds_defaults : Layers.defaults.Holds Setting.default := by
  constructor
  · intro k
    cases k <;> exact ⟨_, _, rfl⟩
  · intro k
    cases k
    case rule => exact .inr ⟨rfl, rfl⟩
    all_goals exact .inl ⟨none, rfl⟩

theorem child_document {es sub : Toml.Entries} {i : Toml.Item} {t : Value} {k : Setting}
    {file o : Option String} {old : Entries} (sound : IsSound es)
    (hentry : valueAt? es k.table = some i) (hsub : entriesOf? i = some sub)
    (hold : t.child k.table = some (.table o old)) :
    (t.mergeAll (ofTomlEntries file es)).child k.table =
      some ((table o old).mergeAll (ofTomlEntries file sub)) := by
  rw [child_mergeAll (sound.distinct.ofTomlEntries file), valueAt?_ofTomlEntries, hentry, hold]
  simp only [Option.map_some, ofToml_of_entriesOf? hsub, overlay, Option.getD_some]

theorem at?_document {es : Toml.Entries} {t : Value} {k : Setting} {file o : Option String}
    {old : Entries} (sound : IsSound es) (hold : t.child k.table = some (.table o old)) :
    (t.mergeAll (ofTomlEntries file es)).at? k =
      match value? es k with
      | some l => some (.leaf file l)
      | none => t.at? k := by
  cases hentry : valueAt? es k.table with
  | none =>
    have unset : value? es k = none := by simp [value?, hentry]
    rw [unset, at?, child_mergeAll (sound.distinct.ofTomlEntries file), valueAt?_ofTomlEntries,
      hentry]
    rfl
  | some i =>
    obtain ⟨sub, hsub, distinct, typed⟩ := sound.tables k i hentry
    rw [at?, child_document sound hentry hsub hold, Option.bind_some,
      child_mergeAll (distinct.ofTomlEntries file), valueAt?_ofTomlEntries]
    cases hvalue : valueAt? sub k.name with
    | none =>
      have unset : value? es k = none := by simp [value?, hentry, hsub, hvalue]
      simp [unset, at?, hold]
    | some j =>
      obtain ⟨l, hl, -⟩ := typed j hvalue
      have set : value? es k = some l := by simp [value?, hentry, hsub, hvalue, hl]
      simp only [set, Option.map_some, ofToml_of_leafOf? hl, overlay]

theorem Holds.document {t : Value} {σ : Setting → Leaf} (h : t.Holds σ) {es : Toml.Entries}
    (sound : IsSound es) (file : Option String) :
    ((ofTomlEntries file es).foldl (fun t e => t.mergeEntry e.1 e.2) t).Holds
      fun k => (value? es k).getD (σ k) := by
  have plain : ∀ e ∈ ofTomlEntries file es, IsPlain e.1 := by
    rw [ofTomlEntries_eq_map]
    intro e he
    obtain ⟨entry, hin, rfl⟩ := List.mem_map.1 he
    exact sound.plain _ hin
  rw [foldl_mergeEntry plain]
  constructor
  · intro k
    obtain ⟨o, old, hold⟩ := h.tables k
    cases hentry : valueAt? es k.table with
    | none =>
      rw [child_mergeAll (sound.distinct.ofTomlEntries file), valueAt?_ofTomlEntries, hentry]
      exact ⟨o, old, hold⟩
    | some i =>
      obtain ⟨sub, hsub, -, -⟩ := sound.tables k i hentry
      rw [child_document sound hentry hsub hold]
      obtain ⟨o', merged, hmerged⟩ := exists_mergeAll_eq_table o old (ofTomlEntries file sub)
      exact ⟨o', merged, congrArg some hmerged⟩
  · intro k
    obtain ⟨o, old, hold⟩ := h.tables k
    rw [at?_document sound hold]
    cases value? es k with
    | none => exact h.values k
    | some l => exact .inl ⟨file, rfl⟩

theorem child_mergePath (t : Value) (k : Setting) (v : Value) (key : String) :
    (t.mergePath k.path v).child key =
      if key = k.table then some (((t.child k.table).getD nil).mergeAt k.name v)
      else t.child key := by
  simp only [mergePath, Setting.path, mergeAlong]
  exact Entries.lookup_put ..

theorem Holds.override {t : Value} {σ : Setting → Leaf} (h : t.Holds σ) (k : Setting) (l : Leaf) :
    (t.mergePath k.path (.leaf none l)).Holds (Function.update σ k l) := by
  obtain ⟨o, old, hold⟩ := h.tables k
  have hchild (key : String) : (t.mergePath k.path (.leaf none l)).child key =
      if key = k.table then some ((table o old).mergeAt k.name (.leaf none l))
      else t.child key := by
    rw [child_mergePath, hold]
    rfl
  constructor
  · intro k'
    rw [hchild]
    split
    · exact ⟨_, _, congrArg some (mergeAt_eq ..)⟩
    · exact h.tables k'
  · intro k'
    rw [at?, hchild]
    by_cases same : k' = k
    · subst same
      rw [if_pos rfl, Option.bind_some, child_mergeAt, if_pos k'.lowercase_name.symm,
        Function.update_self]
      exact .inl ⟨none, rfl⟩
    · rw [Function.update_of_ne same]
      split
      · next htable =>
        have hname : k'.name ≠ k.name := fun hname =>
          same (Setting.eq_of_table_of_name htable hname)
        rw [Option.bind_some, child_mergeAt, k.lowercase_name, if_neg hname]
        simpa [at?, htable, hold] using h.values k'
      · exact h.values k'

theorem Holds.lookup {t : Value} {σ : Setting → Leaf} (h : t.Holds σ) {k : Setting}
    {o : Option String} {es : Entries} (hes : t.child k.table = some (.table o es)) :
    (∃ origin, es.lookup k.name = some (.leaf origin (σ k))) ∨
      es.lookup k.name = none ∧ σ k = .nil := by
  have values := h.values k
  rw [at?, hes] at values
  exact values

theorem Holds.lookup_of_ne_nil {t : Value} {σ : Setting → Leaf} (h : t.Holds σ) {k : Setting}
    (ne : σ k ≠ .nil) {o : Option String} {es : Entries}
    (hes : t.child k.table = some (.table o es)) :
    ∃ origin, es.lookup k.name = some (.leaf origin (σ k)) :=
  (h.lookup hes).resolve_right fun unset => ne unset.2

theorem toOutputSettings_of_lookup {s : OutputSettings} {o formatFrom widthFrom : Option String}
    {es : Entries} (hformat : es.lookup "format" = some (.leaf formatFrom (.string s.format)))
    (hwidth : es.lookup "label_width" = some (.leaf widthFrom (.integer s.labelWidth))) :
    toOutputSettings (.table o es) = .ok s := by
  simp only [toOutputSettings, OutputSettings.ofEntries, hformat, hwidth]
  rfl

theorem toParseSettings_of_lookup {s : ParseSettings} {o grammarFrom trimFrom : Option String}
    {es : Entries} (hgrammar : es.lookup "grammar" = some (.leaf grammarFrom (.string s.grammar)))
    (hrule : (∃ origin, es.lookup "rule" = some (.leaf origin (s.rule.elim .nil .string))) ∨
      es.lookup "rule" = none ∧ s.rule.elim .nil .string = Leaf.nil)
    (htrim : es.lookup "trim_trailing_newline" =
      some (.leaf trimFrom (.boolean s.trimTrailingNewline))) :
    toParseSettings (.table o es) = .ok s := by
  obtain ⟨g, r, b⟩ := s
  rcases hrule with ⟨origin, hrule⟩ | ⟨hrule, hnil⟩
  · simp only [toParseSettings, ParseSettings.ofEntries, hgrammar, hrule, htrim]
    cases r <;> rfl
  · simp only [toParseSettings, ParseSettings.ofEntries, hgrammar, hrule, htrim]
    cases r with
    | none => rfl
    | some r => cases hnil

theorem Holds.toSettings {t : Value} {s : Settings} (h : t.Holds s.leaf) :
    t.toSettings = .ok s := by
  obtain ⟨o, output, houtput⟩ := h.tables .format
  obtain ⟨o', parse, hparse⟩ := h.tables .grammar
  obtain ⟨_, hformat⟩ := h.lookup_of_ne_nil (k := .format) (by simp [Settings.leaf]) houtput
  obtain ⟨_, hwidth⟩ := h.lookup_of_ne_nil (k := .labelWidth) (by simp [Settings.leaf]) houtput
  obtain ⟨_, hgrammar⟩ := h.lookup_of_ne_nil (k := .grammar) (by simp [Settings.leaf]) hparse
  obtain ⟨_, htrim⟩ := h.lookup_of_ne_nil (k := .trim) (by simp [Settings.leaf]) hparse
  have hrule := h.lookup (k := .rule) hparse
  have output_eq : toOutputSettings (.table o output) = .ok s.output :=
    toOutputSettings_of_lookup hformat hwidth
  have parse_eq : toParseSettings (.table o' parse) = .ok s.parse :=
    toParseSettings_of_lookup hgrammar hrule htrim
  have outputAt : t.asTable.2.lookup "output" = some (.table o output) := houtput
  have parseAt : t.asTable.2.lookup "parse" = some (.table o' parse) := hparse
  simp only [Value.toSettings, outputAt, parseAt, Option.mapM_some, output_eq, parse_eq]
  rfl

end Value

end PegGrammar.Settings
