import PegGrammar.Proofs.Settings.Defaults
import PegGrammar.Proofs.Settings.Typed

/-!
Precedence of the layers of settings. Each of the five settings is taken by itself: from the last
value set by hand for it, else from the last file that has a value for it, else from the built-in
settings.
-/

namespace PegGrammar.Settings

section Last

variable {α β γ : Type}

def last? (f : α → Option β) (xs : List α) : Option β := (xs.filterMap f).getLast?

theorem last?_append (f : α → Option β) (xs ys : List α) :
    last? f (xs ++ ys) = (last? f ys).or (last? f xs) := by
  rw [last?, List.filterMap_append, List.getLast?_append]
  rfl

theorem last?_cons (f : α → Option β) (x : α) (xs : List α) :
    last? f (x :: xs) = (last? f xs).or (f x) := by
  rw [← List.singleton_append, last?_append]
  congr 1
  cases h : f x <;> simp [last?, h]

theorem last?_filterMap (g : α → Option β) (f : β → Option γ) (xs : List α) :
    last? f (xs.filterMap g) = last? (fun x => (g x).bind f) xs := by
  rw [last?, List.filterMap_filterMap]
  rfl

theorem exists_of_last?_eq_some {f : α → Option β} {xs : List α} {y : β} (h : last? f xs = some y) :
    ∃ x ∈ xs, f x = some y :=
  List.mem_filterMap.1 (List.mem_of_getLast? h)

end Last

section Assignments

abbrev Assignment := Setting × Leaf

def Assignment.value? (k : Setting) (a : Assignment) : Option Leaf :=
  if a.1 = k then some a.2 else none

def Assignment.override (a : Assignment) : KeyPath × Value := (a.1.path, .leaf none a.2)

def assign (σ : Setting → Leaf) (as : List Assignment) : Setting → Leaf :=
  as.foldl (fun σ a => Function.update σ a.1 a.2) σ

theorem assign_apply (σ : Setting → Leaf) (as : List Assignment) (k : Setting) :
    assign σ as k = (last? (Assignment.value? k) as).getD (σ k) := by
  induction as generalizing σ with
  | nil => rfl
  | cons a as ih =>
    have hcons : assign σ (a :: as) = assign (Function.update σ a.1 a.2) as := rfl
    rw [hcons, ih, last?_cons, Option.getD_or]
    congr 1
    by_cases same : a.1 = k
    · subst same
      simp [Assignment.value?]
    · simp [Assignment.value?, same, Function.update_of_ne (Ne.symm same)]

theorem last?_value?_filter {as : List Assignment} {k other : Setting} (ne : other ≠ k) :
    last? (Assignment.value? other) (as.filter (·.1 != k)) =
      last? (Assignment.value? other) as := by
  rw [last?, last?, List.filterMap_filter]
  congr 2
  funext a
  by_cases same : a.1 = k
  · simp [Assignment.value?, same, ne.symm]
  · simp [same]

theorem assign_filter_append (σ : Setting → Leaf) (as : List Assignment) (k : Setting) (v : Leaf) :
    assign σ (as.filter (·.1 != k) ++ [(k, v)]) = Function.update (assign σ as) k v := by
  funext other
  rw [assign_apply, last?_append]
  by_cases same : other = k
  · subst same
    simp [last?, Assignment.value?]
  · rw [last?_value?_filter same, Function.update_of_ne same, assign_apply]
    simp [last?, Assignment.value?, Ne.symm same]

theorem Value.Holds.assign {t : Value} {σ : Setting → Leaf} (h : t.Holds σ) (as : List Assignment) :
    ((as.map Assignment.override).foldl (fun t o => t.mergePath o.1 o.2) t).Holds
      (Settings.assign σ as) := by
  induction as generalizing t σ with
  | nil => exact h
  | cons a as ih => exact ih (h.override a.1 a.2)

end Assignments

section Sources

def Source.document? (files : Files) (s : Source) : Option Toml.Entries := do
  match files (← Layers.find? files s.name) with
  | .text text => Toml.read? text
  | _ => none

def Source.value? (files : Files) (k : Setting) (s : Source) : Option Leaf := do
  Settings.value? (← s.document? files) k

/-- A file of settings that holds a sound document, or one that is not required and missing. -/
def Source.IsSound (files : Files) (s : Source) : Prop :=
  match Layers.find? files s.name with
  | some name =>
    ∃ text es, files name = .text text ∧ Toml.read? text = some es ∧ Settings.IsSound es
  | none => s.required = false

theorem Value.Holds.mergeSource {t : Value} {σ : Setting → Leaf} (h : t.Holds σ) {files : Files}
    {s : Source} (sound : s.IsSound files) :
    ∃ t', Layers.mergeSource files t s = .ok t' ∧
      t'.Holds fun k => (s.value? files k).getD (σ k) := by
  unfold Source.IsSound at sound
  split at sound
  · next name found =>
    obtain ⟨text, es, hfile, hread, hes⟩ := sound
    have hvalue (k : Setting) : s.value? files k = Settings.value? es k := by
      simp [Source.value?, Source.document?, found, hfile, hread]
    simp only [Layers.mergeSource, found, hfile, FileState.read, hread, hvalue]
    exact ⟨_, rfl, h.document hes _⟩
  · next missing =>
    have hvalue (k : Setting) : s.value? files k = none := by
      simp [Source.value?, Source.document?, missing]
    simp only [Layers.mergeSource, missing, sound, hvalue]
    exact ⟨t, rfl, h⟩

theorem Value.Holds.mergeSources {t : Value} {σ : Setting → Leaf} (h : t.Holds σ) {files : Files}
    {sources : List Source} (sound : ∀ s ∈ sources, s.IsSound files) :
    ∃ t', sources.foldlM (Layers.mergeSource files) t = .ok t' ∧
      t'.Holds fun k => (last? (Source.value? files k) sources).getD (σ k) := by
  induction sources generalizing t σ with
  | nil => exact ⟨t, rfl, h⟩
  | cons s sources ih =>
    obtain ⟨here, later⟩ := List.forall_mem_cons.1 sound
    obtain ⟨t₁, hstep, h₁⟩ := h.mergeSource here
    obtain ⟨t₂, hrest, h₂⟩ := ih h₁ later
    refine ⟨t₂, by rw [List.foldlM_cons, hstep]; exact hrest, ?_⟩
    simpa only [last?_cons, Option.getD_or] using h₂

theorem Source.IsSound.takes {files : Files} {s : Source} (h : s.IsSound files) {k : Setting}
    {v : Leaf} (hv : s.value? files k = some v) : k.Takes v := by
  unfold Source.IsSound at h
  split at h
  · next name found =>
    obtain ⟨text, es, hfile, hread, hes⟩ := h
    simp only [Source.value?, Source.document?, found, hfile, hread, Option.bind_eq_bind,
      Option.bind_some] at hv
    exact hes.takes hv
  · next missing => simp [Source.value?, Source.document?, missing] at hv

end Sources

section Calls

inductive Call
  | file (name : String)
  | optionalFile (name : String)
  | override (k : Setting) (v : Leaf)

namespace Call

def perform (l : Layers) : Call → Except Error Layers
  | file name => .ok (l.withFile name)
  | optionalFile name => .ok (l.withOptionalFile name)
  | override k v => l.withOverride k.key v

def source? : Call → Option Source
  | file name => some ⟨name, true⟩
  | optionalFile name => some ⟨name, false⟩
  | override .. => none

def assignment? : Call → Option Assignment
  | override k v => some (k, v)
  | _ => none

def override? (k : Setting) (c : Call) : Option Leaf := c.assignment?.bind (·.value? k)

def value? (files : Files) (k : Setting) (c : Call) : Option Leaf :=
  c.source?.bind (·.value? files k)

def Sound (files : Files) (c : Call) : Prop :=
  (∀ s, c.source? = some s → s.IsSound files) ∧ ∀ a, c.assignment? = some a → a.1.Takes a.2

end Call

def load (files : Files) (calls : List Call) : Except Error Settings := do
  (← calls.foldlM Call.perform Layers.builtin).build files

/-- Layers with the files of some calls and with overrides that set what these calls set. -/
structure Layers.Records (l : Layers) (calls : List Call) : Prop where
  sources : l.sources = calls.filterMap Call.source?
  overrides : ∃ as : List Assignment, l.overrides = as.map Assignment.override ∧
    ∀ σ, assign σ as = assign σ (calls.filterMap Call.assignment?)

theorem Layers.Records.perform {l : Layers} {calls : List Call} (h : l.Records calls) (c : Call) :
    ∃ l', c.perform l = .ok l' ∧ l'.Records (calls ++ [c]) := by
  obtain ⟨sources, as, overrides, same⟩ := h
  cases c with
  | file name =>
    refine ⟨_, rfl, ?_, as, overrides, ?_⟩
    · simp [Layers.withFile, sources, Call.source?]
    · simpa [List.filterMap_append, List.filterMap_cons, Call.assignment?] using same
  | optionalFile name =>
    refine ⟨_, rfl, ?_, as, overrides, ?_⟩
    · simp [Layers.withOptionalFile, sources, Call.source?]
    · simpa [List.filterMap_append, List.filterMap_cons, Call.assignment?] using same
  | override k v =>
    refine ⟨{ l with overrides := l.overrides.filter (·.1 != k.path) ++ [(k.path, .leaf none v)] },
      ?_, ?_, as.filter (·.1 != k) ++ [(k, v)], ?_, ?_⟩
    · rw [Call.perform, Layers.withOverride, k.read_key]
    · simp [sources, Call.source?]
    · rw [overrides, List.map_append, List.filter_map]
      have same (a : Assignment) : (a.override.1 != k.path) = (a.1 != k) := by
        rw [Bool.eq_iff_iff, bne_iff_ne, bne_iff_ne, Ne, Ne, Assignment.override,
          Setting.path_inj]
      simp only [Function.comp_def, same]
      rfl
    · intro σ
      rw [assign_filter_append, same]
      simp [assign, Call.assignment?]

theorem Layers.Records.performs {l : Layers} {before : List Call} (h : l.Records before)
    (calls : List Call) :
    ∃ l', calls.foldlM Call.perform l = .ok l' ∧ l'.Records (before ++ calls) := by
  induction calls generalizing l before with
  | nil => exact ⟨l, rfl, by rwa [List.append_nil]⟩
  | cons c calls ih =>
    obtain ⟨l₁, hstep, h₁⟩ := h.perform c
    obtain ⟨l₂, hrest, h₂⟩ := ih h₁
    refine ⟨l₂, by rw [List.foldlM_cons, hstep]; exact hrest, ?_⟩
    rwa [List.append_assoc] at h₂

def expected (files : Files) (calls : List Call) (k : Setting) : Leaf :=
  (last? (Call.override? k) calls).getD ((last? (Call.value? files k) calls).getD k.default)

theorem expected_eq (files : Files) (calls : List Call) (k : Setting) :
    expected files calls k =
      (last? (Assignment.value? k) (calls.filterMap Call.assignment?)).getD
        ((last? (Source.value? files k) (calls.filterMap Call.source?)).getD k.default) := by
  rw [last?_filterMap, last?_filterMap]
  rfl

theorem takes_expected {files : Files} {calls : List Call} (sound : ∀ c ∈ calls, c.Sound files)
    (k : Setting) : k.Takes (expected files calls k) := by
  unfold expected
  cases hoverride : last? (Call.override? k) calls with
  | some v =>
    obtain ⟨c, hc, hv⟩ := exists_of_last?_eq_some hoverride
    obtain ⟨a, ha, hv⟩ := Option.bind_eq_some_iff.1 hv
    obtain ⟨rfl, rfl⟩ : a.1 = k ∧ a.2 = v := by simpa [Assignment.value?] using hv
    exact (sound c hc).2 a ha
  | none =>
    cases hvalue : last? (Call.value? files k) calls with
    | some v =>
      obtain ⟨c, hc, hv⟩ := exists_of_last?_eq_some hvalue
      obtain ⟨s, hs, hv⟩ := Option.bind_eq_some_iff.1 hv
      exact ((sound c hc).1 s hs).takes hv
    | none => exact k.takes_default

theorem Layers.build_of_records {files : Files} {l : Layers} {calls : List Call}
    (h : l.Records calls) (sound : ∀ c ∈ calls, c.Sound files) :
    ∃ s : Settings, l.build files = .ok s ∧ s.leaf = expected files calls := by
  obtain ⟨sources, as, overrides, same⟩ := h
  have hsources : ∀ s ∈ l.sources, s.IsSound files := by
    rw [sources]
    intro s hs
    obtain ⟨c, hc, hs⟩ := List.mem_filterMap.1 hs
    exact (sound c hc).1 s hs
  obtain ⟨t, htree, ht⟩ := Value.holds_defaults.mergeSources hsources
  have hassigned := ht.assign as
  have hexpected : assign (fun k => (last? (Source.value? files k) l.sources).getD k.default) as =
      expected files calls := by
    funext k
    rw [same, assign_apply, sources, expected_eq]
  rw [hexpected, ← overrides] at hassigned
  obtain ⟨s, hs⟩ := exists_leaf_eq (takes_expected sound)
  refine ⟨s, ?_, hs⟩
  rw [Layers.build, Layers.tree, htree]
  rw [← hs] at hassigned
  exact hassigned.toSettings

theorem load_eq_ok {files : Files} {calls : List Call} (sound : ∀ c ∈ calls, c.Sound files) :
    ∃ s : Settings, load files calls = .ok s ∧ s.leaf = expected files calls := by
  have hbuiltin : Layers.builtin.Records [] := ⟨rfl, [], rfl, fun _ => rfl⟩
  obtain ⟨l, hl, records⟩ := hbuiltin.performs calls
  obtain ⟨s, hbuild, hs⟩ := Layers.build_of_records records sound
  exact ⟨s, by rw [load, hl]; exact hbuild, hs⟩

theorem sound_of_filterMap_eq {files : Files} {calls calls' : List Call}
    (sound : ∀ c ∈ calls, c.Sound files)
    (sources : calls'.filterMap Call.source? = calls.filterMap Call.source?)
    (assignments : calls'.filterMap Call.assignment? = calls.filterMap Call.assignment?) :
    ∀ c ∈ calls', c.Sound files := by
  intro c hc
  constructor
  · intro s hs
    have mem : s ∈ calls.filterMap Call.source? := sources ▸ List.mem_filterMap.2 ⟨c, hc, hs⟩
    obtain ⟨c', hc', hs'⟩ := List.mem_filterMap.1 mem
    exact (sound c' hc').1 s hs'
  · intro a ha
    have mem : a ∈ calls.filterMap Call.assignment? :=
      assignments ▸ List.mem_filterMap.2 ⟨c, hc, ha⟩
    obtain ⟨c', hc', ha'⟩ := List.mem_filterMap.1 mem
    exact (sound c' hc').2 a ha'

/-- Sound calls load, and each setting has the value of the last override for it, else of the last
file that has one, else the built-in one. How files and overrides are interleaved does not matter,
and a call that has no value for a setting leaves it as it is without the call. -/
theorem load_precedence {files : Files} {calls : List Call} (sound : ∀ c ∈ calls, c.Sound files) :
    ∃ s : Settings, load files calls = .ok s ∧
      (∀ k, s.leaf k = (last? (Call.override? k) calls).getD
        ((last? (Call.value? files k) calls).getD k.default)) ∧
      (∀ calls' : List Call,
        calls'.filterMap Call.source? = calls.filterMap Call.source? →
        calls'.filterMap Call.assignment? = calls.filterMap Call.assignment? →
        load files calls' = .ok s) ∧
      ∀ before c after, calls = before ++ c :: after →
        ∃ t : Settings, load files (before ++ after) = .ok t ∧
          ∀ k, c.override? k = none → c.value? files k = none → t.leaf k = s.leaf k := by
  obtain ⟨s, hload, hs⟩ := load_eq_ok sound
  refine ⟨s, hload, fun k => congrFun hs k, ?interleaving, ?without⟩
  case interleaving =>
    intro calls' sources assignments
    obtain ⟨t, hload', ht⟩ := load_eq_ok (sound_of_filterMap_eq sound sources assignments)
    have same : expected files calls' = expected files calls := by
      funext k
      rw [expected_eq, expected_eq, sources, assignments]
    rw [hload', eq_of_leaf fun k => congrFun (ht.trans (same.trans hs.symm)) k]
  case without =>
    rintro before c after rfl
    have sound' : ∀ c ∈ before ++ after, c.Sound files := fun c hc => sound c (by grind)
    obtain ⟨t, hload', ht⟩ := load_eq_ok sound'
    refine ⟨t, hload', fun k hoverride hvalue => ?_⟩
    rw [ht, hs, expected, expected]
    simp only [last?_append, last?_cons, hoverride, hvalue, Option.or_none]

def widthText : String := "[output]\nlabel_width = 12\nformat = 'yaml'\n"

def widthEntries : Toml.Entries :=
  [("output", .table .header [("label_width", .integer 12), ("format", .string "yaml")])]

def widthFiles : Files := fun name => if name = "width.toml" then .text widthText else .absent

theorem readsLines_width :
    Toml.ReadsLines .empty ["[output]", "label_width = 12", "format = 'yaml'"]
      ⟨[], ["output"], false, [("label_width", .integer 12), ("format", .string "yaml")]⟩ := by
  have width : Toml.ReadsLine ⟨[], ["output"], false, []⟩ "label_width = 12"
      ⟨[], ["output"], false, [("label_width", .integer 12)]⟩ := by
    refine .entry "label_width".toList " 12".toList rfl (by decide) rfl fun fuel rest => ?_
    cases rest with
    | nil => rfl
    | cons c rest => rfl
  have format : Toml.ReadsLine ⟨[], ["output"], false, [("label_width", .integer 12)]⟩
      "format = 'yaml'"
      ⟨[], ["output"], false, [("label_width", .integer 12), ("format", .string "yaml")]⟩ :=
    .entry "format".toList " 'yaml'".toList rfl (by decide) (by simp) fun fuel rest => rfl
  exact .cons Layers.readsLine_output (.cons width (.cons format (.nil _)))

theorem read?_widthText : Toml.read? widthText = some widthEntries := by
  have text : widthText =
      Toml.unlines ["[output]", "label_width = 12", "format = 'yaml'"] := by
    decide
  rw [text, readsLines_width.read?_eq (by simp [Toml.unlines_cons])]
  rfl

theorem isSound_widthEntries : IsSound widthEntries := by
  constructor
  · simp [widthEntries, IsPlain]
  · simp [widthEntries, DistinctKeys]
  · intro k i hi
    have distinct :
        DistinctKeys [("label_width", Toml.Item.integer 12), ("format", .string "yaml")] := by
      unfold DistinctKeys
      decide
    cases k with
    | grammar | rule | trim => cases hi
    | format =>
      obtain rfl := Option.some.inj hi
      refine ⟨_, rfl, distinct, fun j hj => ?_⟩
      obtain rfl := Option.some.inj hj
      exact ⟨_, rfl, .format "yaml"⟩
    | labelWidth =>
      obtain rfl := Option.some.inj hi
      refine ⟨_, rfl, distinct, fun j hj => ?_⟩
      obtain rfl := Option.some.inj hj
      exact ⟨_, rfl, .labelWidth 12 (by decide)⟩

theorem find?_width : Layers.find? widthFiles "width.toml" = some "width.toml" := by
  simp [Layers.find?, Layers.candidates, widthFiles, FileState.isFile]

theorem load_precedence_width :
    ∃ s : Settings,
      load widthFiles [.override .format (.string "json"), .file "width.toml"] = .ok s ∧
      s.leaf .format = .string "json" ∧ s.leaf .labelWidth = .integer 12 ∧
        s.leaf .grammar = .string "lambda" := by
  have hsource : Source.IsSound widthFiles ⟨"width.toml", true⟩ := by
    simp only [Source.IsSound, find?_width]
    exact ⟨_, _, rfl, read?_widthText, isSound_widthEntries⟩
  have hvalue (k : Setting) : last? (Call.value? widthFiles k)
      [.override .format (.string "json"), .file "width.toml"] =
        Settings.value? widthEntries k := by
    have hdocument : Source.document? widthFiles ⟨"width.toml", true⟩ = some widthEntries := by
      simp [Source.document?, find?_width, widthFiles, read?_widthText]
    simp only [last?_cons, Call.value?, Call.source?, Option.bind_some, Option.bind_none,
      Source.value?, hdocument, Option.or_none]
    rfl
  have sound : ∀ c ∈ [Call.override .format (.string "json"), .file "width.toml"],
      c.Sound widthFiles := by
    simp [Call.Sound, Call.source?, Call.assignment?, hsource, Setting.takes_iff]
  obtain ⟨s, hload, hs, -, -⟩ := load_precedence sound
  refine ⟨s, hload, ?_, ?_, ?_⟩
  · exact hs .format
  · rw [hs, hvalue]
    rfl
  · rw [hs, hvalue]
    rfl

end Calls

end PegGrammar.Settings
