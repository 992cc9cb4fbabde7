import Mathlib.Data.List.Nodup
import Mathlib.Data.List.TakeWhile
import Mathlib.Logic.Function.Basic
import PegGrammar.Settings.Tree

/-!
Merging into trees of settings. A plain key reads as no longer path, so an entry of a document goes
to its key in lower case. A value merged in at a key leaves the values at other keys as they are,
and a table is merged key by key: entries whose keys stay apart in lower case each go to their own
key, and what is at other keys remains.
-/

namespace PegGrammar

namespace Unicode

theorem lowerAfter_of_ascii {cs before : List Char} (ascii : ∀ c ∈ cs, c.toNat < 128) :
    lowerAfter before cs = cs.map Char.toLower := by
  induction cs generalizing before with
  | nil => rfl
  | cons c cs ih =>
    obtain ⟨hc, hcs⟩ := List.forall_mem_cons.1 ascii
    have hsigma : c ≠ 'Σ' := by
      rintro rfl
      simp at hc
    have hdotted : c ≠ '\u0130' := by
      rintro rfl
      simp at hc
    simp [lowerAfter, lowerChar, hsigma, hdotted, hc, ih hcs]

theorem lowercase_of_ascii {cs : List Char} (ascii : ∀ c ∈ cs, c.toNat < 128) :
    lowercase (String.ofList cs) = String.ofList (cs.map Char.toLower) := by
  rw [lowercase, String.toList_ofList, lowerAfter_of_ascii ascii]

end Unicode

namespace Settings

section Keys

theorem KeyPath.toNat_lt_of_isNameChar {c : Char} (h : KeyPath.isNameChar c = true) :
    c.toNat < 128 := by
  have ranges : c.isAlphanum = (decide (c.val ≥ 'A'.val ∧ c.val ≤ 'Z'.val) ||
      decide (c.val ≥ 'a'.val) && decide (c.val ≤ 'z'.val) ||
      decide (c.val ≥ '0'.val) && decide (c.val ≤ '9'.val)) := rfl
  simp only [KeyPath.isNameChar, ranges, Bool.or_eq_true, Bool.and_eq_true, decide_eq_true_eq,
    beq_iff_eq, UInt32.le_iff_toNat_le, ge_iff_le] at h
  have hc : c.val.toNat = c.toNat := rfl
  have hZ : 'Z'.val.toNat = 90 := rfl
  have hz : 'z'.val.toNat = 122 := rfl
  have h9 : '9'.val.toNat = 57 := rfl
  rcases h with ((h | rfl) | rfl) | rfl
  · omega
  all_goals decide

theorem toLower_ofNat : ∀ n < 128, (Char.ofNat n).toLower.toNat < 128 ∧
    (Char.ofNat n).toLower.toLower = (Char.ofNat n).toLower := by
  decide

theorem toLower_of_ascii {c : Char} (h : c.toNat < 128) :
    c.toLower.toNat < 128 ∧ c.toLower.toLower = c.toLower := by
  simpa using toLower_ofNat c.toNat h

theorem KeyPath.readName?_eq_some {cs rest : List Char} {name : String}
    (h : KeyPath.readName? cs = some (name, rest)) :
    ∃ ns, cs = ns ++ rest ∧ name = String.ofList (ns.map Char.toLower) ∧
      ∀ c ∈ ns, c.toNat < 128 := by
  simp only [KeyPath.readName?, Option.ite_none_left_eq_some, Option.some.injEq,
    Prod.mk.injEq] at h
  obtain ⟨-, hname, hrest⟩ := h
  refine ⟨cs.takeWhile KeyPath.isNameChar, ?_, hname.symm, ?_⟩
  · rw [← hrest, List.takeWhile_append_dropWhile]
  · intro c hc
    exact KeyPath.toNat_lt_of_isNameChar (List.mem_takeWhile_imp hc)

def IsPlain (key : String) : Prop := '.' ∉ key.toList ∧ '[' ∉ key.toList

theorem KeyPath.eq_nil_of_readSteps {cs : List Char} {fuel : ℕ} {steps : List Step}
    (dot : '.' ∉ cs) (bracket : '[' ∉ cs) (h : KeyPath.readSteps fuel cs = .ok steps) :
    cs = [] ∧ steps = [] := by
  cases cs with
  | nil =>
    rw [KeyPath.readSteps] at h
    exact ⟨rfl, (Except.ok.inj h).symm⟩
  | cons c cs =>
    have hstep : KeyPath.readStep (c :: cs) = .error .punctuation := by
      unfold KeyPath.readStep
      split
      · next heq => simp_all
      · next heq => simp_all
      · rfl
    cases fuel with
    | zero => simp [KeyPath.readSteps] at h
    | succ fuel => simp [KeyPath.readSteps, hstep, bind, Except.bind] at h

theorem IsPlain.eq_of_read {key : String} (plain : IsPlain key) {path : KeyPath}
    (h : KeyPath.read key = .ok path) :
    path.steps = [] ∧ Unicode.lowercase path.root = Unicode.lowercase key := by
  unfold KeyPath.read at h
  split at h
  · cases h
  · next root rest hname =>
    obtain ⟨ns, hkey, rfl, ascii⟩ := KeyPath.readName?_eq_some hname
    have dot : '.' ∉ rest := fun hc => plain.1 (by simp [hkey, hc])
    have bracket : '[' ∉ rest := fun hc => plain.2 (by simp [hkey, hc])
    cases hsteps : KeyPath.readSteps rest.length rest with
    | error e => simp [hsteps, bind, Except.bind] at h
    | ok steps =>
      obtain ⟨rfl, rfl⟩ := KeyPath.eq_nil_of_readSteps dot bracket hsteps
      simp only [hsteps, bind, Except.bind, pure, Except.pure, Except.ok.injEq] at h
      subst h
      have hlower : ∀ c ∈ ns.map Char.toLower, c.toNat < 128 := by
        intro c hc
        obtain ⟨d, hd, rfl⟩ := List.mem_map.1 hc
        exact (toLower_of_ascii (ascii d hd)).1
      have key_eq : key = String.ofList ns := by
        rw [← String.ofList_toList (s := key), hkey, List.append_nil]
      refine ⟨rfl, ?_⟩
      rw [key_eq, Unicode.lowercase_of_ascii hlower, Unicode.lowercase_of_ascii ascii,
        List.map_map]
      exact congrArg _ (List.map_congr_left fun c hc => (toLower_of_ascii (ascii c hc)).2)

end Keys

namespace Entries

theorem lookup_cons_eq (es : Entries) (name other : String) (v : Value) :
    List.lookup other ((name, v) :: es) = if other = name then some v else es.lookup other := by
  by_cases same : other = name
  · simp [same]
  · simp [List.lookup_cons, beq_false_of_ne same, same]

theorem lookup_map_put (es : Entries) (key other : String) (v : Value) :
    List.lookup other (es.map fun e => if e.1 = key then (key, v) else e) =
      (es.lookup other).map fun w => if other = key then v else w := by
  induction es with
  | nil => rfl
  | cons e es ih =>
    obtain ⟨name, w⟩ := e
    rw [List.map_cons, lookup_cons_eq]
    by_cases hit : name = key
    · simp only [hit, if_true, lookup_cons_eq, ih]
      split
      · simp
      · rfl
    · simp only [hit, if_false, lookup_cons_eq, ih]
      split
      · next same => simp [same, hit]
      · rfl

theorem lookup_put (es : Entries) (key other : String) (v : Value) :
    (es.put key v).lookup other = if other = key then some v else es.lookup other := by
  unfold Entries.put
  split
  · next present =>
    have isSome : (es.lookup key).isSome := by
      obtain ⟨e, he, hkey⟩ := List.any_eq_true.1 present
      exact List.lookup_isSome_iff.2 ⟨e, he, by rwa [BEq.comm]⟩
    rw [lookup_map_put]
    split
    · next same =>
      obtain ⟨w, hw⟩ := Option.isSome_iff_exists.1 isSome
      simp [same, hw]
    · simp
  · next absent =>
    have unset : es.lookup key = none := by
      rw [List.lookup_eq_none_iff]
      intro e he
      rw [bne_iff_ne]
      rintro rfl
      exact absent (List.any_eq_true.2 ⟨e, he, beq_self_eq_true _⟩)
    rw [List.lookup_append, lookup_cons_eq]
    split
    · next same => simp [same, unset]
    · simp

end Entries

def valueAt? {α : Type} (es : List (String × α)) (key : String) : Option α :=
  (es.find? fun e => Unicode.lowercase e.1 == key).map (·.2)

def DistinctKeys {α : Type} (es : List (String × α)) : Prop :=
  (es.map fun e => Unicode.lowercase e.1).Nodup

namespace Value

def child (t : Value) (key : String) : Option Value := t.asTable.2.lookup key

/-- What merging makes of a value where there may be another one already. -/
def overlay (old : Option Value) : Value → Value
  | .table _ es => (old.getD (.table none [])).mergeAll es
  | v => v

theorem mergeAt_eq (t : Value) (key : String) (v : Value) :
    t.mergeAt key v = .table t.asTable.1
      (t.asTable.2.put (Unicode.lowercase key) (v.overlay (t.child (Unicode.lowercase key)))) := by
  cases v <;> rw [mergeAt] <;> rfl

theorem child_mergeAt (t : Value) (key other : String) (v : Value) :
    (t.mergeAt key v).child other =
      if other = Unicode.lowercase key then some (v.overlay (t.child other))
      else t.child other := by
  rw [mergeAt_eq]
  simp only [child, asTable, Entries.lookup_put]
  split
  · next same => rw [same]
  · rfl

theorem exists_mergeAll_eq_table (o : Option String) (es incoming : Entries) :
    ∃ o' es', (table o es).mergeAll incoming = table o' es' := by
  induction incoming generalizing o es with
  | nil => exact ⟨o, es, by rw [mergeAll]⟩
  | cons e incoming ih =>
    rw [mergeAll, mergeAt_eq]
    exact ih _ _

theorem child_mergeAll {es : Entries} (distinct : DistinctKeys es) (t : Value) (key : String) :
    (t.mergeAll es).child key =
      match valueAt? es key with
      | some v => some (v.overlay (t.child key))
      | none => t.child key := by
  induction es generalizing t with
  | nil => rw [mergeAll]; rfl
  | cons e es ih =>
    obtain ⟨name, v⟩ := e
    obtain ⟨fresh, distinct⟩ := List.nodup_cons.1 distinct
    rw [mergeAll, ih distinct, child_mergeAt]
    by_cases same : key = Unicode.lowercase name
    · have later : valueAt? es key = none := by
        simp only [valueAt?, Option.map_eq_none_iff, List.find?_eq_none, beq_iff_eq]
        intro e he hkey
        exact fresh (List.mem_map.2 ⟨e, he, hkey.trans same⟩)
      rw [later]
      simp [valueAt?, same]
    · have skipped : valueAt? ((name, v) :: es) key = valueAt? es key := by
        simp [valueAt?, beq_false_of_ne (Ne.symm same)]
      rw [skipped, if_neg same]

theorem mergeEntry_of_isPlain {key : String} (plain : IsPlain key) (t v : Value) :
    t.mergeEntry key v = t.mergeAt key v := by
  unfold mergeEntry
  split
  · next path hpath =>
    obtain ⟨hsteps, hroot⟩ := plain.eq_of_read hpath
    rw [mergePath, hsteps, mergeAlong, mergeAt_eq, mergeAt_eq, hroot]
  · rfl

theorem foldl_mergeEntry {es : Entries} (plain : ∀ e ∈ es, IsPlain e.1) (t : Value) :
    es.foldl (fun t e => t.mergeEntry e.1 e.2) t = t.mergeAll es := by
  induction es generalizing t with
  | nil => rw [mergeAll]; rfl
  | cons e es ih =>
    obtain ⟨here, later⟩ := List.forall_mem_cons.1 plain
    rw [List.foldl_cons, ih later, mergeEntry_of_isPlain here, mergeAll]

end Value

end Settings

end PegGrammar
