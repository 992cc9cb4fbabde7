import Mathlib.Data.String.Basic
import Mathlib.Tactic.SplitIfs
import PegGrammar.Format.Registry

/-!
Registries of formats. One registration changes what is found under its own name and nothing else,
so a registry answers by the formats that were registered, in the order they were: under each name
by the last of them. Its names ascend strictly, and in this order of texts the bytes of their UTF-8
forms ascend as well.
-/

namespace PegGrammar

section ByteOrder

def bytesOf (s : String) : List UInt8 := s.toUTF8.data.toList

theorem bytesOf_eq (s : String) : bytesOf s = s.toList.flatMap String.utf8EncodeChar := by
  have h : s.toUTF8 = (s.toList.flatMap String.utf8EncodeChar).toByteArray :=
    String.utf8Encode_toList.symm
  rw [bytesOf, h, List.data_toByteArray]

theorem ofNat_eq_ofNat_iff {m n : Nat} (hm : m < UInt8.size) (hn : n < UInt8.size) :
    UInt8.ofNat m = UInt8.ofNat n ↔ m = n := by
  rw [← UInt8.toNat_inj, UInt8.toNat_ofNat_of_lt' hm, UInt8.toNat_ofNat_of_lt' hn]

theorem lt_by_digits {m n : Nat} (h : m < n) (base : Nat) :
    m / base < n / base ∨ m / base = n / base ∧ m % base < n % base := by
  have hle : m / base ≤ n / base := Nat.div_le_div_right (Nat.le_of_lt h)
  obtain hlt | heq := Nat.lt_or_eq_of_le hle
  · exact .inl hlt
  · have hm := Nat.div_add_mod m base
    have hn := Nat.div_add_mod n base
    rw [heq] at hm
    exact .inr ⟨heq, by omega⟩

theorem utf8EncodeChar_append_lt {c d : Char} (h : c < d) (u v : List UInt8) :
    String.utf8EncodeChar c ++ u < String.utf8EncodeChar d ++ v := by
  have hlt : c.val.toNat < d.val.toNat := h
  have hbound : d.val.toNat < 0x110000 := by
    obtain hd | hd := d.valid
    · exact Nat.lt_trans hd (by decide)
    · exact hd.2
  unfold String.utf8EncodeChar
  generalize c.val.toNat = m at *
  generalize d.val.toNat = n at *
  -- behind the first byte stand digits to the base 64
  have places (k : Nat) : k / 4096 = k / 64 / 64 ∧ k / 262144 = k / 64 / 64 / 64 := by
    simp only [Nat.div_div_eq_div_mul, and_self]
  have fourth := lt_by_digits hlt 64
  have third (h : m / 64 < n / 64) := lt_by_digits h 64
  have second (h : m / 64 / 64 < n / 64 / 64) := lt_by_digits h 64
  simp only [places m, places n]
  split_ifs
  all_goals
    simp (disch := (rw [UInt8.size]; omega)) only [List.cons_append, List.nil_append,
      List.cons_lt_cons_iff, UInt8.ofNat_lt_iff_lt, ofNat_eq_ofNat_iff]
    omega

theorem bytesOf_lt_bytesOf {s t : String} (h : s < t) : bytesOf s < bytesOf t := by
  rw [String.lt_iff] at h
  rw [bytesOf_eq, bytesOf_eq]
  generalize s.toList = cs at h
  generalize t.toList = ds at h
  induction h with
  | @nil d ds =>
    obtain ⟨b, bs, hd⟩ : ∃ b bs, String.utf8EncodeChar d = b :: bs := by
      refine List.exists_cons_of_length_pos ?_
      rw [String.length_utf8EncodeChar]
      exact d.utf8Size_pos
    rw [List.flatMap_cons, hd]
    exact .nil
  | cons h ih => exact List.append_left_lt ih
  | rel h => exact utf8EncodeChar_append_lt h _ _

end ByteOrder

namespace Format

variable {f : Format} {fs : List Format}

theorem mem_map_name_insert {name : String} :
    name ∈ (f.insert fs).map Format.name ↔ name = f.name ∨ name ∈ fs.map Format.name := by
  induction fs with
  | nil => simp [insert]
  | cons g gs ih =>
    rw [insert]
    split_ifs with hlt heq
    · simp
    · simp [heq]
    · rw [List.map_cons, List.map_cons, List.mem_cons, List.mem_cons, ih]
      exact or_left_comm

theorem pairwise_insert (h : (fs.map Format.name).Pairwise (· < ·)) :
    ((f.insert fs).map Format.name).Pairwise (· < ·) := by
  induction fs with
  | nil => simp [insert]
  | cons g gs ih =>
    obtain ⟨hg, hgs⟩ := List.pairwise_cons.1 h
    rw [insert]
    split_ifs with hlt heq
    · refine List.pairwise_cons.2 ⟨fun name hname => ?_, h⟩
      obtain rfl | hname := List.mem_cons.1 hname
      · exact hlt
      · exact String.lt_trans hlt (hg name hname)
    · exact List.pairwise_cons.2 ⟨by rwa [heq], hgs⟩
    · refine List.pairwise_cons.2 ⟨fun name hname => ?_, ih hgs⟩
      obtain rfl | hname := mem_map_name_insert.1 hname
      · exact lt_of_le_of_ne (not_lt.1 hlt) (Ne.symm heq)
      · exact hg name hname

theorem find?_insert (f : Format) (fs : List Format) (name : String) :
    (f.insert fs).find? (·.name == name) =
      if f.name = name then some f else fs.find? (·.name == name) := by
  have first (g : Format) (gs : List Format) : (g :: gs).find? (·.name == name) =
      if g.name = name then some g else gs.find? (·.name == name) := by
    by_cases hg : g.name = name <;> simp [hg]
  induction fs with
  | nil => exact first f []
  | cons g gs ih =>
    rw [insert]
    split
    · exact first f (g :: gs)
    · split
      · next heq =>
        rw [first f, first g, heq]
        split_ifs <;> rfl
      · next hne =>
        rw [first g, first g, ih]
        split_ifs with hg hf
        · exact absurd (hf.trans hg.symm) hne
        all_goals rfl

end Format

namespace FormatRegistry

def latest? (history : List Format) (name : String) : Option Format :=
  (history.filter (·.name == name)).getLast?

theorem latest?_append_singleton (history : List Format) (f : Format) (name : String) :
    latest? (history ++ [f]) name = if f.name = name then some f else latest? history name := by
  by_cases hf : f.name = name <;> simp [latest?, hf]

theorem latest?_eq_none_iff {history : List Format} {name : String} :
    latest? history name = none ↔ ∀ f ∈ history, f.name ≠ name := by
  simp [latest?]

def registerAll (r : FormatRegistry) (fs : List Format) : FormatRegistry := fs.foldl register r

variable {r : FormatRegistry} {history : List Format}

theorem get?_register (r : FormatRegistry) (f : Format) (name : String) :
    (r.register f).get? name = if f.name = name then some f else r.get? name :=
  Format.find?_insert f r.formats name

theorem serialize_register (r : FormatRegistry) (f : Format) (name : String) (s : Snapshot) :
    (r.register f).serialize name s = if f.name = name then f.render s else r.serialize name s := by
  rw [serialize, get?_register]
  by_cases hf : f.name = name
  · rw [if_pos hf, if_pos hf]
  · rw [if_neg hf, if_neg hf, serialize]

theorem mem_names_iff {name : String} : name ∈ r.names ↔ r.get? name ≠ none := by
  simp [names, get?]

structure Records (history : List Format) (r : FormatRegistry) : Prop where
  ascending : r.names.Pairwise (· < ·)
  get?_eq : ∀ name, r.get? name = latest? history name

theorem records_empty : Records [] empty := ⟨.nil, fun _ => rfl⟩

theorem Records.register (h : Records history r) (f : Format) :
    Records (history ++ [f]) (r.register f) where
  ascending := Format.pairwise_insert h.ascending
  get?_eq name := by rw [get?_register, h.get?_eq, latest?_append_singleton]

theorem Records.registerAll (h : Records history r) (fs : List Format) :
    Records (history ++ fs) (r.registerAll fs) := by
  induction fs generalizing history r with
  | nil => rwa [List.append_nil]
  | cons f fs ih =>
    have hfs := ih (h.register f)
    rwa [List.append_assoc] at hfs

def builtinFormats : List Format := [.treeviz Snapshot.defaultLabelWidth, .json, .yaml, .value]

theorem records_builtin : Records builtinFormats builtin := records_empty.registerAll builtinFormats

/-- The registry answers by the history: it lists each name in it once, in ascending order of bytes,
and finds and serializes under a name by the last format of that name. Nothing was registered under
a name exactly if none is found; then that is the error, as it also is where the format found gives
it for an answer. One more registration makes a difference under its own name only. -/
structure AnswersBy (history : List Format) (r : FormatRegistry) : Prop where
  ascending : r.names.Pairwise (bytesOf · < bytesOf ·)
  nodup : r.names.Nodup
  mem_names_iff : ∀ name, name ∈ r.names ↔ ∃ f ∈ history, f.name = name
  get?_eq : ∀ name, r.get? name = latest? history name
  get?_eq_none_iff : ∀ name, r.get? name = none ↔ ∀ f ∈ history, f.name ≠ name
  serialize_eq : ∀ name s, r.serialize name s =
    match latest? history name with
    | some f => f.render s
    | none => .error (.notFound name)
  serialize_eq_notFound_iff : ∀ name s, r.serialize name s = .error (.notFound name) ↔
    (∀ f ∈ history, f.name ≠ name) ∨
      ∃ f, latest? history name = some f ∧ f.render s = .error (.notFound name)
  get?_register : ∀ f name,
    (r.register f).get? name = if f.name = name then some f else r.get? name
  serialize_register : ∀ f name s,
    (r.register f).serialize name s = if f.name = name then f.render s else r.serialize name s

theorem Records.answersBy (h : Records history r) : AnswersBy history r where
  ascending := h.ascending.imp bytesOf_lt_bytesOf
  nodup := h.ascending.imp ne_of_lt
  mem_names_iff name := by
    rw [FormatRegistry.mem_names_iff, h.get?_eq, ne_eq, latest?_eq_none_iff]
    simp only [ne_eq, not_forall, not_not, exists_prop]
  get?_eq := h.get?_eq
  get?_eq_none_iff name := by rw [h.get?_eq, latest?_eq_none_iff]
  serialize_eq name s := by
    cases hlatest : latest? history name <;> simp [serialize, h.get?_eq, hlatest]
  serialize_eq_notFound_iff name s := by
    rw [serialize, h.get?_eq, ← latest?_eq_none_iff]
    cases latest? history name <;> simp
  get?_register := get?_register r
  serialize_register := serialize_register r

end FormatRegistry

/-- Whatever is registered with no formats at first, or with those that come with the program, the
registry answers by what was registered and by nothing else. -/
theorem answersBy_history (fs : List Format) :
    FormatRegistry.AnswersBy fs (FormatRegistry.empty.registerAll fs) ∧
    FormatRegistry.AnswersBy (FormatRegistry.builtinFormats ++ fs)
      (FormatRegistry.builtin.registerAll fs) :=
  ⟨(FormatRegistry.records_empty.registerAll fs).answersBy,
    (FormatRegistry.records_builtin.registerAll fs).answersBy⟩

example : (FormatRegistry.builtin.registerAll [.yaml, .treeviz 3]).names =
    ["json", "treeviz", "value", "yaml"] := rfl

end PegGrammar
