import PegGrammar.Format.Registry

/-!
JSON texts. Reading undoes writing for every value without numbers, in any layout that puts nothing
but blanks between the tokens, and so the JSON text of a snapshot gives the snapshot back.

Reading takes fuel. `steps` says how much a value needs, and a text has at least half as many
characters as its value needs steps.
-/

namespace PegGrammar

namespace Json

section Strings

theorem number?_control : ∀ n < 32,
    Text.number? 16 ['0', '0', Nat.digitChar (n / 16), Nat.digitChar (n % 16)] = some n := by
  decide

theorem readCodePoint?_control {c : Char} (hc : c.toNat < 32) (rest : List Char) :
    readCodePoint?
        ('0' :: '0' :: Nat.digitChar (c.toNat / 16) :: Nat.digitChar (c.toNat % 16) :: rest) =
      some (c, rest) := by
  have hunit : readUnit?
      ('0' :: '0' :: Nat.digitChar (c.toNat / 16) :: Nat.digitChar (c.toNat % 16) :: rest) =
        some (c.toNat, rest) := by
    simp [readUnit?, number?_control c.toNat hc]
  have hscalar : Text.scalar? c.toNat = some c := by
    have valid : c.toNat.isValidChar := c.valid
    simp [Text.scalar?, valid]
  have low : ¬(0xd800 ≤ c.toNat ∧ c.toNat < 0xdc00) := by omega
  simp [readCodePoint?, hunit, hscalar, low]

theorem escape_eq_or (c : Char) :
    escape c = [c] ∧ c ≠ '"' ∧ c ≠ '\\' ∧ 32 ≤ c.toNat ∨
      ∃ code, escape c = '\\' :: code ∧ ∀ rest, readEscape? (code ++ rest) = some (c, rest) := by
  unfold escape
  split
  case h_8 hquote hslash _ _ _ _ _ =>
    split
    · next hc => exact .inr ⟨_, rfl, fun rest => readCodePoint?_control hc rest⟩
    · next hc => exact .inl ⟨rfl, hquote, hslash, Nat.not_lt.1 hc⟩
  all_goals exact .inr ⟨_, rfl, fun _ => rfl⟩

theorem readString?_escape (fuel : Nat) (c : Char) (rest : List Char) :
    readString? (fuel + 1) (escape c ++ rest) =
      (readString? fuel rest).map fun p => (c :: p.1, p.2) := by
  rcases escape_eq_or c with ⟨plain, hquote, hslash, hc⟩ | ⟨code, escaped, reads⟩
  · have hlow : ¬c.toNat < 32 := Nat.not_lt.2 hc
    rw [plain, List.singleton_append]
    simp only [readString?, hlow, if_false]
  · rw [escaped, List.cons_append]
    simp only [readString?, reads, Option.bind_eq_bind, Option.bind_some]
    cases readString? fuel rest <;> rfl

theorem readString?_quoted {fuel : Nat} {cs : List Char} (enough : cs.length < fuel)
    (rest : List Char) : readString? fuel (cs.flatMap escape ++ '"' :: rest) = some (cs, rest) := by
  induction cs generalizing fuel with
  | nil =>
    obtain ⟨fuel, rfl⟩ : ∃ k, fuel = k + 1 := ⟨fuel - 1, by simp at enough; omega⟩
    rfl
  | cons c cs ih =>
    obtain ⟨fuel, rfl⟩ : ∃ k, fuel = k + 1 := ⟨fuel - 1, by simp at enough; omega⟩
    simp only [List.length_cons, Nat.add_lt_add_iff_right] at enough
    rw [List.flatMap_cons, List.append_assoc, readString?_escape, ih enough]
    rfl

end Strings

/-- Nothing but blanks is put between tokens. -/
structure Layout.IsBlank (layout : Layout) : Prop where
  lineStart : ∀ depth, ∀ c ∈ layout.lineStart depth, isBlank c
  colon : ∃ blanks, layout.colon = ':' :: blanks ∧ ∀ c ∈ blanks, isBlank c

theorem isBlank_prettyLayout : prettyLayout.IsBlank where
  lineStart depth c hc := by
    rcases List.mem_cons.1 hc with rfl | hc
    · rfl
    · rw [List.eq_of_mem_replicate hc]
      rfl
  colon := ⟨[' '], rfl, by simp [isBlank]⟩

theorem Layout.IsBlank.closing {layout : Layout} (blank : layout.IsBlank) {α : Type} (depth : Nat)
    (items : List α) : ∀ c ∈ layout.closing depth items, isBlank c := by
  unfold Layout.closing
  split
  · simp
  · exact blank.lineStart depth

theorem skipBlanks_append {blanks : List Char} (h : ∀ c ∈ blanks, isBlank c) (cs : List Char) :
    skipBlanks (blanks ++ cs) = skipBlanks cs :=
  List.dropWhile_append_of_pos h

theorem skipBlanks_cons {c : Char} (h : ¬isBlank c) (cs : List Char) :
    skipBlanks (c :: cs) = c :: cs :=
  List.dropWhile_cons_of_neg h

theorem readValue?_append {blanks : List Char} (h : ∀ c ∈ blanks, isBlank c) (fuel : Nat)
    (cs : List Char) : readValue? fuel (blanks ++ cs) = readValue? fuel cs := by
  cases fuel with
  | zero => rfl
  | succ fuel => simp only [readValue?, skipBlanks_append h]

theorem readItems?_append {blanks : List Char} (h : ∀ c ∈ blanks, isBlank c) (fuel : Nat)
    (cs : List Char) : readItems? fuel (blanks ++ cs) = readItems? fuel cs := by
  cases fuel with
  | zero => rfl
  | succ fuel => simp only [readItems?, readValue?_append h]

theorem readFields?_append {blanks : List Char} (h : ∀ c ∈ blanks, isBlank c) (fuel : Nat)
    (cs : List Char) : readFields? fuel (blanks ++ cs) = readFields? fuel cs := by
  cases fuel with
  | zero => rfl
  | succ fuel => simp only [readFields?, skipBlanks_append h]

mutual

def isNumberless : Json → Bool
  | .number _ => false
  | .array items => areNumberless items
  | .object fields => fieldsAreNumberless fields
  | .null | .bool _ | .string _ => true

def areNumberless : List Json → Bool
  | [] => true
  | v :: vs => v.isNumberless && areNumberless vs

def fieldsAreNumberless : List (String × Json) → Bool
  | [] => true
  | (_, v) :: fields => v.isNumberless && fieldsAreNumberless fields

end

mutual

/-- How much fuel it takes to read a value without numbers back. -/
def steps : Json → Nat
  | .string s => s.length + 2
  | .array items => itemSteps items + 1
  | .object fields => fieldSteps fields + 1
  | .null | .bool _ | .number _ => 1

def itemSteps : List Json → Nat
  | [] => 0
  | v :: vs => v.steps + itemSteps vs + 1

def fieldSteps : List (String × Json) → Nat
  | [] => 0
  | (name, v) :: fields => name.length + v.steps + fieldSteps fields + 2

end

section Lengths

theorem length_le_flatMap_escape (cs : List Char) : cs.length ≤ (cs.flatMap escape).length := by
  induction cs with
  | nil => simp
  | cons c cs ih =>
    have one : 1 ≤ (escape c).length := by
      rcases escape_eq_or c with ⟨h, -⟩ | ⟨code, h, -⟩ <;> simp [h]
    simp only [List.flatMap_cons, List.length_append, List.length_cons]
    omega

theorem length_quote (s : String) : s.length + 2 ≤ (quote s).length := by
  have := length_le_flatMap_escape s.toList
  simp only [quote, List.length_cons, List.length_append, List.length_nil, ← String.length_toList]
  omega

variable (layout : Layout)

mutual

theorem steps_le_length : ∀ (v : Json) (depth : Nat) (rest : List Char),
    v.isNumberless → v.steps + 2 * rest.length ≤ 2 * (writeWith layout depth v rest).length
  | .null, depth, rest, _ => by simp [writeWith, steps]; omega
  | .bool b, depth, rest, _ => by cases b <;> simp [writeWith, steps] <;> omega
  | .number _, _, _, h => by simp [isNumberless] at h
  | .string s, depth, rest, _ => by
    have := length_quote s
    simp only [writeWith, steps, List.length_append]
    omega
  | .array items, depth, rest, h => by
    have := itemSteps_le_length items (depth + 1) [] (layout.closing depth items ++ ']' :: rest)
      (by simp) h
    simp only [writeWith, steps, List.length_cons, List.length_append, List.length_nil] at this ⊢
    omega
  | .object fields, depth, rest, h => by
    have := fieldSteps_le_length fields (depth + 1) [] (layout.closing depth fields ++ '\x7d' :: rest)
      (by simp) h
    simp only [writeWith, steps, List.length_cons, List.length_append, List.length_nil] at this ⊢
    omega

theorem itemSteps_le_length : ∀ (vs : List Json) (depth : Nat) (comma rest : List Char),
    comma.length ≤ 1 → areNumberless vs →
      itemSteps vs + 2 * rest.length + 2 * comma.length ≤
        2 * (writeItems layout depth comma vs rest).length + 2
  | [], depth, comma, rest, hc, _ => by simp [writeItems, itemSteps]; omega
  | v :: vs, depth, comma, rest, hc, h => by
    simp only [areNumberless, Bool.and_eq_true] at h
    have hv := steps_le_length v depth (writeItems layout depth [','] vs rest) h.1
    have hvs := itemSteps_le_length vs depth [','] rest (by simp) h.2
    simp only [writeItems, itemSteps, List.length_append, List.length_cons, List.length_nil] at hvs ⊢
    omega

theorem fieldSteps_le_length : ∀ (fields : List (String × Json)) (depth : Nat)
    (comma rest : List Char), comma.length ≤ 1 → fieldsAreNumberless fields →
      fieldSteps fields + 2 * rest.length + 2 * comma.length ≤
        2 * (writeFields layout depth comma fields rest).length + 2
  | [], depth, comma, rest, hc, _ => by simp [writeFields, fieldSteps]; omega
  | (name, v) :: fields, depth, comma, rest, hc, h => by
    simp only [fieldsAreNumberless, Bool.and_eq_true] at h
    have hname := length_quote name
    have hv := steps_le_length v depth (writeFields layout depth [','] fields rest) h.1
    have hfields := fieldSteps_le_length fields depth [','] rest (by simp) h.2
    simp only [writeFields, fieldSteps, List.length_append, List.length_cons, List.length_nil]
      at hfields ⊢
    omega

end

end Lengths

section RoundTrip

variable {layout : Layout}

mutual

theorem writeWith_append : ∀ (v : Json) (depth : Nat) (rest tail : List Char),
    writeWith layout depth v (rest ++ tail) = writeWith layout depth v rest ++ tail
  | .null, _, _, _ => rfl
  | .bool true, _, _, _ => rfl
  | .bool false, _, _, _ => rfl
  | .number _, _, _, _ => by simp [writeWith]
  | .string _, _, _, _ => by simp [writeWith]
  | .array items, depth, rest, tail => by
    have h := writeItems_append items (depth + 1) [] (layout.closing depth items ++ ']' :: rest) tail
    simp only [List.append_assoc, List.cons_append] at h
    simp only [writeWith, h, List.cons_append]
  | .object fields, depth, rest, tail => by
    have h := writeFields_append fields (depth + 1) []
      (layout.closing depth fields ++ '\x7d' :: rest) tail
    simp only [List.append_assoc, List.cons_append] at h
    simp only [writeWith, h, List.cons_append]

theorem writeItems_append : ∀ (vs : List Json) (depth : Nat) (comma rest tail : List Char),
    writeItems layout depth comma vs (rest ++ tail) = writeItems layout depth comma vs rest ++ tail
  | [], _, _, _, _ => rfl
  | v :: vs, depth, comma, rest, tail => by
    simp only [writeItems, writeItems_append vs depth [','] rest tail,
      writeWith_append v depth _ tail, List.append_assoc]

theorem writeFields_append : ∀ (fields : List (String × Json)) (depth : Nat)
    (comma rest tail : List Char), writeFields layout depth comma fields (rest ++ tail) =
      writeFields layout depth comma fields rest ++ tail
  | [], _, _, _, _ => rfl
  | (_, v) :: fields, depth, comma, rest, tail => by
    simp only [writeFields, writeFields_append fields depth [','] rest tail,
      writeWith_append v depth _ tail, List.append_assoc]

end

theorem exists_head_writeWith {v : Json} (h : v.isNumberless) (depth : Nat) (rest : List Char) :
    ∃ c cs, writeWith layout depth v rest = c :: cs ∧ ¬isBlank c ∧ c ≠ ']' := by
  cases v with
  | null => exact ⟨_, _, rfl, by decide, by decide⟩
  | bool b => cases b <;> exact ⟨_, _, rfl, by decide, by decide⟩
  | number n => simp [isNumberless] at h
  | string s => exact ⟨_, _, rfl, by decide, by decide⟩
  | array items => exact ⟨_, _, by rw [writeWith], by decide, by decide⟩
  | object fields => exact ⟨_, _, by rw [writeWith], by decide, by decide⟩

variable (blank : layout.IsBlank)

include blank

theorem readFields?_succ {fuel : Nat} {name : String} {v : Json} {text tail : List Char}
    (hname : name.length < fuel) (hv : readValue? fuel text = some (v, tail)) :
    readFields? (fuel + 1) (quote name ++ (layout.colon ++ text)) =
      match skipBlanks tail with
      | '\x7d' :: rest => some ([(name, v)], rest)
      | ',' :: rest => (readFields? fuel rest).map fun p => ((name, v) :: p.1, p.2)
      | _ => none := by
  obtain ⟨blanks, hcolon, hblanks⟩ := blank.colon
  rw [← String.length_toList] at hname
  have hread := readString?_quoted hname (':' :: (blanks ++ text))
  simp only [quote, hcolon, List.cons_append, List.append_assoc, List.nil_append, readFields?,
    skipBlanks_cons (show ¬isBlank '"' by decide), hread, Option.bind_eq_bind, Option.bind_some,
    skipBlanks_cons (show ¬isBlank ':' by decide), readValue?_append hblanks, hv,
    String.ofList_toList]
  rfl

mutual

theorem readValue?_writeWith : ∀ (v : Json) (fuel depth : Nat) (rest : List Char),
    v.isNumberless → v.steps ≤ fuel →
      readValue? fuel (writeWith layout depth v rest) = some (v, rest)
  | v, 0, _, _, _, enough => by cases v <;> simp [steps] at enough
  | .null, _ + 1, _, _, _, _ => rfl
  | .bool true, _ + 1, _, _, _, _ => rfl
  | .bool false, _ + 1, _, _, _, _ => rfl
  | .number _, _ + 1, _, _, h, _ => by simp [isNumberless] at h
  | .string s, fuel + 1, depth, rest, _, enough => by
    have hs : s.toList.length < fuel := by
      simp only [steps] at enough
      rw [String.length_toList]
      omega
    have hread := readString?_quoted hs rest
    simp only [writeWith, quote, List.cons_append, List.append_assoc, List.nil_append, readValue?,
      skipBlanks_cons (show ¬isBlank '"' by decide), hread]
    simp
  | .array [], _ + 1, _, _, _, _ => rfl
  | .array (v :: vs), fuel + 1, depth, rest, h, enough => by
    have hread := readItems?_writeItems (v :: vs) fuel (depth + 1)
      (layout.closing depth (v :: vs)) rest h (by simp) (by simp only [steps] at enough; omega)
      (blank.closing depth _)
    simp only [writeItems, List.nil_append] at hread
    simp only [isNumberless, areNumberless, Bool.and_eq_true] at h
    obtain ⟨c, cs, hc, hblank, hclose⟩ := exists_head_writeWith h.1 (depth + 1)
      (writeItems layout (depth + 1) [','] vs (layout.closing depth (v :: vs) ++ ']' :: rest))
    rw [readItems?_append (blank.lineStart _)] at hread
    rw [hc] at hread
    simp only [writeWith, writeItems, List.nil_append, readValue?,
      skipBlanks_cons (show ¬isBlank '[' by decide), skipBlanks_append (blank.lineStart _), hc,
      skipBlanks_cons hblank]
    simp [hclose, hread]
  | .object [], _ + 1, _, _, _, _ => rfl
  | .object ((name, v) :: fields), fuel + 1, depth, rest, h, enough => by
    have hread := readFields?_writeFields ((name, v) :: fields) fuel (depth + 1)
      (layout.closing depth ((name, v) :: fields)) rest h (by simp)
      (by simp only [steps] at enough; omega) (blank.closing depth _)
    simp only [writeFields, quote, List.nil_append, List.append_assoc, List.cons_append] at hread
    rw [readFields?_append (blank.lineStart _)] at hread
    simp only [writeWith, writeFields, quote, List.nil_append, List.append_assoc, List.cons_append,
      readValue?, skipBlanks_cons (show ¬isBlank '\x7b' by decide),
      skipBlanks_append (blank.lineStart _), skipBlanks_cons (show ¬isBlank '"' by decide)]
    simp [hread]

theorem readItems?_writeItems : ∀ (vs : List Json) (fuel depth : Nat) (blanks rest : List Char),
    areNumberless vs → vs ≠ [] → itemSteps vs ≤ fuel → (∀ c ∈ blanks, isBlank c) →
      readItems? fuel (writeItems layout depth [] vs (blanks ++ ']' :: rest)) = some (vs, rest)
  | [], _, _, _, _, _, hne, _, _ => absurd rfl hne
  | _ :: _, 0, _, _, _, _, _, enough, _ => by simp [itemSteps] at enough
  | [v], fuel + 1, depth, blanks, rest, h, _, enough, hblanks => by
    simp only [areNumberless, Bool.and_eq_true] at h
    have hv := readValue?_writeWith v fuel depth (blanks ++ ']' :: rest) h.1
      (by simp only [itemSteps] at enough; omega)
    simp only [writeItems, List.nil_append, readItems?, readValue?_append (blank.lineStart _), hv,
      Option.bind_eq_bind, Option.bind_some, skipBlanks_append hblanks,
      skipBlanks_cons (show ¬isBlank ']' by decide)]
    rfl
  | v :: w :: vs, fuel + 1, depth, blanks, rest, h, _, enough, hblanks => by
    rw [areNumberless, Bool.and_eq_true] at h
    rw [itemSteps] at enough
    have hv := readValue?_writeWith v fuel depth
      (writeItems layout depth [','] (w :: vs) (blanks ++ ']' :: rest)) h.1 (by omega)
    have hvs := readItems?_writeItems (w :: vs) fuel depth blanks rest h.2 (by simp) (by omega) hblanks
    rw [writeItems, List.nil_append, readItems?, readValue?_append (blank.lineStart _), hv]
    simp only [writeItems, List.nil_append, List.cons_append] at hvs ⊢
    simp only [Option.bind_eq_bind, Option.bind_some,
      skipBlanks_cons (show ¬isBlank ',' by decide), hvs]
    rfl

theorem readFields?_writeFields : ∀ (fields : List (String × Json)) (fuel depth : Nat)
    (blanks rest : List Char), fieldsAreNumberless fields → fields ≠ [] →
      fieldSteps fields ≤ fuel → (∀ c ∈ blanks, isBlank c) →
        readFields? fuel (writeFields layout depth [] fields (blanks ++ '\x7d' :: rest)) =
          some (fields, rest)
  | [], _, _, _, _, _, hne, _, _ => absurd rfl hne
  | _ :: _, 0, _, _, _, _, _, enough, _ => by simp [fieldSteps] at enough
  | [(name, v)], fuel + 1, depth, blanks, rest, h, _, enough, hblanks => by
    simp only [fieldsAreNumberless, Bool.and_eq_true] at h
    simp only [fieldSteps] at enough
    have hv := readValue?_writeWith v fuel depth (blanks ++ '\x7d' :: rest) h.1 (by omega)
    simp only [writeFields, List.nil_append, List.append_assoc]
    rw [readFields?_append (blank.lineStart _), readFields?_succ blank (by omega) hv,
      skipBlanks_append hblanks]
    rfl
  | (name, v) :: field :: fields, fuel + 1, depth, blanks, rest, h, _, enough, hblanks => by
    rw [fieldsAreNumberless, Bool.and_eq_true] at h
    rw [fieldSteps] at enough
    have hv := readValue?_writeWith v fuel depth
      (writeFields layout depth [','] (field :: fields) (blanks ++ '\x7d' :: rest)) h.1 (by omega)
    have hfields := readFields?_writeFields (field :: fields) fuel depth blanks rest h.2 (by simp)
      (by omega) hblanks
    rw [writeFields, List.nil_append, List.append_assoc, List.append_assoc,
      readFields?_append (blank.lineStart _), readFields?_succ blank (by omega) hv]
    obtain ⟨next, w⟩ := field
    simp only [writeFields, List.nil_append, List.cons_append] at hfields ⊢
    simp only [skipBlanks_cons (show ¬isBlank ',' by decide), hfields]
    rfl

end

theorem read?_writeWith {v : Json} (h : v.isNumberless) (depth : Nat) {blanks : List Char}
    (hblanks : ∀ c ∈ blanks, isBlank c) :
    read? (String.ofList (writeWith layout depth v blanks)) = some v := by
  have hlen := steps_le_length layout v depth blanks h
  have hread := readValue?_writeWith blank v (2 * (writeWith layout depth v blanks).length + 2)
    depth blanks h (by omega)
  have hend : skipBlanks blanks = [] := by
    have hdrop := skipBlanks_append hblanks []
    rwa [List.append_nil] at hdrop
  simp only [read?, String.toList_ofList, hread, Option.bind_eq_bind, Option.bind_some, hend]
  rfl

end RoundTrip

end Json

namespace Snapshot

mutual

theorem isNumberless_toJson : ∀ s : Snapshot, s.toJson.isNumberless
  | ⟨_, _, children⟩ => by
    simp [toJson, Json.isNumberless, Json.fieldsAreNumberless, areNumberless_toJsons children]

theorem areNumberless_toJsons : ∀ ss : List Snapshot, Json.areNumberless (toJsons ss)
  | [] => rfl
  | s :: ss => by
    simp [toJsons, Json.areNumberless, isNumberless_toJson s, areNumberless_toJsons ss]

end

mutual

theorem ofJson_toJson : ∀ s : Snapshot, ofJson s.toJson = .ok s
  | ⟨nodeType, label, children⟩ => by
    have hchildren := ofJsons_toJsons children
    simp only [toJson, ofJson, fieldCandidates, readChildren, hchildren]
    rfl

theorem ofJsons_toJsons : ∀ ss : List Snapshot, ofJsons (toJsons ss) = .ok ss
  | [] => rfl
  | s :: ss => by
    simp only [toJsons, ofJsons, ofJson_toJson s, ofJsons_toJsons ss]
    rfl

end

theorem read?_jsonText (s : Snapshot) : Json.read? s.jsonText = some s.toJson := by
  have newline : ∀ c ∈ ['\n'], Json.isBlank c := by
    intro c hc
    rw [List.mem_singleton.1 hc]
    rfl
  have hread := Json.read?_writeWith Json.isBlank_prettyLayout s.isNumberless_toJson 0 newline
  have htext : s.jsonText = String.ofList (Json.writeWith Json.prettyLayout 0 s.toJson ['\n']) := by
    rw [← List.nil_append ['\n'], Json.writeWith_append, String.ofList_append]
    rfl
  rw [htext, hread]

/-- The JSON format never fails, and reading its text as JSON and that as a snapshot gives back the
snapshot it was written for, so that no other has the same text. -/
theorem json_round_trip (s : Snapshot) :
    ∃ text, FormatRegistry.builtin.serialize "json" s = .ok text ∧ Format.json.render s = .ok text ∧
      (Json.read? text).map ofJson = some (.ok s) ∧
      ∀ s', Format.json.render s' = .ok text → s' = s := by
  refine ⟨s.jsonText, rfl, rfl, ?_, fun s' h => ?_⟩
  · rw [read?_jsonText, Option.map_some, ofJson_toJson]
  · have htext : s'.jsonText = s.jsonText := by simpa [Format.json] using h
    have hread := read?_jsonText s'
    rw [htext, read?_jsonText, Option.some.injEq] at hread
    have hs := ofJson_toJson s'
    rw [← hread, ofJson_toJson, Except.ok.injEq] at hs
    exact hs.symm

end Snapshot

end PegGrammar
