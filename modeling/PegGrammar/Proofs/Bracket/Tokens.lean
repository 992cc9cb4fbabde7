import PegGrammar.CharClass.Basic
import Mathlib.Data.List.Basic

/-!
The texts of the tokens of a bracket expression. Behind a backslash and one more character only
letters, digits and braces are read, and the names of properties and named classes hold neither
brackets nor backslashes: so the search for an early `]` passes the text of an item with the depth
it came with, unless a range ends at a bare bracket.
-/

namespace PegGrammar

def isBracketing (c : Char) : Bool := c == '[' || c == ']' || c == '\\'

theorem isBracketing_iff {c : Char} : isBracketing c = true ↔ c = '[' ∨ c = ']' ∨ c = '\\' := by
  simp [isBracketing, or_assoc]

theorem isBracketing_eq_false_iff {c : Char} :
    isBracketing c = false ↔ c ≠ '[' ∧ c ≠ ']' ∧ c ≠ '\\' := by
  simp [isBracketing, and_assoc]

def Plain (cs : List Char) : Prop := ∀ c ∈ cs, isBracketing c = false

theorem Plain.append {cs ds : List Char} (hcs : Plain cs) (hds : Plain ds) : Plain (cs ++ ds) := by
  intro c hc
  obtain hc | hc := List.mem_append.1 hc
  · exact hcs c hc
  · exact hds c hc

theorem Plain.cons {c : Char} {cs : List Char} (hc : isBracketing c = false) (hcs : Plain cs) :
    Plain (c :: cs) := by
  intro d hd
  obtain rfl | hd := List.mem_cons.1 hd
  · exact hc
  · exact hcs d hd

theorem plain_nil : Plain [] := by simp [Plain]

theorem plain_of_all {cs : List Char} (h : cs.all (!isBracketing ·) = true) :
    Plain cs := by
  intro c hc
  simpa using List.all_eq_true.1 h c hc

namespace Unicode

theorem mem_looseName {name : List Char} {c : Char} (hc : c ∈ name) (hb : isBracketing c = true) :
    c ∈ looseName name := by
  have kept : c.toNat < 128 ∧ c ≠ ' ' ∧ c ≠ '_' ∧ c ≠ '-' ∧ c.toLower = c ∧ c ≠ 'i' ∧ c ≠ 'I' ∧
      c ≠ 's' ∧ c ≠ 'S' ∧ c ≠ 'c' := by
    obtain rfl | rfl | rfl := isBracketing_iff.1 hb <;> decide
  have folded {cs : List Char} (h : c ∈ cs) :
      c ∈ (cs.filter fun c => c.toNat < 128 && c != ' ' && c != '_' && c != '-').map
        Char.toLower :=
    List.mem_map.2 ⟨c, List.mem_filter.2 ⟨h, by simp [kept]⟩, by simp [kept]⟩
  unfold looseName
  simp only
  split
  · next i s rest =>
    split
    · next his =>
      simp only [Bool.and_eq_true, Bool.or_eq_true, beq_iff_eq] at his
      have hrest : c ∈ rest := by
        simp only [List.mem_cons] at hc
        obtain rfl | rfl | h := hc
        · simp [kept] at his
        · simp [kept] at his
        · exact h
      split
      · next hfold => simpa [hfold, kept] using folded hrest
      · exact folded hrest
    · exact folded hc
  · exact folded hc

theorem plain_of_looseName {name : List Char} (h : Plain (looseName name)) : Plain name := by
  intro c hc
  by_contra hb
  rw [Bool.not_eq_false] at hb
  simp [h c (mem_looseName hc hb)] at hb

/-- The names in a table hold neither brackets nor backslashes: no byte of theirs is one of these. -/
def plainNames (table : List (List String × CodeSet)) : Bool :=
  table.all fun row => row.1.all fun name =>
    name.toByteArray.data.toList.all fun b => b != 91 && b != 92 && b != 93

theorem plain_of_mem_row {table : List (List String × CodeSet)} (h : plainNames table = true)
    {row : List String × CodeSet} (hrow : row ∈ table) {name : String} (hname : name ∈ row.1) :
    Plain name.toList := by
  simp only [plainNames, List.all_eq_true] at h
  intro c hc
  have hbytes : ∀ b ∈ String.utf8EncodeChar c, (b != 91 && b != 92 && b != 93) = true := by
    intro b hb
    refine h row hrow name hname b ?_
    rw [← String.utf8Encode_toList, List.utf8Encode, List.data_toByteArray]
    exact List.mem_flatMap.2 ⟨c, hc, hb⟩
  by_contra hb
  rw [Bool.not_eq_false] at hb
  obtain rfl | rfl | rfl := isBracketing_iff.1 hb <;> revert hbytes <;> decide

theorem plain_of_row? {table : List (List String × CodeSet)} (h : plainNames table = true)
    {name : String} (found : (row? table name).isSome) : Plain name.toList := by
  obtain ⟨row, hrow⟩ : ∃ row, table.find? (·.1.contains name) = some row := by
    simpa [row?, Option.isSome_iff_exists] using found
  have hname : name ∈ row.1 := by simpa using List.find?_some hrow
  exact plain_of_mem_row h (List.mem_of_find?_eq_some hrow) hname

def nameTables : List (List (List String × CodeSet)) :=
  [categories, binaryProperties, scripts, scriptExtensions, ages, graphemeBreaks, wordBreaks,
    sentenceBreaks]

theorem plainNames_of_mem {table : List (List String × CodeSet)} (h : table ∈ nameTables) :
    plainNames table = true := by
  have all : nameTables.all plainNames = true := by decide +kernel
  exact List.all_eq_true.1 all table h

theorem plain_of_categoryGroup? {name : String} (found : (categoryGroup? name).isSome) :
    Plain name.toList := by
  refine plain_of_all ?_
  unfold categoryGroup? at found
  split at found
  case h_19 => cases found
  all_goals rfl

theorem plain_of_category? {name : String} (found : (category? name).isSome) :
    Plain name.toList := by
  unfold category? at found
  split at found
  case h_4 =>
    cases hgroup : categoryGroup? name with
    | some names => exact plain_of_categoryGroup? (by simp [hgroup])
    | none =>
      rw [hgroup] at found
      exact plain_of_row? (plainNames_of_mem (by simp [nameTables])) found
  all_goals exact plain_of_all rfl

theorem plain_of_assignedBy? {version : String} (found : (assignedBy? version).isSome) :
    Plain version.toList := by
  have hrow : ∃ row ∈ ages, version ∈ row.1 := by
    simpa [assignedBy?] using found
  obtain ⟨row, hrow, hname⟩ := hrow
  exact plain_of_mem_row (plainNames_of_mem (by simp [nameTables])) hrow hname

theorem plain_of_property? {name : List Char} (found : (property? name).isSome) :
    Plain name := by
  refine plain_of_looseName ?_
  rw [← String.toList_ofList (l := looseName name)]
  simp only [property?, Option.orElse_eq_or, Option.isSome_or, Bool.or_eq_true] at found
  obtain (binary | category) | script := found
  · split at binary
    · cases binary
    · exact plain_of_row? (plainNames_of_mem (by simp [nameTables])) binary
  · exact plain_of_category? category
  · exact plain_of_row? (plainNames_of_mem (by simp [nameTables])) script

theorem plain_of_propertyValue? {key value : List Char} (found : (propertyValue? key value).isSome) :
    Plain key ∧ Plain value := by
  unfold propertyValue? at found
  constructor
  · refine plain_of_looseName ?_
    rw [← String.toList_ofList (l := looseName key)]
    refine plain_of_all ?_
    split at found
    case h_14 => cases found
    all_goals next h => rw [h]; rfl
  · refine plain_of_looseName ?_
    rw [← String.toList_ofList (l := looseName value)]
    simp only at found
    split at found
    case h_14 => cases found
    case h_1 | h_2 => exact plain_of_category? found
    case h_3 | h_4 => exact plain_of_row? (plainNames_of_mem (by simp [nameTables])) found
    case h_5 | h_6 => exact plain_of_row? (plainNames_of_mem (by simp [nameTables])) found
    case h_7 => exact plain_of_assignedBy? found
    all_goals exact plain_of_row? (plainNames_of_mem (by simp [nameTables])) found

end Unicode

namespace Text

theorem plain_of_digitValue? {base : Nat} {c : Char} (h : (digitValue? base c).isSome) :
    isBracketing c = false := by
  by_contra hb
  rw [Bool.not_eq_false] at hb
  obtain rfl | rfl | rfl := isBracketing_iff.1 hb <;> simp [digitValue?, hexValue?] at h

theorem plain_of_number? {base : Nat} {cs : List Char} (h : (number? base cs).isSome) :
    Plain cs := by
  have digits (n : Nat)
      (h : (cs.foldlM (fun n c => (digitValue? base c).map (n * base + ·)) n).isSome) :
      Plain cs := by
    clear * - h
    induction cs generalizing n with
    | nil => exact plain_nil
    | cons c cs ih =>
      rw [List.foldlM_cons] at h
      cases hc : digitValue? base c with
      | none => simp [hc] at h
      | some d =>
        rw [hc] at h
        exact (ih _ h).cons (plain_of_digitValue? (by rw [hc]; rfl))
  unfold number? at h
  split at h
  · cases h
  · exact digits 0 h

end Text

namespace CharClass

theorem plain_of_codePoint? {ds : List Char} {c : Char} (h : codePoint? ds = .ok c) :
    Plain ds := by
  unfold codePoint? at h
  cases hn : Text.number? 16 ds with
  | none => simp [hn] at h
  | some n => exact Text.plain_of_number? (Option.isSome_of_eq_some hn)

theorem eq_of_splitAt? {sep cs key value : List Char} (h : splitAt? sep cs = some (key, value)) :
    cs = key ++ sep ++ value := by
  induction cs generalizing key with
  | nil => cases h
  | cons c cs ih =>
    rw [splitAt?] at h
    split at h
    · next hsep =>
      obtain ⟨rest, hrest⟩ := List.isPrefixOf_iff_prefix.1 hsep
      simp only [Option.some.injEq, Prod.mk.injEq] at h
      obtain ⟨rfl, rfl⟩ := h
      simp [← hrest]
    · obtain ⟨⟨key, value⟩, hsplit, heq⟩ := Option.map_eq_some_iff.1 h
      cases heq
      simp [ih hsplit]

theorem plain_of_namedProperty {name : List Char} {negated : Bool} {s : SetExpr}
    (h : namedProperty {} name negated = .ok s) : Plain name := by
  have valued {sep key value : List Char} {f : Unicode.Property → Unicode.Property × Bool}
      {p : Unicode.Property × Bool} (hsep : sep.all (!isBracketing ·) = true)
      (hsplit : splitAt? sep name = some (key, value))
      (found : (Unicode.propertyValue? key value).map f = some p) : Plain name := by
    obtain ⟨sets, hsets, -⟩ := Option.map_eq_some_iff.1 found
    obtain ⟨hkey, hvalue⟩ := Unicode.plain_of_propertyValue? (Option.isSome_of_eq_some hsets)
    rw [eq_of_splitAt? hsplit]
    exact (hkey.append (plain_of_all hsep)).append hvalue
  simp only [namedProperty, Option.orElse_eq_or] at h
  split at h
  case h_2 => cases h
  case h_1 hfound =>
    split at hfound
    case h_1 hsplit => exact valued rfl hsplit hfound
    case h_2 =>
      split at hfound
      case h_1 hsplit =>
        obtain hcolon | ⟨-, hequals⟩ := Option.or_eq_some_iff.1 hsplit
        · exact valued rfl hcolon hfound
        · exact valued rfl hequals hfound
      case h_2 =>
        obtain ⟨sets, hsets, -⟩ := Option.map_eq_some_iff.1 hfound
        exact Unicode.plain_of_property? (Option.isSome_of_eq_some hsets)

theorem Mode.eq_of_upToBrace? {cs ds rest : List Char}
    (h : Mode.upToBrace? {} false cs = some (ds, rest)) : cs = ds ++ '\x7d' :: rest := by
  induction cs generalizing ds with
  | nil => cases h
  | cons c cs ih =>
    simp only [upToBrace?, Bool.false_and, Bool.false_eq_true, if_false] at h
    split at h
    · next hc =>
      cases h
      rw [hc]
      rfl
    · obtain ⟨⟨ds, rest⟩, hmore, heq⟩ := Option.map_eq_some_iff.1 h
      cases heq
      rw [ih hmore]
      rfl

theorem Mode.eq_of_take? {n : Nat} {cs ds rest : List Char}
    (h : Mode.take? {} n cs = some (ds, rest)) : cs = ds ++ rest := by
  induction n generalizing cs ds with
  | zero =>
    cases h
    rfl
  | succ n ih =>
    cases cs with
    | nil => cases h
    | cons c cs =>
      obtain ⟨⟨ds, rest⟩, hmore, heq⟩ := Option.map_eq_some_iff.1 h
      cases heq
      rw [ih hmore]
      rfl

theorem exists_of_bind_eq_ok {ε α β : Type} {x : Except ε α} {f : α → Except ε β} {b : β}
    (h : x >>= f = .ok b) : ∃ a, x = .ok a ∧ f a = .ok b := by
  cases x with
  | error e => cases h
  | ok a => exact ⟨a, rfl, h⟩

theorem readCodePoint_text {count : Nat} {cs rest : List Char} {a : Atom}
    (h : readCodePoint {} count cs = .ok (a, rest)) : ∃ args, cs = args ++ rest ∧ Plain args := by
  simp only [readCodePoint, Mode.skip, Bool.false_eq_true, if_false] at h
  split at h
  · next cs =>
    split at h
    · cases h
    · next ds rest' hbrace =>
      obtain ⟨c, hc, heq⟩ := exists_of_bind_eq_ok h
      cases heq
      refine ⟨'\x7b' :: ds ++ ['\x7d'], ?_, ?_⟩
      · simp [Mode.eq_of_upToBrace? hbrace]
      · exact ((plain_of_codePoint? hc).cons rfl).append (plain_of_all rfl)
  · split at h
    · cases h
    · next ds rest' htake =>
      obtain ⟨c, hc, heq⟩ := exists_of_bind_eq_ok h
      split at heq
      · cases heq
      · cases heq
        exact ⟨ds, Mode.eq_of_take? htake, plain_of_codePoint? hc⟩

theorem readProperty_text {negated : Bool} {cs rest : List Char} {a : Atom}
    (h : readProperty {} negated cs = .ok (a, rest)) : ∃ args, cs = args ++ rest ∧ Plain args := by
  simp only [readProperty, Mode.skip, Bool.false_eq_true, if_false] at h
  split at h
  · cases h
  · next cs =>
    split at h
    · cases h
    · next name rest' hbrace =>
      obtain ⟨s, hs, heq⟩ := exists_of_bind_eq_ok h
      cases heq
      refine ⟨'\x7b' :: name ++ ['\x7d'], ?_, ?_⟩
      · simp [Mode.eq_of_upToBrace? hbrace]
      · exact ((plain_of_namedProperty hs).cons rfl).append (plain_of_all rfl)
  · cases h
  · next c cs _ _ =>
    obtain ⟨s, hs, heq⟩ := exists_of_bind_eq_ok h
    cases heq
    exact ⟨[c], rfl, plain_of_namedProperty hs⟩

/-- Behind the character after a backslash, only plain text belongs to an escape. -/
theorem readEscape_text {cs rest : List Char} {a : Atom} (h : readEscape {} cs = .ok (a, rest)) :
    ∃ c args, cs = c :: (args ++ rest) ∧ Plain args := by
  unfold readEscape at h
  split at h
  case h_1 => cases h
  case h_2 | h_3 | h_4 =>
    obtain ⟨args, rfl, hargs⟩ := readCodePoint_text h
    exact ⟨_, args, rfl, hargs⟩
  case h_5 | h_6 =>
    obtain ⟨args, rfl, hargs⟩ := readProperty_text h
    exact ⟨_, args, rfl, hargs⟩
  case h_7 | h_8 | h_9 | h_10 | h_11 | h_12 =>
    obtain ⟨a, -, heq⟩ := exists_of_bind_eq_ok h
    cases heq
    exact ⟨_, [], rfl, plain_nil⟩
  case h_19 =>
    split at h
    · cases h
      exact ⟨_, [], rfl, plain_nil⟩
    · split at h
      · cases h
        exact ⟨_, [], rfl, plain_nil⟩
      · cases h
  all_goals
    cases h
    exact ⟨_, [], rfl, plain_nil⟩

theorem closesBefore_opening (depth : Nat) (cs : List Char) :
    closesBefore false false depth ('[' :: cs) = closesBefore false false (depth + 1) cs := by
  simp [closesBefore]

theorem closesBefore_closing (depth : Nat) (cs : List Char) :
    closesBefore false false (depth + 1) (']' :: cs) = closesBefore false false depth cs := by
  simp [closesBefore]

theorem closesBefore_escape (depth : Nat) (c : Char) (cs : List Char) :
    closesBefore false false depth ('\\' :: c :: cs) = closesBefore false false depth cs := by
  simp [closesBefore]

theorem closesBefore_cons_of_plain (depth : Nat) {c : Char} (hc : isBracketing c = false)
    (cs : List Char) :
    closesBefore false false depth (c :: cs) = closesBefore false false depth cs := by
  have plain := isBracketing_eq_false_iff.1 hc
  simp [closesBefore, plain]

/-- The search for an early `]` comes out of the text with the depth it came with. -/
def Passed (u : List Char) : Prop :=
  ∀ depth v, closesBefore false false depth (u ++ v) = closesBefore false false depth v

theorem Passed.append {u v : List Char} (hu : Passed u) (hv : Passed v) : Passed (u ++ v) := by
  intro depth w
  rw [List.append_assoc, hu, hv]

theorem passed_of_plain {u : List Char} (h : Plain u) : Passed u := by
  intro depth v
  induction u with
  | nil => rfl
  | cons c u ih =>
    rw [List.cons_append, closesBefore_cons_of_plain depth (h c List.mem_cons_self)]
    exact ih fun d hd => h d (List.mem_cons_of_mem c hd)

theorem passed_escape (c : Char) {args : List Char} (h : Plain args) :
    Passed ('\\' :: c :: args) := by
  intro depth v
  exact (closesBefore_escape depth c (args ++ v)).trans (passed_of_plain h depth v)

theorem readAtom_text {cs rest : List Char} {a : Atom} (h : readAtom {} cs = .ok (a, rest))
    (bare : ∀ ds, cs ≠ '[' :: ds ∧ cs ≠ ']' :: ds) : ∃ u, u ≠ [] ∧ cs = u ++ rest ∧ Passed u := by
  unfold readAtom at h
  split at h
  · cases h
  · obtain ⟨c, args, rfl, hargs⟩ := readEscape_text h
    exact ⟨'\\' :: c :: args, by simp, rfl, passed_escape c hargs⟩
  · next c ds hescape =>
    cases h
    have hc : isBracketing c = false := by
      refine isBracketing_eq_false_iff.2 ⟨?_, ?_, hescape⟩
      · rintro rfl
        exact (bare rest).1 rfl
      · rintro rfl
        exact (bare rest).2 rfl
    exact ⟨[c], by simp, rfl, passed_of_plain (plain_nil.cons hc)⟩

theorem readRange_text {cs rest : List Char} {s : SetExpr} (h : readRange {} cs = .ok (s, rest))
    (bare : ∀ ds, cs ≠ '[' :: ds ∧ cs ≠ ']' :: ds)
    (last : ∀ a, readAtom {} cs ≠ .ok (a, '-' :: '[' :: rest)) :
    ∃ u, u ≠ [] ∧ cs = u ++ rest ∧ Passed u := by
  obtain ⟨⟨a, after⟩, ha, hafter⟩ := exists_of_bind_eq_ok h
  obtain ⟨u, hne, hcs, hu⟩ := readAtom_text ha bare
  simp only [Mode.skip, Mode.peek, Bool.false_eq_true, if_false] at hafter
  split at hafter
  · cases hafter
  · next ds =>
    split at hafter
    · obtain ⟨s, -, heq⟩ := exists_of_bind_eq_ok hafter
      cases heq
      exact ⟨u, hne, hcs, hu⟩
    · next hnext =>
      obtain ⟨⟨b, rest⟩, hb, hrest⟩ := exists_of_bind_eq_ok hafter
      obtain ⟨s, -, heq⟩ := exists_of_bind_eq_ok hrest
      cases heq
      have hhead : ∀ es, ds ≠ '[' :: es ∧ ds ≠ ']' :: es := by
        rintro es
        constructor
        · rintro rfl
          cases hb
          exact last a ha
        · rintro rfl
          exact hnext (.inl rfl)
      obtain ⟨v, -, rfl, hv⟩ := readAtom_text hb hhead
      refine ⟨u ++ '-' :: v, by simp, by simpa using hcs, hu.append fun depth w => ?_⟩
      rw [List.cons_append, closesBefore_cons_of_plain depth rfl, hv]
  · obtain ⟨s, -, heq⟩ := exists_of_bind_eq_ok hafter
    cases heq
    exact ⟨u, hne, hcs, hu⟩

theorem plain_of_asciiClass? {name : String} (found : (asciiClass? name).isSome) :
    Plain name.toList := by
  refine plain_of_all ?_
  unfold asciiClass? at found
  split at found
  case h_15 => cases found
  all_goals rfl

theorem passed_brackets {u : List Char} (h : Passed u) : Passed ('[' :: u ++ [']']) := by
  intro depth v
  calc closesBefore false false depth ('[' :: u ++ [']'] ++ v)
      = closesBefore false false (depth + 1) (u ++ ']' :: v) := by
        simp [closesBefore_opening]
    _ = closesBefore false false (depth + 1) (']' :: v) := h (depth + 1) (']' :: v)
    _ = closesBefore false false depth v := closesBefore_closing depth v

theorem readPosix?_text {cs rest : List Char} {s : Except PatternFault SetExpr}
    (h : readPosix? {} cs = some (s, rest)) : ∃ u, u ≠ [] ∧ '[' :: cs = u ++ rest ∧ Passed u := by
  unfold readPosix? at h
  split at h
  · next cs =>
    simp only at h
    obtain ⟨mark, body, hcs, hmark, hbody⟩ : ∃ mark body, cs = mark ++ body ∧ Plain mark ∧
        (if (cs.head? == some '^') = true then cs.tail else cs) = body := by
      split
      · next hhead =>
        obtain ⟨ds, rfl⟩ := List.head?_eq_some_iff.1 (beq_iff_eq.1 hhead)
        exact ⟨['^'], ds, rfl, plain_of_all rfl, rfl⟩
      · exact ⟨[], cs, rfl, plain_nil, rfl⟩
    rw [hbody] at h
    split at h
    · next rest' hdrop =>
      obtain ⟨edges, hedges, heq⟩ := Option.map_eq_some_iff.1 h
      obtain rfl : rest' = rest := by
        split at heq <;> exact congrArg Prod.snd heq
      have hname : Plain (body.takeWhile (· != ':')) := by
        have := plain_of_asciiClass? (Option.isSome_of_eq_some hedges)
        rwa [String.toList_ofList] at this
      have hsplit := List.takeWhile_append_dropWhile (p := (· != ':')) (l := body)
      rw [hdrop] at hsplit
      refine ⟨'[' :: (':' :: (mark ++ body.takeWhile (· != ':') ++ [':'])) ++ [']'], by simp, ?_, ?_⟩
      · calc '[' :: ':' :: cs
            = '[' :: ':' :: (mark ++ (body.takeWhile (· != ':') ++ ':' :: ']' :: rest')) := by
              rw [hsplit, hcs]
          _ = _ := by simp
      · exact passed_brackets (passed_of_plain
          (((hmark.append hname).append (plain_of_all rfl)).cons rfl))
    · cases h
  · cases h

def Token.Takes : Token → List Char → List Char → Prop
  | .opening, cs, rest => cs = '[' :: rest
  | .closing, cs, rest => cs = ']' :: rest
  | .op _, cs, rest | .item _, cs, rest => ∃ u, u ≠ [] ∧ cs = u ++ rest ∧ Passed u

theorem nextToken_takes {cs rest : List Char} {token : Token}
    (h : nextToken {} cs = .ok (token, rest))
    (last : ∀ s a, token = .item s → readAtom {} cs ≠ .ok (a, '-' :: '[' :: rest)) :
    token.Takes cs rest := by
  unfold nextToken at h
  split at h
  · next cs =>
    cases hposix : readPosix? {} cs with
    | some p =>
      rw [hposix] at h
      obtain ⟨s, -, heq⟩ := exists_of_bind_eq_ok h
      cases heq
      exact readPosix?_text hposix
    | none =>
      rw [hposix] at h
      cases h
      rfl
  · cases h
    rfl
  · cases h
    exact ⟨['&', '&'], by simp, rfl, passed_of_plain (plain_of_all rfl)⟩
  · cases h
    exact ⟨['-', '-'], by simp, rfl, passed_of_plain (plain_of_all rfl)⟩
  · cases h
    exact ⟨['~', '~'], by simp, rfl, passed_of_plain (plain_of_all rfl)⟩
  · next hopening hclosing _ _ _ =>
    obtain ⟨⟨s, rest⟩, hrange, heq⟩ := exists_of_bind_eq_ok h
    cases heq
    exact readRange_text hrange (fun ds => ⟨hopening ds, hclosing ds⟩) fun a => last s a rfl

end CharClass

end PegGrammar
