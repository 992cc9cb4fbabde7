import PegGrammar.Proofs.MatchedText

/-!
Places as byte offsets. A cursor is a place between two characters by its making; a text with a byte
offset into it need not be one, and cutting the text there may fail. Reading, peeking and what
remains are written here once more for such offsets, cutting bytes and counting characters by the
bytes that they start at, and they answer at the offset of a cursor what the cursor answers.

Whatever is reached from the start of a text by reads and matches is a place of that text, so no cut
fails there, and a match never goes back or past the end.

Reads and peeks are by counts of characters, and counts add up: two reads are one read of both
counts, and what is peeked is what lies between the place and the place read to. At the end of the
text, and only there, every read stays where it is.
-/

namespace PegGrammar

/-- The text between two byte offsets, unless one of them stands inside a character or behind the
end, or they stand in the wrong order. -/
def slice? (text : String) (start stop : Nat) : Option String :=
  if String.Pos.Raw.IsValid text ⟨start⟩ ∧ String.Pos.Raw.IsValid text ⟨stop⟩ ∧ start ≤ stop then
    some (String.Pos.Raw.extract text ⟨start⟩ ⟨stop⟩)
  else none

theorem utf8ByteSize_ofList (cs : List Char) : (String.ofList cs).utf8ByteSize = byteLength cs := by
  rw [← Cursor.byteLength_toList, String.toList_ofList]

theorem isValid_byteLength (cs ds : List Char) :
    String.Pos.Raw.IsValid (String.ofList (cs ++ ds)) ⟨byteLength cs⟩ := by
  refine String.Pos.Raw.isValid_ofList.2 ⟨cs.length, ?_⟩
  rw [List.take_left, utf8ByteSize_ofList]

theorem slice?_append (cs ds es : List Char) :
    slice? (String.ofList (cs ++ ds ++ es)) (byteLength cs) (byteLength cs + byteLength ds) =
      some (String.ofList ds) := by
  have hstart := isValid_byteLength cs (ds ++ es)
  have hstop := isValid_byteLength (cs ++ ds) es
  rw [← List.append_assoc] at hstart
  rw [byteLength_append] at hstop
  rw [slice?, if_pos ⟨hstart, hstop, Nat.le_add_right _ _⟩, Cursor.byteLength_eq_utf8Len,
    Cursor.byteLength_eq_utf8Len, String.extract_of_valid]

def charOffsets : Nat → List Char → List (Nat × Char)
  | _, [] => []
  | i, c :: cs => (i, c) :: charOffsets (i + c.utf8Size) cs

theorem getElem?_charOffsets (i : Nat) (cs : List Char) (n : Nat) :
    (charOffsets i cs)[n]? = cs[n]?.map fun c => (i + byteLength (cs.take n), c) := by
  induction cs generalizing i n with
  | nil => rfl
  | cons c cs ih =>
    cases n with
    | zero => rfl
    | succ n => simp [charOffsets, ih, Nat.add_assoc]

def byteWidth (text : String) (n : Nat) : Nat :=
  ((charOffsets 0 text.toList)[n]?.map (·.1)).getD text.utf8ByteSize

theorem byteWidth_ofList (cs : List Char) (n : Nat) :
    byteWidth (String.ofList cs) n = byteLength (cs.take n) := by
  rw [byteWidth, String.toList_ofList, getElem?_charOffsets, utf8ByteSize_ofList]
  cases hn : cs[n]? with
  | some c => simp
  | none =>
    have hle : cs.length ≤ n := List.getElem?_eq_none_iff.1 hn
    simp [List.take_of_length_le hle]

namespace Cursor

structure Raw where
  text : String
  offset : Nat

namespace Raw

def remaining? (m : Raw) : Option String := slice? m.text m.offset m.text.utf8ByteSize

def peek? (m : Raw) (n : Nat) : Option String :=
  m.remaining?.bind fun rest => slice? rest 0 (byteWidth rest n)

def read? (m : Raw) (n : Nat) : Option Raw :=
  m.remaining?.map fun rest => ⟨m.text, m.offset + byteWidth rest n⟩

end Raw

def raw (s : Cursor) : Raw := ⟨String.ofList s.text, s.offset⟩

theorem remaining?_raw (s : Cursor) : s.raw.remaining? = some s.remaining := by
  have hsize : (String.ofList s.text).utf8ByteSize = s.offset + byteLength s.ahead := by
    rw [utf8ByteSize_ofList, Cursor.text, byteLength_append, byteLength_behind_reverse]
  have hcut := slice?_append s.behind.reverse s.ahead []
  rw [List.append_nil, byteLength_behind_reverse, ← hsize] at hcut
  exact hcut

theorem peek?_raw (s : Cursor) (n : Nat) : s.raw.peek? n = some (s.peek n) := by
  have hcut := slice?_append [] (s.ahead.take n) (s.ahead.drop n)
  rw [List.nil_append, List.take_append_drop, byteLength_nil, Nat.zero_add] at hcut
  rw [Raw.peek?, remaining?_raw, Option.bind_some, remaining, byteWidth_ofList]
  exact hcut

theorem read?_raw (s : Cursor) (n : Nat) : s.raw.read? n = some (s.read n).raw := by
  rw [Raw.read?, remaining?_raw, Option.map_some, remaining, byteWidth_ofList]
  simp [raw]

/-- What reads and matches lead to from the start of a text. -/
inductive Reachable (text : String) : Cursor → Prop
  | start : Reachable text (start text)
  | read {s : Cursor} (n : Nat) (reached : Reachable text s) : Reachable text (s.read n)
  | apply {V : Type} {rules : RuleSet V} {e : Expr V} {s stop : Cursor} {node : Node V}
      (reached : Reachable text s) (ran : (e.apply rules s).outcome = .matched node stop) :
      Reachable text stop

structure Within (text : String) (s : Cursor) : Prop where
  text_eq : s.text = text.toList
  offset_le : s.offset ≤ text.utf8ByteSize
  isValid : String.Pos.Raw.IsValid text ⟨s.offset⟩

theorem within_of_text_eq {text : String} {s : Cursor} (h : s.text = text.toList) :
    s.Within text := by
  have htext : text = String.ofList (s.behind.reverse ++ s.ahead) := by
    rw [← String.ofList_toList (s := text), ← h, Cursor.text]
  refine ⟨h, ?_, ?_⟩
  · rw [htext, utf8ByteSize_ofList, byteLength_append, byteLength_behind_reverse]
    exact Nat.le_add_right _ _
  · rw [htext, ← byteLength_behind_reverse]
    exact isValid_byteLength _ _

theorem moves_of_matched {V : Type} {rules : RuleSet V} {e : Expr V} {s stop : Cursor}
    {node : Node V} (ran : (e.apply rules s).outcome = .matched node stop) :
    stop.text = s.text ∧ s.offset ≤ stop.offset := by
  obtain ⟨k, rfl⟩ := Expr.moves_run _ e s node stop ran
  exact ⟨text_read s k, by simp⟩

theorem Reachable.text_eq {text : String} {s : Cursor} (h : Reachable text s) :
    s.text = text.toList := by
  induction h with
  | start => exact text_start text
  | read n _ ih => rw [text_read, ih]
  | apply _ ran ih => rw [(moves_of_matched ran).1, ih]

end Cursor

/-- Every place that reads and matches lead to stands in the text between two characters, so that
what remains and what is peeked can be cut out of the bytes there, and so does every place where a
match stops, which is never in front of where it started. -/
theorem within_of_reachable {text : String} {s : Cursor} (h : s.Reachable text) :
    s.Within text ∧
    (Cursor.Raw.mk text s.offset).remaining? = some s.remaining ∧
    (∀ n, (Cursor.Raw.mk text s.offset).peek? n = some (s.peek n) ∧
      (Cursor.Raw.mk text s.offset).read? n = some ⟨text, (s.read n).offset⟩) ∧
    ∀ (V : Type) (rules : RuleSet V) (e : Expr V) (node : Node V) (stop : Cursor),
      (e.apply rules s).outcome = .matched node stop →
      stop.Within text ∧ s.offset ≤ stop.offset := by
  have hraw : ∀ {t : Cursor}, t.text = text.toList → t.raw = ⟨text, t.offset⟩ := by
    intro t ht
    rw [Cursor.raw, ht, String.ofList_toList]
  have htext := h.text_eq
  refine ⟨Cursor.within_of_text_eq htext, ?_, fun n => ⟨?_, ?_⟩, ?_⟩
  · rw [← hraw htext, Cursor.remaining?_raw]
  · rw [← hraw htext, Cursor.peek?_raw]
  · rw [← hraw htext, Cursor.read?_raw, hraw ((s.text_read n).trans htext)]
  · intro V rules e node stop ran
    obtain ⟨hstop, hle⟩ := Cursor.moves_of_matched ran
    exact ⟨Cursor.within_of_text_eq (hstop.trans htext), hle⟩

theorem within_of_reachable_arrow :
    ((Cursor.start "λ→x").read 2).Reachable "λ→x" ∧ ((Cursor.start "λ→x").read 2).Within "λ→x" ∧
      ((Expr.literal "x" : Expr Unit).apply [] ((Cursor.start "λ→x").read 2)).outcome =
        .matched (.literal "x") ((Cursor.start "λ→x").read 3) ∧
      ((Cursor.start "λ→x").read 3).Within "λ→x" ∧
      ((Cursor.start "λ→x").read 2).offset = 5 ∧
      ¬ String.Pos.Raw.IsValid "λ→x" ⟨4⟩ := by
  have ran : ((Expr.literal "→" : Expr Unit).apply [] ((Cursor.start "λ→x").read 1)).outcome =
      .matched (.literal "→") ((Cursor.start "λ→x").read 2) := rfl
  have reached : ((Cursor.start "λ→x").read 2).Reachable "λ→x" := .apply (.read 1 .start) ran
  have ran' : ((Expr.literal "x" : Expr Unit).apply [] ((Cursor.start "λ→x").read 2)).outcome =
      .matched (.literal "x") ((Cursor.start "λ→x").read 3) := rfl
  obtain ⟨within, -, -, matches_⟩ := within_of_reachable reached
  exact ⟨reached, within, ran', (matches_ Unit [] _ _ _ ran').1, rfl, by decide⟩

namespace Cursor

theorem toList_peek (s : Cursor) (n : Nat) : (s.peek n).toList = s.remaining.toList.take n := by
  simp [peek, remaining]

theorem peek_add (s : Cursor) (n m : Nat) : s.peek (n + m) = s.peek n ++ (s.read n).peek m := by
  rw [← String.toList_inj, String.toList_append]
  simp [peek, List.take_add]

theorem peek_append_remaining (s : Cursor) (n : Nat) :
    s.peek n ++ (s.read n).remaining = s.remaining := by
  rw [← String.toList_inj, String.toList_append]
  simp [peek, remaining]

theorem offset_read_eq (s : Cursor) (n : Nat) :
    (s.read n).offset = s.offset + (s.peek n).utf8ByteSize := by
  rw [offset_read, peek, utf8ByteSize_ofList]

theorem remaining_eq_empty_iff {s : Cursor} : s.remaining = "" ↔ s.ahead = [] := by
  rw [← String.toList_inj, remaining, String.toList_ofList]
  rfl

theorem isComplete_iff {s : Cursor} : s.isComplete = true ↔ s.ahead = [] := List.isEmpty_iff

theorem read_eq_self_forall_iff {s : Cursor} : (∀ n, s.read n = s) ↔ s.ahead = [] := by
  constructor
  · intro h
    have hone := congrArg ahead (h s.ahead.length)
    rw [ahead_read, List.drop_length] at hone
    exact hone.symm
  · intro ha n
    exact ext_sides (by simp [ha]) (by simp [ha])

theorem offset_eq_size_iff {s : Cursor} :
    s.offset = (String.ofList s.text).utf8ByteSize ↔ s.ahead = [] := by
  rw [utf8ByteSize_ofList, Cursor.text, byteLength_append, byteLength_behind_reverse,
    ← byteLength_eq_zero_iff]
  omega

def reads (s : Cursor) (counts : List Nat) : Cursor := counts.foldl read s

theorem text_reads (s : Cursor) (counts : List Nat) : (s.reads counts).text = s.text := by
  induction counts generalizing s with
  | nil => rfl
  | cons n counts ih => exact (ih (s.read n)).trans (text_read s n)

theorem foldlM_read?_raw (s : Cursor) (counts : List Nat) :
    counts.foldlM Raw.read? s.raw = some (s.reads counts).raw := by
  induction counts generalizing s with
  | nil => rfl
  | cons n counts ih =>
    rw [List.foldlM_cons, read?_raw]
    exact ih (s.read n)

end Cursor

/-- Counts of characters act on the places of a text, by bytes as by characters: reads add up, and
what is peeked lies between a place and the place that the read of the same count leads to. A place
has nothing ahead exactly if it is complete, if its offset is the size of the text, and if no read
leads on from it. -/
theorem reads_act (text : String) (counts : List Nat) :
    let s := (Cursor.start text).reads counts
    counts.foldlM Cursor.Raw.read? ⟨text, 0⟩ = some ⟨text, s.offset⟩ ∧
    (Cursor.Raw.mk text s.offset).remaining? = some s.remaining ∧
    (∀ n, (Cursor.Raw.mk text s.offset).read? n = some ⟨text, (s.read n).offset⟩ ∧
      (Cursor.Raw.mk text s.offset).peek? n = some (s.peek n)) ∧
    (∀ n m, (s.read n).read m = s.read (n + m) ∧ s.peek (n + m) = s.peek n ++ (s.read n).peek m) ∧
    (∀ n, s.peek n ++ (s.read n).remaining = s.remaining ∧
      (s.peek n).toList = s.remaining.toList.take (min n s.remaining.length) ∧
      (s.read n).offset = s.offset + (s.peek n).utf8ByteSize) ∧
    (s.isComplete = true ↔ s.remaining = "") ∧ (s.remaining = "" ↔ ∀ n, s.read n = s) ∧
    (s.isComplete = true ↔ s.offset = text.utf8ByteSize) := by
  intro s
  have htext : String.ofList s.text = text := by
    rw [Cursor.text_reads, Cursor.text_start, String.ofList_toList]
  have hraw {t : Cursor} (ht : t.text = s.text) : t.raw = ⟨text, t.offset⟩ := by
    rw [Cursor.raw, ht, htext]
  have hstart : (Cursor.start text).raw = ⟨text, 0⟩ := by
    simp [Cursor.raw, Cursor.start, Cursor.text]
  refine ⟨?_, ?_, fun n => ⟨?_, ?_⟩, fun n m => ⟨s.read_read n m, s.peek_add n m⟩,
    fun n => ⟨s.peek_append_remaining n, ?_, s.offset_read_eq n⟩, ?_, ?_, ?_⟩
  · rw [← hstart, Cursor.foldlM_read?_raw, ← hraw rfl]
  · rw [← hraw rfl, Cursor.remaining?_raw]
  · rw [← hraw rfl, Cursor.read?_raw, hraw (s.text_read n)]
  · rw [← hraw rfl, Cursor.peek?_raw]
  · rw [s.toList_peek n, ← String.length_toList, ← List.take_eq_take_min]
  · rw [Cursor.isComplete_iff, Cursor.remaining_eq_empty_iff]
  · rw [Cursor.remaining_eq_empty_iff, Cursor.read_eq_self_forall_iff]
  · rw [Cursor.isComplete_iff, ← htext, Cursor.offset_eq_size_iff]

end PegGrammar
