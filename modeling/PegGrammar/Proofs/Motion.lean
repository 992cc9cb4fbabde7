import PegGrammar.Cursor

/-!
How a cursor moves. Reads add up, a read that is no further in bytes is no read at all, and every
cursor is a read away from the start of its text. A match moves by one read, so these facts are all
that a run has to know about places.
-/

namespace PegGrammar.Cursor

theorem ext_sides {s t : Cursor} (hb : s.behind = t.behind) (ha : s.ahead = t.ahead) : s = t := by
  obtain ⟨b, a, o, ho⟩ := s
  obtain ⟨b', a', o', ho'⟩ := t
  cases hb
  cases ha
  cases ho
  cases ho'
  rfl

@[simp] theorem behind_read (s : Cursor) (n : Nat) :
    (s.read n).behind = (s.ahead.take n).reverse ++ s.behind := rfl

@[simp] theorem read_zero (s : Cursor) : s.read 0 = s := ext_sides (by simp) (by simp)

theorem read_read (s : Cursor) (m n : Nat) : (s.read m).read n = s.read (m + n) := by
  apply ext_sides
  · simp [List.take_add]
  · simp

theorem exists_read_le (s : Cursor) (n : Nat) : ∃ k ≤ s.ahead.length, s.read n = s.read k := by
  by_cases hn : n ≤ s.ahead.length
  · exact ⟨n, hn, rfl⟩
  · have hl : s.ahead.length ≤ n := by omega
    exact ⟨s.ahead.length, Nat.le_refl _, ext_sides (by simp [List.take_of_length_le hl]) (by simp [hl])⟩

theorem exists_start (s : Cursor) : ∃ text n, s = (start text).read n := by
  refine ⟨String.ofList s.text, s.behind.length, ext_sides ?_ ?_⟩
  · simp [start, Cursor.text]
  · simp [start, Cursor.text]

theorem byteLength_behind_reverse (s : Cursor) : byteLength s.behind.reverse = s.offset := by
  rw [byteLength_reverse, s.offset_eq]

theorem byteLength_eq_zero_iff {cs : List Char} : byteLength cs = 0 ↔ cs = [] := by
  cases cs with
  | nil => simp
  | cons c cs =>
    have hc := c.utf8Size_pos
    simp only [byteLength_cons, reduceCtorEq, iff_false]
    omega

theorem read_eq_self_iff {s : Cursor} {n : Nat} : s.read n = s ↔ (s.read n).offset = s.offset := by
  constructor
  · intro h
    rw [h]
  · intro h
    have hz : byteLength (s.ahead.take n) = 0 := by
      rw [offset_read] at h
      omega
    have ht : s.ahead.take n = [] := byteLength_eq_zero_iff.1 hz
    have hd := List.take_append_drop n s.ahead
    rw [ht, List.nil_append] at hd
    exact ext_sides (by simp [ht]) hd

theorem length_ahead_read_lt {s : Cursor} {n : Nat} (h : s.read n ≠ s) :
    (s.read n).ahead.length < s.ahead.length := by
  have hn : n ≠ 0 := fun hn => h (by simp [hn])
  have ha : s.ahead ≠ [] := fun ha => h (ext_sides (by simp [ha]) (by simp [ha]))
  have hl := List.length_pos_iff.2 ha
  simp only [ahead_read, List.length_drop]
  omega

theorem peek_eq_iff {s : Cursor} {text : String} :
    s.peek text.length = text ↔ text.toList <+: s.ahead := by
  rw [peek, ← String.toList_inj, String.toList_ofList, List.prefix_iff_eq_take, String.length_toList]
  exact eq_comm

/-- Reading the characters leads from one cursor to the other. -/
structure Spans (s : Cursor) (cs : List Char) (t : Cursor) : Prop where
  ahead_eq : s.ahead = cs ++ t.ahead
  stop_eq : t = s.read cs.length

namespace Spans

variable {s t u : Cursor} {cs ds : List Char}

theorem of_append (h : s.ahead = cs ++ ds) : s.Spans cs (s.read cs.length) :=
  ⟨by simp [h], rfl⟩

theorem of_cons {c : Char} (h : s.ahead = c :: cs) : s.Spans [c] (s.read 1) := of_append h

theorem of_isPrefix (h : cs <+: s.ahead) : s.Spans cs (s.read cs.length) := by
  obtain ⟨rest, hrest⟩ := h
  exact of_append hrest.symm

theorem isPrefix (h : s.Spans cs t) : cs <+: s.ahead := ⟨t.ahead, h.ahead_eq.symm⟩

@[simp] theorem nil_iff : s.Spans [] t ↔ t = s := by
  constructor
  · intro h
    simpa using h.stop_eq
  · intro h'
    subst h'
    exact ⟨rfl, (read_zero _).symm⟩

theorem trans (h : s.Spans cs t) (h' : t.Spans ds u) : s.Spans (cs ++ ds) u where
  ahead_eq := by rw [h.ahead_eq, h'.ahead_eq, List.append_assoc]
  stop_eq := by rw [h'.stop_eq, h.stop_eq, read_read, List.length_append]

theorem split (h : s.Spans (cs ++ ds) u) : ∃ t, s.Spans cs t ∧ t.Spans ds u := by
  have hs := h.ahead_eq
  rw [List.append_assoc] at hs
  have first := of_append hs
  refine ⟨_, first, ⟨?_, ?_⟩⟩
  · simp [hs]
  · rw [h.stop_eq, read_read, List.length_append]

theorem split_cons {c : Char} (h : s.Spans (c :: cs) u) : ∃ t, s.Spans [c] t ∧ t.Spans cs u := by
  rw [← List.singleton_append] at h
  exact h.split

theorem stop_ne (h : s.Spans cs t) (hcs : cs ≠ []) : t ≠ s := by
  intro h'
  subst h'
  exact hcs (List.append_left_eq_self.1 h.ahead_eq.symm)

theorem length_ahead_eq (h : s.Spans cs t) : s.ahead.length = cs.length + t.ahead.length := by
  rw [h.ahead_eq, List.length_append]

end Spans

theorem exists_spans_ahead (s : Cursor) : ∃ t, s.Spans s.ahead t ∧ t.ahead = [] := by
  have h := Spans.of_append (List.append_nil s.ahead).symm
  exact ⟨_, h, by simp⟩

theorem exists_spans_read (s : Cursor) (n : Nat) : ∃ cs, s.Spans cs (s.read n) := by
  obtain ⟨k, hk, hn⟩ := s.exists_read_le n
  refine ⟨s.ahead.take k, ?_⟩
  have h := Spans.of_append (List.take_append_drop k s.ahead).symm
  rw [List.length_take_of_le hk] at h
  rw [hn]
  exact h

end PegGrammar.Cursor
