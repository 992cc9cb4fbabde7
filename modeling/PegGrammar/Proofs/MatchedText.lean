import Mathlib.Data.String.Basic
import PegGrammar.Catalog
import PegGrammar.Proofs.Fuel

/-!
What a node tells about the text. A node without values in it holds exactly the text between the
places where its match started and stopped; a node with a value in it tells no text at all.
-/

namespace PegGrammar

variable {V : Type}

namespace Node

inductive HasValue : Node V → Prop
  | value {v : V} : HasValue (.value v)
  | sequence {cs : List (Node V)} {c : Node V} (hc : c ∈ cs) (h : HasValue c) :
      HasValue (.sequence cs)
  | repetition {cs : List (Node V)} {c : Node V} (hc : c ∈ cs) (h : HasValue c) :
      HasValue (.repetition cs)

@[simp] theorem not_hasValue_literal {t : String} : ¬ HasValue (.literal t : Node V) := nofun

@[simp] theorem not_hasValue_char {c : Char} : ¬ HasValue (.char c : Node V) := nofun

@[simp] theorem hasValue_value {v : V} : HasValue (.value v) := .value

@[simp] theorem hasValue_sequence_iff {cs : List (Node V)} :
    HasValue (.sequence cs) ↔ ∃ c ∈ cs, c.HasValue := by
  constructor
  · intro h'
    cases h'
    exact ⟨_, ‹_›, ‹_›⟩
  · intro h'
    obtain ⟨c, hc, h⟩ := h'
    exact .sequence hc h

@[simp] theorem hasValue_repetition_iff {cs : List (Node V)} :
    HasValue (.repetition cs) ↔ ∃ c ∈ cs, c.HasValue := by
  constructor
  · intro h'
    cases h'
    exact ⟨_, ‹_›, ‹_›⟩
  · intro h'
    obtain ⟨c, hc, h⟩ := h'
    exact .repetition hc h

theorem matchedTexts_cons_eq_some_iff {n : Node V} {ns : List (Node V)} {m : String} :
    matchedTexts (n :: ns) = some m ↔
      ∃ a b, n.matchedText = some a ∧ matchedTexts ns = some b ∧ m = a ++ b := by
  simp only [matchedTexts, Option.bind_eq_bind, Option.pure_def, Option.bind_eq_some_iff,
    Option.some.injEq]
  constructor
  · intro h
    obtain ⟨a, ha, b, hb, rfl⟩ := h
    exact ⟨a, b, ha, hb, rfl⟩
  · intro h
    obtain ⟨a, b, ha, hb, rfl⟩ := h
    exact ⟨a, ha, b, hb, rfl⟩

theorem matchedTexts_cons_eq_none_iff {n : Node V} {ns : List (Node V)} :
    matchedTexts (n :: ns) = none ↔ n.matchedText = none ∨ matchedTexts ns = none := by
  cases hn : n.matchedText <;> cases hns : matchedTexts ns <;> simp [matchedTexts, hn, hns]

mutual

theorem matchedText_eq_none_iff : ∀ n : Node V, n.matchedText = none ↔ n.HasValue
  | .literal _ | .char _ => by simp [matchedText]
  | .sequence cs => by simp [matchedText, matchedTexts_eq_none_iff cs]
  | .repetition cs => by simp [matchedText, matchedTexts_eq_none_iff cs]
  | .value _ => by simp [matchedText]

theorem matchedTexts_eq_none_iff :
    ∀ ns : List (Node V), matchedTexts ns = none ↔ ∃ n ∈ ns, n.HasValue
  | [] => by simp [matchedTexts]
  | n :: ns => by
    rw [matchedTexts_cons_eq_none_iff, matchedText_eq_none_iff n, matchedTexts_eq_none_iff ns]
    simp

end

theorem label_snapshot_of_matchedText [Domain V] {n : Node V} {m : String}
    (hk : n.kind ∈ ["Literal", "Sequence", "Repetition"]) (h : n.matchedText = some m) :
    n.snapshot.label = Text.quoteString m := by
  cases n with
  | literal t =>
    obtain rfl : t = m := by simpa [matchedText] using h
    rfl
  | sequence cs => simp only [snapshot, groupLabel, h]
  | repetition cs => simp only [snapshot, groupLabel, h]
  | char c => simp [kind] at hk
  | value v => simp [kind] at hk

end Node

namespace Cursor

theorem byteLength_eq_utf8Len (cs : List Char) : byteLength cs = String.utf8Len cs := by
  induction cs with
  | nil => rfl
  | cons c cs ih => rw [byteLength_cons, String.utf8Len_cons, ih, Nat.add_comm]

theorem byteLength_toList (text : String) : byteLength text.toList = text.utf8ByteSize := by
  rw [byteLength_eq_utf8Len, String.utf8Len_toList]

namespace Spans

variable {s t : Cursor} {m : String}

theorem offset_eq (h : s.Spans m.toList t) : t.offset = s.offset + m.utf8ByteSize := by
  rw [h.stop_eq, offset_read, h.ahead_eq, List.take_left, byteLength_eq_utf8Len,
    String.utf8Len_toList]

theorem extract_eq (h : s.Spans m.toList t) :
    String.Pos.Raw.extract (String.ofList s.text) ⟨s.offset⟩ ⟨t.offset⟩ = m := by
  have htext : s.text = s.behind.reverse ++ m.toList ++ t.ahead := by
    rw [Cursor.text, h.ahead_eq, List.append_assoc]
  have hbehind : s.offset = String.utf8Len s.behind.reverse := by
    rw [s.offset_eq, byteLength_eq_utf8Len, String.utf8Len_reverse]
  rw [h.offset_eq, hbehind, ← String.utf8Len_toList, htext, String.extract_of_valid,
    String.ofList_toList]

end Spans

end Cursor

theorem Yields.spans_of_matchedText {rules : RuleSet V} {e : Expr V} {s t : Cursor} {n : Node V}
    {m : String} (h : Yields rules e s (some (n, t))) (hm : n.matchedText = some m) :
    s.Spans m.toList t := by
  generalize hr : some (n, t) = r at h
  induction h generalizing n t m with
  | literal starts =>
    obtain ⟨rfl, rfl⟩ := by simpa using hr
    obtain rfl := by simpa [Node.matchedText] using hm
    exact .of_isPrefix starts
  | @charClass cls s c next member =>
    obtain ⟨rfl, rfl⟩ := by simpa using hr
    obtain rfl : String.singleton c = m := by simpa [Node.matchedText] using hm
    obtain ⟨cs, ha⟩ := List.head?_eq_some_iff.1 next
    rw [String.toList_singleton]
    exact .of_append ha
  | sequenceEmpty | repetitionFull | repetitionEnds =>
    obtain ⟨rfl, rfl⟩ := by simpa using hr
    obtain rfl : "" = m := by simpa [Node.matchedText, Node.matchedTexts] using hm
    simp
  | sequence first others ihf iho | repetition room moves first others ihf iho =>
    obtain ⟨rfl, rfl⟩ := by simpa using hr
    obtain ⟨a, b, ha, hb, rfl⟩ := Node.matchedTexts_cons_eq_some_iff.1 hm
    rw [String.toList_append]
    exact (ihf ha rfl).trans (iho (by exact hb) rfl)
  | repetitionStalls room stalls ih =>
    obtain ⟨rfl, rfl⟩ := by simpa using hr
    obtain ⟨a, b, ha, hb, rfl⟩ := Node.matchedTexts_cons_eq_some_iff.1 hm
    obtain rfl : "" = b := by simpa [Node.matchedTexts] using hb
    simpa using ih ha rfl
  | @alternation c cs s r first ih => exact ih hm hr
  | alternationOther first others ihf iho => exact iho hm hr
  | reference found runs ih => exact ih hm hr
  | hooked matches_ taken ih =>
    obtain ⟨rfl, rfl⟩ := by simpa using hr
    simp [Node.matchedText] at hm
  | literalFails | charClassFails | sequenceFailsFirst | sequenceFailsLater | repetitionFullShort
  | repetitionEndsShort | repetitionFailsLater | alternationEmpty | referenceFails
  | hookedDeclines | hookedFails => simp at hr

theorem Grammar.matchedText_of_parseRule {g : Grammar V} {name input : String} {node : Node V}
    (h : (g.parseRule name input).value = some node) (hv : ¬ node.HasValue) :
    node.matchedText = some input := by
  obtain ⟨rule, t, _, hend, hy⟩ := value_parseRule_eq_some_iff.1 h
  obtain ⟨m, hm⟩ := Option.ne_none_iff_exists'.1 (mt (Node.matchedText_eq_none_iff node).1 hv)
  have hm' := (hy.spans_of_matchedText hm).ahead_eq
  rw [hend, List.append_nil] at hm'
  rw [hm, ← String.toList_inj.1 hm']

/-- A node tells exactly the text of its match, unless there is a value in it; when a whole text is
accepted and told, it is also what the label of the node shows. -/
theorem matchedText_of_match (V : Type) :
    (∀ (rules : RuleSet V) (e : Expr V) (s : Cursor) (node : Node V) (stop : Cursor) (m : String),
      (e.apply rules s).outcome = .matched node stop → node.matchedText = some m →
      m = String.Pos.Raw.extract (String.ofList s.text) ⟨s.offset⟩ ⟨stop.offset⟩ ∧
        stop.offset = s.offset + m.utf8ByteSize) ∧
    (∀ node : Node V, node.matchedText = none ↔ node.HasValue) ∧
    ∀ (g : Grammar V) (name input : String) (node : Node V),
      (g.parseRule name input).value = some node → ¬ node.HasValue →
      node.matchedText = some input ∧
        ∀ [Domain V], node.kind ∈ ["Literal", "Sequence", "Repetition"] →
          node.snapshot.label = Text.quoteString input := by
  refine ⟨fun rules e s node stop m h hm => ?_, Node.matchedText_eq_none_iff,
    fun g name input node h hv => ?_⟩
  · have hy := Expr.outcome_apply_eq_iff (r := some (node, stop)) |>.1 h
    have hs := hy.spans_of_matchedText hm
    exact ⟨hs.extract_eq.symm, hs.offset_eq⟩
  · have hm := Grammar.matchedText_of_parseRule h hv
    exact ⟨hm, fun hk => Node.label_snapshot_of_matchedText hk hm⟩

theorem matchedText_of_match_greek :
    ((Expr.sequence [.literal "λ", .charClass (.range 'a' 'z')] : Expr Int64).apply []
        ((Cursor.start "-λx").read 1)).outcome =
      .matched (.sequence [.literal "λ", .char 'x']) ((Cursor.start "-λx").read 3) ∧
    (Node.sequence [.literal "λ", .char 'x'] : Node Int64).matchedText = some "λx" ∧
    "λx" = String.Pos.Raw.extract (String.ofList ((Cursor.start "-λx").read 1).text)
      ⟨((Cursor.start "-λx").read 1).offset⟩ ⟨((Cursor.start "-λx").read 3).offset⟩ ∧
    (Numeral.grammar.parseRule "digits" "42").value = some (.repetition [.char '4', .char '2']) ∧
    ¬ (Node.repetition [.char '4', .char '2'] : Node Int64).HasValue ∧
    (Node.repetition [.char '4', .char '2'] : Node Int64).snapshot.label =
      Text.quoteString "42" := by
  have hmatch : ((Expr.sequence [.literal "λ", .charClass (.range 'a' 'z')] : Expr Int64).apply []
      ((Cursor.start "-λx").read 1)).outcome =
      .matched (.sequence [.literal "λ", .char 'x']) ((Cursor.start "-λx").read 3) := rfl
  have htext : (Node.sequence [.literal "λ", .char 'x'] : Node Int64).matchedText = some "λx" := rfl
  have hparse : (Numeral.grammar.parseRule "digits" "42").value =
      some (.repetition [.char '4', .char '2']) := rfl
  have hv : ¬ (Node.repetition [.char '4', .char '2'] : Node Int64).HasValue := by simp
  obtain ⟨hslice, -, hlabel⟩ := matchedText_of_match Int64
  exact ⟨hmatch, htext, (hslice _ _ _ _ _ _ hmatch htext).1, hparse, hv,
    (hlabel _ _ _ _ hparse hv).2 (by decide)⟩

end PegGrammar
