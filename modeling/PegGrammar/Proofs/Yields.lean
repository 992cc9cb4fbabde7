import Mathlib.Data.List.Basic
import PegGrammar.Expr.Run
import PegGrammar.Proofs.Motion

/-!
What an expression yields at a place, as rules of inference: `some (node, stop)` for a match and
`none` for no match. The rules say nothing about fuel or the order of work; an expression that goes
on forever at a place is one for which no derivation exists.

A sequence is its first part and then the sequence of the others. A repetition is one match of the
body and then, from where that ended, the repetition with one match less required and allowed. At
most one result can be derived, and it stops a read away from where it started.
-/

namespace PegGrammar

variable {V : Type}

inductive Yields (rules : RuleSet V) : Expr V → Cursor → Option (Node V × Cursor) → Prop
  | literal {text : String} {s : Cursor} (starts : text.toList <+: s.ahead) :
      Yields rules (.literal text) s (some (.literal text, s.read text.length))
  | literalFails {text : String} {s : Cursor} (differs : ¬ text.toList <+: s.ahead) :
      Yields rules (.literal text) s none
  | charClass {cls : CharClass} {s : Cursor} {c : Char} (next : s.ahead.head? = some c)
      (member : cls.accepts c = true) :
      Yields rules (.charClass cls) s (some (.char c, s.read 1))
  | charClassFails {cls : CharClass} {s : Cursor}
      (refused : ∀ c, s.ahead.head? = some c → cls.accepts c = false) :
      Yields rules (.charClass cls) s none
  | sequenceEmpty {s : Cursor} : Yields rules (.sequence []) s (some (.sequence [], s))
  | sequence {p : Expr V} {ps : List (Expr V)} {s t u : Cursor} {n : Node V} {ns : List (Node V)}
      (first : Yields rules p s (some (n, t)))
      (others : Yields rules (.sequence ps) t (some (.sequence ns, u))) :
      Yields rules (.sequence (p :: ps)) s (some (.sequence (n :: ns), u))
  | sequenceFailsFirst {p : Expr V} {ps : List (Expr V)} {s : Cursor}
      (first : Yields rules p s none) : Yields rules (.sequence (p :: ps)) s none
  | sequenceFailsLater {p : Expr V} {ps : List (Expr V)} {s t : Cursor} {n : Node V}
      (first : Yields rules p s (some (n, t))) (others : Yields rules (.sequence ps) t none) :
      Yields rules (.sequence (p :: ps)) s none
  | repetitionFull {body : Expr V} {s : Cursor} :
      Yields rules (.repetition body 0 (some 0)) s (some (.repetition [], s))
  | repetitionFullShort {body : Expr V} {min : Nat} {s : Cursor} :
      Yields rules (.repetition body (min + 1) (some 0)) s none
  | repetitionEnds {body : Expr V} {max : Option Nat} {s : Cursor} (room : max ≠ some 0)
      (fails : Yields rules body s none) :
      Yields rules (.repetition body 0 max) s (some (.repetition [], s))
  | repetitionEndsShort {body : Expr V} {min : Nat} {max : Option Nat} {s : Cursor}
      (room : max ≠ some 0) (fails : Yields rules body s none) :
      Yields rules (.repetition body (min + 1) max) s none
  | repetitionStalls {body : Expr V} {min : Nat} {max : Option Nat} {s : Cursor} {n : Node V}
      (room : max ≠ some 0) (stalls : Yields rules body s (some (n, s))) :
      Yields rules (.repetition body min max) s (some (.repetition [n], s))
  | repetition {body : Expr V} {min : Nat} {max : Option Nat} {s t u : Cursor} {n : Node V}
      {ns : List (Node V)} (room : max ≠ some 0) (moves : t ≠ s)
      (first : Yields rules body s (some (n, t)))
      (others : Yields rules (.repetition body (min - 1) (max.map (· - 1))) t
        (some (.repetition ns, u))) :
      Yields rules (.repetition body min max) s (some (.repetition (n :: ns), u))
  | repetitionFailsLater {body : Expr V} {min : Nat} {max : Option Nat} {s t : Cursor} {n : Node V}
      (room : max ≠ some 0) (moves : t ≠ s) (first : Yields rules body s (some (n, t)))
      (others : Yields rules (.repetition body (min - 1) (max.map (· - 1))) t none) :
      Yields rules (.repetition body min max) s none
  | alternationEmpty {s : Cursor} : Yields rules (.alternation []) s none
  | alternation {c : Expr V} {cs : List (Expr V)} {s : Cursor} {r : Node V × Cursor}
      (first : Yields rules c s (some r)) : Yields rules (.alternation (c :: cs)) s (some r)
  | alternationOther {c : Expr V} {cs : List (Expr V)} {s : Cursor}
      {r : Option (Node V × Cursor)} (first : Yields rules c s none)
      (others : Yields rules (.alternation cs) s r) : Yields rules (.alternation (c :: cs)) s r
  | reference {name : String} {rule : Expr V} {s : Cursor} {r : Option (Node V × Cursor)}
      (found : rules.resolve name = some rule) (runs : Yields rules rule s r) :
      Yields rules (.reference name) s r
  | referenceFails {name : String} {s : Cursor} (missing : rules.resolve name = none) :
      Yields rules (.reference name) s none
  | hooked {body : Expr V} {h : Hook V} {s t : Cursor} {n : Node V} {v : V}
      (matches_ : Yields rules body s (some (n, t))) (taken : h n = some v) :
      Yields rules (.hooked body h) s (some (.value v, t))
  | hookedDeclines {body : Expr V} {h : Hook V} {s t : Cursor} {n : Node V}
      (matches_ : Yields rules body s (some (n, t))) (declined : h n = none) :
      Yields rules (.hooked body h) s none
  | hookedFails {body : Expr V} {h : Hook V} {s : Cursor} (fails : Yields rules body s none) :
      Yields rules (.hooked body h) s none

namespace Yields

variable {rules : RuleSet V} {e : Expr V} {s t : Cursor} {n : Node V}

theorem exists_read {r : Option (Node V × Cursor)} (h : Yields rules e s r) :
    ∀ n t, r = some (n, t) → ∃ k, t = s.read k := by
  induction h with
  | literal | charClass =>
    intro _ _ h'
    cases h'
    exact ⟨_, rfl⟩
  | sequenceEmpty | repetitionFull | repetitionEnds | repetitionStalls =>
    intro _ _ h'
    cases h'
    exact ⟨0, (Cursor.read_zero _).symm⟩
  | sequence first others ihf iho | repetition room moves first others ihf iho =>
    intro _ _ h'
    cases h'
    obtain ⟨j, rfl⟩ := ihf _ _ rfl
    obtain ⟨k, rfl⟩ := iho _ _ rfl
    exact ⟨j + k, Cursor.read_read _ _ _⟩
  | alternation first ih => exact ih
  | alternationOther first others ihf iho => exact iho
  | reference found runs ih => exact ih
  | hooked matches_ taken ih =>
    intro _ _ h'
    cases h'
    exact ih _ _ rfl
  | literalFails | charClassFails | sequenceFailsFirst | sequenceFailsLater | repetitionFullShort
  | repetitionEndsShort | repetitionFailsLater | alternationEmpty | referenceFails
  | hookedDeclines | hookedFails => nofun

theorem stop_eq_read (h : Yields rules e s (some (n, t))) : ∃ k, t = s.read k := h.exists_read _ _ rfl

theorem eq_iff_offset_eq (h : Yields rules e s (some (n, t))) : t = s ↔ t.offset = s.offset := by
  obtain ⟨k, rfl⟩ := h.stop_eq_read
  exact Cursor.read_eq_self_iff

theorem node_of_sequence {ps : List (Expr V)} (h : Yields rules (.sequence ps) s (some (n, t))) :
    ∃ ns, n = .sequence ns := by
  cases h with
  | sequenceEmpty => exact ⟨[], rfl⟩
  | sequence first others => exact ⟨_, rfl⟩

theorem node_of_repetition {body : Expr V} {min : Nat} {max : Option Nat}
    (h : Yields rules (.repetition body min max) s (some (n, t))) : ∃ ns, n = .repetition ns := by
  cases h with
  | repetitionFull | repetitionEnds | repetitionStalls | repetition => exact ⟨_, rfl⟩

theorem stop_eq_of_return {e' : Expr V} {n' : Node V} (h : Yields rules e s (some (n, t)))
    (h' : Yields rules e' t (some (n', s))) : t = s := by
  obtain ⟨j, rfl⟩ := h.stop_eq_read
  obtain ⟨k, hk⟩ := h'.stop_eq_read
  by_contra hne
  have hlt := Cursor.length_ahead_read_lt hne
  have hl := congrArg (fun c : Cursor => c.ahead.length) hk
  simp only [Cursor.ahead_read, List.length_drop] at hl hlt
  omega

theorem exists_spans (h : Yields rules e s (some (n, t))) : ∃ cs, s.Spans cs t := by
  obtain ⟨k, rfl⟩ := h.stop_eq_read
  exact s.exists_spans_read k

theorem length_ahead_le (h : Yields rules e s (some (n, t))) : t.ahead.length ≤ s.ahead.length := by
  obtain ⟨cs, hs⟩ := h.exists_spans
  have hl := hs.length_ahead_eq
  omega

theorem length_ahead_lt (h : Yields rules e s (some (n, t))) (hne : t ≠ s) :
    t.ahead.length < s.ahead.length := by
  obtain ⟨k, rfl⟩ := h.stop_eq_read
  exact Cursor.length_ahead_read_lt hne

theorem literal_some_iff {text : String} :
    Yields rules (.literal text) s (some (n, t)) ↔ n = .literal text ∧ s.Spans text.toList t := by
  constructor
  · intro h
    cases h with
    | literal starts => exact ⟨rfl, .of_isPrefix starts⟩
  · intro h
    obtain ⟨rfl, h⟩ := h
    rw [h.stop_eq, String.length_toList]
    exact .literal h.isPrefix

theorem hooked_some_iff {body : Expr V} {k : Hook V} :
    Yields rules (.hooked body k) s (some (n, t)) ↔
      ∃ m v, Yields rules body s (some (m, t)) ∧ k m = some v ∧ n = .value v := by
  constructor
  · intro h
    cases h with
    | hooked matches_ taken => exact ⟨_, _, matches_, taken, rfl⟩
  · intro h
    obtain ⟨m, v, matches_, taken, rfl⟩ := h
    exact .hooked matches_ taken

theorem sequence_nil_some_iff :
    Yields rules (.sequence []) s (some (n, t)) ↔ n = .sequence [] ∧ t = s := by
  constructor
  · intro h
    cases h with
    | sequenceEmpty => exact ⟨rfl, rfl⟩
  · intro h
    obtain ⟨rfl, rfl⟩ := h
    exact .sequenceEmpty

theorem sequence_cons_some_iff {p : Expr V} {ps : List (Expr V)} :
    Yields rules (.sequence (p :: ps)) s (some (n, t)) ↔
      ∃ m u ns, Yields rules p s (some (m, u)) ∧
        Yields rules (.sequence ps) u (some (.sequence ns, t)) ∧ n = .sequence (m :: ns) := by
  constructor
  · intro h
    cases h with
    | sequence first others => exact ⟨_, _, _, first, others, rfl⟩
  · intro h
    obtain ⟨m, u, ns, first, others, rfl⟩ := h
    exact .sequence first others

theorem reference_iff {name : String} {rule : Expr V} {r : Option (Node V × Cursor)}
    (found : rules.resolve name = some rule) :
    Yields rules (.reference name) s r ↔ Yields rules rule s r := by
  constructor
  · intro h
    cases h with
    | reference found' runs =>
      cases found.symm.trans found'
      exact runs
    | referenceFails missing => simp [found] at missing
  · exact .reference found

/-- A repetition of a body that reads one item and always moves takes items while there are any. -/
theorem repetition_some_iff {body : Expr V} {min : Nat} {α : Type} {ok : α → Prop}
    {text : α → List Char} {node : α → Node V}
    (reads : ∀ {s t n}, Yields rules body s (some (n, t)) ↔
      ∃ a, ok a ∧ s.Spans (text a) t ∧ n = node a)
    (moves : ∀ a, ok a → text a ≠ []) :
    Yields rules (.repetition body min none) s (some (n, t)) ↔
      ∃ as : List α, min ≤ as.length ∧ (∀ a ∈ as, ok a) ∧ s.Spans (as.flatMap text) t ∧
        Yields rules body t none ∧ n = .repetition (as.map node) := by
  constructor
  · intro h
    obtain ⟨ns, rfl⟩ := h.node_of_repetition
    induction ns generalizing s min with
    | nil =>
      cases h with
      | repetitionEnds room fails => exact ⟨[], by simp, by simp, by simp, fails, rfl⟩
    | cons m ns ih =>
      cases h with
      | repetitionStalls room stalls =>
        obtain ⟨a, ha, hs, _⟩ := reads.1 stalls
        exact absurd rfl (hs.stop_ne (moves a ha))
      | repetition room moved first others =>
        obtain ⟨a, ha, hs, rfl⟩ := reads.1 first
        obtain ⟨as, hmin, has, hsp, fails, hns⟩ := ih others
        refine ⟨a :: as, ?_, List.forall_mem_cons.2 ⟨ha, has⟩, ?_, fails, ?_⟩
        · simp only [List.length_cons]
          omega
        · simpa using hs.trans hsp
        · simpa using hns
  · intro h
    obtain ⟨as, hmin, has, hsp, fails, rfl⟩ := h
    induction as generalizing s min with
    | nil =>
      obtain rfl : min = 0 := by simpa using hmin
      obtain rfl : t = s := by simpa using hsp
      exact .repetitionEnds nofun fails
    | cons a as ih =>
      obtain ⟨ha, has⟩ := List.forall_mem_cons.1 has
      rw [List.flatMap_cons] at hsp
      obtain ⟨u, hs, hu⟩ := hsp.split
      have first := reads.2 ⟨a, ha, hs, rfl⟩
      refine .repetition nofun (hs.stop_ne (moves a ha)) first (ih ?_ has hu)
      simp only [List.length_cons] at hmin
      omega

theorem alternation_cons_some_iff {c : Expr V} {cs : List (Expr V)} {r : Node V × Cursor} :
    Yields rules (.alternation (c :: cs)) s (some r) ↔
      Yields rules c s (some r) ∨
        Yields rules c s none ∧ Yields rules (.alternation cs) s (some r) := by
  constructor
  · intro h
    cases h with
    | alternation first => exact .inl first
    | alternationOther first others => exact .inr ⟨first, others⟩
  · intro h
    rcases h with first | ⟨first, others⟩
    · exact .alternation first
    · exact .alternationOther first others

theorem alternation_append {before after : List (Expr V)} {c : Expr V} {r : Node V × Cursor}
    (fail : ∀ b ∈ before, Yields rules b s none) (h : Yields rules c s (some r)) :
    Yields rules (.alternation (before ++ c :: after)) s (some r) := by
  induction before with
  | nil => exact .alternation h
  | cons b before ih =>
    exact .alternationOther (fail b List.mem_cons_self)
      (ih fun d hd => fail d (List.mem_cons_of_mem b hd))

end Yields

end PegGrammar
