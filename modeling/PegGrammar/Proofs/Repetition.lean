import PegGrammar.Proofs.Fuel

/-!
What a repetition takes: matches of its body one behind the other, until it has as many as it may,
the body fails, or a match reads nothing. How many are required has no part in this. A minimum only
decides afterwards whether they are enough, and one that read nothing is enough for any.
-/

namespace PegGrammar

variable {V : Type}

structure Piece (V : Type) where
  node : Node V
  text : List Char

namespace Piece

variable {pieces : List (Piece V)}

def readBy (pieces : List (Piece V)) : List Char := pieces.flatMap text

/-- The pieces satisfy a minimum: there are so many of them, or one of them read nothing. -/
def Enough (min : Nat) (pieces : List (Piece V)) : Prop :=
  min ≤ pieces.length ∨ ∃ piece ∈ pieces, piece.text = []

theorem enough_nil_iff {min : Nat} : Enough min ([] : List (Piece V)) ↔ min = 0 := by
  simp [Enough]

theorem enough_cons_iff {min : Nat} {n : Node V} {cs : List Char} (hcs : cs ≠ []) :
    Enough min (⟨n, cs⟩ :: pieces) ↔ Enough (min - 1) pieces := by
  simp only [Enough, List.length_cons, List.exists_mem_cons_iff, hcs, false_or]
  rw [Nat.sub_le_iff_le_add]

theorem enough_zero (pieces : List (Piece V)) : Enough 0 pieces := .inl (Nat.zero_le _)

theorem not_enough_iff {min : Nat} :
    ¬Enough min pieces ↔ (∀ piece ∈ pieces, piece.text ≠ []) ∧ pieces.length < min := by
  rw [Enough, not_or, not_le, and_comm]
  simp only [not_exists, not_and, ne_eq]

end Piece

inductive Consecutive (rules : RuleSet V) (body : Expr V) :
    Cursor → List (Piece V) → Cursor → Prop
  | nil {s : Cursor} : Consecutive rules body s [] s
  | cons {s t u : Cursor} {n : Node V} {cs : List Char} {pieces : List (Piece V)}
      (first : (body.apply rules s).outcome = .matched n t) (reads : s.Spans cs t)
      (others : Consecutive rules body t pieces u) :
      Consecutive rules body s (⟨n, cs⟩ :: pieces) u

/-- The matches that a repetition of the body takes, `max` at most. -/
inductive Takes (rules : RuleSet V) (body : Expr V) :
    Option Nat → Cursor → List (Piece V) → Cursor → Prop
  | full {s : Cursor} : Takes rules body (some 0) s [] s
  | ends {max : Option Nat} {s : Cursor} (room : max ≠ some 0) (fails : Yields rules body s none) :
      Takes rules body max s [] s
  | stalls {max : Option Nat} {s : Cursor} {n : Node V} (room : max ≠ some 0)
      (stalls : Yields rules body s (some (n, s))) : Takes rules body max s [⟨n, []⟩] s
  | takes {max : Option Nat} {s t u : Cursor} {n : Node V} {cs : List Char}
      {pieces : List (Piece V)} (room : max ≠ some 0) (first : Yields rules body s (some (n, t)))
      (reads : s.Spans cs t) (moves : cs ≠ [])
      (others : Takes rules body (max.map (· - 1)) t pieces u) :
      Takes rules body max s (⟨n, cs⟩ :: pieces) u

theorem Consecutive.spans {rules : RuleSet V} {body : Expr V} {s u : Cursor}
    {pieces : List (Piece V)} (h : Consecutive rules body s pieces u) :
    s.Spans (Piece.readBy pieces) u := by
  induction h with
  | nil => exact Cursor.Spans.nil_iff.2 rfl
  | cons first reads others ih => exact reads.trans ih

namespace Takes

variable {rules : RuleSet V} {body : Expr V} {min : Nat} {max : Option Nat} {s u : Cursor}
  {pieces : List (Piece V)}

theorem yields_of_enough (h : Takes rules body max s pieces u) (enough : Piece.Enough min pieces) :
    Yields rules (.repetition body min max) s (some (.repetition (pieces.map Piece.node), u)) := by
  induction h generalizing min with
  | full =>
    obtain rfl := Piece.enough_nil_iff.1 enough
    exact .repetitionFull
  | ends room fails =>
    obtain rfl := Piece.enough_nil_iff.1 enough
    exact .repetitionEnds room fails
  | stalls room stalls => exact .repetitionStalls room stalls
  | takes room first reads moves others ih =>
    exact .repetition room (reads.stop_ne moves) first (ih ((Piece.enough_cons_iff moves).1 enough))

theorem yields_none (h : Takes rules body max s pieces u) (short : ¬Piece.Enough min pieces) :
    Yields rules (.repetition body min max) s none := by
  induction h generalizing min with
  | full =>
    obtain ⟨min, rfl⟩ := Nat.exists_eq_succ_of_ne_zero (mt Piece.enough_nil_iff.2 short)
    exact .repetitionFullShort
  | ends room fails =>
    obtain ⟨min, rfl⟩ := Nat.exists_eq_succ_of_ne_zero (mt Piece.enough_nil_iff.2 short)
    exact .repetitionEndsShort room fails
  | stalls room stalls => exact absurd (.inr ⟨_, List.mem_cons_self, rfl⟩) short
  | takes room first reads moves others ih =>
    exact .repetitionFailsLater room (reads.stop_ne moves) first
      (ih (mt (Piece.enough_cons_iff moves).2 short))

theorem exists_of_yields {r : Option (Node V × Cursor)}
    (h : Yields rules (.repetition body min max) s r) : ∃ pieces u, Takes rules body max s pieces u := by
  generalize he : Expr.repetition body min max = e at h
  induction h generalizing min max with
  | repetitionFull | repetitionFullShort =>
    cases he
    exact ⟨[], _, .full⟩
  | repetitionEnds room fails | repetitionEndsShort room fails =>
    cases he
    exact ⟨[], _, .ends room fails⟩
  | repetitionStalls room stalls =>
    cases he
    exact ⟨_, _, .stalls room stalls⟩
  | repetition room moves first others ihf iho | repetitionFailsLater room moves first others ihf iho =>
    cases he
    obtain ⟨cs, reads⟩ := first.exists_spans
    obtain ⟨pieces, u, others⟩ := iho rfl
    have hcs : cs ≠ [] := by
      rintro rfl
      exact moves (Cursor.Spans.nil_iff.1 reads)
    exact ⟨_, u, .takes room first reads hcs others⟩
  | _ => cases he

theorem consecutive (h : Takes rules body max s pieces u) : Consecutive rules body s pieces u := by
  induction h with
  | full | ends => exact .nil
  | stalls room stalls =>
    exact .cons (Expr.outcome_apply_eq_iff.2 stalls) (Cursor.Spans.nil_iff.2 rfl) .nil
  | takes room first reads moves others ih =>
    exact .cons (Expr.outcome_apply_eq_iff.2 first) reads ih

theorem moves (h : Takes rules body max s pieces u) :
    ∀ piece ∈ pieces.dropLast, piece.text ≠ [] := by
  induction h with
  | full | ends | stalls => simp
  | @takes max s t u n cs pieces room first reads moves others ih =>
    cases pieces with
    | nil => simp
    | cons piece pieces =>
      rw [List.dropLast_cons_cons]
      exact List.forall_mem_cons.2 ⟨moves, ih⟩

theorem length_le (h : Takes rules body max s pieces u) :
    pieces.length ≤ (Piece.readBy pieces).length + 1 := by
  induction h with
  | full | ends | stalls => simp
  | takes room first reads moves others ih =>
    have hcs := List.length_pos_iff.2 moves
    simp only [Piece.readBy, List.flatMap_cons, List.length_append, List.length_cons] at ih ⊢
    omega

theorem fails (h : Takes rules body none s pieces u)
    (last : ∀ piece, pieces.getLast? = some piece → piece.text ≠ []) : Yields rules body u none := by
  generalize hmax : (none : Option Nat) = max at h
  induction h with
  | full => cases hmax
  | ends room fails => exact fails
  | stalls room stalls => exact absurd rfl (last _ rfl)
  | @takes max s t u n cs pieces room first reads moves others ih =>
    subst hmax
    refine ih (fun piece hp => last piece ?_) rfl
    simp [List.getLast?_cons, hp]

end Takes

namespace Expr

variable {rules : RuleSet V} {body : Expr V} {min : Nat} {max : Option Nat} {s u : Cursor}
  {pieces : List (Piece V)}

theorem ends_repetition_iff :
    ((Expr.repetition body min max).apply rules s).Ends ↔ ∃ pieces u, Takes rules body max s pieces u := by
  rw [ends_apply_iff]
  constructor
  · rintro ⟨r, h⟩
    exact Takes.exists_of_yields h
  · rintro ⟨pieces, u, h⟩
    by_cases enough : Piece.Enough min pieces
    · exact ⟨_, h.yields_of_enough enough⟩
    · exact ⟨_, h.yields_none enough⟩

theorem outcome_repetition_of_enough (h : Takes rules body max s pieces u)
    (enough : Piece.Enough min pieces) : ((Expr.repetition body min max).apply rules s).outcome =
      .matched (.repetition (pieces.map Piece.node)) u :=
  outcome_apply_eq_iff.2 (h.yields_of_enough enough)

theorem outcome_repetition_eq_noMatch_iff (h : Takes rules body max s pieces u) :
    ((Expr.repetition body min max).apply rules s).outcome = .noMatch ↔ ¬Piece.Enough min pieces := by
  constructor
  · intro hnone enough
    rw [outcome_repetition_of_enough h enough] at hnone
    cases hnone
  · intro short
    exact outcome_apply_eq_iff (r := none) |>.2 (h.yields_none short)

theorem yields_optional_of_none (h : Yields rules body s none) :
    Yields rules body.optional s (some (.repetition [], s)) := .repetitionEnds (by simp) h

theorem yields_optional_of_some {n : Node V} (h : Yields rules body s (some (n, u))) :
    Yields rules body.optional s (some (.repetition [n], u)) := by
  by_cases hmoves : u = s
  · subst hmoves
    exact .repetitionStalls (by simp) h
  · exact .repetition (by simp) hmoves h .repetitionFull

theorem exists_yields_of_optional {r : Option (Node V × Cursor)}
    (h : Yields rules body.optional s r) : ∃ r', Yields rules body s r' := by
  cases h with
  | repetitionEnds room first | repetitionStalls room first | repetition room moves first
  | repetitionFailsLater room moves first => exact ⟨_, first⟩

theorem outcome_optional (rules : RuleSet V) (body : Expr V) (s : Cursor) :
    (body.optional.apply rules s).outcome =
      match (body.apply rules s).outcome with
      | .matched n u => .matched (.repetition [n]) u
      | .noMatch => .matched (.repetition []) s
      | .unfinished => .unfinished := by
  cases hb : (body.apply rules s).outcome with
  | matched n u =>
    have hy := outcome_apply_eq_iff (r := some (n, u)) |>.1 hb
    exact outcome_apply_eq_iff.2 (yields_optional_of_some hy)
  | noMatch =>
    have hy := outcome_apply_eq_iff (r := none) |>.1 hb
    exact outcome_apply_eq_iff.2 (yields_optional_of_none hy)
  | unfinished =>
    by_contra ends
    obtain ⟨r, hy⟩ := ends_apply_iff.1 ends
    exact ends_apply_iff.2 (exists_yields_of_optional hy) hb

end Expr

/-- What a repetition comes to, at any place where it comes to an end. Its matches are those that a
repetition without a minimum takes. They follow one another, none but the last reads nothing, so
there is at most one more of them than characters read, and if the last one read something, the body
fails behind it. The minimum makes the repetition fail if it is not reached and each match read
something, and has no other effect. An optional body takes the one match that the body has. -/
theorem outcome_repeated (rules : RuleSet V) (body : Expr V) (min : Nat) (s : Cursor) :
    (((body.repeated min).apply rules s).Ends ↔ ((body.repeated 0).apply rules s).Ends) ∧
    (((body.repeated min).apply rules s).Ends → ∃ (pieces : List (Piece V)) (stop : Cursor),
      ((body.repeated 0).apply rules s).outcome =
        .matched (.repetition (pieces.map Piece.node)) stop ∧
      (((body.repeated min).apply rules s).outcome = .noMatch ∨
        ((body.repeated min).apply rules s).outcome =
          ((body.repeated 0).apply rules s).outcome) ∧
      (((body.repeated min).apply rules s).outcome = .noMatch ↔
        (∀ piece ∈ pieces, piece.text ≠ []) ∧ pieces.length < min) ∧
      Consecutive rules body s pieces stop ∧
      (∀ piece ∈ pieces.dropLast, piece.text ≠ []) ∧
      s.Spans (Piece.readBy pieces) stop ∧
      pieces.length ≤ (Piece.readBy pieces).length + 1 ∧
      ((∀ piece, pieces.getLast? = some piece → piece.text ≠ []) →
        (body.apply rules stop).outcome = .noMatch)) ∧
    (body.optional.apply rules s).outcome =
      match (body.apply rules s).outcome with
      | .matched n stop => .matched (.repetition [n]) stop
      | .noMatch => .matched (.repetition []) s
      | .unfinished => .unfinished := by
  refine ⟨?_, fun ends => ?_, Expr.outcome_optional rules body s⟩
  · rw [Expr.repeated, Expr.repeated, Expr.ends_repetition_iff, Expr.ends_repetition_iff]
  · obtain ⟨pieces, stop, taken⟩ := Expr.ends_repetition_iff.1 ends
    have all := Expr.outcome_repetition_of_enough taken (Piece.enough_zero pieces)
    have short : (((body.repeated min).apply rules s).outcome = .noMatch ↔ ¬Piece.Enough min pieces) :=
      Expr.outcome_repetition_eq_noMatch_iff taken
    refine ⟨pieces, stop, all, ?_, short.trans Piece.not_enough_iff, taken.consecutive,
      taken.moves, taken.consecutive.spans, taken.length_le, fun last => ?_⟩
    · by_cases enough : Piece.Enough min pieces
      · exact .inr ((Expr.outcome_repetition_of_enough taken enough).trans all.symm)
      · exact .inl (short.2 enough)
    · exact Expr.outcome_apply_eq_iff (r := none) |>.2 (taken.fails last)

theorem outcome_repeated_marks :
    (((Expr.literal "x" : Expr Unit).optional.repeated 4).apply [] (.start "xxy")).Ends ∧
    (((Expr.literal "x" : Expr Unit).optional.repeated 4).apply [] (.start "xxy")).outcome =
      .matched (.repetition [.repetition [.literal "x"], .repetition [.literal "x"], .repetition []])
        ((Cursor.start "xxy").read 2) ∧
    ∃ pieces stop, Consecutive [] (Expr.literal "x" : Expr Unit).optional (.start "xxy") pieces stop ∧
      (((Expr.literal "x" : Expr Unit).optional.repeated 0).apply [] (.start "xxy")).outcome =
        .matched (.repetition (pieces.map Piece.node)) stop ∧
      (∀ piece ∈ pieces.dropLast, piece.text ≠ []) ∧
      (((Expr.literal "x" : Expr Unit).apply [] ((Cursor.start "xxy").read 2)).outcome = .noMatch) := by
  have ran : (((Expr.literal "x" : Expr Unit).optional.repeated 4).apply [] (.start "xxy")).outcome =
      .matched (.repetition [.repetition [.literal "x"], .repetition [.literal "x"], .repetition []])
        ((Cursor.start "xxy").read 2) := rfl
  have ends : (((Expr.literal "x" : Expr Unit).optional.repeated 4).apply [] (.start "xxy")).Ends := by
    rw [Run.Ends, ran]
    simp
  obtain ⟨-, taken, -⟩ := outcome_repeated [] (Expr.literal "x" : Expr Unit).optional 4 (.start "xxy")
  obtain ⟨pieces, stop, all, -, -, consecutive, moves, -⟩ := taken ends
  exact ⟨ends, ran, pieces, stop, consecutive, all, moves, rfl⟩

end PegGrammar
