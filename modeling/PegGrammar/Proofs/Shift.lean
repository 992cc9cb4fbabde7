import PegGrammar.Proofs.MatchedText

/-!
Runs do not see what stands in front of the cursor. Putting characters in front of a text moves
every place of it, and a run from the moved place is the run from the old one with all its places
moved: the same nodes, the same failures, the same events.

Every place of a text is the start of what remains of it with the rest put in front, so a run
depends on nothing but the text ahead.
-/

namespace PegGrammar

variable {V : Type}

/-- The same place after `cs` is put in front of the text. -/
def Cursor.shift (cs : List Char) (s : Cursor) : Cursor where
  behind := s.behind ++ cs.reverse
  ahead := s.ahead
  offset := s.offset + byteLength cs
  offset_eq := by simp [s.offset_eq]

def Event.shift (bytes : Nat) : Event → Event
  | .entered rule offset => .entered rule (offset + bytes)
  | .undefinedRule name => .undefinedRule name
  | .declined => .declined

def Outcome.shift (cs : List Char) : Outcome V → Outcome V
  | .matched node stop => .matched node (stop.shift cs)
  | .noMatch => .noMatch
  | .unfinished => .unfinished

def Run.shift (cs : List Char) (r : Run V) : Run V :=
  ⟨r.outcome.shift cs, r.trace.map (Event.shift (byteLength cs))⟩

@[simp] theorem Outcome.shift_matched (cs : List Char) (node : Node V) (stop : Cursor) :
    (matched node stop).shift cs = .matched node (stop.shift cs) := rfl

@[simp] theorem Outcome.shift_noMatch (cs : List Char) :
    (noMatch : Outcome V).shift cs = .noMatch := rfl

@[simp] theorem Outcome.shift_unfinished (cs : List Char) :
    (unfinished : Outcome V).shift cs = .unfinished := rfl

namespace Cursor

@[simp] theorem ahead_shift (cs : List Char) (s : Cursor) : (s.shift cs).ahead = s.ahead := rfl

@[simp] theorem offset_shift (cs : List Char) (s : Cursor) :
    (s.shift cs).offset = s.offset + byteLength cs := rfl

@[simp] theorem peek_shift (cs : List Char) (s : Cursor) (n : Nat) :
    (s.shift cs).peek n = s.peek n := rfl

@[simp] theorem read_shift (cs : List Char) (s : Cursor) (n : Nat) :
    (s.shift cs).read n = (s.read n).shift cs :=
  ext_sides (by simp [shift]) (by simp)

theorem eq_shift_start (s : Cursor) : s = (start s.remaining).shift s.behind.reverse :=
  ext_sides (by simp [shift, start]) (by simp [start, remaining])

theorem read_start_append (p t : String) :
    (start (p ++ t)).read p.length = (start t).shift p.toList := by
  have hp : p.length = p.toList.length := String.length_toList.symm
  apply ext_sides
  · simp [start, shift, hp]
  · simp [start, hp]

end Cursor

namespace Run

variable (cs : List Char)

@[simp] theorem outcome_shift (r : Run V) : (r.shift cs).outcome = r.outcome.shift cs := rfl

@[simp] theorem shift_after (events : List Event) (r : Run V) :
    (r.after events).shift cs = (r.shift cs).after (events.map (Event.shift (byteLength cs))) := by
  simp [shift, after]

theorem shift_andThen (r : Run V) {next next' : Node V → Cursor → Run V}
    (shifts : ∀ n t, next' n (t.shift cs) = (next n t).shift cs) :
    (r.shift cs).andThen next' = (r.andThen next).shift cs := by
  obtain ⟨outcome, trace⟩ := r
  cases outcome with
  | matched n t =>
    simp only [andThen, outcome_shift, Outcome.shift_matched, shift_after, shifts]
    rfl
  | noMatch => rfl
  | unfinished => rfl

theorem shift_orElse (r : Run V) {next next' : Unit → Run V} (shifts : next' () = (next ()).shift cs) :
    (r.shift cs).orElse next' = (r.orElse next).shift cs := by
  obtain ⟨outcome, trace⟩ := r
  cases outcome with
  | matched n t => rfl
  | noMatch =>
    simp only [orElse, outcome_shift, Outcome.shift_noMatch, shift_after, shifts]
    rfl
  | unfinished => rfl

theorem shift_hook (r : Run V) (h : Hook V) : (r.shift cs).hook h = (r.hook h).shift cs := by
  obtain ⟨outcome, trace⟩ := r
  cases outcome with
  | matched n t => cases hn : h n <;> simp [hook, shift, Outcome.shift, Event.shift, hn]
  | noMatch => rfl
  | unfinished => rfl

end Run

namespace Expr

section Step

variable {cs : List Char} {run : Expr V → Cursor → Run V}
  (shifts : ∀ e s, run e (s.shift cs) = (run e s).shift cs)

include shifts

theorem runParts_shift (done : List (Node V)) (ps : List (Expr V)) (s : Cursor) :
    runParts run done ps (s.shift cs) = (runParts run done ps s).shift cs := by
  induction ps generalizing done s with
  | nil => rfl
  | cons p ps ih =>
    simp only [runParts, shifts]
    exact Run.shift_andThen cs (run p s) fun n t => ih (n :: done) t

theorem runChoices_shift (choices : List (Expr V)) (s : Cursor) :
    runChoices run choices (s.shift cs) = (runChoices run choices s).shift cs := by
  induction choices with
  | nil => rfl
  | cons c choices ih =>
    simp only [runChoices, shifts]
    exact Run.shift_orElse cs (run c s) ih

omit shifts in
theorem endRepetition_shift (needed : Nat) (done : List (Node V)) (s : Cursor) :
    endRepetition needed done (s.shift cs) = (endRepetition needed done s).shift cs := by
  unfold endRepetition
  split <;> rfl

theorem runRepeatedly_shift (body : Expr V) (rounds needed : Nat) (left : Option Nat)
    (done : List (Node V)) (s : Cursor) :
    runRepeatedly (run body) rounds needed left done (s.shift cs) =
      (runRepeatedly (run body) rounds needed left done s).shift cs := by
  induction rounds generalizing needed left done s with
  | zero => rfl
  | succ rounds ih =>
    simp only [runRepeatedly, shifts]
    by_cases hl : left = some 0
    · simp only [hl, if_true]
      exact endRepetition_shift needed done s
    · simp only [hl, if_false]
      cases hb : (run body s).outcome with
      | matched n t =>
        -- both offsets move alike, so a match that stalls still does
        simp only [Run.outcome_shift, hb, Outcome.shift_matched, Cursor.offset_shift,
          Nat.add_right_cancel_iff, Run.shift_after]
        by_cases ht : t.offset = s.offset
        · simp only [ht, if_true]
          rfl
        · simp only [ht, if_false, ih]
          rfl
      | noMatch =>
        simp only [Run.outcome_shift, hb, Outcome.shift_noMatch, endRepetition_shift,
          Run.shift_after]
        rfl
      | unfinished => simp only [Run.outcome_shift, hb, Outcome.shift_unfinished]

theorem step_shift (rules : RuleSet V) (rounds : Nat) (e : Expr V) (s : Cursor) :
    step rules run rounds e (s.shift cs) = (step rules run rounds e s).shift cs := by
  cases e with
  | literal text =>
    simp only [step, Cursor.peek_shift, Cursor.read_shift]
    split <;> rfl
  | charClass cls =>
    simp only [step, Cursor.ahead_shift, Cursor.read_shift]
    cases s.ahead with
    | nil => rfl
    | cons c rest =>
      simp only
      split <;> rfl
  | sequence ps => exact runParts_shift shifts [] ps s
  | repetition body min max => exact runRepeatedly_shift shifts body rounds min max [] s
  | alternation choices => exact runChoices_shift shifts choices s
  | reference name =>
    simp only [step]
    cases rules.resolve name with
    | none => rfl
    | some rule => simp only [shifts, Run.shift_after, List.map_cons, List.map_nil, Event.shift,
        Cursor.offset_shift]
  | hooked body h =>
    simp only [step, shifts]
    exact Run.shift_hook cs (run body s) h

end Step

variable (rules : RuleSet V)

theorem run_shift (cs : List Char) (fuel : Nat) (e : Expr V) (s : Cursor) :
    e.run rules fuel (s.shift cs) = (e.run rules fuel s).shift cs := by
  induction fuel generalizing e s with
  | zero => rfl
  | succ fuel ih => exact step_shift ih rules fuel e s

theorem apply_shift (cs : List Char) (e : Expr V) (s : Cursor) :
    e.apply rules (s.shift cs) = (e.apply rules s).shift cs :=
  run_shift rules cs (fuelFor rules e s) e s

theorem apply_eq_shift_apply_start (e : Expr V) (s : Cursor) :
    e.apply rules s = (e.apply rules (.start s.remaining)).shift s.behind.reverse := by
  rw [← apply_shift, ← s.eq_shift_start]

theorem matched_behind_iff (e : Expr V) (p t : String) (node : Node V) (bytes : Nat) :
    (∃ stop, (e.apply rules ((Cursor.start (p ++ t)).read p.length)).outcome = .matched node stop ∧
        stop.offset = p.utf8ByteSize + bytes) ↔
      ∃ stop, (e.apply rules (.start t)).outcome = .matched node stop ∧ stop.offset = bytes := by
  rw [Cursor.read_start_append, apply_shift, ← Cursor.byteLength_toList]
  rw [Run.outcome_shift]
  cases (e.apply rules (.start t)).outcome with
  | matched n u =>
    simp only [Outcome.shift_matched, Outcome.matched.injEq]
    constructor
    · intro h
      obtain ⟨stop, ⟨rfl, rfl⟩, ho⟩ := h
      rw [Cursor.offset_shift] at ho
      exact ⟨u, ⟨rfl, rfl⟩, by omega⟩
    · intro h
      obtain ⟨stop, ⟨rfl, rfl⟩, ho⟩ := h
      refine ⟨u.shift p.toList, ⟨rfl, rfl⟩, ?_⟩
      rw [Cursor.offset_shift]
      omega
  | noMatch => simp
  | unfinished => simp

theorem ends_behind_iff (e : Expr V) (p t : String) :
    (e.apply rules ((Cursor.start (p ++ t)).read p.length)).Ends ↔
      (e.apply rules (.start t)).Ends := by
  rw [Cursor.read_start_append, apply_shift]
  rw [Run.Ends, Run.outcome_shift, Run.Ends]
  cases (e.apply rules (.start t)).outcome <;> simp

end Expr

/-- Applying an expression depends only on the text ahead. Behind `p` and behind `q` it ends, and
matches with the same node over the same number of bytes, in the same cases; and from any place it
does what it does at the start of what remains, all places moved. -/
theorem apply_depends_on_ahead (rules : RuleSet V) (e : Expr V) :
    (∀ p q t : String,
      ((Cursor.start (p ++ t)).read p.length).offset = p.utf8ByteSize ∧
      ((e.apply rules ((Cursor.start (p ++ t)).read p.length)).Ends ↔
        (e.apply rules ((Cursor.start (q ++ t)).read q.length)).Ends) ∧
      ∀ (node : Node V) (bytes : Nat),
        (∃ stop, (e.apply rules ((Cursor.start (p ++ t)).read p.length)).outcome =
            .matched node stop ∧ stop.offset = p.utf8ByteSize + bytes) ↔
          ∃ stop, (e.apply rules ((Cursor.start (q ++ t)).read q.length)).outcome =
            .matched node stop ∧ stop.offset = q.utf8ByteSize + bytes) ∧
    ∀ s : Cursor, byteLength s.behind.reverse = s.offset ∧
      e.apply rules s = (e.apply rules (.start s.remaining)).shift s.behind.reverse := by
  refine ⟨fun p q t => ⟨?_, ?_, fun node bytes => ?_⟩, fun s => ⟨?_, ?_⟩⟩
  · rw [Cursor.read_start_append, Cursor.offset_shift, Cursor.byteLength_toList]
    exact Nat.zero_add _
  · exact (Expr.ends_behind_iff rules e p t).trans (Expr.ends_behind_iff rules e q t).symm
  · exact (Expr.matched_behind_iff rules e p t node bytes).trans
      (Expr.matched_behind_iff rules e q t node bytes).symm
  · exact s.byteLength_behind_reverse
  · exact Expr.apply_eq_shift_apply_start rules e s

end PegGrammar
