import PegGrammar.Proofs.Yields

/-!
Runs and derivations. A run that ends has a derivation with the same result, and a derivation is
followed by every run with enough fuel.

`step` collects the nodes of a sequence or a repetition latest first, while a derivation puts one
node in front of the others. `Outcome.push` is what relates the two: the nodes collected so far only
stand in front of those that a fresh start from the same place would give.
-/

namespace PegGrammar

variable {V : Type}

namespace Outcome

def ofMatch : Option (Node V × Cursor) → Outcome V
  | some (node, stop) => .matched node stop
  | none => .noMatch

@[simp] theorem ofMatch_none : ofMatch (none : Option (Node V × Cursor)) = .noMatch := rfl

@[simp] theorem ofMatch_some (n : Node V) (t : Cursor) : ofMatch (some (n, t)) = .matched n t := rfl

theorem ofMatch_injective {r r' : Option (Node V × Cursor)} (h : ofMatch r = ofMatch r') :
    r = r' := by
  rcases r with _ | ⟨n, t⟩ <;> rcases r' with _ | ⟨n', t'⟩ <;> simp_all

theorem ofMatch_ne_unfinished (r : Option (Node V × Cursor)) : ofMatch r ≠ .unfinished := by
  rcases r with _ | ⟨n, t⟩ <;> simp

theorem eq_ofMatch {o : Outcome V} (h : o ≠ .unfinished) : ∃ r, o = ofMatch r := by
  cases o with
  | matched n t => exact ⟨some (n, t), rfl⟩
  | noMatch => exact ⟨none, rfl⟩
  | unfinished => exact absurd rfl h

def push (done : List (Node V)) : Outcome V → Outcome V
  | .matched (.sequence ns) t => .matched (.sequence (done.reverse ++ ns)) t
  | .matched (.repetition ns) t => .matched (.repetition (done.reverse ++ ns)) t
  | o => o

@[simp] theorem push_sequence (done ns : List (Node V)) (t : Cursor) :
    push done (.matched (.sequence ns) t) = .matched (.sequence (done.reverse ++ ns)) t := rfl

@[simp] theorem push_repetition (done ns : List (Node V)) (t : Cursor) :
    push done (.matched (.repetition ns) t) = .matched (.repetition (done.reverse ++ ns)) t := rfl

@[simp] theorem push_noMatch (done : List (Node V)) : push done .noMatch = .noMatch := rfl

@[simp] theorem push_unfinished (done : List (Node V)) : push done .unfinished = .unfinished := rfl

theorem push_push (n : Node V) (done : List (Node V)) (o : Outcome V) :
    push done (push [n] o) = push (n :: done) o := by
  rcases o with ⟨n', t⟩ | _ | _
  · cases n' <;> simp [push]
  · rfl
  · rfl

end Outcome

namespace Run

@[simp] theorem outcome_after (es : List Event) (r : Run V) : (after es r).outcome = r.outcome := rfl

theorem outcome_andThen (r : Run V) (next : Node V → Cursor → Run V) :
    (r.andThen next).outcome =
      match r.outcome with
      | .matched n t => (next n t).outcome
      | o => o := by
  unfold andThen
  split <;> simp_all

theorem outcome_orElse (r : Run V) (next : Unit → Run V) :
    (r.orElse next).outcome =
      match r.outcome with
      | .noMatch => (next ()).outcome
      | o => o := by
  unfold orElse
  split <;> simp_all

theorem outcome_hook (r : Run V) (h : Hook V) :
    (r.hook h).outcome =
      match r.outcome with
      | .matched n t => Outcome.ofMatch ((h n).map fun v => (.value v, t))
      | o => o := by
  unfold hook
  cases hr : r.outcome with
  | matched n t => cases hv : h n <;> simp [hv]
  | noMatch => exact hr
  | unfinished => exact hr

end Run

namespace Expr

section Rounds

variable {run : Expr V → Cursor → Run V}

theorem outcome_runParts (done : List (Node V)) (ps : List (Expr V)) (s : Cursor) :
    (runParts run done ps s).outcome = Outcome.push done (runParts run [] ps s).outcome := by
  induction ps generalizing done s with
  | nil => simp [runParts, Run.matched]
  | cons p ps ih =>
    simp only [runParts, Run.outcome_andThen]
    cases (run p s).outcome with
    | matched n t =>
      change (runParts run (n :: done) ps t).outcome =
        Outcome.push done (runParts run [n] ps t).outcome
      rw [ih (n :: done), ih [n], Outcome.push_push]
    | noMatch => rfl
    | unfinished => rfl

theorem outcome_runParts_cons (p : Expr V) (ps : List (Expr V)) (s : Cursor) :
    (runParts run [] (p :: ps) s).outcome =
      match (run p s).outcome with
      | .matched n t => Outcome.push [n] (runParts run [] ps t).outcome
      | o => o := by
  simp only [runParts, Run.outcome_andThen]
  cases (run p s).outcome with
  | matched n t => exact outcome_runParts [n] ps t
  | noMatch => rfl
  | unfinished => rfl

theorem outcome_runChoices_cons (c : Expr V) (cs : List (Expr V)) (s : Cursor) :
    (runChoices run (c :: cs) s).outcome =
      match (run c s).outcome with
      | .noMatch => (runChoices run cs s).outcome
      | o => o := by
  simp only [runChoices, Run.outcome_orElse]

theorem outcome_endRepetition (needed : Nat) (done : List (Node V)) (s : Cursor) :
    (endRepetition needed done s).outcome =
      Outcome.push done (endRepetition needed [] s).outcome := by
  unfold endRepetition
  split
  · simp [Run.matched]
  · rfl

theorem outcome_runRepeatedly (body : Cursor → Run V) (rounds needed : Nat) (left : Option Nat)
    (done : List (Node V)) (s : Cursor) :
    (runRepeatedly body rounds needed left done s).outcome =
      Outcome.push done (runRepeatedly body rounds needed left [] s).outcome := by
  induction rounds generalizing needed left done s with
  | zero => rfl
  | succ rounds ih =>
    simp only [runRepeatedly]
    by_cases hl : left = some 0
    · simp only [hl, if_true]
      exact outcome_endRepetition needed done s
    · simp only [hl, if_false]
      cases hb : (body s).outcome with
      | matched n t =>
        by_cases ht : t.offset = s.offset
        · simp [ht, Run.matched]
        · simp only [ht, if_false, Run.outcome_after]
          rw [ih _ _ (n :: done), ih _ _ [n], Outcome.push_push]
      | noMatch => exact outcome_endRepetition needed done s
      | unfinished => simp [hb]

theorem outcome_runRepeatedly_succ (body : Cursor → Run V) (rounds needed : Nat)
    (left : Option Nat) (s : Cursor) :
    (runRepeatedly body (rounds + 1) needed left [] s).outcome =
      if left = some 0 then (endRepetition needed [] s).outcome
      else
        match (body s).outcome with
        | .matched n t =>
          if t.offset = s.offset then .matched (.repetition [n]) t
          else
            Outcome.push [n] (runRepeatedly body rounds (needed - 1) (left.map (· - 1)) [] t).outcome
        | .noMatch => (endRepetition needed [] s).outcome
        | .unfinished => .unfinished := by
  simp only [runRepeatedly]
  by_cases hl : left = some 0
  · simp only [hl, if_true]
  · simp only [hl, if_false]
    cases hb : (body s).outcome with
    | matched n t =>
      by_cases ht : t.offset = s.offset
      · simp [ht, Run.matched]
      · simp only [ht, if_false, Run.outcome_after]
        exact outcome_runRepeatedly body rounds _ _ [n] t
    | noMatch => rfl
    | unfinished => exact hb

end Rounds

/-! From runs to derivations. -/

section Sound

variable {rules : RuleSet V} {run : Expr V → Cursor → Run V}
  (sound : ∀ e s r, (run e s).outcome = .ofMatch r → Yields rules e s r)

include sound

theorem yields_of_runParts {ps : List (Expr V)} {s : Cursor} {r : Option (Node V × Cursor)}
    (h : (runParts run [] ps s).outcome = .ofMatch r) : Yields rules (.sequence ps) s r := by
  induction ps generalizing s r with
  | nil =>
    cases Outcome.ofMatch_injective (r := some (.sequence [], s)) h
    exact .sequenceEmpty
  | cons p ps ih =>
    rw [outcome_runParts_cons] at h
    cases hp : (run p s).outcome with
    | matched n t =>
      have first := sound p s (some (n, t)) hp
      simp only [hp] at h
      cases ho : (runParts run [] ps t).outcome with
      | matched n' u =>
        have others := ih (r := some (n', u)) ho
        obtain ⟨ns, rfl⟩ := others.node_of_sequence
        rw [ho] at h
        cases Outcome.ofMatch_injective (r := some (.sequence (n :: ns), u)) h
        exact .sequence first others
      | noMatch =>
        rw [ho] at h
        cases Outcome.ofMatch_injective (r := none) h
        exact .sequenceFailsLater first (ih (r := none) ho)
      | unfinished =>
        rw [ho] at h
        exact absurd h.symm (Outcome.ofMatch_ne_unfinished r)
    | noMatch =>
      simp only [hp] at h
      cases Outcome.ofMatch_injective (r := none) h
      exact .sequenceFailsFirst (sound p s none hp)
    | unfinished =>
      simp only [hp] at h
      exact absurd h.symm (Outcome.ofMatch_ne_unfinished r)

theorem yields_of_runChoices {cs : List (Expr V)} {s : Cursor} {r : Option (Node V × Cursor)}
    (h : (runChoices run cs s).outcome = .ofMatch r) : Yields rules (.alternation cs) s r := by
  induction cs with
  | nil =>
    cases Outcome.ofMatch_injective (r := none) h
    exact .alternationEmpty
  | cons c cs ih =>
    rw [outcome_runChoices_cons] at h
    cases hc : (run c s).outcome with
    | matched n t =>
      simp only [hc] at h
      cases Outcome.ofMatch_injective (r := some (n, t)) h
      exact .alternation (sound c s (some (n, t)) hc)
    | noMatch =>
      simp only [hc] at h
      exact .alternationOther (sound c s none hc) (ih h)
    | unfinished =>
      simp only [hc] at h
      exact absurd h.symm (Outcome.ofMatch_ne_unfinished r)

omit sound in
theorem yields_of_endRepetition {body : Expr V} {needed : Nat} {left : Option Nat} {s : Cursor}
    {r : Option (Node V × Cursor)} (h : (endRepetition needed [] s).outcome = .ofMatch r)
    (ends : left = some 0 ∨ left ≠ some 0 ∧ Yields rules body s none) :
    Yields rules (.repetition body needed left) s r := by
  cases needed with
  | zero =>
    cases Outcome.ofMatch_injective (r := some (.repetition [], s)) h
    rcases ends with rfl | ⟨room, fails⟩
    · exact .repetitionFull
    · exact .repetitionEnds room fails
  | succ needed =>
    cases Outcome.ofMatch_injective (r := none) h
    rcases ends with rfl | ⟨room, fails⟩
    · exact .repetitionFullShort
    · exact .repetitionEndsShort room fails

theorem yields_of_runRepeatedly {body : Expr V} {rounds needed : Nat} {left : Option Nat}
    {s : Cursor} {r : Option (Node V × Cursor)}
    (h : (runRepeatedly (run body) rounds needed left [] s).outcome = .ofMatch r) :
    Yields rules (.repetition body needed left) s r := by
  induction rounds generalizing needed left s r with
  | zero => exact absurd h.symm (Outcome.ofMatch_ne_unfinished r)
  | succ rounds ih =>
    rw [outcome_runRepeatedly_succ] at h
    by_cases hl : left = some 0
    · rw [if_pos hl] at h
      exact yields_of_endRepetition h (.inl hl)
    · rw [if_neg hl] at h
      cases hb : (run body s).outcome with
      | matched n t =>
        have first := sound body s (some (n, t)) hb
        simp only [hb] at h
        by_cases ht : t.offset = s.offset
        · rw [if_pos ht] at h
          obtain rfl := first.eq_iff_offset_eq.2 ht
          cases Outcome.ofMatch_injective (r := some (.repetition [n], t)) h
          exact .repetitionStalls hl first
        · rw [if_neg ht] at h
          have moves : t ≠ s := fun he => ht (first.eq_iff_offset_eq.1 he)
          cases ho : (runRepeatedly (run body) rounds (needed - 1) (left.map (· - 1)) [] t).outcome with
          | matched n' u =>
            have others := ih (r := some (n', u)) ho
            obtain ⟨ns, rfl⟩ := others.node_of_repetition
            rw [ho] at h
            cases Outcome.ofMatch_injective (r := some (.repetition (n :: ns), u)) h
            exact .repetition hl moves first others
          | noMatch =>
            rw [ho] at h
            cases Outcome.ofMatch_injective (r := none) h
            exact .repetitionFailsLater hl moves first (ih (r := none) ho)
          | unfinished =>
            rw [ho] at h
            exact absurd h.symm (Outcome.ofMatch_ne_unfinished r)
      | noMatch =>
        simp only [hb] at h
        exact yields_of_endRepetition h (.inr ⟨hl, sound body s none hb⟩)
      | unfinished =>
        simp only [hb] at h
        exact absurd h.symm (Outcome.ofMatch_ne_unfinished r)

theorem yields_of_step {rounds : Nat} {e : Expr V} {s : Cursor} {r : Option (Node V × Cursor)}
    (h : (step rules run rounds e s).outcome = .ofMatch r) : Yields rules e s r := by
  cases e with
  | literal text =>
    by_cases ht : text.toList <+: s.ahead
    · simp only [step, if_pos (Cursor.peek_eq_iff.2 ht)] at h
      cases Outcome.ofMatch_injective (r := some (.literal text, s.read text.length)) h
      exact .literal ht
    · simp only [step, if_neg (mt Cursor.peek_eq_iff.1 ht)] at h
      cases Outcome.ofMatch_injective (r := none) h
      exact .literalFails ht
  | charClass cls =>
    simp only [step] at h
    cases ha : s.ahead with
    | nil =>
      simp only [ha] at h
      cases Outcome.ofMatch_injective (r := none) h
      exact .charClassFails (by simp [ha])
    | cons c cs =>
      by_cases hc : cls.accepts c = true
      · simp only [ha, if_pos hc] at h
        cases Outcome.ofMatch_injective (r := some (.char c, s.read 1)) h
        exact .charClass (by simp [ha]) hc
      · simp only [ha, if_neg hc] at h
        cases Outcome.ofMatch_injective (r := none) h
        exact .charClassFails (by simpa [ha] using hc)
  | sequence ps => exact yields_of_runParts sound h
  | repetition body min max => exact yields_of_runRepeatedly sound h
  | alternation cs => exact yields_of_runChoices sound h
  | reference name =>
    simp only [step] at h
    cases hn : rules.resolve name with
    | none =>
      simp only [hn] at h
      cases Outcome.ofMatch_injective (r := none) h
      exact .referenceFails hn
    | some rule =>
      simp only [hn] at h
      exact .reference hn (sound rule s r h)
  | hooked body k =>
    simp only [step, Run.outcome_hook] at h
    cases hb : (run body s).outcome with
    | matched n t =>
      have matches_ := sound body s (some (n, t)) hb
      simp only [hb] at h
      cases Outcome.ofMatch_injective h
      cases hk : k n with
      | none => exact .hookedDeclines matches_ hk
      | some v => exact .hooked matches_ hk
    | noMatch =>
      simp only [hb] at h
      cases Outcome.ofMatch_injective (r := none) h
      exact .hookedFails (sound body s none hb)
    | unfinished =>
      simp only [hb] at h
      exact absurd h.symm (Outcome.ofMatch_ne_unfinished r)

end Sound

theorem yields_of_run {rules : RuleSet V} {fuel : Nat} {e : Expr V} {s : Cursor}
    {r : Option (Node V × Cursor)} (h : (Expr.run rules fuel e s).outcome = .ofMatch r) :
    Yields rules e s r := by
  induction fuel generalizing e s r with
  | zero => exact absurd h.symm (Outcome.ofMatch_ne_unfinished r)
  | succ fuel ih => exact yields_of_step (fun _ _ _ => ih) h

/-! From derivations to runs. -/

/-- With enough fuel and rounds the expression has the given result. Rounds are counted apart from
fuel, since what is left of a repetition runs with fewer rounds but no less fuel. -/
def Settles (rules : RuleSet V) (e : Expr V) (s : Cursor) (r : Option (Node V × Cursor)) : Prop :=
  ∃ enough, ∀ fuel ≥ enough, ∀ rounds ≥ enough,
    (step rules (Expr.run rules fuel) rounds e s).outcome = .ofMatch r

namespace Settles

variable {rules : RuleSet V} {e body : Expr V} {s t u : Cursor} {n : Node V}
  {r r' : Option (Node V × Cursor)}

theorem run (h : Settles rules e s r) :
    ∃ enough, ∀ fuel ≥ enough, (Expr.run rules fuel e s).outcome = .ofMatch r := by
  obtain ⟨enough, h⟩ := h
  refine ⟨enough + 1, fun fuel hf => ?_⟩
  obtain ⟨fuel, rfl⟩ : ∃ k, fuel = k + 1 := ⟨fuel - 1, by omega⟩
  exact h fuel (by omega) fuel (by omega)

theorem of_run (h : Settles rules body t r)
    (lift : ∀ fuel rounds, (Expr.run rules fuel body t).outcome = .ofMatch r →
      (step rules (Expr.run rules fuel) (rounds + 1) e s).outcome = .ofMatch r') :
    Settles rules e s r' := by
  obtain ⟨enough, h⟩ := h.run
  refine ⟨enough + 1, fun fuel hf rounds hr => ?_⟩
  obtain ⟨rounds, rfl⟩ : ∃ k, rounds = k + 1 := ⟨rounds - 1, by omega⟩
  exact lift fuel rounds (h fuel (by omega))

theorem of_run_of_step {rest : Expr V} {r₁ r₂ : Option (Node V × Cursor)}
    (first : Settles rules body s r₁) (others : Settles rules rest t r₂)
    (lift : ∀ fuel rounds, (Expr.run rules fuel body s).outcome = .ofMatch r₁ →
      (step rules (Expr.run rules fuel) rounds rest t).outcome = .ofMatch r₂ →
      (step rules (Expr.run rules fuel) (rounds + 1) e s).outcome = .ofMatch r') :
    Settles rules e s r' := by
  obtain ⟨a, ha⟩ := first.run
  obtain ⟨b, hb⟩ := others
  refine ⟨max a b + 1, fun fuel hf rounds hr => ?_⟩
  obtain ⟨rounds, rfl⟩ : ∃ k, rounds = k + 1 := ⟨rounds - 1, by omega⟩
  exact lift fuel rounds (ha fuel (by omega)) (hb fuel (by omega) rounds (by omega))

end Settles

theorem Settles.of_yields {rules : RuleSet V} {e : Expr V} {s : Cursor}
    {r : Option (Node V × Cursor)} (h : Yields rules e s r) : Settles rules e s r := by
  induction h with
  | literal starts =>
    exact ⟨0, fun _ _ _ _ => by simp [step, Cursor.peek_eq_iff.2 starts, Run.matched]⟩
  | literalFails differs =>
    exact ⟨0, fun _ _ _ _ => by simp [step, mt Cursor.peek_eq_iff.1 differs, Run.noMatch]⟩
  | @charClass cls s c next member =>
    obtain ⟨cs, ha⟩ := List.head?_eq_some_iff.1 next
    exact ⟨0, fun _ _ _ _ => by simp [step, ha, member, Run.matched]⟩
  | @charClassFails cls s refused =>
    refine ⟨0, fun _ _ _ _ => ?_⟩
    cases ha : s.ahead with
    | nil => simp [step, ha, Run.noMatch]
    | cons c cs => simp [step, ha, refused c (by simp [ha]), Run.noMatch]
  | sequenceEmpty => exact ⟨0, fun _ _ _ _ => rfl⟩
  | sequence first others ihf iho | sequenceFailsLater first others ihf iho =>
    refine ihf.of_run_of_step iho fun fuel rounds hp hps => ?_
    simp only [step] at hps
    simp only [step, outcome_runParts_cons, hp, Outcome.ofMatch_some, hps]
    rfl
  | sequenceFailsFirst first ih =>
    refine ih.of_run fun fuel rounds hp => ?_
    simp only [step, outcome_runParts_cons, hp, Outcome.ofMatch_none]
  | repetitionFull | repetitionFullShort =>
    refine ⟨1, fun fuel hf rounds hr => ?_⟩
    obtain ⟨rounds, rfl⟩ : ∃ k, rounds = k + 1 := ⟨rounds - 1, by omega⟩
    rfl
  | repetitionEnds room fails ih | repetitionEndsShort room fails ih =>
    refine ih.of_run fun fuel rounds hb => ?_
    simp only [step, outcome_runRepeatedly_succ, if_neg room, hb, Outcome.ofMatch_none]
    rfl
  | repetitionStalls room stalls ih =>
    refine ih.of_run fun fuel rounds hb => ?_
    simp only [step, outcome_runRepeatedly_succ, if_neg room, hb, Outcome.ofMatch_some, if_true]
  | repetition room moves first others ihf iho
  | repetitionFailsLater room moves first others ihf iho =>
    refine ihf.of_run_of_step iho fun fuel rounds hb hbs => ?_
    simp only [step] at hbs
    simp only [step, outcome_runRepeatedly_succ, if_neg room, hb, Outcome.ofMatch_some,
      if_neg (mt first.eq_iff_offset_eq.2 moves), hbs]
    rfl
  | alternationEmpty => exact ⟨0, fun _ _ _ _ => rfl⟩
  | @alternation c cs s r first ih =>
    obtain ⟨n, t⟩ := r
    refine ih.of_run fun fuel rounds hc => ?_
    simp only [step, outcome_runChoices_cons, hc, Outcome.ofMatch_some]
  | alternationOther first others ihf iho =>
    refine ihf.of_run_of_step iho fun fuel rounds hc hcs => ?_
    simp only [step] at hcs
    simp only [step, outcome_runChoices_cons, hc, Outcome.ofMatch_none, hcs]
  | reference found runs ih =>
    refine ih.of_run fun fuel rounds hr => ?_
    simpa only [step, found, Run.outcome_after] using hr
  | referenceFails missing => exact ⟨0, fun _ _ _ _ => by simp [step, missing]⟩
  | hooked matches_ taken ih | hookedDeclines matches_ taken ih =>
    refine ih.of_run fun fuel rounds hb => ?_
    simp only [step, Run.outcome_hook, hb, Outcome.ofMatch_some, taken, Option.map_some,
      Option.map_none]
  | hookedFails fails ih =>
    refine ih.of_run fun fuel rounds hb => ?_
    simp only [step, Run.outcome_hook, hb, Outcome.ofMatch_none]

end Expr

theorem Yields.exists_run {rules : RuleSet V} {e : Expr V} {s : Cursor}
    {r : Option (Node V × Cursor)} (h : Yields rules e s r) :
    ∃ fuel, (e.run rules fuel s).outcome = .ofMatch r := by
  obtain ⟨enough, h⟩ := (Expr.Settles.of_yields h).run
  exact ⟨enough, h enough (Nat.le_refl _)⟩

/-- An expression yields at most one result at a place. -/
theorem Yields.unique {rules : RuleSet V} {e : Expr V} {s : Cursor}
    {r r' : Option (Node V × Cursor)} (h : Yields rules e s r) (h' : Yields rules e s r') :
    r = r' := by
  obtain ⟨a, ha⟩ := (Expr.Settles.of_yields h).run
  obtain ⟨b, hb⟩ := (Expr.Settles.of_yields h').run
  apply Outcome.ofMatch_injective
  rw [← ha (max a b) (Nat.le_max_left a b), hb (max a b) (Nat.le_max_right a b)]

end PegGrammar
