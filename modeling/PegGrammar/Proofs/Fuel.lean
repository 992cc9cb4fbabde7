import Mathlib.Data.Finset.Card
import Mathlib.Data.Finset.Prod
import PegGrammar.Grammar
import PegGrammar.Proofs.Adequacy

/-!
How much fuel is enough. More fuel never changes a run that ended, and the fuel that `Expr.apply`
provides ends every run that any amount of fuel ends.

The second fact rests on counting. A run from a place only meets the expressions that the rules are
made of, at places ahead of it, so there are finitely many pairs of the two. If one unit of fuel
ends no further pair, then no more fuel ever will, as what a run does with one unit more depends on
nothing but the pairs below it. So the number of ended pairs grows with each unit until it stops.

With that, a rule of a grammar accepts a whole text exactly if it yields a match there that leaves
nothing.
-/

namespace PegGrammar

variable {V : Type}

namespace Run

def Ends (r : Run V) : Prop := r.outcome ≠ .unfinished

theorem andThen_congr {r : Run V} {next next' : Node V → Cursor → Run V}
    (ends : (r.andThen next).Ends)
    (same : ∀ n t, r.outcome = .matched n t → (next n t).Ends → next' n t = next n t) :
    r.andThen next' = r.andThen next := by
  unfold andThen Ends at *
  cases hr : r.outcome with
  | matched n t =>
    simp only [hr, outcome_after] at ends ⊢
    rw [same n t hr ends]
  | noMatch => rfl
  | unfinished => rfl

theorem ends_of_andThen {r : Run V} {next : Node V → Cursor → Run V} (ends : (r.andThen next).Ends) :
    r.Ends := by
  intro hr
  exact ends (by simp [outcome_andThen, hr])

theorem orElse_congr {r : Run V} {next next' : Unit → Run V} (ends : (r.orElse next).Ends)
    (same : (next ()).Ends → next' () = next ()) : r.orElse next' = r.orElse next := by
  unfold orElse Ends at *
  cases hr : r.outcome with
  | matched n t => rfl
  | noMatch =>
    simp only [hr, outcome_after] at ends ⊢
    rw [same ends]
  | unfinished => rfl

theorem ends_of_orElse {r : Run V} {next : Unit → Run V} (ends : (r.orElse next).Ends) : r.Ends := by
  intro hr
  exact ends (by simp [outcome_orElse, hr])

theorem ends_of_hook {r : Run V} {h : Hook V} (ends : (r.hook h).Ends) : r.Ends := by
  intro hr
  exact ends (by simp [outcome_hook, hr])

end Run

theorem RuleSet.mem_of_resolve {rules : RuleSet V} {name : String} {rule : Expr V}
    (h : rules.resolve name = some rule) : (name, rule) ∈ rules := by
  obtain ⟨as, bs, rfl, _⟩ := List.lookup_eq_some_iff.1 h
  simp

open Classical in
/-- Of growing sets within a finite one, the last new member comes no later than there are members,
if a step that adds nothing is followed by no step that does. -/
theorem saturates {α : Type} (U : Finset α) {P : ℕ → α → Prop}
    (grows : ∀ n x, P n x → P (n + 1) x)
    (rests : ∀ n, (∀ x ∈ U, P (n + 1) x → P n x) → ∀ x ∈ U, P (n + 2) x → P (n + 1) x)
    {n : ℕ} {x : α} (hx : x ∈ U) (h : P n x) : P U.card x := by
  have grows_le : ∀ {m n : ℕ}, m ≤ n → ∀ x, P m x → P n x := by
    intro m n hle x hm
    induction hle with
    | refl => exact hm
    | step _ ih => exact grows _ _ ih
  by_cases hr : ∃ m ≤ U.card, ∀ x ∈ U, P (m + 1) x → P m x
  · obtain ⟨m, hm, hrest⟩ := hr
    have stays : ∀ d, ∀ x ∈ U, P (m + d + 1) x → P (m + d) x := by
      intro d
      induction d with
      | zero => exact hrest
      | succ d ih => exact rests (m + d) ih
    have back : ∀ d, P (m + d) x → P m x := by
      intro d
      induction d with
      | zero => exact id
      | succ d ih => exact fun hd => ih (stays d x hx hd)
    exact grows_le hm x (back n (grows_le (Nat.le_add_left n m) x h))
  · -- otherwise each of the first steps adds a member, one more than there are
    have counts : ∀ m ≤ U.card + 1, m ≤ (U.filter (P m)).card := by
      intro m
      induction m with
      | zero => exact fun _ => Nat.zero_le _
      | succ m ih =>
        intro hm
        push Not at hr
        obtain ⟨y, hy, hnew, hold⟩ := hr m (by omega)
        have hlt : U.filter (P m) ⊂ U.filter (P (m + 1)) := by
          rw [Finset.ssubset_iff_of_subset (Finset.monotone_filter_right U fun z hz => grows m z)]
          exact ⟨y, by simp [hy, hnew], by simp [hold]⟩
        have := Finset.card_lt_card hlt
        have := ih (by omega)
        omega
    have := counts (U.card + 1) (Nat.le_refl _)
    have := Finset.card_filter_le U (P (U.card + 1))
    omega

namespace Expr

def parts : Expr V → List (Expr V)
  | .sequence ps => ps
  | .alternation cs => cs
  | .repetition b _ _ => [b]
  | .hooked b _ => [b]
  | .literal _ | .charClass _ | .reference _ => []

/-- A property that goes over to parts and that all rules have: one that covers whatever a run of
an expression with that property meets. -/
structure Covers (rules : RuleSet V) (P : Expr V → Prop) : Prop where
  parts : ∀ e, P e → ∀ p ∈ e.parts, P p
  rule : ∀ name rule, rules.resolve name = some rule → P rule

def Agrees (P : Expr V → Prop) (s : Cursor) (f g : Expr V → Cursor → Run V) : Prop :=
  ∀ e k, P e → (f e (s.read k)).Ends → g e (s.read k) = f e (s.read k)

section Congruence

variable {rules : RuleSet V} {P : Expr V → Prop} {s : Cursor} {f g : Expr V → Cursor → Run V}
  (moves : ∀ e s n t, (f e s).outcome = .matched n t → ∃ k, t = s.read k)
  (agrees : Agrees P s f g)

include moves agrees

theorem runParts_congr {done : List (Node V)} {ps : List (Expr V)} {k : ℕ} (hP : ∀ p ∈ ps, P p)
    (ends : (runParts f done ps (s.read k)).Ends) :
    runParts g done ps (s.read k) = runParts f done ps (s.read k) := by
  induction ps generalizing done k with
  | nil => rfl
  | cons p ps ih =>
    simp only [runParts] at ends ⊢
    rw [agrees p k (hP p List.mem_cons_self) (Run.ends_of_andThen ends)]
    apply Run.andThen_congr ends
    intro n t hr hn
    obtain ⟨j, rfl⟩ := moves p _ n t hr
    rw [Cursor.read_read] at hn ⊢
    exact ih (fun q hq => hP q (List.mem_cons_of_mem p hq)) hn

omit moves in
theorem runChoices_congr {cs : List (Expr V)} {k : ℕ} (hP : ∀ c ∈ cs, P c)
    (ends : (runChoices f cs (s.read k)).Ends) :
    runChoices g cs (s.read k) = runChoices f cs (s.read k) := by
  induction cs with
  | nil => rfl
  | cons c cs ih =>
    simp only [runChoices] at ends ⊢
    rw [agrees c k (hP c List.mem_cons_self) (Run.ends_of_orElse ends)]
    exact Run.orElse_congr ends (ih fun d hd => hP d (List.mem_cons_of_mem c hd))

theorem runRepeatedly_congr {body : Expr V} (hb : P body) {rounds rounds' needed : ℕ}
    {left : Option ℕ} {done : List (Node V)} {k : ℕ}
    (enough : rounds ≤ rounds' ∨ (s.read k).ahead.length < rounds')
    (ends : (runRepeatedly (f body) rounds needed left done (s.read k)).Ends) :
    runRepeatedly (g body) rounds' needed left done (s.read k) =
      runRepeatedly (f body) rounds needed left done (s.read k) := by
  induction rounds generalizing rounds' needed left done k with
  | zero => exact absurd rfl ends
  | succ rounds ih =>
    obtain ⟨rounds', rfl⟩ : ∃ j, rounds' = j + 1 := ⟨rounds' - 1, by omega⟩
    simp only [runRepeatedly] at ends ⊢
    by_cases hl : left = some 0
    · simp only [hl, if_true]
    · simp only [hl, if_false] at ends ⊢
      have hends : (f body (s.read k)).Ends := by
        intro hr
        simp only [hr] at ends
        exact ends hr
      rw [agrees body k hb hends]
      cases hr : (f body (s.read k)).outcome with
      | matched n t =>
        simp only [hr] at ends ⊢
        obtain ⟨j, rfl⟩ := moves body _ n t hr
        by_cases ht : ((s.read k).read j).offset = (s.read k).offset
        · simp only [ht, if_true]
        · simp only [ht, if_false] at ends ⊢
          -- the match moved, so a round less is still more than there are characters ahead
          have hlt := Cursor.length_ahead_read_lt (mt Cursor.read_eq_self_iff.1 ht)
          rw [Cursor.read_read] at ends hlt ⊢
          rw [ih (by omega) ends]
      | noMatch => rfl
      | unfinished => exact absurd hr hends

theorem step_congr (covers : Covers rules P) {e : Expr V} (he : P e) {k rounds rounds' : ℕ}
    (enough : rounds ≤ rounds' ∨ (s.read k).ahead.length < rounds')
    (ends : (step rules f rounds e (s.read k)).Ends) :
    step rules g rounds' e (s.read k) = step rules f rounds e (s.read k) := by
  have hp := covers.parts e he
  cases e with
  | literal text => rfl
  | charClass cls => rfl
  | sequence ps => exact runParts_congr moves agrees hp ends
  | repetition body min max =>
    exact runRepeatedly_congr moves agrees (hp body List.mem_cons_self) enough ends
  | alternation cs => exact runChoices_congr agrees hp ends
  | reference name =>
    simp only [step] at ends ⊢
    cases hn : rules.resolve name with
    | none => rfl
    | some rule =>
      simp only [hn] at ends ⊢
      rw [agrees rule k (covers.rule name rule hn) ends]
  | hooked body h =>
    simp only [step] at ends ⊢
    rw [agrees body k (hp body List.mem_cons_self) (Run.ends_of_hook ends)]

end Congruence

variable {rules : RuleSet V} {e : Expr V} {s : Cursor}

theorem moves_run (fuel : ℕ) (e : Expr V) (s : Cursor) (n : Node V) (t : Cursor)
    (h : (run rules fuel e s).outcome = .matched n t) : ∃ k, t = s.read k :=
  (yields_of_run (r := some (n, t)) h).stop_eq_read

theorem run_succ_of_ends {fuel : ℕ} (ends : (run rules fuel e s).Ends) :
    run rules (fuel + 1) e s = run rules fuel e s := by
  induction fuel generalizing e s with
  | zero => exact absurd rfl ends
  | succ fuel ih =>
    have covers : Covers rules fun _ => True := ⟨fun _ _ _ _ => trivial, fun _ _ _ => trivial⟩
    have agrees : Agrees (fun _ => True) s (run rules fuel) (run rules (fuel + 1)) :=
      fun _ _ _ hends => ih hends
    have h := step_congr (k := 0) (moves_run fuel) agrees covers (e := e) trivial
      (.inl (Nat.le_succ fuel))
    rw [Cursor.read_zero] at h
    exact h ends

theorem run_of_ends {fuel fuel' : ℕ} (hle : fuel ≤ fuel') (ends : (run rules fuel e s).Ends) :
    run rules fuel' e s = run rules fuel e s := by
  induction hle with
  | refl => rfl
  | step _ ih =>
    rw [← ih] at ends
    rw [run_succ_of_ends ends, ih]

mutual

def subterms : Expr V → List (Expr V)
  | .literal t => [.literal t]
  | .charClass c => [.charClass c]
  | .sequence ps => .sequence ps :: subtermsList ps
  | .repetition b min max => .repetition b min max :: b.subterms
  | .alternation cs => .alternation cs :: subtermsList cs
  | .reference n => [.reference n]
  | .hooked b h => .hooked b h :: b.subterms

def subtermsList : List (Expr V) → List (Expr V)
  | [] => []
  | e :: es => e.subterms ++ subtermsList es

end

mutual

theorem length_subterms : ∀ e : Expr V, e.subterms.length = e.size
  | .literal _ | .charClass _ | .reference _ => rfl
  | .sequence ps => by simp [subterms, size, length_subtermsList ps]
  | .alternation cs => by simp [subterms, size, length_subtermsList cs]
  | .repetition b _ _ => by simp [subterms, size, length_subterms b]
  | .hooked b _ => by simp [subterms, size, length_subterms b]

theorem length_subtermsList : ∀ es : List (Expr V), (subtermsList es).length = sizeList es
  | [] => rfl
  | e :: es => by simp [subtermsList, sizeList, length_subterms e, length_subtermsList es]

end

theorem subterms_eq (e : Expr V) : e.subterms = e :: e.parts.flatMap subterms := by
  have hl : ∀ es : List (Expr V), subtermsList es = es.flatMap subterms := by
    intro es
    induction es with
    | nil => rfl
    | cons e es ih => simp [subtermsList, ih]
  cases e <;> simp [subterms, parts, hl]

theorem size_lt_of_mem_parts {e p : Expr V} (h : p ∈ e.parts) : p.size < e.size := by
  have hs := subterms_eq e
  obtain ⟨as, bs, hp⟩ := List.append_of_mem h
  rw [← length_subterms e, ← length_subterms p, hs, hp]
  simp only [List.length_cons, List.flatMap_append, List.flatMap_cons, List.length_append]
  omega

theorem induction_parts {P : Expr V → Prop} (step : ∀ e, (∀ p ∈ e.parts, P p) → P e) (e : Expr V) :
    P e := by
  induction hn : e.size using Nat.strong_induction_on generalizing e with
  | _ n ih => exact step e fun p hp => ih p.size (hn ▸ size_lt_of_mem_parts hp) p rfl

theorem mem_subterms_self (e : Expr V) : e ∈ e.subterms := by
  rw [subterms_eq]
  exact List.mem_cons_self

theorem mem_subterms_of_mem_parts {e q p : Expr V} (hq : q ∈ e.subterms) (hp : p ∈ q.parts) :
    p ∈ e.subterms := by
  induction e using induction_parts with
  | step e ih =>
    rw [subterms_eq] at hq ⊢
    apply List.mem_cons_of_mem
    rcases List.mem_cons.1 hq with rfl | hq
    · exact List.mem_flatMap.2 ⟨p, hp, mem_subterms_self p⟩
    · obtain ⟨e', he', hq⟩ := List.mem_flatMap.1 hq
      exact List.mem_flatMap.2 ⟨e', he', ih e' he' hq⟩

def met (rules : RuleSet V) (e : Expr V) : List (Expr V) :=
  e.subterms ++ rules.flatMap fun rule => rule.2.subterms

theorem length_met (rules : RuleSet V) (e : Expr V) :
    (met rules e).length = e.size + rules.size := by
  rw [met, List.length_append, length_subterms]
  congr 1
  induction rules with
  | nil => rfl
  | cons rule rules ih => simp [RuleSet.size, length_subterms, ih]

theorem mem_met_self (rules : RuleSet V) (e : Expr V) : e ∈ met rules e :=
  List.mem_append_left _ (mem_subterms_self e)

theorem covers_met (rules : RuleSet V) (e : Expr V) : Covers rules (· ∈ met rules e) where
  parts q hq p hp := by
    rcases List.mem_append.1 hq with hq | hq
    · exact List.mem_append_left _ (mem_subterms_of_mem_parts hq hp)
    · obtain ⟨rule, hr, hq⟩ := List.mem_flatMap.1 hq
      exact List.mem_append_right _
        (List.mem_flatMap.2 ⟨rule, hr, mem_subterms_of_mem_parts hq hp⟩)
  rule name rule hr :=
    List.mem_append_right _
      (List.mem_flatMap.2 ⟨_, RuleSet.mem_of_resolve hr, mem_subterms_self rule⟩)

/-- If one unit of fuel ends nothing new ahead of a place, then neither does the next. -/
theorem ends_of_ends_succ {P : Expr V → Prop} (covers : Covers rules P) (fuel : ℕ)
    (hfuel : s.ahead.length < fuel)
    (rests : ∀ e k, P e → (run rules (fuel + 1) e (s.read k)).Ends →
      (run rules fuel e (s.read k)).Ends)
    {k : ℕ} (he : P e) (ends : (run rules (fuel + 2) e (s.read k)).Ends) :
    (run rules (fuel + 1) e (s.read k)).Ends := by
  have agrees : Agrees P s (run rules (fuel + 1)) (run rules fuel) := by
    intro e k he hends
    exact (run_succ_of_ends (rests e k he hends)).symm
  have hl : (s.read k).ahead.length < fuel := by
    simp only [Cursor.ahead_read, List.length_drop]
    omega
  have h := step_congr (moves_run (fuel + 1)) agrees covers he (.inr hl) ends
  change (step rules (run rules fuel) fuel e (s.read k)).Ends
  rw [h]
  exact ends

open Classical in
theorem ends_apply {fuel : ℕ} (ends : (run rules fuel e s).Ends) : (apply rules e s).Ends := by
  let m := s.ahead.length + 1
  let P : ℕ → Expr V × ℕ → Prop := fun n x => (run rules (m + n) x.1 (s.read x.2)).Ends
  have grows : ∀ n x, P n x → P (n + 1) x := by
    intro n x h
    change (run rules (m + n + 1) x.1 (s.read x.2)).Ends
    rw [run_succ_of_ends h]
    exact h
  let U := (met rules e).toFinset ×ˢ Finset.range m
  have rests : ∀ n, (∀ x ∈ U, P (n + 1) x → P n x) → ∀ x ∈ U, P (n + 2) x → P (n + 1) x := by
    intro n h x hx hends
    refine ends_of_ends_succ (covers_met rules e) (m + n) (by omega) ?_
      (by simpa [U] using (Finset.mem_product.1 hx).1) hends
    intro e' k he' hends
    obtain ⟨j, hj, hk⟩ := s.exists_read_le k
    rw [hk] at hends ⊢
    exact h (e', j) (by simp [U, m, he']; omega) hends
  have hm : P fuel (e, 0) := by
    change (run rules (m + fuel) e (s.read 0)).Ends
    rw [Cursor.read_zero, run_of_ends (Nat.le_add_left fuel m) ends]
    exact ends
  have hU : (e, 0) ∈ U := by simp [U, m, mem_met_self]
  have hcard : m + U.card ≤ fuelFor rules e s := by
    have hmet := List.toFinset_card_le (met rules e)
    rw [length_met] at hmet
    have hmul := Nat.mul_le_mul_left m hmet
    change m + U.card ≤ m * (e.size + rules.size + 1) + 2
    rw [Finset.card_product, Finset.card_range, Nat.mul_comm _ m, Nat.mul_succ]
    omega
  have hends : (run rules (m + U.card) e (s.read 0)).Ends := saturates U grows rests hU hm
  rw [Cursor.read_zero] at hends
  change (run rules (fuelFor rules e s) e s).Ends
  rw [run_of_ends hcard hends]
  exact hends

theorem apply_eq_run {fuel : ℕ} (ends : (run rules fuel e s).Ends) :
    apply rules e s = run rules fuel e s := by
  have hleft := run_of_ends (Nat.le_max_left (fuelFor rules e s) fuel) (ends_apply ends)
  have hright := run_of_ends (Nat.le_max_right (fuelFor rules e s) fuel) ends
  exact hleft.symm.trans hright

theorem outcome_apply_eq_iff {r : Option (Node V × Cursor)} :
    (apply rules e s).outcome = .ofMatch r ↔ Yields rules e s r := by
  constructor
  · exact yields_of_run
  · intro h
    obtain ⟨fuel, hf⟩ := h.exists_run
    rw [apply_eq_run (fun hu => Outcome.ofMatch_ne_unfinished r (hf.symm.trans hu))]
    exact hf

theorem ends_apply_iff : (apply rules e s).Ends ↔ ∃ r, Yields rules e s r := by
  constructor
  · intro h
    obtain ⟨r, hr⟩ := Outcome.eq_ofMatch h
    exact ⟨r, outcome_apply_eq_iff.1 hr⟩
  · intro h hu
    obtain ⟨r, h⟩ := h
    exact Outcome.ofMatch_ne_unfinished r ((outcome_apply_eq_iff.2 h).symm.trans hu)

/-- Applying an expression at a place matches, fails or does not come to an end exactly as the
rules of inference say, and these give at most one result. -/
theorem outcome_apply_iff_yields (rules : RuleSet V) (e : Expr V) (s : Cursor) :
    (∀ node stop, (e.apply rules s).outcome = .matched node stop ↔
      Yields rules e s (some (node, stop))) ∧
    ((e.apply rules s).outcome = .noMatch ↔ Yields rules e s none) ∧
    ((e.apply rules s).outcome = .unfinished ↔ ¬ ∃ r, Yields rules e s r) ∧
    {r | Yields rules e s r}.Subsingleton := by
  refine ⟨fun node stop => ?_, ?_, ?_, fun r hr r' hr' => hr.unique hr'⟩
  · exact outcome_apply_eq_iff (r := some (node, stop))
  · exact outcome_apply_eq_iff (r := none)
  · rw [← ends_apply_iff]
    exact not_not.symm

end Expr

namespace Grammar

variable {g : Grammar V} {name input : String}

theorem value_parseRule_eq_some_iff {node : Node V} :
    (g.parseRule name input).value = some node ↔
      ∃ rule t, g.rule? name = some rule ∧ t.ahead = [] ∧
        Yields g.rules rule (.start input) (some (node, t)) := by
  unfold parseRule
  cases hr : g.rule? name with
  | none => simp
  | some rule =>
    simp only [Option.some.injEq, exists_and_left, exists_eq_left']
    cases ho : (rule.apply g.rules (.start input)).outcome with
    | matched n t =>
      have hy := Expr.outcome_apply_eq_iff (r := some (n, t)) |>.1 ho
      constructor
      · intro h
        by_cases ht : t.isComplete
        · obtain rfl : n = node := by simpa [Outcome.match?, ht] using h
          exact ⟨t, by simpa [Cursor.isComplete] using ht, hy⟩
        · simp [Outcome.match?, ht] at h
      · intro h
        obtain ⟨t', ht, hy'⟩ := h
        cases hy.unique hy'
        simp [Outcome.match?, Cursor.isComplete, ht]
    | noMatch =>
      have hy := Expr.outcome_apply_eq_iff (r := none) |>.1 ho
      constructor
      · intro h
        simp [Outcome.match?] at h
      · intro h
        obtain ⟨t', ht, hy'⟩ := h
        cases hy.unique hy'
    | unfinished =>
      constructor
      · intro h
        simp [Outcome.match?] at h
      · intro h
        obtain ⟨t', ht, hy'⟩ := h
        exact absurd ho (Expr.ends_apply_iff.2 ⟨_, hy'⟩)

theorem value_parseValue_eq_some_iff {v : V} :
    (g.parseValue input).value = some v ↔
      ∃ rule t, g.rule? g.root = some rule ∧ t.ahead = [] ∧
        Yields g.rules rule (.start input) (some (.value v, t)) := by
  rw [← value_parseRule_eq_some_iff]
  change ((g.parseRule g.root input).value.bind Node.value?) = some v ↔ _
  rw [Option.bind_eq_some_iff]
  constructor
  · intro h
    obtain ⟨n, hn, hv⟩ := h
    cases n with
    | value w =>
      obtain rfl : w = v := by simpa [Node.value?] using hv
      exact hn
    | _ => simp [Node.value?] at hv
  · intro h
    exact ⟨_, h, rfl⟩

end Grammar

end PegGrammar
