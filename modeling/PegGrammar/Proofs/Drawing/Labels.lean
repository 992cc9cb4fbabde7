import PegGrammar.Lambda.Grammar
import PegGrammar.Catalog
import PegGrammar.Proofs.Drawing.Visits
import PegGrammar.Proofs.Hooks
import PegGrammar.Proofs.Listing

/-!
Labels of results. A generic node quotes the text it matched, so its label has no line feed whatever
the text was. The labels below a value are up to the hook that made it. If hooks make only values
with labels of one line out of nodes that are of this kind, and no class takes a line feed for a hook
to find, then so is every result; the sample grammars are like this.
-/

namespace PegGrammar

theorem lineFeed_notMem_quoteChar (c : Char) : '\n' ∉ (Text.quoteChar c).toList := by
  simp [Text.quoteChar, lineFeed_notMem_escape]

section Generic

variable {V : Type} [Domain V]

namespace Node

omit [Domain V] in
theorem lineFeed_notMem_groupLabel (n : Node V) : '\n' ∉ n.groupLabel.toList := by
  unfold groupLabel
  split
  · exact lineFeed_notMem_quoteString _
  · simp [lineFeed_notMem_toDigits]

/-- Values in the node have labels of one line, and no character in it is a line feed. -/
inductive Plain : Node V → Prop
  | literal {text : String} : Plain (.literal text)
  | char {c : Char} (h : c ≠ '\n') : Plain (.char c)
  | sequence {ns : List (Node V)} (h : ∀ n ∈ ns, Plain n) : Plain (.sequence ns)
  | repetition {ns : List (Node V)} (h : ∀ n ∈ ns, Plain n) : Plain (.repetition ns)
  | value {v : V} (h : (Domain.snapshot v).OneLined) : Plain (.value v)

theorem snapshots_eq_map (ns : List (Node V)) : snapshots ns = ns.map snapshot := by
  induction ns with
  | nil => rfl
  | cons n ns ih => rw [snapshots, ih, List.map_cons]

namespace Plain

variable {n : Node V}

theorem oneLined_snapshot (h : n.Plain) : n.snapshot.OneLined := by
  induction h with
  | literal => exact Snapshot.oneLined_iff.2 ⟨lineFeed_notMem_quoteString _, nofun⟩
  | char => exact Snapshot.oneLined_iff.2 ⟨lineFeed_notMem_quoteChar _, nofun⟩
  | sequence h ih | repetition h ih =>
    refine Snapshot.oneLined_iff.2 ⟨lineFeed_notMem_groupLabel _, ?_⟩
    simpa [snapshot, snapshots_eq_map] using ih
  | value h => exact h

theorem of_mem_children? {ns : List (Node V)} (h : n.Plain) (hc : n.children? = some ns) :
    ∀ child ∈ ns, child.Plain := by
  cases h with
  | sequence h | repetition h =>
    obtain rfl : _ = ns := Option.some.inj hc
    exact h
  | literal | char | value => cases hc

theorem of_value? {v : V} (h : n.Plain) (hv : n.value? = some v) :
    (Domain.snapshot v).OneLined := by
  cases h with
  | value h =>
    obtain rfl : _ = v := Option.some.inj hv
    exact h
  | literal | char | sequence | repetition => cases hv

theorem sequence_cons {ns : List (Node V)} (h : n.Plain) (hs : (Node.sequence ns).Plain) :
    (Node.sequence (n :: ns)).Plain := by
  cases hs with
  | sequence hs => exact .sequence (List.forall_mem_cons.2 ⟨h, hs⟩)

theorem repetition_cons {ns : List (Node V)} (h : n.Plain) (hs : (Node.repetition ns).Plain) :
    (Node.repetition (n :: ns)).Plain := by
  cases hs with
  | repetition hs => exact .repetition (List.forall_mem_cons.2 ⟨h, hs⟩)

end Plain

end Node

namespace Expr

/-- A class refuses line feeds, and a hook makes values with labels of one line. -/
def IsPlain : Expr V → Prop
  | .charClass cls => cls.accepts '\n' = false
  | .hooked _ k => ∀ n v, n.Plain → k n = some v → (Domain.snapshot v).OneLined
  | _ => True

def KeepsPlain (e : Expr V) : Prop := ∀ p ∈ e.subterms, p.IsPlain

theorem keepsPlain_iff {e : Expr V} :
    e.KeepsPlain ↔ e.IsPlain ∧ ∀ p ∈ e.parts, p.KeepsPlain := by
  unfold KeepsPlain
  rw [subterms_eq, List.forall_mem_cons, List.forall_mem_flatMap]

theorem keepsPlain_sequence_cons_iff {p : Expr V} {ps : List (Expr V)} :
    (sequence (p :: ps)).KeepsPlain ↔ p.KeepsPlain ∧ (sequence ps).KeepsPlain := by
  rw [keepsPlain_iff, keepsPlain_iff (e := sequence ps)]
  simp [parts, IsPlain]

theorem keepsPlain_repetition_iff {body : Expr V} {min : Nat} {max : Option Nat} :
    (repetition body min max).KeepsPlain ↔ body.KeepsPlain := by
  rw [keepsPlain_iff]
  simp [parts, IsPlain]

theorem keepsPlain_alternation_cons_iff {c : Expr V} {cs : List (Expr V)} :
    (alternation (c :: cs)).KeepsPlain ↔ c.KeepsPlain ∧ (alternation cs).KeepsPlain := by
  rw [keepsPlain_iff, keepsPlain_iff (e := alternation cs)]
  simp [parts, IsPlain]

theorem keepsPlain_hooked_iff {body : Expr V} {k : Hook V} :
    (hooked body k).KeepsPlain ↔
      (∀ n v, n.Plain → k n = some v → (Domain.snapshot v).OneLined) ∧ body.KeepsPlain := by
  rw [keepsPlain_iff]
  simp [parts, IsPlain]

end Expr

theorem Yields.plain {rules : RuleSet V} (keep : ∀ rule ∈ rules, rule.2.KeepsPlain) {e : Expr V}
    {s t : Cursor} {n : Node V} (h : Yields rules e s (some (n, t))) (he : e.KeepsPlain) :
    n.Plain := by
  generalize hr : some (n, t) = r at h
  induction h generalizing n t with
  | literal =>
    cases hr
    exact .literal
  | @charClass cls s c next member =>
    cases hr
    refine .char ?_
    rintro rfl
    have refused : cls.accepts '\n' = false := (Expr.keepsPlain_iff.1 he).1
    rw [refused] at member
    cases member
  | sequenceEmpty =>
    cases hr
    exact .sequence nofun
  | sequence first others ihf iho =>
    cases hr
    obtain ⟨hp, hps⟩ := Expr.keepsPlain_sequence_cons_iff.1 he
    exact (ihf hp rfl).sequence_cons (iho hps rfl)
  | repetitionFull | repetitionEnds =>
    cases hr
    exact .repetition nofun
  | repetitionStalls room stalls ih =>
    cases hr
    exact (ih (Expr.keepsPlain_repetition_iff.1 he) rfl).repetition_cons (.repetition nofun)
  | repetition room moves first others ihf iho =>
    cases hr
    have hb := Expr.keepsPlain_repetition_iff.1 he
    exact (ihf hb rfl).repetition_cons (iho (Expr.keepsPlain_repetition_iff.2 hb) rfl)
  | alternation first ih => exact ih (Expr.keepsPlain_alternation_cons_iff.1 he).1 hr
  | alternationOther first others ihf iho =>
    exact iho (Expr.keepsPlain_alternation_cons_iff.1 he).2 hr
  | reference found runs ih => exact ih (keep _ (RuleSet.mem_of_resolve found)) hr
  | hooked matches_ taken ih =>
    cases hr
    obtain ⟨makes, hbody⟩ := Expr.keepsPlain_hooked_iff.1 he
    exact .value (makes _ _ (ih hbody rfl) taken)
  | literalFails | charClassFails | sequenceFailsFirst | sequenceFailsLater | repetitionFullShort
  | repetitionEndsShort | repetitionFailsLater | alternationEmpty | referenceFails
  | hookedDeclines | hookedFails => cases hr

theorem Grammar.oneLined_of_parseRule {g : Grammar V} (keep : ∀ rule ∈ g.rules, rule.2.KeepsPlain)
    {name input : String} {node : Node V} (h : (g.parseRule name input).value = some node) :
    node.snapshot.OneLined := by
  obtain ⟨rule, t, found, -, hy⟩ := value_parseRule_eq_some_iff.1 h
  exact (hy.plain keep (keep _ (RuleSet.mem_of_resolve found))).oneLined_snapshot

end Generic

namespace Numeral

theorem oneLined_snapshot (n : Int64) : (Domain.snapshot n).OneLined := by
  obtain ⟨i, hi⟩ : ∃ i, n.toInt = i := ⟨_, rfl⟩
  refine Snapshot.oneLined_iff.2 ⟨?_, nofun⟩
  rw [display, hi]
  cases i <;> simp [Int.repr, lineFeed_notMem_toDigits]

theorem keepsPlain : ∀ rule ∈ rules, rule.2.KeepsPlain := by
  have digit : (CharClass.range '0' '9').accepts '\n' = false := by decide
  simp [rules, Expr.withHook, Expr.optional, Expr.repeated, Expr.KeepsPlain, Expr.subterms,
    Expr.subtermsList, Expr.IsPlain, oneLined_snapshot, digit]

end Numeral

namespace Lambda

theorem Term.oneLined_snapshot_iff {t : Term} : t.snapshot.OneLined ↔ '\n' ∉ t.display.toList := by
  induction t with
  | zero | truth | falsity => simp [snapshot, Snapshot.oneLined_iff]
  | var name => simp [snapshot, Snapshot.oneLined_iff]
  | succ t ih | pred t ih | isZero t ih => simp [snapshot, Snapshot.oneLined_iff, display, ih]
  | abs param body ih => simp [snapshot, Snapshot.oneLined_iff, display, ih]
  | app left right ihl ihr => simp [snapshot, Snapshot.oneLined_iff, display, ihl, ihr]
  | cond c t e ihc iht ihe => simp [snapshot, Snapshot.oneLined_iff, display, ihc, iht, ihe]

variable {n : Node Term} {t : Term}

theorem oneLined_of_mem_terms? {ts : List Term} (h : n.Plain) (hts : terms? n = some ts)
    (ht : t ∈ ts) : t.snapshot.OneLined := by
  obtain ⟨ns, hns, rfl⟩ := Option.map_eq_some_iff.1 hts
  obtain ⟨m, hm, hv⟩ := List.mem_filterMap.1 ht
  exact (h.of_mem_children? hns m hm).of_value? hv

theorem oneLined_of_lastTerm? (h : n.Plain) (ht : lastTerm? n = some t) :
    t.snapshot.OneLined := by
  obtain ⟨ts, hts, hlast⟩ := Option.bind_eq_some_iff.1 ht
  exact oneLined_of_mem_terms? h hts (List.mem_of_getLast? hlast)

theorem oneLined_of_foldlM {left : Term} {args : List (Node Term)} (hl : left.snapshot.OneLined)
    (hargs : ∀ arg ∈ args, arg.Plain)
    (h : args.foldlM (fun left arg => (lastTerm? arg).map left.app) left = some t) :
    t.snapshot.OneLined := by
  induction args generalizing left with
  | nil =>
    obtain rfl : left = t := by simpa using h
    exact hl
  | cons arg args ih =>
    obtain ⟨harg, hargs⟩ := List.forall_mem_cons.1 hargs
    rw [List.foldlM_cons] at h
    obtain ⟨_, happ, h⟩ := Option.bind_eq_some_iff.1 h
    obtain ⟨right, hright, rfl⟩ := Option.map_eq_some_iff.1 happ
    have hr := oneLined_of_lastTerm? harg hright
    refine ih ?_ hargs h
    rw [Term.oneLined_snapshot_iff] at hl hr ⊢
    simp [Term.display, hl, hr]

theorem oneLined_of_application (h : n.Plain) (ht : application n = some t) :
    t.snapshot.OneLined := by
  obtain ⟨ns, hns, happ⟩ := Option.bind_eq_some_iff.1 ht
  have hmem := h.of_mem_children? hns
  match ns with
  | head :: rest :: others =>
    obtain ⟨args, hargs, happ⟩ := Option.bind_eq_some_iff.1 happ
    obtain ⟨left, hleft, hfold⟩ := Option.bind_eq_some_iff.1 happ
    have hhead : head.Plain := hmem head (by simp)
    have hrest : rest.Plain := hmem rest (by simp)
    exact oneLined_of_foldlM (hhead.of_value? hleft) (hrest.of_mem_children? hargs) hfold

theorem oneLined_of_abstraction (h : n.Plain) (ht : abstraction n = some t) :
    t.snapshot.OneLined := by
  obtain ⟨ts, hts, habs⟩ := Option.bind_eq_some_iff.1 ht
  have hmem := fun u hu => Term.oneLined_snapshot_iff.1 (oneLined_of_mem_terms? (t := u) h hts hu)
  split at habs
  · next name body =>
    cases habs
    have hname := hmem (.var name) (by simp)
    have hbody := hmem body (by simp)
    rw [Term.display] at hname
    rw [Term.oneLined_snapshot_iff]
    simp [Term.display, hname, hbody]
  · cases habs

theorem oneLined_of_conditional (h : n.Plain) (ht : conditional n = some t) :
    t.snapshot.OneLined := by
  obtain ⟨ts, hts, hcond⟩ := Option.bind_eq_some_iff.1 ht
  have hmem := fun u hu => Term.oneLined_snapshot_iff.1 (oneLined_of_mem_terms? (t := u) h hts hu)
  split at hcond
  · next c u e =>
    cases hcond
    have hc := hmem c (by simp)
    have hu := hmem u (by simp)
    have he := hmem e (by simp)
    rw [Term.oneLined_snapshot_iff]
    simp [Term.display, hc, hu, he]
  · cases hcond

theorem oneLined_of_variableTerm (h : n.Plain) (ht : variableTerm n = some t) :
    t.snapshot.OneLined := by
  obtain ⟨c, hc, rfl⟩ := Option.map_eq_some_iff.1 ht
  cases h with
  | @char d hd =>
    obtain rfl : d = c := Option.some.inj hc
    rw [Term.oneLined_snapshot_iff]
    simpa [Term.display] using hd.symm
  | literal | sequence | repetition | value => cases hc

theorem keepsPlain_hook {body : Expr Term} {k : Hook Term} (hbody : body.KeepsPlain)
    (hk : ∀ {n t}, n.Plain → k n = some t → t.snapshot.OneLined) :
    (Expr.hooked body k).KeepsPlain :=
  Expr.keepsPlain_hooked_iff.2 ⟨fun _ _ => hk, hbody⟩

theorem keepsPlain_constant {keyword : String} (ht : t.snapshot.OneLined) :
    ((Expr.literal keyword).withMap fun _ => t).KeepsPlain := by
  refine keepsPlain_hook ?_ fun _ h => ?_
  · simp [Expr.KeepsPlain, Expr.subterms, Expr.IsPlain]
  · rwa [← Option.some.inj h]

theorem keepsPlain_operator {keyword : String} {make : Term → Term}
    (hmake : ∀ u : Term, u.snapshot.OneLined → (make u).snapshot.OneLined) :
    (operator keyword make).KeepsPlain := by
  refine keepsPlain_hook ?_ fun hn h => ?_
  · simp [Expr.KeepsPlain, Expr.subterms, Expr.subtermsList, Expr.IsPlain]
  · obtain ⟨u, hu, rfl⟩ := Option.map_eq_some_iff.1 h
    exact hmake u (oneLined_of_lastTerm? hn hu)

theorem keepsPlain : ∀ rule ∈ rules, rule.2.KeepsPlain := by
  have letter : (CharClass.range 'a' 'z').accepts '\n' = false := by decide
  have letters : (Expr.charClass (.range 'a' 'z') : Expr Term).KeepsPlain := by
    simpa [Expr.KeepsPlain, Expr.subterms, Expr.IsPlain] using letter
  simp only [rules, List.forall_mem_cons]
  refine ⟨?term, keepsPlain_hook letters oneLined_of_variableTerm,
    keepsPlain_hook ?app oneLined_of_application, keepsPlain_hook ?abs oneLined_of_abstraction,
    keepsPlain_hook ?cond oneLined_of_conditional, keepsPlain_constant ?zero,
    keepsPlain_constant ?truth, keepsPlain_constant ?falsity, keepsPlain_operator ?succ,
    keepsPlain_operator ?pred, keepsPlain_operator ?isZero, ?blanks, nofun⟩
  case term | app | abs | cond | blanks =>
    simp [Expr.repeated, Expr.KeepsPlain, Expr.subterms, Expr.subtermsList, Expr.IsPlain]
  case zero | truth | falsity | succ | pred | isZero =>
    simp [Term.oneLined_snapshot_iff, Term.display]

end Lambda

end PegGrammar
