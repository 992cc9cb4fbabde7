import PegGrammar.Proofs.Lookup

/-!
Recognition without hooks. What an expression recognizes, that is whether it matches and where the
match stops, is put together from what its parts recognize; no node has a say in it. A hook can only
change it by refusing a match.

So hooks that take every node they are given may be removed, at every depth and in all rules, and
put back, and the same texts are recognized. That a hook fits the nodes of its own body is enough
for this; one that never refuses fits whatever its body. Where all hooks fit, no run tells of a
refusal.
-/

namespace PegGrammar

variable {V : Type} {rules : RuleSet V}

/-- What an expression yields, but for the node. -/
def Recognizes (rules : RuleSet V) (e : Expr V) (s : Cursor) (o : Option Cursor) : Prop :=
  ∃ r, Yields rules e s r ∧ r.map Prod.snd = o

namespace Recognizes

variable {e p body c : Expr V} {ps cs : List (Expr V)} {s t : Cursor} {o : Option Cursor}
  {min : Nat} {max : Option Nat}

theorem some_iff : Recognizes rules e s (some t) ↔ ∃ n, Yields rules e s (some (n, t)) := by
  constructor
  · intro h
    obtain ⟨r, hy, hr⟩ := h
    obtain ⟨⟨n, t'⟩, rfl, rfl⟩ := Option.map_eq_some_iff.1 hr
    exact ⟨n, hy⟩
  · intro h
    obtain ⟨n, hy⟩ := h
    exact ⟨_, hy, rfl⟩

theorem none_iff : Recognizes rules e s none ↔ Yields rules e s none := by
  constructor
  · intro h
    obtain ⟨r, hy, hr⟩ := h
    obtain rfl := Option.map_eq_none_iff.1 hr
    exact hy
  · intro h
    exact ⟨none, h, rfl⟩

theorem sequence (first : Recognizes rules p s (some t))
    (others : Recognizes rules (.sequence ps) t o) : Recognizes rules (.sequence (p :: ps)) s o := by
  obtain ⟨n, hp⟩ := some_iff.1 first
  obtain ⟨r, hps, rfl⟩ := others
  cases r with
  | none => exact none_iff.2 (.sequenceFailsLater hp hps)
  | some result =>
    obtain ⟨m, u⟩ := result
    obtain ⟨ns, rfl⟩ := hps.node_of_sequence
    exact some_iff.2 ⟨_, .sequence hp hps⟩

theorem sequenceFails (first : Recognizes rules p s none) :
    Recognizes rules (.sequence (p :: ps)) s none :=
  none_iff.2 (.sequenceFailsFirst (none_iff.1 first))

theorem repetitionStalls (room : max ≠ some 0) (stalls : Recognizes rules body s (some s)) :
    Recognizes rules (.repetition body min max) s (some s) := by
  obtain ⟨n, hb⟩ := some_iff.1 stalls
  exact some_iff.2 ⟨_, .repetitionStalls room hb⟩

theorem repetition (room : max ≠ some 0) (moves : t ≠ s)
    (first : Recognizes rules body s (some t))
    (others : Recognizes rules (.repetition body (min - 1) (max.map (· - 1))) t o) :
    Recognizes rules (.repetition body min max) s o := by
  obtain ⟨n, hb⟩ := some_iff.1 first
  obtain ⟨r, hbs, rfl⟩ := others
  cases r with
  | none => exact none_iff.2 (.repetitionFailsLater room moves hb hbs)
  | some result =>
    obtain ⟨m, u⟩ := result
    obtain ⟨ns, rfl⟩ := hbs.node_of_repetition
    exact some_iff.2 ⟨_, .repetition room moves hb hbs⟩

theorem alternation (first : Recognizes rules c s (some t)) :
    Recognizes rules (.alternation (c :: cs)) s (some t) := by
  obtain ⟨n, hc⟩ := some_iff.1 first
  exact some_iff.2 ⟨n, .alternation hc⟩

theorem alternationOther (first : Recognizes rules c s none)
    (others : Recognizes rules (.alternation cs) s o) :
    Recognizes rules (.alternation (c :: cs)) s o := by
  obtain ⟨r, hcs, ho⟩ := others
  exact ⟨r, .alternationOther (none_iff.1 first) hcs, ho⟩

theorem reference {name : String} {rule : Expr V} (found : rules.resolve name = some rule)
    (h : Recognizes rules rule s o) : Recognizes rules (.reference name) s o := by
  obtain ⟨r, hy, ho⟩ := h
  exact ⟨r, .reference found hy, ho⟩

theorem hooked {k : Hook V} (takes : ∀ n t, Yields rules body s (some (n, t)) → (k n).isSome)
    (h : Recognizes rules body s o) : Recognizes rules (.hooked body k) s o := by
  obtain ⟨r, hy, rfl⟩ := h
  cases r with
  | none => exact none_iff.2 (.hookedFails hy)
  | some result =>
    obtain ⟨n, t⟩ := result
    obtain ⟨v, hv⟩ := Option.isSome_iff_exists.1 (takes n t hy)
    exact some_iff.2 ⟨_, .hooked hy hv⟩

end Recognizes

namespace Expr

mutual

def unhooked : Expr V → Expr V
  | .literal text => .literal text
  | .charClass cls => .charClass cls
  | .sequence ps => .sequence (unhookedList ps)
  | .repetition body min max => .repetition body.unhooked min max
  | .alternation cs => .alternation (unhookedList cs)
  | .reference name => .reference name
  | .hooked body _ => body.unhooked

def unhookedList : List (Expr V) → List (Expr V)
  | [] => []
  | e :: es => e.unhooked :: unhookedList es

end

theorem unhookedList_eq_map (es : List (Expr V)) : unhookedList es = es.map unhooked := by
  induction es with
  | nil => rfl
  | cons e es ih => simp [unhookedList, ih]

mutual

theorem references_unhooked : (e : Expr V) → e.unhooked.references = e.references
  | .literal _ | .charClass _ | .reference _ => rfl
  | .sequence ps => referencesList_unhookedList ps
  | .alternation cs => referencesList_unhookedList cs
  | .repetition body _ _ => references_unhooked body
  | .hooked body _ => references_unhooked body

theorem referencesList_unhookedList :
    (es : List (Expr V)) → referencesList (unhookedList es) = referencesList es
  | [] => rfl
  | e :: es => by
    rw [unhookedList, referencesList, references_unhooked e, referencesList_unhookedList es,
      referencesList]

end

@[simp] theorem unhooked_withMap (e : Expr V) (f : Node V → V) :
    (e.withMap f).unhooked = e.unhooked := by
  cases e <;> rfl

def EveryHook (Q : Expr V → Hook V → Prop) (e : Expr V) : Prop :=
  ∀ body h, .hooked body h ∈ e.subterms → Q body h

section EveryHook

variable {Q : Expr V → Hook V → Prop} {e : Expr V}

theorem everyHook_iff : e.EveryHook Q ↔
    (∀ body h, e = .hooked body h → Q body h) ∧ ∀ p ∈ e.parts, p.EveryHook Q := by
  unfold EveryHook
  rw [subterms_eq]
  simp only [List.mem_cons, List.mem_flatMap]
  constructor
  · intro h
    exact ⟨fun body k he => h body k (.inl he.symm), fun p hp body k hm => h body k (.inr ⟨p, hp, hm⟩)⟩
  · intro h body k hm
    obtain he | ⟨p, hp, hm⟩ := hm
    · exact h.1 body k he.symm
    · exact h.2 p hp body k hm

theorem everyHook_sequence_cons_iff {p : Expr V} {ps : List (Expr V)} :
    (sequence (p :: ps)).EveryHook Q ↔ p.EveryHook Q ∧ (sequence ps).EveryHook Q := by
  rw [everyHook_iff, everyHook_iff (e := sequence ps)]
  simp [parts]

theorem everyHook_repetition_iff {body : Expr V} {min : Nat} {max : Option Nat} :
    (repetition body min max).EveryHook Q ↔ body.EveryHook Q := by
  rw [everyHook_iff]
  simp [parts]

theorem everyHook_alternation_cons_iff {c : Expr V} {cs : List (Expr V)} :
    (alternation (c :: cs)).EveryHook Q ↔ c.EveryHook Q ∧ (alternation cs).EveryHook Q := by
  rw [everyHook_iff, everyHook_iff (e := alternation cs)]
  simp [parts]

theorem everyHook_hooked_iff {body : Expr V} {k : Hook V} :
    (hooked body k).EveryHook Q ↔ Q body k ∧ body.EveryHook Q := by
  rw [everyHook_iff]
  simp [parts]

theorem EveryHook.imp {Q' : Expr V → Hook V → Prop} (h : e.EveryHook Q)
    (himp : ∀ body k, Q body k → Q' body k) : e.EveryHook Q' :=
  fun body k hm => himp body k (h body k hm)

end EveryHook

def HooksTotal (e : Expr V) : Prop := e.EveryHook fun _ h => ∀ n, (h n).isSome

/-- No hook in the expression refuses a node that its body yields. -/
def HooksFit (rules : RuleSet V) (e : Expr V) : Prop :=
  e.EveryHook fun body h => ∀ s n t, Yields rules body s (some (n, t)) → (h n).isSome

theorem HooksTotal.fit {e : Expr V} (h : e.HooksTotal) (rules : RuleSet V) : e.HooksFit rules :=
  h.imp fun _ _ total _ n _ _ => total n

theorem HooksFit.of_mem_parts {e p : Expr V} (h : e.HooksFit rules) (hp : p ∈ e.parts) :
    p.HooksFit rules := (everyHook_iff.1 h).2 p hp

theorem HooksTotal.withMap {e : Expr V} (h : e.HooksTotal) (f : Node V → V) :
    (e.withMap f).HooksTotal := by
  cases e with
  | hooked body k => exact everyHook_hooked_iff.2 ⟨fun _ => rfl, (everyHook_hooked_iff.1 h).2⟩
  | _ => exact everyHook_hooked_iff.2 ⟨fun _ => rfl, h⟩

def core : Expr V → Expr V
  | .hooked body _ => body.core
  | e => e

/-- An expression without a hook on it, and what is left of it without the hooks inside. -/
inductive Unhooks : Expr V → Expr V → Prop
  | literal {text : String} : Unhooks (.literal text) (.literal text)
  | charClass {cls : CharClass} : Unhooks (.charClass cls) (.charClass cls)
  | sequence {ps qs : List (Expr V)} (h : ps.map unhooked = qs) :
      Unhooks (.sequence ps) (.sequence qs)
  | repetition {body q : Expr V} {min : Nat} {max : Option Nat} (h : body.unhooked = q) :
      Unhooks (.repetition body min max) (.repetition q min max)
  | alternation {cs qs : List (Expr V)} (h : cs.map unhooked = qs) :
      Unhooks (.alternation cs) (.alternation qs)
  | reference {name : String} : Unhooks (.reference name) (.reference name)

namespace Unhooks

variable {e q : Expr V} {qs : List (Expr V)}

theorem sequence_cons (h : Unhooks e (.sequence (q :: qs))) :
    ∃ p ps, e = .sequence (p :: ps) ∧ q = p.unhooked ∧ Unhooks (.sequence ps) (.sequence qs) := by
  cases h with
  | sequence h =>
    obtain ⟨p, ps, rfl, rfl, hps⟩ := List.map_eq_cons_iff.1 h
    exact ⟨p, ps, rfl, rfl, .sequence hps⟩

theorem alternation_cons (h : Unhooks e (.alternation (q :: qs))) :
    ∃ c cs, e = .alternation (c :: cs) ∧ q = c.unhooked ∧
      Unhooks (.alternation cs) (.alternation qs) := by
  cases h with
  | alternation h =>
    obtain ⟨c, cs, rfl, rfl, hcs⟩ := List.map_eq_cons_iff.1 h
    exact ⟨c, cs, rfl, rfl, .alternation hcs⟩

theorem repetition_body {min : Nat} {max : Option Nat} (h : Unhooks e (.repetition q min max)) :
    ∃ body, e = .repetition body min max ∧ q = body.unhooked := by
  cases h with
  | repetition h => exact ⟨_, rfl, h.symm⟩

end Unhooks

theorem unhooks_core : ∀ e : Expr V, Unhooks e.core e.unhooked
  | .literal _ => .literal
  | .charClass _ => .charClass
  | .sequence ps => .sequence (unhookedList_eq_map ps).symm
  | .repetition _ _ _ => .repetition rfl
  | .alternation cs => .alternation (unhookedList_eq_map cs).symm
  | .reference _ => .reference
  | .hooked body _ => unhooks_core body

theorem HooksFit.core : ∀ {e : Expr V}, e.HooksFit rules → e.core.HooksFit rules
  | .hooked body _, h => HooksFit.core (e := body) (everyHook_hooked_iff.1 h).2
  | .literal _, h | .charClass _, h | .sequence _, h | .repetition _ _ _, h | .alternation _, h
  | .reference _, h => h

end Expr

theorem Recognizes.of_core {s : Cursor} {o : Option Cursor} : ∀ {e : Expr V}, e.HooksFit rules →
    Recognizes rules e.core s o → Recognizes rules e s o
  | .hooked body _, fit, h =>
    have ⟨takes, fit⟩ := Expr.everyHook_hooked_iff.1 fit
    .hooked (takes s) (of_core (e := body) fit h)
  | .literal _, _, h | .charClass _, _, h | .sequence _, _, h | .repetition _ _ _, _, h
  | .alternation _, _, h | .reference _, _, h => h

namespace RuleSet

def unhooked (rules : RuleSet V) : RuleSet V := rules.map fun rule => (rule.1, rule.2.unhooked)

def HooksTotal (rules : RuleSet V) : Prop := ∀ rule ∈ rules, rule.2.HooksTotal

def HooksFit (rules : RuleSet V) : Prop := ∀ rule ∈ rules, rule.2.HooksFit rules

theorem HooksTotal.fit (h : rules.HooksTotal) : rules.HooksFit :=
  fun rule hr => (h rule hr).fit rules

theorem HooksFit.explains (fit : rules.HooksFit) :
    Expr.Explains rules (·.HooksFit rules) (· ≠ .declined) where
  parts _ he _ hp := he.of_mem_parts hp
  rule _ _ found := fit _ (mem_of_resolve found)
  entered _ _ _ := nofun
  undefinedRule _ _ _ := nofun
  declined body h s n t he hy refused := by
    have taken := (Expr.everyHook_hooked_iff.1 he).1 s n t hy
    simp [refused] at taken

theorem HooksFit.declined_notMem_trace (fit : rules.HooksFit) {e : Expr V} (he : e.HooksFit rules)
    (s : Cursor) : Event.declined ∉ (e.apply rules s).trace :=
  fun hm => Expr.tells_run fit.explains _ he s _ hm rfl

theorem resolve_unhooked (rules : RuleSet V) (name : String) :
    rules.unhooked.resolve name = (rules.resolve name).map Expr.unhooked := by
  induction rules with
  | nil => rfl
  | cons rule rules ih =>
    obtain ⟨first, e⟩ := rule
    simp only [resolve, unhooked, List.map_cons, List.lookup_cons] at ih ⊢
    split
    · rfl
    · exact ih

theorem names_unhooked (rules : RuleSet V) : rules.unhooked.names = rules.names := by
  simp [names, unhooked]

theorem WellFormed.unhooked {root : String} (wf : rules.WellFormed root) :
    rules.unhooked.WellFormed root where
  names_valid := by
    rw [names_unhooked]
    exact wf.names_valid
  names_distinct := by
    rw [names_unhooked]
    exact wf.names_distinct
  root_defined := by
    rw [names_unhooked]
    exact wf.root_defined
  references_defined rule hrule name hname := by
    obtain ⟨hooked, hmem, rfl⟩ := List.mem_map.1 hrule
    rw [Expr.references_unhooked] at hname
    rw [names_unhooked]
    exact wf.references_defined hooked hmem name hname

end RuleSet

def Grammar.unhooked (g : Grammar V) : Grammar V :=
  ⟨g.root, g.rules.unhooked, g.wellFormed.unhooked⟩

section Unhooked

variable (fit : rules.HooksFit)

include fit

theorem Yields.recognizes_unhooked {e : Expr V} {s : Cursor} {r : Option (Node V × Cursor)}
    (h : Yields rules e s r) (hf : e.HooksFit rules) :
    Recognizes rules.unhooked e.unhooked s (r.map Prod.snd) := by
  induction h with
  | literal starts => exact ⟨_, .literal starts, rfl⟩
  | literalFails differs => exact ⟨_, .literalFails differs, rfl⟩
  | charClass next member => exact ⟨_, .charClass next member, rfl⟩
  | charClassFails refused => exact ⟨_, .charClassFails refused, rfl⟩
  | sequenceEmpty => exact ⟨_, .sequenceEmpty, rfl⟩
  | sequence first others ihf iho | sequenceFailsLater first others ihf iho =>
    obtain ⟨hp, hps⟩ := Expr.everyHook_sequence_cons_iff.1 hf
    exact .sequence (ihf hp) (iho hps)
  | sequenceFailsFirst first ih =>
    exact .sequenceFails (ih (Expr.everyHook_sequence_cons_iff.1 hf).1)
  | repetitionFull => exact ⟨_, .repetitionFull, rfl⟩
  | repetitionFullShort => exact ⟨_, .repetitionFullShort, rfl⟩
  | repetitionEnds room fails ih =>
    have hb := Recognizes.none_iff.1 (ih (Expr.everyHook_repetition_iff.1 hf))
    exact ⟨_, .repetitionEnds room hb, rfl⟩
  | repetitionEndsShort room fails ih =>
    have hb := Recognizes.none_iff.1 (ih (Expr.everyHook_repetition_iff.1 hf))
    exact ⟨_, .repetitionEndsShort room hb, rfl⟩
  | repetitionStalls room stalls ih =>
    exact .repetitionStalls room (ih (Expr.everyHook_repetition_iff.1 hf))
  | repetition room moves first others ihf iho
  | repetitionFailsLater room moves first others ihf iho =>
    have hb := Expr.everyHook_repetition_iff.1 hf
    exact .repetition room moves (ihf hb) (iho (Expr.everyHook_repetition_iff.2 hb))
  | alternationEmpty => exact ⟨_, .alternationEmpty, rfl⟩
  | @alternation c cs s r first ih =>
    exact .alternation (ih (Expr.everyHook_alternation_cons_iff.1 hf).1)
  | alternationOther first others ihf iho =>
    obtain ⟨hc, hcs⟩ := Expr.everyHook_alternation_cons_iff.1 hf
    exact .alternationOther (ihf hc) (iho hcs)
  | reference found runs ih =>
    have hrule := fit _ (RuleSet.mem_of_resolve found)
    exact .reference (by rw [RuleSet.resolve_unhooked, found]; rfl) (ih hrule)
  | referenceFails missing =>
    exact ⟨none, .referenceFails (by rw [RuleSet.resolve_unhooked, missing]; rfl), rfl⟩
  | hooked matches_ taken ih => exact ih (Expr.everyHook_hooked_iff.1 hf).2
  | hookedDeclines matches_ declined ih =>
    have takes := (Expr.everyHook_hooked_iff.1 hf).1 _ _ _ matches_
    simp [declined] at takes
  | hookedFails fails ih => exact ih (Expr.everyHook_hooked_iff.1 hf).2

/-- The converse goes by a derivation without hooks, for whatever expression it comes from; the
hooks that have been removed from a part are put back by `Recognizes.of_core`. -/
theorem Yields.recognizes_of_unhooks {e q : Expr V} {s : Cursor} {r : Option (Node V × Cursor)}
    (h : Yields rules.unhooked q s r) (he : Expr.Unhooks e q) (hf : e.HooksFit rules) :
    Recognizes rules e s (r.map Prod.snd) := by
  have put_back : ∀ {p : Expr V} {s : Cursor} {o : Option Cursor}, p.HooksFit rules →
      (∀ {e}, Expr.Unhooks e p.unhooked → e.HooksFit rules → Recognizes rules e s o) →
      Recognizes rules p s o :=
    fun hp ih => .of_core hp (ih (Expr.unhooks_core _) hp.core)
  induction h generalizing e with
  | literal starts =>
    cases he
    exact ⟨_, .literal starts, rfl⟩
  | literalFails differs =>
    cases he
    exact ⟨_, .literalFails differs, rfl⟩
  | charClass next member =>
    cases he
    exact ⟨_, .charClass next member, rfl⟩
  | charClassFails refused =>
    cases he
    exact ⟨_, .charClassFails refused, rfl⟩
  | sequenceEmpty =>
    cases he with
    | sequence h =>
      obtain rfl := List.map_eq_nil_iff.1 h
      exact ⟨_, .sequenceEmpty, rfl⟩
  | sequence first others ihf iho | sequenceFailsLater first others ihf iho =>
    obtain ⟨p, ps, rfl, rfl, hrest⟩ := he.sequence_cons
    obtain ⟨hp, hps⟩ := Expr.everyHook_sequence_cons_iff.1 hf
    exact .sequence (put_back hp ihf) (iho hrest hps)
  | sequenceFailsFirst first ih =>
    obtain ⟨p, ps, rfl, rfl, -⟩ := he.sequence_cons
    exact .sequenceFails (put_back (Expr.everyHook_sequence_cons_iff.1 hf).1 ih)
  | repetitionFull =>
    cases he
    exact ⟨_, .repetitionFull, rfl⟩
  | repetitionFullShort =>
    cases he
    exact ⟨_, .repetitionFullShort, rfl⟩
  | repetitionEnds room fails ih =>
    obtain ⟨body, rfl, rfl⟩ := he.repetition_body
    have hb := put_back (Expr.everyHook_repetition_iff.1 hf) ih
    exact ⟨_, .repetitionEnds room (Recognizes.none_iff.1 hb), rfl⟩
  | repetitionEndsShort room fails ih =>
    obtain ⟨body, rfl, rfl⟩ := he.repetition_body
    have hb := put_back (Expr.everyHook_repetition_iff.1 hf) ih
    exact ⟨_, .repetitionEndsShort room (Recognizes.none_iff.1 hb), rfl⟩
  | repetitionStalls room stalls ih =>
    obtain ⟨body, rfl, rfl⟩ := he.repetition_body
    exact .repetitionStalls room (put_back (Expr.everyHook_repetition_iff.1 hf) ih)
  | repetition room moves first others ihf iho
  | repetitionFailsLater room moves first others ihf iho =>
    obtain ⟨body, rfl, rfl⟩ := he.repetition_body
    have hb := Expr.everyHook_repetition_iff.1 hf
    exact .repetition room moves (put_back hb ihf)
      (iho (.repetition rfl) (Expr.everyHook_repetition_iff.2 hb))
  | alternationEmpty =>
    cases he with
    | alternation h =>
      obtain rfl := List.map_eq_nil_iff.1 h
      exact ⟨_, .alternationEmpty, rfl⟩
  | alternation first ih =>
    obtain ⟨c, cs, rfl, rfl, -⟩ := he.alternation_cons
    exact .alternation (put_back (Expr.everyHook_alternation_cons_iff.1 hf).1 ih)
  | alternationOther first others ihf iho =>
    obtain ⟨c, cs, rfl, rfl, hrest⟩ := he.alternation_cons
    obtain ⟨hc, hcs⟩ := Expr.everyHook_alternation_cons_iff.1 hf
    exact .alternationOther (put_back hc ihf) (iho hrest hcs)
  | reference found runs ih =>
    cases he
    rw [RuleSet.resolve_unhooked] at found
    obtain ⟨rule, hrule, rfl⟩ := Option.map_eq_some_iff.1 found
    exact .reference hrule (put_back (fit _ (RuleSet.mem_of_resolve hrule)) ih)
  | referenceFails missing =>
    cases he
    rw [RuleSet.resolve_unhooked] at missing
    exact ⟨none, .referenceFails (Option.map_eq_none_iff.1 missing), rfl⟩
  | hooked | hookedDeclines | hookedFails => cases he

theorem recognizes_unhooked_iff {e : Expr V} (hf : e.HooksFit rules) {s : Cursor}
    {o : Option Cursor} :
    Recognizes rules.unhooked e.unhooked s o ↔ Recognizes rules e s o := by
  constructor
  · intro h
    obtain ⟨r, hy, rfl⟩ := h
    exact .of_core hf (hy.recognizes_of_unhooks fit e.unhooks_core hf.core)
  · intro h
    obtain ⟨r, hy, rfl⟩ := h
    exact hy.recognizes_unhooked fit hf

theorem recognizes_iff_of_unhooked_eq {rules' : RuleSet V} (fit' : rules'.HooksFit)
    (same : rules.unhooked = rules'.unhooked) {e e' : Expr V} (hf : e.HooksFit rules)
    (hf' : e'.HooksFit rules') (he : e.unhooked = e'.unhooked) {s : Cursor} {o : Option Cursor} :
    Recognizes rules e s o ↔ Recognizes rules' e' s o := by
  rw [← recognizes_unhooked_iff fit hf, ← recognizes_unhooked_iff fit' hf', same, he]

end Unhooked

namespace Expr

theorem exists_matched_iff {e : Expr V} {s t : Cursor} :
    (∃ node, (e.apply rules s).outcome = .matched node t) ↔ Recognizes rules e s (some t) := by
  rw [Recognizes.some_iff]
  exact exists_congr fun node => outcome_apply_eq_iff (r := some (node, t))

theorem noMatch_iff {e : Expr V} {s : Cursor} :
    (e.apply rules s).outcome = .noMatch ↔ Recognizes rules e s none := by
  rw [Recognizes.none_iff]
  exact outcome_apply_eq_iff (r := none)

theorem ends_apply_iff_recognizes {e : Expr V} {s : Cursor} :
    (e.apply rules s).Ends ↔ ∃ o, Recognizes rules e s o := by
  rw [ends_apply_iff]
  constructor
  · intro h
    obtain ⟨r, hy⟩ := h
    exact ⟨_, r, hy, rfl⟩
  · intro h
    obtain ⟨_, r, hy, -⟩ := h
    exact ⟨r, hy⟩

end Expr

theorem Grammar.isSome_parseRule_iff {g : Grammar V} {name input : String} :
    (g.parseRule name input).value.isSome ↔ ∃ rule t, g.rule? name = some rule ∧ t.ahead = [] ∧
      Recognizes g.rules rule (.start input) (some t) := by
  simp only [Option.isSome_iff_exists, value_parseRule_eq_some_iff, Recognizes.some_iff]
  constructor
  · intro h
    obtain ⟨node, rule, t, found, hend, hy⟩ := h
    exact ⟨rule, t, found, hend, node, hy⟩
  · intro h
    obtain ⟨rule, t, found, hend, node, hy⟩ := h
    exact ⟨node, rule, t, found, hend, hy⟩

theorem Grammar.isSome_parseRule_unhooked {g : Grammar V} (fit : g.rules.HooksFit)
    (name input : String) :
    (g.unhooked.parseRule name input).value.isSome = (g.parseRule name input).value.isSome := by
  have resolved : g.unhooked.rule? name = (g.rule? name).map Expr.unhooked :=
    g.rules.resolve_unhooked name
  rw [Bool.eq_iff_iff, isSome_parseRule_iff, isSome_parseRule_iff, resolved]
  constructor
  · intro h
    obtain ⟨_, t, mapped, hend, hr⟩ := h
    obtain ⟨rule, found, rfl⟩ := Option.map_eq_some_iff.1 mapped
    have hf := fit _ (RuleSet.mem_of_resolve found)
    exact ⟨rule, t, found, hend, (recognizes_unhooked_iff fit hf).1 hr⟩
  · intro h
    obtain ⟨rule, t, found, hend, hr⟩ := h
    have hf := fit _ (RuleSet.mem_of_resolve found)
    exact ⟨rule.unhooked, t, by rw [found]; rfl, hend, (recognizes_unhooked_iff fit hf).2 hr⟩

namespace Grammar

variable {g g' : Grammar V} (fit : g.rules.HooksFit) (fit' : g'.rules.HooksFit)
  (same : g.rules.unhooked = g'.rules.unhooked) {name : String} {rule : Expr V}

include same in
theorem exists_rule?_of_unhooked_eq (found : g.rule? name = some rule) :
    ∃ rule', g'.rule? name = some rule' ∧ rule.unhooked = rule'.unhooked := by
  have h := congrArg (RuleSet.resolve · name) same
  change g.rules.resolve name = some rule at found
  simp only [RuleSet.resolve_unhooked, found, Option.map_some] at h
  obtain ⟨rule', found', hu⟩ := Option.map_eq_some_iff.1 h.symm
  exact ⟨rule', found', hu.symm⟩

include fit fit' same

theorem recognizes_iff_of_rule? {rule' : Expr V} (found : g.rule? name = some rule)
    (found' : g'.rule? name = some rule') {s : Cursor} {o : Option Cursor} :
    Recognizes g.rules rule s o ↔ Recognizes g'.rules rule' s o := by
  obtain ⟨_, found'', hu⟩ := exists_rule?_of_unhooked_eq same found
  cases found'.symm.trans found''
  exact recognizes_iff_of_unhooked_eq fit fit' same (fit _ (RuleSet.mem_of_resolve found))
    (fit' _ (RuleSet.mem_of_resolve found')) hu

theorem isSome_parseRule_of_unhooked_eq {input : String}
    (h : (g.parseRule name input).value.isSome) : (g'.parseRule name input).value.isSome := by
  obtain ⟨rule, t, found, hend, hr⟩ := isSome_parseRule_iff.1 h
  obtain ⟨rule', found', _⟩ := exists_rule?_of_unhooked_eq same found
  have hr' := (recognizes_iff_of_rule? fit fit' same found found').1 hr
  exact isSome_parseRule_iff.2 ⟨rule', t, found', hend, hr'⟩

end Grammar

/-- Hooks that never refuse a node have no part in recognition. Without them an expression comes to
an end, fails, and matches up to some place in the same cases. So other such hooks in a grammar
change neither the texts that a rule accepts nor where its matches stop. -/
theorem apply_unhooked (V : Type) :
    (∀ (rules : RuleSet V) (e : Expr V), rules.HooksTotal → e.HooksTotal → ∀ s : Cursor,
      ((e.apply rules s).Ends ↔ (e.unhooked.apply rules.unhooked s).Ends) ∧
      ((e.apply rules s).outcome = .noMatch ↔
        (e.unhooked.apply rules.unhooked s).outcome = .noMatch) ∧
      ∀ stop, (∃ node, (e.apply rules s).outcome = .matched node stop) ↔
        ∃ node, (e.unhooked.apply rules.unhooked s).outcome = .matched node stop) ∧
    ∀ g g' : Grammar V, g.rules.HooksTotal → g'.rules.HooksTotal →
      g.rules.unhooked = g'.rules.unhooked → ∀ name,
      (∀ input, (g.parseRule name input).value.isSome = (g'.parseRule name input).value.isSome) ∧
      ∀ rule rule', g.rule? name = some rule → g'.rule? name = some rule' → ∀ s stop,
        (∃ node, (rule.apply g.rules s).outcome = .matched node stop) ↔
          ∃ node, (rule'.apply g'.rules s).outcome = .matched node stop := by
  refine ⟨fun rules e total he s => ?_, fun g g' total total' same name => ⟨fun input => ?_, ?_⟩⟩
  · have alike : ∀ {o}, Recognizes rules e s o ↔ Recognizes rules.unhooked e.unhooked s o :=
      (recognizes_unhooked_iff total.fit (he.fit rules)).symm
    refine ⟨?_, ?_, fun stop => ?_⟩
    · simp only [Expr.ends_apply_iff_recognizes, alike]
    · rw [Expr.noMatch_iff, alike, Expr.noMatch_iff]
    · rw [Expr.exists_matched_iff, alike, Expr.exists_matched_iff]
  · rw [Bool.eq_iff_iff]
    exact ⟨Grammar.isSome_parseRule_of_unhooked_eq total.fit total'.fit same,
      Grammar.isSome_parseRule_of_unhooked_eq total'.fit total.fit same.symm⟩
  · intro rule rule' found found' s stop
    rw [Expr.exists_matched_iff, Expr.exists_matched_iff]
    exact Grammar.recognizes_iff_of_rule? total.fit total'.fit same found found'

def letterList (value : Node Nat → Nat) : RuleSet Nat := [
  ("list", (Expr.sequence [.reference "letter",
    .repeated (.sequence [.literal ",", .reference "letter"]) 0]).withMap value),
  ("letter", (Expr.charClass (.range 'a' 'z')).withMap fun _ => 1)]

theorem hooksTotal_letterList (value : Node Nat → Nat) : (letterList value).HooksTotal := by
  have letter : (Expr.charClass (.range 'a' 'z') : Expr Nat).HooksTotal := by
    simp [Expr.HooksTotal, Expr.EveryHook, Expr.subterms]
  have list : (Expr.sequence [.reference "letter",
      .repeated (.sequence [.literal ",", .reference "letter"]) 0] : Expr Nat).HooksTotal := by
    simp [Expr.HooksTotal, Expr.EveryHook, Expr.subterms, Expr.subtermsList, Expr.repeated]
  simpa [RuleSet.HooksTotal, letterList] using ⟨list.withMap value, letter.withMap fun _ => 1⟩

def letterGrammar (value : Node Nat → Nat) : Grammar Nat :=
  ⟨"list", letterList value, RuleSet.fault?_eq_none_iff.1 rfl⟩

theorem apply_unhooked_letterList :
    (letterList fun n => n.children.length).HooksTotal ∧ (letterList fun _ => 0).HooksTotal ∧
    ((letterGrammar fun n => n.children.length).parseRule "list" "a,b").value = some (.value 2) ∧
    ((letterGrammar fun _ => 0).parseRule "list" "a,b").value.isSome ∧
    (∃ node, ((Expr.reference "list").apply (letterList fun _ => 0).unhooked (.start "a,b;")).outcome
      = .matched node ((Cursor.start "a,b;").read 3)) ∧
    ∀ rule, (letterGrammar fun n => n.children.length).rule? "list" = some rule →
      ∃ node, (rule.apply (letterList fun n => n.children.length) (.start "a,b;")).outcome =
        .matched node ((Cursor.start "a,b;").read 3) := by
  have total := hooksTotal_letterList fun n => n.children.length
  have total' := hooksTotal_letterList fun _ => 0
  obtain ⟨unhook, swap⟩ := apply_unhooked Nat
  obtain ⟨accepts, stops⟩ := swap (letterGrammar fun n => n.children.length)
    (letterGrammar fun _ => 0) total total' rfl "list"
  have parsed : ((letterGrammar fun n => n.children.length).parseRule "list" "a,b").value =
      some (.value 2) := by decide +kernel
  have plain : (Expr.reference "list" : Expr Nat).HooksTotal := by
    simp [Expr.HooksTotal, Expr.EveryHook, Expr.subterms]
  have ran : ((Expr.reference "list").apply (letterList fun _ => 0) (.start "a,b;")).outcome =
      .matched (.value 0) ((Cursor.start "a,b;").read 3) := rfl
  refine ⟨total, total', parsed, ?_, ?_, fun rule found => ?_⟩
  · rw [← accepts, parsed]
    rfl
  · exact ((unhook _ _ total' plain (.start "a,b;")).2.2 _).1 ⟨_, ran⟩
  · exact (stops rule _ found rfl (.start "a,b;") _).2 ⟨.value 0, rfl⟩

end PegGrammar
