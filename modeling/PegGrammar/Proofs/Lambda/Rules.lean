import PegGrammar.Proofs.Lambda.Texts
import PegGrammar.Proofs.LeftRecursion

/-!
What each rule of the lambda grammar matches. Blanks and arguments are taken for as long as there
are any, so the place where they stop says something about what follows. The rules have no left
recursion, so a rule that has no match fails.
-/

namespace PegGrammar.Lambda

variable {s u : Cursor} {n : Node Term}

theorem yields_none_iff {e : Expr Term} :
    Yields rules e s none ↔ ∀ n u, ¬ Yields rules e s (some (n, u)) := by
  constructor
  · intro h n u h'
    cases h.unique h'
  · intro h
    obtain ⟨r, hr⟩ := RuleSet.exists_yields leftAcyclic e s
    cases r with
    | none => exact hr
    | some m => exact absurd hr (h m.1 m.2)

def blankNode (i : ℕ) : Node Term := .repetition (List.replicate (i + 1) (.literal " "))

theorem blank_some_iff :
    Yields rules blank s (some (n, u)) ↔
      ∃ i, s.Spans (blanks i) u ∧ u.ahead.head? ≠ some ' ' ∧ n = blankNode i := by
  have resolved : rules.resolve "ws" = some (.repetition (.literal " ") 1 none) := rfl
  have reads : ∀ {s t : Cursor} {n : Node Term}, Yields rules (.literal " ") s (some (n, t)) ↔
      ∃ c, c = ' ' ∧ s.Spans [c] t ∧ n = .literal " " := by
    intro s t n
    rw [Yields.literal_some_iff]
    constructor
    · intro h
      obtain ⟨rfl, h⟩ := h
      exact ⟨' ', rfl, h, rfl⟩
    · intro h
      obtain ⟨c, rfl, h, rfl⟩ := h
      exact ⟨rfl, h⟩
  have fails : Yields rules (.literal " ") u none ↔ u.ahead.head? ≠ some ' ' := by
    rw [yields_none_iff]
    constructor
    · intro h hu
      obtain ⟨rest, hrest⟩ := List.head?_eq_some_iff.1 hu
      exact h _ _ (reads.2 ⟨' ', rfl, .of_cons hrest, rfl⟩)
    · intro hu n t h
      obtain ⟨c, rfl, hs, _⟩ := reads.1 h
      exact hu (by simp [hs.ahead_eq])
  rw [Yields.reference_iff resolved, Yields.repetition_some_iff reads (by simp)]
  simp only [fails, List.flatMap_singleton', List.map_const']
  constructor
  · intro h
    obtain ⟨cs, hmin, hcs, hs, hu, rfl⟩ := h
    obtain ⟨i, hi⟩ := Nat.exists_eq_add_of_le' hmin
    rw [List.eq_replicate_of_mem hcs, hi] at hs
    exact ⟨i, hs, hu, by rw [hi, blankNode]⟩
  · intro h
    obtain ⟨i, hs, hu, rfl⟩ := h
    exact ⟨blanks i, by simp, fun c hc => List.eq_of_mem_replicate hc, hs, hu, by simp [blankNode]⟩

theorem var_some_iff :
    Yields rules (.reference "var") s (some (n, u)) ↔
      ∃ c, isLetter c = true ∧ s.Spans [c] u ∧ n = .value (.var (String.singleton c)) := by
  have resolved : rules.resolve "var" = some (.hooked (.charClass (.range 'a' 'z')) variableTerm) :=
    rfl
  rw [Yields.reference_iff resolved, Yields.hooked_some_iff]
  constructor
  · intro h
    obtain ⟨m, v, h, hv, rfl⟩ := h
    cases h with
    | @charClass _ _ c next member =>
      obtain ⟨rest, hrest⟩ := List.head?_eq_some_iff.1 next
      obtain rfl : Term.var (String.singleton c) = v := by simpa [variableTerm, Node.char?] using hv
      exact ⟨c, member, .of_cons hrest, rfl⟩
  · intro h
    obtain ⟨c, hc, hs, rfl⟩ := h
    have next : s.ahead.head? = some c := by simp [hs.ahead_eq]
    refine ⟨.char c, _, ?_, rfl, rfl⟩
    rw [hs.stop_eq]
    exact .charClass next hc

/-! Applications. -/

abbrev argument : Expr Term := .sequence [blank, .reference "var"]

def argumentNode (arg : ℕ × Char) : Node Term :=
  .sequence [blankNode arg.1, .value (.var (String.singleton arg.2))]

theorem argument_some_iff :
    Yields rules argument s (some (n, u)) ↔
      ∃ arg : ℕ × Char, isLetter arg.2 = true ∧ s.Spans (blanks arg.1 ++ [arg.2]) u ∧
        n = argumentNode arg := by
  simp only [Yields.sequence_cons_some_iff, Yields.sequence_nil_some_iff, blank_some_iff,
    var_some_iff]
  constructor
  · intro h
    obtain ⟨_, t, _, ⟨i, hb, _, rfl⟩, ⟨_, _, _, ⟨c, hc, hs, rfl⟩, ⟨⟨⟩, rfl⟩, ⟨⟩⟩, rfl⟩ := h
    exact ⟨(i, c), hc, hb.trans hs, rfl⟩
  · intro h
    obtain ⟨⟨i, c⟩, hc, h, rfl⟩ := h
    obtain ⟨t, hb, hs⟩ := h.split
    have ht : t.ahead.head? ≠ some ' ' := by simpa [hs.ahead_eq] using ne_blank_of_isLetter hc
    exact ⟨_, t, _, ⟨i, hb, ht, rfl⟩, ⟨_, u, _, ⟨c, hc, hs, rfl⟩, ⟨rfl, rfl⟩, rfl⟩, rfl⟩

theorem argument_none_iff : Yields rules argument s none ↔ ¬ StartsArgument s.ahead := by
  rw [yields_none_iff]
  constructor
  · intro h h'
    obtain ⟨i, c, rest, hs, hc⟩ := h'
    have hs : s.ahead = (blanks i ++ [c]) ++ rest := by simpa using hs
    exact h _ _ (argument_some_iff.2 ⟨(i, c), hc, .of_append hs, rfl⟩)
  · intro h n u hn
    obtain ⟨⟨i, c⟩, hc, hs, _⟩ := argument_some_iff.1 hn
    exact h ⟨i, c, u.ahead, by simp [hs.ahead_eq], hc⟩

theorem lastTerm?_argumentNode (arg : ℕ × Char) :
    lastTerm? (argumentNode arg) = some (.var (String.singleton arg.2)) := rfl

theorem application_arguments (left : Term) (args : List (ℕ × Char)) :
    application (.sequence [.value left, .repetition (args.map argumentNode)]) =
      some (left.applyTo args) := by
  change (args.map argumentNode).foldlM _ left = _
  induction args generalizing left with
  | nil => rfl
  | cons arg args ih =>
    simp only [List.map_cons, List.foldlM_cons, lastTerm?_argumentNode]
    exact ih _

theorem app_some_iff :
    Yields rules (.reference "app") s (some (n, u)) ↔
      ∃ c args, isLetter c = true ∧ args ≠ [] ∧ (∀ arg ∈ args, isLetter arg.2 = true) ∧
        s.Spans (c :: spellArguments args) u ∧ ¬ StartsArgument u.ahead ∧
        n = .value ((Term.var (String.singleton c)).applyTo args) := by
  have resolved : rules.resolve "app" = some (.hooked (.sequence [.reference "var",
      .repetition argument 1 none]) application) := rfl
  simp only [Yields.reference_iff resolved, Yields.hooked_some_iff, Yields.sequence_cons_some_iff,
    Yields.sequence_nil_some_iff, var_some_iff, argument_none_iff,
    Yields.repetition_some_iff argument_some_iff (by simp)]
  constructor
  · intro h
    obtain ⟨_, v, ⟨_, t, _, ⟨c, hc, hs, rfl⟩, ⟨_, _, _, ⟨args, hmin, hargs, hsp, hu, rfl⟩,
      ⟨⟨⟩, rfl⟩, ⟨⟩⟩, rfl⟩, hv, rfl⟩ := h
    rw [application_arguments] at hv
    obtain rfl := Option.some.inj hv
    exact ⟨c, args, hc, List.ne_nil_of_length_pos hmin, hargs, hs.trans hsp, hu, rfl⟩
  · intro h
    obtain ⟨c, args, hc, hne, hargs, h, hu, rfl⟩ := h
    obtain ⟨t, hs, hsp⟩ := Cursor.Spans.split_cons h
    have hmin : 1 ≤ args.length := List.length_pos_iff.2 hne
    exact ⟨_, _, ⟨_, t, _, ⟨c, hc, hs, rfl⟩, ⟨_, u, _, ⟨args, hmin, hargs, hsp, hu, rfl⟩,
      ⟨rfl, rfl⟩, rfl⟩, rfl⟩, application_arguments _ _, rfl⟩

theorem app_none_iff {c : Char} (hc : isLetter c = true) (hs : s.Spans [c] u) :
    Yields rules (.reference "app") s none ↔ ¬ StartsArgument u.ahead := by
  rw [yields_none_iff]
  constructor
  · intro h harg
    obtain ⟨args, rest, hu, hargs, hrest⟩ := exists_arguments u.ahead
    cases args with
    | nil =>
      obtain rfl : u.ahead = rest := hu
      exact hrest harg
    | cons arg args =>
      have hsp := hs.trans (.of_append hu)
      refine h _ _ (app_some_iff.2 ⟨c, _, hc, List.cons_ne_nil arg args, hargs, hsp, ?_, rfl⟩)
      simpa [hu] using hrest
  · intro h n t hn
    obtain ⟨d, args, _, hne, hargs, hsp, _⟩ := app_some_iff.1 hn
    obtain ⟨arg, args, rfl⟩ := List.exists_cons_of_ne_nil hne
    have hu := hs.ahead_eq.symm.trans hsp.ahead_eq
    simp only [List.cons_append, List.nil_append, List.cons.injEq, spellArguments_cons,
      List.append_assoc] at hu
    exact h ⟨arg.1, arg.2, _, hu.2, hargs arg List.mem_cons_self⟩

/-! Terms that open with a keyword. -/

theorem constant_some_iff {keyword : String} {t : Term} :
    Yields rules ((Expr.literal keyword).withMap fun _ => t) s (some (n, u)) ↔
      s.Spans keyword.toList u ∧ n = .value t := by
  change Yields rules (.hooked (.literal keyword) fun _ => some t) s (some (n, u)) ↔ _
  rw [Yields.hooked_some_iff]
  constructor
  · intro h
    obtain ⟨m, v, h, hv, rfl⟩ := h
    obtain rfl := Option.some.inj hv
    exact ⟨(Yields.literal_some_iff.1 h).2, rfl⟩
  · intro h
    obtain ⟨h, rfl⟩ := h
    exact ⟨_, _, Yields.literal_some_iff.2 ⟨rfl, h⟩, rfl, rfl⟩

/-- A keyword and all the blanks behind it have been read. -/
def Introduces (keyword : String) (s t : Cursor) : Prop :=
  ∃ i, s.Spans (keyword.toList ++ blanks i) t ∧ t.ahead.head? ≠ some ' '

def Separates (keyword : String) (s t : Cursor) : Prop :=
  ∃ i r, s.Spans (blanks i) r ∧ r.ahead.head? ≠ some ' ' ∧ Introduces keyword r t

theorem Introduces.isPrefix {keyword : String} (h : Introduces keyword s u) :
    keyword.toList <+: s.ahead := by
  obtain ⟨i, hs, _⟩ := h
  exact (List.prefix_append _ _).trans hs.isPrefix

theorem Introduces.length_ahead_lt {keyword : String} (h : Introduces keyword s u) :
    u.ahead.length < s.ahead.length := by
  obtain ⟨i, hs, _⟩ := h
  have hl := hs.length_ahead_eq
  simp only [List.length_append, length_blanks] at hl
  omega

theorem Separates.length_ahead_lt {keyword : String} (h : Separates keyword s u) :
    u.ahead.length < s.ahead.length := by
  obtain ⟨i, r, hb, _, hk⟩ := h
  have hl := hb.length_ahead_eq
  have hlt := hk.length_ahead_lt
  omega

theorem introduction_some_iff {keyword : String} {ps : List (Expr Term)} :
    Yields rules (.sequence (.literal keyword :: blank :: ps)) s (some (n, u)) ↔
      ∃ i t ns, s.Spans (keyword.toList ++ blanks i) t ∧ t.ahead.head? ≠ some ' ' ∧
        Yields rules (.sequence ps) t (some (.sequence ns, u)) ∧
        n = .sequence (.literal keyword :: blankNode i :: ns) := by
  simp only [Yields.sequence_cons_some_iff, Yields.literal_some_iff, blank_some_iff]
  constructor
  · intro h
    obtain ⟨_, _, _, ⟨rfl, hk⟩, ⟨_, t, ns, ⟨i, hb, ht, rfl⟩, h, ⟨⟩⟩, rfl⟩ := h
    exact ⟨i, t, ns, hk.trans hb, ht, h, rfl⟩
  · intro h
    obtain ⟨i, t, ns, hs, ht, h, rfl⟩ := h
    obtain ⟨v, hk, hb⟩ := hs.split
    exact ⟨_, v, _, ⟨rfl, hk⟩, ⟨_, t, ns, ⟨i, hb, ht, rfl⟩, h, rfl⟩, rfl⟩

/-! How a term is chosen. -/

def choices : List String :=
  ["zero", "true", "false", "succ", "pred", "iszero", "if", "app", "var", "abs"]

theorem resolve_term : rules.resolve "term" = some (.alternation (choices.map .reference)) := rfl

theorem choice_of_term (h : Yields rules term s (some (n, u))) :
    ∃ name ∈ choices, Yields rules (.reference name) s (some (n, u)) ∧
      (name = "var" → Yields rules (.reference "app") s none) := by
  rw [Yields.reference_iff resolve_term] at h
  simp only [choices, List.map_cons, List.map_nil, Yields.alternation_cons_some_iff] at h
  rcases h with h | ⟨_, h | ⟨_, h | ⟨_, h | ⟨_, h | ⟨_, h | ⟨_, h | ⟨_, h | ⟨fails, h | ⟨_, h | h⟩⟩⟩⟩⟩⟩⟩⟩⟩
  iterate 8 exact ⟨_, by simp [choices], h, by simp⟩
  · exact ⟨_, by simp [choices], h, fun _ => fails⟩
  · exact ⟨_, by simp [choices], h, by simp⟩
  · cases h.2

theorem term_of_choice {before after : List String} {name : String} {r : Node Term × Cursor}
    (hchoices : choices = before ++ name :: after)
    (fail : ∀ b ∈ before, Yields rules (.reference b) s none)
    (h : Yields rules (.reference name) s (some r)) : Yields rules term s (some r) := by
  rw [Yields.reference_iff resolve_term, hchoices, List.map_append, List.map_cons]
  exact .alternation_append (List.forall_mem_map.2 fail) h

def keywords : List (String × String) :=
  [("zero", "0"), ("true", "true"), ("false", "false"), ("succ", "succ"), ("pred", "pred"),
    ("iszero", "iszero"), ("if", "if")]

theorem keyword_fails {rule : String × String} (hrule : rule ∈ keywords)
    (differs : ¬ rule.2.toList <+: s.ahead) : Yields rules (.reference rule.1) s none := by
  have constant : ∀ {hook : Hook Term}, Yields rules (.hooked (.literal rule.2) hook) s none :=
    .hookedFails (.literalFails differs)
  have sequence : ∀ {ps : List (Expr Term)} {hook : Hook Term},
      Yields rules (.hooked (.sequence (.literal rule.2 :: ps)) hook) s none :=
    .hookedFails (.sequenceFailsFirst (.literalFails differs))
  simp only [keywords, List.mem_cons, List.not_mem_nil, or_false] at hrule
  rcases hrule with rfl | rfl | rfl | rfl | rfl | rfl | rfl
  · exact .reference rfl constant
  · exact .reference rfl constant
  · exact .reference rfl constant
  · exact .reference rfl sequence
  · exact .reference rfl sequence
  · exact .reference rfl sequence
  · exact .reference rfl sequence

theorem keywords_fail (differ : ∀ rule ∈ keywords, ¬ rule.2.toList <+: s.ahead) :
    ∀ name ∈ keywords.map Prod.fst, Yields rules (.reference name) s none := by
  intro name hname
  obtain ⟨rule, hrule, rfl⟩ := List.mem_map.1 hname
  exact keyword_fails hrule (differ rule hrule)

theorem eq_of_prefix_keyword : ∀ rule ∈ keywords, ∀ other ∈ keywords,
    rule.2.toList <+: other.2.toList → rule = other := by decide

/-- A keyword at the front of the text decides which rule a term is read by. -/
theorem term_of_keyword {rule : String × String} {r : Node Term × Cursor}
    (hrule : rule ∈ keywords) (starts : rule.2.toList <+: s.ahead)
    (h : Yields rules (.reference rule.1) s (some r)) : Yields rules term s (some r) := by
  obtain ⟨before, after, hkeywords⟩ := List.append_of_mem hrule
  have hchoices : choices = before.map Prod.fst ++ rule.1 ::
      (after.map Prod.fst ++ ["app", "var", "abs"]) := by
    change keywords.map Prod.fst ++ ["app", "var", "abs"] = _
    simp [hkeywords]
  have hnodup : keywords.Nodup := by decide
  refine term_of_choice hchoices (List.forall_mem_map.2 fun other hother => ?_) h
  have hmem : other ∈ keywords := by simp [hkeywords, hother]
  refine keyword_fails hmem fun hstarts => ?_
  -- two keywords at the front of one text: the shorter one starts the longer one
  obtain rfl : other = rule := by
    rcases List.prefix_or_prefix_of_prefix hstarts starts with hp | hp
    · exact eq_of_prefix_keyword _ hmem _ hrule hp
    · exact (eq_of_prefix_keyword _ hrule _ hmem hp).symm
  rw [hkeywords] at hnodup
  exact (List.nodup_append.1 hnodup).2.2 _ hother _ List.mem_cons_self rfl

theorem value_of_term (h : Yields rules term s (some (n, u))) : ∃ t, n = .value t := by
  obtain ⟨name, hname, h, _⟩ := choice_of_term h
  simp only [choices, List.mem_cons, List.not_mem_nil, or_false] at hname
  rcases hname with rfl | rfl | rfl | rfl | rfl | rfl | rfl | rfl | rfl | rfl
  all_goals
    obtain ⟨_, t, _, _, rfl⟩ := Yields.hooked_some_iff.1 ((Yields.reference_iff rfl).1 h)
    exact ⟨t, rfl⟩

/-! Terms that are made of other terms. -/

theorem operator_some_iff {keyword : String} {make : Term → Term} :
    Yields rules (operator keyword make) s (some (n, u)) ↔
      ∃ v t, Introduces keyword s v ∧ Yields rules term v (some (.value t, u)) ∧
        n = .value (make t) := by
  change Yields rules (.hooked (.sequence [.literal keyword, blank, term])
    fun n => (lastTerm? n).map make) s (some (n, u)) ↔ _
  simp only [Yields.hooked_some_iff, introduction_some_iff]
  constructor
  · intro h
    obtain ⟨_, r, ⟨i, v, _, hs, hv, ht, rfl⟩, hr, rfl⟩ := h
    obtain ⟨m, _, ns, ht, hns, ⟨⟩⟩ := Yields.sequence_cons_some_iff.1 ht
    obtain ⟨⟨⟩, rfl⟩ := Yields.sequence_nil_some_iff.1 hns
    obtain ⟨t, rfl⟩ := value_of_term ht
    obtain rfl : make t = r := Option.some.inj hr
    exact ⟨v, t, ⟨i, hs, hv⟩, ht, rfl⟩
  · intro h
    obtain ⟨v, t, ⟨i, hs, hv⟩, ht, rfl⟩ := h
    exact ⟨_, _, ⟨i, v, _, hs, hv, .sequence ht .sequenceEmpty, rfl⟩, rfl, rfl⟩

theorem abs_some_iff :
    Yields rules (.reference "abs") s (some (n, u)) ↔
      ∃ c v t, isLetter c = true ∧ s.Spans ['λ', c, '.'] v ∧
        Yields rules term v (some (.value t, u)) ∧
        n = .value (.abs (String.singleton c) t) := by
  have resolved : rules.resolve "abs" = some (.hooked (.sequence [.literal "λ", .reference "var",
      .literal ".", term]) abstraction) := rfl
  simp only [Yields.reference_iff resolved, Yields.hooked_some_iff, Yields.sequence_cons_some_iff,
    Yields.sequence_nil_some_iff, Yields.literal_some_iff, var_some_iff]
  constructor
  · intro h
    obtain ⟨_, r, ⟨_, _, _, ⟨rfl, hl⟩, ⟨_, _, _, ⟨c, hc, hp, rfl⟩, ⟨_, v, _, ⟨rfl, hd⟩,
      ⟨_, _, _, ht, ⟨⟨⟩, rfl⟩, ⟨⟩⟩, ⟨⟩⟩, ⟨⟩⟩, rfl⟩, hr, rfl⟩ := h
    obtain ⟨t, rfl⟩ := value_of_term ht
    obtain rfl : Term.abs (String.singleton c) t = r := Option.some.inj hr
    exact ⟨c, v, t, hc, hl.trans (hp.trans hd), ht, rfl⟩
  · intro h
    obtain ⟨c, v, t, hc, h, ht, rfl⟩ := h
    obtain ⟨a, hl, h⟩ := Cursor.Spans.split_cons h
    obtain ⟨b, hp, hd⟩ := Cursor.Spans.split_cons h
    exact ⟨_, _, ⟨_, a, _, ⟨rfl, hl⟩, ⟨_, b, _, ⟨c, hc, hp, rfl⟩, ⟨_, v, _, ⟨rfl, hd⟩,
      ⟨_, u, _, ht, ⟨rfl, rfl⟩, rfl⟩, rfl⟩, rfl⟩, rfl⟩, rfl, rfl⟩

theorem clause_some_iff {keyword : String} {ps : List (Expr Term)} :
    Yields rules (.sequence (term :: blank :: .literal keyword :: blank :: ps)) s (some (n, u)) ↔
      ∃ t b i r j d ns, Yields rules term s (some (.value t, b)) ∧ b.Spans (blanks i) r ∧
        r.ahead.head? ≠ some ' ' ∧ r.Spans (keyword.toList ++ blanks j) d ∧
        d.ahead.head? ≠ some ' ' ∧ Yields rules (.sequence ps) d (some (.sequence ns, u)) ∧
        n = .sequence (.value t :: blankNode i :: .literal keyword :: blankNode j :: ns) := by
  constructor
  · intro h
    obtain ⟨_, b, _, ht, others, rfl⟩ := Yields.sequence_cons_some_iff.1 h
    obtain ⟨_, r, _, hblank, keywords, hns⟩ := Yields.sequence_cons_some_iff.1 others
    obtain ⟨j, d, ns, hd, hd', rest, hks⟩ := introduction_some_iff.1 keywords
    obtain ⟨i, hb, hr, rfl⟩ := blank_some_iff.1 hblank
    obtain ⟨t, rfl⟩ := value_of_term ht
    cases hns
    cases hks
    exact ⟨t, b, i, r, j, d, ns, ht, hb, hr, hd, hd', rest, rfl⟩
  · intro h
    obtain ⟨t, b, i, r, j, d, ns, ht, hb, hr, hd, hd', rest, rfl⟩ := h
    have keywords := introduction_some_iff.2 ⟨j, d, ns, hd, hd', rest, rfl⟩
    exact .sequence ht (.sequence (blank_some_iff.2 ⟨i, hb, hr, rfl⟩) keywords)

theorem if_some_iff :
    Yields rules (.reference "if") s (some (n, u)) ↔
      ∃ a b d f g c t e, Introduces "if" s a ∧ Yields rules term a (some (.value c, b)) ∧
        Separates "then" b d ∧ Yields rules term d (some (.value t, f)) ∧
        Separates "else" f g ∧ Yields rules term g (some (.value e, u)) ∧
        n = .value (.cond c t e) := by
  have resolved : rules.resolve "if" = some (.hooked (.sequence [.literal "if", blank, term, blank,
      .literal "then", blank, term, blank, .literal "else", blank, term]) conditional) := rfl
  simp only [Yields.reference_iff resolved, Yields.hooked_some_iff, introduction_some_iff,
    clause_some_iff]
  constructor
  · intro h
    obtain ⟨_, v, ⟨i, a, _, hi, ha, ⟨c, b, ib, rb, j, d, _, hc, hb, hrb, hd, hd',
      ⟨t, f, kb, rf, k, g, _, ht, hf, hrf, hg, hg', last, ⟨⟩⟩, ⟨⟩⟩, rfl⟩, hv, rfl⟩ := h
    obtain ⟨_, _, _, he, hns, hlast⟩ := Yields.sequence_cons_some_iff.1 last
    obtain ⟨⟨⟩, rfl⟩ := Yields.sequence_nil_some_iff.1 hns
    obtain ⟨e, rfl⟩ := value_of_term he
    cases hlast
    obtain rfl : Term.cond c t e = v := Option.some.inj hv
    exact ⟨a, b, d, f, g, c, t, e, ⟨i, hi, ha⟩, hc, ⟨ib, rb, hb, hrb, j, hd, hd'⟩, ht,
      ⟨kb, rf, hf, hrf, k, hg, hg'⟩, he, rfl⟩
  · intro h
    obtain ⟨a, b, d, f, g, c, t, e, ⟨i, hi, ha⟩, hc, ⟨ib, rb, hb, hrb, j, hd, hd'⟩, ht,
      ⟨kb, rf, hf, hrf, k, hg, hg'⟩, he, rfl⟩ := h
    exact ⟨_, _, ⟨i, a, _, hi, ha, ⟨c, b, ib, rb, j, d, _, hc, hb, hrb, hd, hd',
      ⟨t, f, kb, rf, k, g, _, ht, hf, hrf, hg, hg', .sequence he .sequenceEmpty, rfl⟩, rfl⟩, rfl⟩,
      rfl, rfl⟩

end PegGrammar.Lambda
