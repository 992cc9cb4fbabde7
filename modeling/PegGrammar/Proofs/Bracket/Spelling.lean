import PegGrammar.Proofs.Bracket.Early

/-!
Members spelled out in a bracket. A character with a meaning in brackets stands behind a backslash
there, save for `[`, and save for `&` and `~`, which are operators when two of them stand side by
side. Without a `[` the bracket closes behind the last member, and what it denotes is what the
members denote with those pairs for operators. With a `[` it never closes, since the only bare `]`
is the last.
-/

namespace PegGrammar.CharClass

namespace Place

/-- What the reading from here comes to, given enough fuel. -/
def Reads (p : Place) (r : Except PatternFault (SetExpr × List Char)) : Prop :=
  ∀ fuel, p.ahead.length < fuel → readLevels {} fuel p.outer p.level p.ahead = r

namespace Reads

variable {p q : Place} {r : Except PatternFault (SetExpr × List Char)} {s : SetExpr}
  {rest : List Char} {fault : PatternFault}

theorem of_leads (h : p.Leads q) (hq : q.Reads r) : p.Reads r := by
  intro fuel hfuel
  cases fuel with
  | zero => cases hfuel
  | succ fuel =>
    have hlt : q.ahead.length < p.ahead.length := (Leads.steps h).length_ahead_lt
    rw [readLevels_succ, h]
    exact hq fuel (by omega)

theorem of_reaches (h : Relation.ReflTransGen Leads p q) (hq : q.Reads r) : p.Reads r := by
  induction h using Relation.ReflTransGen.head_induction_on with
  | refl => exact hq
  | head h _ ih => exact .of_leads h ih

theorem of_move_closed (h : p.move = .ok (.closed s rest)) : p.Reads (.ok (s, rest)) := by
  intro fuel hfuel
  cases fuel with
  | zero => cases hfuel
  | succ fuel =>
    rw [readLevels_succ, h]
    rfl

theorem of_move_error (h : p.move = .error fault) : p.Reads (.error fault) := by
  intro fuel hfuel
  cases fuel with
  | zero => cases hfuel
  | succ fuel =>
    rw [readLevels_succ, h]
    rfl

theorem readBracket_eq {cs : List Char} (h : (start cs).Reads r) : readBracket {} cs = r := by
  obtain ⟨mark, -, hcs⟩ := exists_of_start cs
  refine (CharClass.readBracket_eq cs).trans (h _ ?_)
  have hlength := congrArg List.length hcs
  rw [List.length_append] at hlength
  change (Level.start {} cs).2.length < cs.length + 1
  omega

end Reads

end Place

/-! Steps over one character, bare or behind a backslash. -/

theorem charRange_self (d : Char) : charRange {} d d = .ok (.range d d .exact) := by
  simp [charRange, Mode.casing]

theorem readRange_lone {cs rest : List Char} {d c : Char}
    (hatom : readAtom {} cs = .ok (.char d, c :: rest)) (hc : c ≠ '-') :
    readRange {} cs = .ok (.range d d .exact, c :: rest) := by
  rw [readRange, hatom]
  simp [bind, Except.bind, Mode.skip, hc, Atom.item, charRange_self, pure, Except.pure]

/-- A character that is read as an item wherever it stands in a bracket, save where it joins with
the next one. -/
def IsBare (d : Char) : Prop := d ≠ '[' ∧ d ≠ ']' ∧ d ≠ '\\' ∧ d ≠ '-'

theorem nextToken_item {d c : Char} {rest after : List Char} {s : SetExpr} (hd : IsBare d)
    (hinter : d = '&' → c ≠ '&') (hsymmDiff : d = '~' → c ≠ '~')
    (hrange : readRange {} (d :: c :: rest) = .ok (s, after)) :
    nextToken {} (d :: c :: rest) = .ok (.item s, after) := by
  unfold IsBare at hd
  unfold nextToken
  split <;> simp_all [bind, Except.bind, pure, Except.pure]

theorem readAtom_of_ne {d : Char} (hd : d ≠ '\\') (rest : List Char) :
    readAtom {} (d :: rest) = .ok (.char d, rest) := by
  unfold readAtom
  split <;> simp_all

namespace Level

def settled (l : Level) : Level := { l with fresh := false }

theorem settled_add (l : Level) (s : SetExpr) : (l.add s).settled = l.settled.add s := by
  unfold add settled
  split <;> simp_all

theorem start_of_ne {c : Char} (hc : c ≠ '^') (cs : List Char) :
    start {} (c :: cs) = (⟨false, true, none, .empty⟩, c :: cs) := by
  simp [start, Mode.skip, hc]

theorem negated_add (l : Level) (s : SetExpr) : (l.add s).negated = l.negated := by
  unfold add
  split <;> rfl

end Level

theorem takeLeading?_eq_none (l : Level) {d : Char} (hhyphen : d ≠ '-') (hclosing : d ≠ ']')
    (rest : List Char) : l.takeLeading? (d :: rest) = none := by
  unfold Level.takeLeading?
  split <;> simp_all

namespace Place

variable {outer : List Level} {l : Level} {d c : Char} {rest after : List Char}

theorem leads_item {s : SetExpr} {cs : List Char} (hleading : l.takeLeading? cs = none)
    (htoken : nextToken {} cs = .ok (.item s, after)) :
    Leads ⟨outer, l, cs⟩ ⟨outer, l.settled.add s, after⟩ := by
  rw [Leads, move, hleading]
  simp only [htoken]
  rfl

theorem leads_bare (hd : IsBare d) (hc : c ≠ '-') (hinter : d = '&' → c ≠ '&')
    (hsymmDiff : d = '~' → c ≠ '~') :
    Leads ⟨outer, l, d :: c :: rest⟩
      ⟨outer, l.settled.add (.range d d .exact), c :: rest⟩ := by
  exact leads_item (takeLeading?_eq_none l hd.2.2.2 hd.2.1 _)
    (nextToken_item hd hinter hsymmDiff (readRange_lone (readAtom_of_ne hd.2.2.1 _) hc))

theorem leads_escaped (hd : d = ']' ∨ d = '\\' ∨ d = '^' ∨ d = '-') (hc : c ≠ '-') :
    Leads ⟨outer, l, '\\' :: d :: c :: rest⟩
      ⟨outer, l.settled.add (.range d d .exact), c :: rest⟩ := by
  have hatom : readAtom {} ('\\' :: d :: c :: rest) = .ok (.char d, c :: rest) := by
    obtain rfl | rfl | rfl | rfl := hd <;> rfl
  refine leads_item rfl ?_
  change (readRange {} ('\\' :: d :: c :: rest) >>= fun p => pure (Token.item p.1, p.2)) = _
  rw [readRange_lone hatom hc]
  rfl

theorem leads_inter : Leads ⟨outer, l, '&' :: '&' :: rest⟩
    ⟨outer, l.settled.join .inter, rest⟩ := rfl

theorem leads_symmDiff : Leads ⟨outer, l, '~' :: '~' :: rest⟩
    ⟨outer, l.settled.join .symmDiff, rest⟩ := rfl

theorem move_closing (hfresh : l.fresh = false) : move ⟨[], l, ']' :: rest⟩ =
    .ok (.closed (.nested l.body l.negated) rest) := by
  have hleading : l.takeLeading? (']' :: rest) = none := by simp [Level.takeLeading?, hfresh]
  rw [move, hleading]
  change (settled ⟨[], l, ']' :: rest⟩).after rest .closing = _
  rw [after_closing]
  rfl

end Place

/-! The members of a class and what they are read as. -/

def spelled (members : List Char) : List Char := members.flatMap displayMember

def operators : List Char → Nat
  | '&' :: '&' :: ds => operators ds + 1
  | '~' :: '~' :: ds => operators ds + 1
  | _ :: ds => operators ds
  | [] => 0

/-- Whether `c` is in the set that the members denote where such pairs are operators: `left` takes
the members since the last operator to those in front of the next one. -/
def holdsAfter (c : Char) (left : Bool → Bool) (right : Bool) : List Char → Bool
  | '&' :: '&' :: ds => holdsAfter c (SetOp.inter.apply (left right)) false ds
  | '~' :: '~' :: ds => holdsAfter c (SetOp.symmDiff.apply (left right)) false ds
  | d :: ds => holdsAfter c left (right || c == d) ds
  | [] => left right

def denotes (members : List Char) (c : Char) : Bool := holdsAfter c id false members

theorem holdsAfter_eq (c : Char) (left : Bool → Bool) (right : Bool) {members : List Char}
    (h : operators members = 0) : holdsAfter c left right members = left (right || members.contains c) := by
  induction members using operators.induct generalizing right with
  | case1 | case2 => cases h
  | case3 d ds hinter hsymmDiff ih =>
    rw [operators] at h
    · rw [holdsAfter, ih _ h, List.contains_cons, Bool.or_assoc]
      · exact hinter
      · exact hsymmDiff
    · exact hinter
    · exact hsymmDiff
  | case4 => simp [holdsAfter]

theorem denotes_eq_contains {members : List Char} (h : operators members = 0) (c : Char) :
    denotes members c = members.contains c := by
  simp [denotes, holdsAfter_eq c id false h]

theorem operators_eq_zero {members : List Char} (hinter : ¬['&', '&'] <:+: members)
    (hsymmDiff : ¬['~', '~'] <:+: members) : operators members = 0 := by
  induction members using operators.induct with
  | case1 ds => exact absurd ⟨[], ds, rfl⟩ hinter
  | case2 ds => exact absurd ⟨[], ds, rfl⟩ hsymmDiff
  | case3 d ds hinter' hsymmDiff' ih =>
    have hds := ih (fun h => hinter (h.trans (List.suffix_cons d ds).isInfix))
      fun h => hsymmDiff (h.trans (List.suffix_cons d ds).isInfix)
    rw [operators, hds]
    · exact hinter'
    · exact hsymmDiff'
  | case4 => rfl

theorem exists_spelled (ds : List Char) : ∃ c rest, spelled ds ++ [']', '$'] = c :: rest ∧ c ≠ '-' ∧
    c ≠ '^' ∧ ∀ d ∈ ['&', '~'], c = d → ∃ ds', ds = d :: ds' := by
  cases ds with
  | nil => exact ⟨']', ['$'], rfl, by decide, by decide, by simp⟩
  | cons d ds =>
    rw [spelled, List.flatMap_cons, ← spelled, displayMember]
    split
    · exact ⟨'\\', _, rfl, by decide, by decide, by simp⟩
    · next hd =>
      simp only [not_or] at hd
      refine ⟨d, _, rfl, hd.2.2.2, hd.2.2.1, ?_⟩
      rintro _ - rfl
      exact ⟨ds, rfl⟩

namespace Level

def through (l : Level) : List Char → Level
  | '&' :: '&' :: ds => (l.join .inter).through ds
  | '~' :: '~' :: ds => (l.join .symmDiff).through ds
  | d :: ds => (l.add (.range d d .exact)).through ds
  | [] => l

end Level

namespace Place

variable {outer : List Level} {l : Level}

theorem leads_member {d : Char} {ds : List Char} (hd : d ≠ '[')
    (hinter : ∀ ds', d = '&' → ds = '&' :: ds' → False)
    (hsymmDiff : ∀ ds', d = '~' → ds = '~' :: ds' → False) :
    Leads ⟨outer, l, spelled (d :: ds) ++ [']', '$']⟩
      ⟨outer, l.settled.add (.range d d .exact), spelled ds ++ [']', '$']⟩ := by
  obtain ⟨c, rest, hrest, hc, -, hpair⟩ := exists_spelled ds
  rw [spelled, List.flatMap_cons, ← spelled, List.append_assoc, hrest, displayMember]
  split
  · next hescaped => exact leads_escaped hescaped hc
  · next hplain =>
    simp only [not_or] at hplain
    have hbare : IsBare d := ⟨hd, hplain.1, hplain.2.1, hplain.2.2.2⟩
    refine leads_bare hbare hc ?_ ?_
    · rintro rfl rfl
      obtain ⟨ds', hds⟩ := hpair '&' (by simp) rfl
      exact hinter ds' rfl hds
    · rintro rfl rfl
      obtain ⟨ds', hds⟩ := hpair '~' (by simp) rfl
      exact hsymmDiff ds' rfl hds

theorem leads_opening (ds : List Char) (hposix : readPosix? {} (spelled ds ++ [']', '$']) = none) :
    Leads ⟨outer, l, '[' :: (spelled ds ++ [']', '$'])⟩
      ⟨l.settled :: outer, ⟨false, true, none, .empty⟩, spelled ds ++ [']', '$']⟩ := by
  have htoken : nextToken {} ('[' :: (spelled ds ++ [']', '$'])) =
      .ok (.opening, spelled ds ++ [']', '$']) := by
    rw [nextToken, hposix]
  have hstart : Level.start {} (spelled ds ++ [']', '$']) =
      (⟨false, true, none, .empty⟩, spelled ds ++ [']', '$']) := by
    obtain ⟨c, rest, hrest, -, hc, -⟩ := exists_spelled ds
    rw [hrest, Level.start_of_ne hc]
  rw [Leads, move, takeLeading?_eq_none l (by decide) (by decide)]
  simp only [htoken]
  change after _ _ .opening = _
  rw [after, hstart]
  rfl

theorem exists_leads_closing {inner : Level} (rest : List Char) :
    ∃ outer' level, Leads ⟨l :: outer, inner, ']' :: rest⟩ ⟨outer', level, rest⟩ := by
  by_cases hleading : (inner.fresh && inner.items == .empty) = true
  · refine ⟨l :: outer, { inner.add (.range ']' ']' .exact) with fresh := false }, ?_⟩
    rw [Leads, move, Level.takeLeading?, if_pos hleading]
  · refine ⟨outer, l.add (.nested inner.body inner.negated), ?_⟩
    rw [Leads, move, Level.takeLeading?, if_neg hleading]
    change after (settled ⟨l :: outer, inner, ']' :: rest⟩) rest .closing = _
    rw [after_closing]
    rfl

/-- Members without a `[` are read to the closing bracket. -/
theorem reads_spelled {ds : List Char} (hopening : '[' ∉ ds) (hfresh : ds = [] → l.fresh = false) :
    Reads ⟨[], l, spelled ds ++ [']', '$']⟩
      (.ok (.nested (l.settled.through ds).body l.negated, ['$'])) := by
  -- the cases are the tokens: two for the pairs, one for a member, one for the closing bracket
  induction ds using operators.induct generalizing l with
  | case1 ds ih =>
    have hds : '[' ∉ ds := by simpa using hopening
    exact .of_leads leads_inter (ih hds fun _ => rfl)
  | case2 ds ih =>
    have hds : '[' ∉ ds := by simpa using hopening
    exact .of_leads leads_symmDiff (ih hds fun _ => rfl)
  | case3 d ds hinter hsymmDiff ih =>
    obtain ⟨hd, hds⟩ := not_or.1 (List.mem_cons.not.1 hopening)
    have hrest := ih (l := l.settled.add (.range d d .exact)) hds fun _ => fresh_add _ _
    rw [Level.settled_add, Level.negated_add] at hrest
    refine .of_leads (leads_member (Ne.symm hd) hinter hsymmDiff) ?_
    rw [Level.through]
    · exact hrest
    · exact hinter
    · exact hsymmDiff
  | case4 => exact .of_move_closed (move_closing (hfresh rfl))

theorem reads_end : Reads ⟨outer, l, ['$']⟩ (.error .unclosed) := .of_move_error rfl

theorem eq_of_spelled_eq {ds before rest : List Char} {x : Char} (hx : x ≠ '\\')
    (h : spelled ds ++ [']', '$'] = before ++ x :: ']' :: rest) : rest = ['$'] := by
  have closing {ds : List Char} (h : spelled ds ++ [']', '$'] = ']' :: rest) : rest = ['$'] := by
    cases ds with
    | nil => exact (List.cons.inj h).2.symm
    | cons d ds =>
      rw [spelled, List.flatMap_cons, displayMember] at h
      split at h
      · cases h
      · next hd => exact absurd (List.cons.inj h).1 (not_or.1 hd).1
  induction ds generalizing before with
  | nil =>
    have hclosing : [']', '$'] = (before ++ [x]) ++ ']' :: rest := by
      rw [List.append_assoc]
      exact h
    exact eq_of_append_closing hclosing
  | cons d ds ih =>
    rw [spelled, List.flatMap_cons, ← spelled, List.append_assoc, displayMember] at h
    split at h
    · obtain _ | ⟨b, _ | ⟨b', before⟩⟩ := before
      · exact absurd (List.cons.inj h).1.symm hx
      · exact closing (List.cons.inj (List.cons.inj h).2).2
      · exact ih (List.cons.inj (List.cons.inj h).2).2
    · obtain _ | ⟨b, before⟩ := before
      · exact closing (List.cons.inj h).2
      · exact ih (List.cons.inj h).2

theorem eq_of_readPosix? {ds rest : List Char} {s : Except PatternFault SetExpr}
    (h : readPosix? {} (spelled ds ++ [']', '$']) = some (s, rest)) :
    rest = ['$'] ∧ ∃ t, s = .ok t := by
  generalize hcs : spelled ds ++ [']', '$'] = cs at h
  unfold readPosix? at h
  split at h
  · next cs =>
    simp only at h
    obtain ⟨mark, hmark⟩ : ∃ mark,
        cs = mark ++ (if (cs.head? == some '^') = true then cs.tail else cs) := by
      split
      · exact ⟨cs.take 1, by rw [← List.drop_one, List.take_append_drop]⟩
      · exact ⟨[], rfl⟩
    generalize (if (cs.head? == some '^') = true then cs.tail else cs) = body at h hmark
    split at h
    · next rest' hdrop =>
      obtain ⟨edges, -, heq⟩ := Option.map_eq_some_iff.1 h
      simp only [Bool.not_true, Bool.and_false, Bool.false_eq_true, if_false] at heq
      cases heq
      have hsplit := List.takeWhile_append_dropWhile (p := (· != ':')) (l := body)
      rw [hdrop] at hsplit
      have htext : spelled ds ++ [']', '$'] =
          ':' :: (mark ++ body.takeWhile (· != ':')) ++ ':' :: ']' :: rest := by
        rw [hcs, hmark, List.cons_append, List.append_assoc, hsplit]
      exact ⟨eq_of_spelled_eq (by decide) htext, _, rfl⟩
    · cases h
  · cases h

theorem reads_unclosed {ds : List Char} (h : outer ≠ [] ∨ '[' ∈ ds) :
    Reads ⟨outer, l, spelled ds ++ [']', '$']⟩ (.error .unclosed) := by
  induction ds using operators.induct generalizing outer l with
  | case1 ds ih => exact .of_leads leads_inter (ih (by simpa using h))
  | case2 ds ih => exact .of_leads leads_symmDiff (ih (by simpa using h))
  | case3 d ds hinter hsymmDiff ih =>
    by_cases hd : d = '['
    · subst hd
      cases hposix : readPosix? {} (spelled ds ++ [']', '$']) with
      | some p =>
        -- a named class takes the last `]` with its name
        obtain ⟨s, rest⟩ := p
        obtain ⟨rfl, t, rfl⟩ := eq_of_readPosix? hposix
        have htoken : nextToken {} ('[' :: (spelled ds ++ [']', '$'])) = .ok (.item t, ['$']) := by
          rw [nextToken, hposix]
          rfl
        exact .of_leads (leads_item rfl htoken) reads_end
      | none =>
        exact .of_leads (leads_opening ds hposix) (ih (.inl (List.cons_ne_nil _ _)))
    · refine .of_leads (leads_member hd hinter hsymmDiff) (ih (h.imp_right fun hmem => ?_))
      exact (List.mem_cons.1 hmem).resolve_left (Ne.symm hd)
  | case4 =>
    obtain hne | hmem := h
    · obtain ⟨_, _, rfl⟩ := List.exists_cons_of_ne_nil hne
      obtain ⟨_, _, hclosing⟩ := exists_leads_closing ['$']
      exact .of_leads hclosing reads_end
    · cases hmem

end Place

/-! What is read denotes what the members denote, and is no deeper than there are operators. -/

theorem SetExpr.contains_range_self (d c : Char) : (range d d .exact).contains c = (c == d) := by
  simp only [contains, Casing.variants, List.any_cons, List.any_nil, Bool.or_false]
  rw [Bool.eq_iff_iff]
  simp only [Bool.and_eq_true, decide_eq_true_eq, beq_iff_eq]
  constructor
  · rintro ⟨hle, hge⟩
    exact Char.le_antisymm hge hle
  · rintro rfl
    exact ⟨Char.le_refl c, Char.le_refl c⟩

namespace Level

def left (l : Level) (c : Char) (right : Bool) : Bool :=
  match l.pending with
  | none => right
  | some (kind, s) => kind.apply (s.contains c) right

theorem contains_body (l : Level) (c : Char) : l.body.contains c = l.left c (l.items.contains c) := by
  obtain ⟨_, _, _ | _, _⟩ := l <;> rfl

theorem contains_items_add (l : Level) (s : SetExpr) (c : Char) :
    (l.add s).items.contains c = (l.items.contains c || s.contains c) := by
  unfold add
  split
  · next h => simp [h, SetExpr.contains]
  · rfl

theorem left_add (l : Level) (s : SetExpr) : (l.add s).left = l.left := by
  have hpending : (l.add s).pending = l.pending := by
    unfold add
    split <;> rfl
  unfold left
  rw [hpending]

theorem contains_through (l : Level) (ds : List Char) (c : Char) :
    (l.through ds).body.contains c = holdsAfter c (l.left c) (l.items.contains c) ds := by
  induction ds using operators.induct generalizing l with
  | case1 ds ih => rw [through, ih, holdsAfter, ← contains_body]; rfl
  | case2 ds ih => rw [through, ih, holdsAfter, ← contains_body]; rfl
  | case3 d ds hinter hsymmDiff ih =>
    rw [through, ih, contains_items_add, SetExpr.contains_range_self, left_add, holdsAfter]
    all_goals assumption
  | case4 => rw [through, holdsAfter, contains_body]

/-- The items are one union of characters, and there are at most `n` operators in front of them. -/
structure Flat (n : Nat) (l : Level) : Prop where
  items : l.items.itemDepth = 0
  pending : ∀ kind s, l.pending = some (kind, s) → 0 < n ∧ s.depth ≤ n

theorem flat_of_items {l : Level} (hitems : l.items.itemDepth = 0) (hpending : l.pending = none) :
    l.Flat 0 := by
  refine ⟨hitems, fun kind s h => ?_⟩
  rw [hpending] at h
  cases h

theorem Flat.depth_items {n : Nat} {l : Level} (h : l.Flat n) : l.items.depth ≤ 1 := by
  have hitems := h.items
  cases hs : l.items with
  | empty | range | property => simp [SetExpr.depth]
  | nested | op => simp [hs, SetExpr.itemDepth] at hitems
  | union left right =>
    rw [hs] at hitems
    rw [SetExpr.itemDepth] at hitems
    rw [SetExpr.depth]
    omega

theorem Flat.depth_body {n : Nat} {l : Level} (h : l.Flat n) : l.body.depth ≤ n + 1 := by
  have hitems := h.depth_items
  unfold body
  split
  · omega
  · next kind s hpending =>
    obtain ⟨hn, hs⟩ := h.pending kind s hpending
    rw [SetExpr.depth]
    omega

theorem Flat.join {n : Nat} {l : Level} (h : l.Flat n) (kind : SetOp) : (l.join kind).Flat (n + 1) := by
  refine ⟨rfl, fun kind' s hpending => ?_⟩
  cases hpending
  exact ⟨n.succ_pos, h.depth_body⟩

theorem Flat.add {n : Nat} {l : Level} (h : l.Flat n) (d : Char) :
    (l.add (.range d d .exact)).Flat n := by
  unfold Level.add
  split
  · exact ⟨rfl, h.pending⟩
  · exact ⟨by simp [SetExpr.itemDepth, SetExpr.depth, h.items], h.pending⟩

theorem Flat.depth_through {n : Nat} {l : Level} (h : l.Flat n) (ds : List Char) :
    (l.through ds).body.depth ≤ n + operators ds + 1 := by
  induction ds using operators.induct generalizing n l with
  | case1 ds ih =>
    have hds := ih (h.join .inter)
    rw [through, operators]
    omega
  | case2 ds ih =>
    have hds := ih (h.join .symmDiff)
    rw [through, operators]
    omega
  | case3 d ds hinter hsymmDiff ih =>
    rw [through, operators]
    · exact ih (h.add d)
    all_goals assumption
  | case4 => exact h.depth_body

end Level

/-! From the bracket to the class. -/

theorem ofBracket_of_reads {source : List Char} {s : SetExpr} (early : closesEarly source = false)
    (h : (Place.start (source ++ [']', '$'])).Reads (.ok (s, ['$']))) :
    Pattern.maxDepth ≤ s.depth ∧
        ofBracket (String.ofList source) = .error (.malformed (String.ofList source) .tooDeep) ∨
      ∃ made, ofBracket (String.ofList source) = .ok made ∧ ∀ c, made.accepts c = s.contains c := by
  have hdepth : (Pattern.anchored s).depth = s.depth + 1 := by
    simp [Pattern.anchored, Pattern.depth, Pattern.partDepth]
  have hbracket := Pattern.onBracket_of_readBracket h.readBracket_eq
  rw [hdepth] at hbracket
  by_cases hdeep : Pattern.maxDepth ≤ s.depth
  · rw [if_pos (Nat.lt_succ_of_le hdeep)] at hbracket
    exact .inl ⟨hdeep, by simp [ofBracket, early, hbracket]⟩
  · rw [if_neg (by omega)] at hbracket
    refine .inr ⟨.bracket (String.ofList source) (.anchored s), ?_, Pattern.occursIn_anchored s⟩
    simp [ofBracket, early, hbracket]

theorem exists_of_reads {source : List Char} {s : SetExpr} (early : closesEarly source = false)
    (h : (Place.start (source ++ [']', '$'])).Reads (.ok (s, ['$'])))
    (hdepth : s.depth < Pattern.maxDepth) :
    ∃ made, ofBracket (String.ofList source) = .ok made ∧ ∀ c, made.accepts c = s.contains c := by
  obtain ⟨hdeep, -⟩ | made := ofBracket_of_reads early h
  · exact absurd hdepth (Nat.not_lt.2 hdeep)
  · exact made

theorem ofBracket_of_fault {source : List Char} {fault : PatternFault}
    (early : closesEarly source = false)
    (h : (Place.start (source ++ [']', '$'])).Reads (.error fault)) :
    ofBracket (String.ofList source) = .error (.malformed (String.ofList source) fault) := by
  have hbracket := Pattern.onBracket_of_error h.readBracket_eq
  simp [ofBracket, early, hbracket]

theorem closesBefore_spelled (first : Bool) (depth : Nat) (members : List Char) :
    closesBefore first false depth (spelled members) = false := by
  induction members generalizing first depth with
  | nil => rfl
  | cons d ds ih =>
    rw [spelled, List.flatMap_cons, ← spelled, displayMember]
    split
    · simp [closesBefore, ih]
    · next hd =>
      simp only [not_or] at hd
      by_cases hopening : d = '['
      · simp [closesBefore, hopening, ih]
      · simp [closesBefore, hopening, hd, ih]

theorem start_of_ne {c : Char} (hc : c ≠ '^') (cs : List Char) :
    Place.start (c :: cs) = Place.opened false (c :: cs) := by
  rw [Place.start, Level.start_of_ne hc]
  rfl

theorem start_spelled (members : List Char) :
    Place.start (spelled members ++ [']', '$']) =
      Place.opened false (spelled members ++ [']', '$']) := by
  obtain ⟨c, rest, hrest, -, hc, -⟩ := exists_spelled members
  rw [hrest, start_of_ne hc]

theorem closesEarly_spelled (members : List Char) : closesEarly (spelled members) = false := by
  unfold closesEarly
  split
  · next cs hcs =>
    obtain ⟨c, rest, hrest, -, hc, -⟩ := exists_spelled members
    rw [hcs, List.cons_append] at hrest
    exact absurd (List.cons.inj hrest).1.symm hc
  · exact closesBefore_spelled true 0 members

end PegGrammar.CharClass
