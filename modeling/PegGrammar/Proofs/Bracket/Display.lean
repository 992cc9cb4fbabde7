import PegGrammar.Proofs.Bracket.Spelling

/-!
What the displayed text of a class is as a pattern. A list of members reads back unless a `[` is
among them or the operators `&&` and `~~` are made up by them. A range is displayed with its ends as
they are, and reads back if neither is a character with a meaning where it stands, or by chance,
where the three characters are hyphens or `--.`.
-/

namespace PegGrammar.CharClass

def unbracketed (cls : CharClass) : String := String.ofList (cls.display.toList.drop 1).dropLast

def ReadsBack (cls : CharClass) : Prop :=
  ∃ made, ofBracket cls.unbracketed = .ok made ∧ ∀ c, made.accepts c = cls.accepts c

theorem not_readsBack_of_error {cls : CharClass} {e : Error} (h : ofBracket cls.unbracketed = .error e) :
    ¬cls.ReadsBack := by
  rintro ⟨made, hmade, -⟩
  cases h.symm.trans hmade

theorem not_readsBack_of_accepts {cls made : CharClass} {c : Char}
    (hmade : ofBracket cls.unbracketed = .ok made) (hc : made.accepts c ≠ cls.accepts c) :
    ¬cls.ReadsBack := by
  rintro ⟨made', hmade', haccepts⟩
  cases hmade.symm.trans hmade'
  exact hc (haccepts c)

/-! Lists of members. -/

theorem unbracketed_listed (members : List Char) :
    (listed members).unbracketed = String.ofList (spelled members) := by
  simp [unbracketed, display, spelled]

theorem ofBracket_listed_of_opening {members : List Char} (h : '[' ∈ members) :
    ofBracket (listed members).unbracketed =
      .error (.malformed (listed members).unbracketed .unclosed) := by
  rw [unbracketed_listed]
  refine ofBracket_of_fault (closesEarly_spelled members) ?_
  rw [start_spelled]
  exact Place.reads_unclosed (.inr h)

theorem ofBracket_listed {members : List Char} (hne : members ≠ []) (h : '[' ∉ members) :
    247 < operators members ∧ ofBracket (listed members).unbracketed =
        .error (.malformed (listed members).unbracketed .tooDeep) ∨
      ∃ made, ofBracket (listed members).unbracketed = .ok made ∧
        ∀ c, made.accepts c = denotes members c := by
  rw [unbracketed_listed]
  have hreads := Place.reads_spelled (l := ⟨false, true, none, .empty⟩) h fun hnil => absurd hnil hne
  rw [← Place.opened, ← start_spelled] at hreads
  obtain ⟨hdeep, herror⟩ | ⟨made, hmade, haccepts⟩ :=
    ofBracket_of_reads (closesEarly_spelled members) hreads
  · have flat : Level.Flat 0 (Level.settled ⟨false, true, none, .empty⟩) :=
      Level.flat_of_items rfl rfl
    have hdepth := flat.depth_through members
    rw [SetExpr.depth, Pattern.maxDepth] at hdeep
    exact .inl ⟨by omega, herror⟩
  · refine .inr ⟨made, hmade, fun c => ?_⟩
    rw [haccepts, SetExpr.contains, Level.contains_through, Bool.bne_false]
    rfl

theorem readsBack_listed_iff {members : List Char} (hne : members ≠ []) :
    (listed members).ReadsBack ↔
      '[' ∉ members ∧ (∀ c, denotes members c = members.contains c) ∧
        ofBracket (listed members).unbracketed ≠
          .error (.malformed (listed members).unbracketed .tooDeep) := by
  constructor
  · intro reads
    have hmem : '[' ∉ members := fun hmem =>
      not_readsBack_of_error (ofBracket_listed_of_opening hmem) reads
    obtain ⟨-, herror⟩ | ⟨made, hmade, haccepts⟩ := ofBracket_listed hne hmem
    · exact absurd reads (not_readsBack_of_error herror)
    · obtain ⟨made', hmade', hreads⟩ := reads
      cases hmade.symm.trans hmade'
      exact ⟨hmem, fun c => (haccepts c).symm.trans (hreads c), by simp [hmade]⟩
  · rintro ⟨hmem, hdenotes, hdepth⟩
    obtain ⟨-, herror⟩ | ⟨made, hmade, haccepts⟩ := ofBracket_listed hne hmem
    · exact absurd herror hdepth
    · exact ⟨made, hmade, fun c => (haccepts c).trans (hdenotes c)⟩

theorem readsBack_listed_iff_of_operators {members : List Char} (hne : members ≠ [])
    (h : operators members = 0) : (listed members).ReadsBack ↔ '[' ∉ members := by
  rw [readsBack_listed_iff hne]
  refine ⟨And.left, fun hmem => ⟨hmem, denotes_eq_contains h, ?_⟩⟩
  obtain ⟨hdeep, -⟩ | ⟨made, hmade, -⟩ := ofBracket_listed hne hmem
  · omega
  · simp [hmade]

/-! Ranges. -/

section Ranges

variable {first last : Char}

theorem unbracketed_range (first last : Char) :
    (range first last).unbracketed = String.ofList [first, '-', last] := by
  simp [unbracketed, display]

theorem closesEarly_range (h : last ≠ ']') : closesEarly [first, '-', last] = false := by
  by_cases hcaret : first = '^'
  · simp [closesEarly, hcaret, closesBefore, h]
  · by_cases hbracketing : isBracketing first = true
    · obtain rfl | rfl | rfl := isBracketing_iff.1 hbracketing <;>
        simp [closesEarly, closesBefore, h]
    · simp_all [closesEarly, closesBefore, isBracketing]

theorem closesEarly_range_closing (h : first ≠ '[') : closesEarly [first, '-', ']'] = true := by
  by_cases hcaret : first = '^'
  · simp [closesEarly, hcaret, closesBefore]
  · by_cases hbracketing : isBracketing first = true
    · obtain rfl | rfl | rfl := isBracketing_iff.1 hbracketing <;>
        simp [closesEarly, closesBefore] at h ⊢
    · simp_all [closesEarly, closesBefore, isBracketing]

theorem not_readsBack_of_closing (h : first ≠ '[') : ¬(range first ']').ReadsBack := by
  refine not_readsBack_of_error (e := .closesEarly (String.ofList [first, '-', ']'])) ?_
  simp [unbracketed_range, ofBracket, closesEarly_range_closing h]

theorem not_readsBack_of_fault {fault : PatternFault} (hlast : last ≠ ']')
    (h : (Place.start [first, '-', last, ']', '$']).Reads (.error fault)) :
    ¬(range first last).ReadsBack := by
  have hfault := ofBracket_of_fault (closesEarly_range hlast) h
  rw [← unbracketed_range] at hfault
  exact not_readsBack_of_error hfault

/-! The hyphen joins the two ends. -/

theorem readRange_range {cs rest rest' : List Char}
    (hatom : readAtom {} cs = .ok (.char first, '-' :: rest)) (hclosing : rest.head? ≠ some ']')
    (hhyphen : rest.head? ≠ some '-') (hlast : readAtom {} rest = .ok (.char last, rest'))
    (hle : first ≤ last) : readRange {} cs = .ok (.range first last .exact, rest') := by
  have hlt : ¬last < first := Char.not_lt.2 hle
  rw [readRange, hatom]
  simp [bind, Except.bind, Mode.skip, Mode.peek, hclosing, hhyphen, hlast, Atom.range, charRange, hlt,
    Mode.casing, pure, Except.pure]

theorem Place.leads_range {l : Level} {cs after : List Char} (hfirst : IsBare first)
    (hclosing : cs.head? ≠ some ']') (hhyphen : cs.head? ≠ some '-')
    (hlast : readAtom {} cs = .ok (.char last, after)) (h : first ≤ last) :
    Leads ⟨[], l, first :: '-' :: cs⟩ ⟨[], l.settled.add (.range first last .exact), after⟩ := by
  have hleading := takeLeading?_eq_none l hfirst.2.2.2 hfirst.2.1 ('-' :: cs)
  exact leads_item hleading (nextToken_item hfirst (fun _ => by decide) (fun _ => by decide)
    (readRange_range (readAtom_of_ne hfirst.2.2.1 _) hclosing hhyphen hlast h))

theorem readsBack_range_of_bare (hfirst : IsBare first) (hcaret : first ≠ '^')
    (hlast : last ∉ [']', '\\', '-']) (h : first ≤ last) : (range first last).ReadsBack := by
  simp only [List.mem_cons, List.not_mem_nil, or_false, not_or] at hlast
  have hreads : (Place.start [first, '-', last, ']', '$']).Reads
      (.ok (.nested (.range first last .exact) false, ['$'])) := by
    rw [start_of_ne hcaret]
    exact .of_leads (Place.leads_range hfirst (by simp [hlast]) (by simp [hlast])
      (readAtom_of_ne hlast.2.1 _) h)
      (.of_move_closed (Place.move_closing rfl))
  obtain ⟨made, hmade, haccepts⟩ :=
    exists_of_reads (closesEarly_range hlast.1) hreads (by simp [SetExpr.depth, Pattern.maxDepth])
  refine ⟨made, by rw [unbracketed_range, hmade], fun c => ?_⟩
  rw [haccepts]
  simp [SetExpr.contains, Casing.variants, accepts]

theorem not_readsBack_of_backslash (hfirst : IsBare first) (hcaret : first ≠ '^')
    (h : first ≤ '\\') : ¬(range first '\\').ReadsBack := by
  have hreads : (Place.start [first, '-', '\\', ']', '$']).Reads (.error .unclosed) := by
    rw [start_of_ne hcaret]
    exact .of_leads (Place.leads_range hfirst (by decide) (by decide) rfl
      (Char.le_trans h (by decide : '\\' ≤ ']'))) Place.reads_end
  exact not_readsBack_of_fault (by decide) hreads

theorem not_readsBack_of_hyphen (hfirst : IsBare first) (hcaret : first ≠ '^') (h : first ≤ '-') :
    ¬(range first '-').ReadsBack := by
  have hrange : readRange {} [first, '-', '-', ']', '$'] =
      .ok (.range first first .exact, ['-', '-', ']', '$']) := by
    rw [readRange, readAtom_of_ne hfirst.2.2.1]
    simp [bind, Except.bind, Mode.skip, Mode.peek, Atom.item, charRange_self, pure, Except.pure]
  have hfirstItem : Place.Leads (Place.opened false [first, '-', '-', ']', '$'])
      ⟨[], ⟨false, false, none, .range first first .exact⟩, ['-', '-', ']', '$']⟩ :=
    Place.leads_item (takeLeading?_eq_none _ hfirst.2.2.2 hfirst.2.1 _)
      (nextToken_item hfirst (fun _ => by decide) (fun _ => by decide) hrange)
  have hoperator : Place.Leads
      ⟨[], ⟨false, false, none, .range first first .exact⟩, ['-', '-', ']', '$']⟩
      ⟨[], ⟨false, false, some (.diff, .range first first .exact), .empty⟩, [']', '$']⟩ := rfl
  have hreads : (Place.start [first, '-', '-', ']', '$']).Reads
      (.ok (.nested (.op .diff (.range first first .exact) .empty) false, ['$'])) := by
    rw [start_of_ne hcaret]
    exact .of_leads hfirstItem (.of_leads hoperator (.of_move_closed (Place.move_closing rfl)))
  obtain ⟨made, hmade, haccepts⟩ :=
    exists_of_reads (closesEarly_range (by decide)) hreads (by simp [SetExpr.depth, Pattern.maxDepth])
  rw [← unbracketed_range] at hmade
  refine not_readsBack_of_accepts (c := '-') hmade ?_
  have hother : made.accepts '-' = false := by
    rw [haccepts, SetExpr.contains, SetExpr.contains, SetExpr.contains_range_self]
    simp [SetOp.apply, SetExpr.contains, Ne.symm hfirst.2.2.2]
  rw [hother]
  simpa [accepts] using h

/-! The first end takes the hyphen away from the last. -/

theorem Place.reads_last {l : Level} (hlast : IsBare last) : Reads ⟨[], l, [last, ']', '$']⟩
    (.ok (.nested (l.settled.add (.range last last .exact)).body l.negated, ['$'])) := by
  have hmove : move ⟨[], l.settled.add (.range last last .exact), [']', '$']⟩ =
      .ok (.closed (.nested (l.settled.add (.range last last .exact)).body l.negated) ['$']) := by
    rw [move_closing (fresh_add _ _), Level.negated_add]
    rfl
  exact .of_leads (leads_bare hlast (by decide) (fun _ => by decide) (fun _ => by decide))
    (.of_move_closed hmove)

theorem exists_of_last {negated fresh : Bool} {items : SetExpr} (hlast : IsBare last)
    (hitems : items.itemDepth = 0)
    (hreaches : Relation.ReflTransGen Place.Leads (Place.start [first, '-', last, ']', '$'])
      ⟨[], ⟨negated, fresh, none, items⟩, [last, ']', '$']⟩) :
    ∃ made, ofBracket (range first last).unbracketed = .ok made ∧
      ∀ c, made.accepts c = ((items.contains c || c == last) != negated) := by
  have flat : Level.Flat 0 (Level.settled ⟨negated, fresh, none, items⟩) :=
    Level.flat_of_items hitems rfl
  have hdepth := (flat.add last).depth_body
  obtain ⟨made, hmade, haccepts⟩ := exists_of_reads (closesEarly_range hlast.2.1)
    (.of_reaches hreaches (Place.reads_last hlast))
    (by rw [SetExpr.depth, Pattern.maxDepth]; omega)
  refine ⟨made, by rw [unbracketed_range, hmade], fun c => ?_⟩
  rw [haccepts, SetExpr.contains, Level.contains_body, Level.left_add, Level.contains_items_add,
    SetExpr.contains_range_self]
  rfl

theorem not_readsBack_of_last {negated fresh : Bool} {items : SetExpr} (hlast : IsBare last)
    (hitems : items.itemDepth = 0)
    (hreaches : Relation.ReflTransGen Place.Leads (Place.start [first, '-', last, ']', '$'])
      ⟨[], ⟨negated, fresh, none, items⟩, [last, ']', '$']⟩) {c : Char}
    (hc : (range first last).accepts c = !((items.contains c || c == last) != negated)) :
    ¬(range first last).ReadsBack := by
  obtain ⟨made, hmade, haccepts⟩ := exists_of_last hlast hitems hreaches
  refine not_readsBack_of_accepts (c := c) hmade ?_
  rw [haccepts, hc]
  simp

theorem not_readsBack_of_opening (hlast : IsBare last) : ¬(range '[' last).ReadsBack := by
  have hopening : Place.Leads (Place.start ['[', '-', last, ']', '$'])
      ⟨[⟨false, false, none, .empty⟩], ⟨false, true, none, .empty⟩, ['-', last, ']', '$']⟩ := rfl
  have hhyphen : Place.Leads
      ⟨[⟨false, false, none, .empty⟩], ⟨false, true, none, .empty⟩, ['-', last, ']', '$']⟩
      ⟨[⟨false, false, none, .empty⟩], ⟨false, true, none, .range '-' '-' .exact⟩,
        [last, ']', '$']⟩ := rfl
  obtain ⟨_, _, hclosing⟩ := Place.exists_leads_closing ['$']
  refine not_readsBack_of_fault hlast.2.1 (.of_leads hopening (.of_leads hhyphen (.of_leads ?_
    (.of_leads hclosing Place.reads_end))))
  exact Place.leads_bare hlast (by decide) (fun _ => by decide) (fun _ => by decide)

theorem nextToken_hyphen {c : Char} {rest : List Char} (hc : c ≠ '-') :
    nextToken {} ('-' :: c :: rest) = .ok (.item (.range '-' '-' .exact), c :: rest) := by
  have hrange : readRange {} ('-' :: c :: rest) = .ok (.range '-' '-' .exact, c :: rest) :=
    readRange_lone rfl hc
  unfold nextToken
  split <;> simp_all [bind, Except.bind, pure, Except.pure]

theorem not_readsBack_of_leading (hfirst : first ∈ [']', '\\', '^']) (hlast : IsBare last)
    (h : first ≤ last) : ¬(range first last).ReadsBack := by
  simp only [List.mem_cons, List.not_mem_nil, or_false] at hfirst
  obtain rfl | rfl | rfl := hfirst
  · have hclosing : Place.Leads (Place.start [']', '-', last, ']', '$'])
        ⟨[], ⟨false, false, none, .range ']' ']' .exact⟩, ['-', last, ']', '$']⟩ := rfl
    have hhyphen : Place.Leads
        ⟨[], ⟨false, false, none, .range ']' ']' .exact⟩, ['-', last, ']', '$']⟩
        ⟨[], ⟨false, false, none, .union (.range ']' ']' .exact) (.range '-' '-' .exact)⟩,
          [last, ']', '$']⟩ :=
      Place.leads_item rfl (nextToken_hyphen hlast.2.2.2)
    exact not_readsBack_of_last (c := '-') hlast rfl (.head hclosing (.single hhyphen)) rfl
  · have hescaped : Place.Leads (Place.start ['\\', '-', last, ']', '$'])
        ⟨[], ⟨false, false, none, .range '-' '-' .exact⟩, [last, ']', '$']⟩ :=
      Place.leads_escaped (by simp) hlast.2.2.2
    exact not_readsBack_of_last (c := '-') hlast rfl (.single hescaped) rfl
  · have hhyphen : Place.Leads (Place.start ['^', '-', last, ']', '$'])
        ⟨[], ⟨true, true, none, .range '-' '-' .exact⟩, [last, ']', '$']⟩ := rfl
    have hother : ('A' == last) = false := by
      refine beq_eq_false_iff_ne.2 ?_
      rintro rfl
      exact absurd h (by decide)
    refine not_readsBack_of_last (c := 'A') hlast rfl (.single hhyphen) ?_
    rw [hother]
    rfl

theorem not_readsBack_of_special (hfirst : first ∈ ['[', ']', '\\', '^']) (h : first ≤ last) :
    ¬(range first last).ReadsBack := by
  by_cases hlast : IsBare last
  · obtain rfl | hfirst := List.mem_cons.1 hfirst
    · exact not_readsBack_of_opening hlast
    · exact not_readsBack_of_leading hfirst hlast h
  · simp only [IsBare, ne_eq, not_and_or, not_not] at hlast
    simp only [List.mem_cons, List.not_mem_nil, or_false] at hfirst
    obtain rfl | rfl | rfl | rfl := hlast
    · obtain rfl | rfl | rfl | rfl := hfirst
      · exact not_readsBack_of_error (e := .malformed "[-[" .unclosed) rfl
      all_goals exact absurd h (by decide)
    · by_cases hopening : first = '['
      · subst hopening
        have hmade : ofBracket (range '[' ']').unbracketed = .ok (.bracket "[-]" (.anchored
          (.nested (.nested (.range '-' '-' .exact) false) false))) := rfl
        exact not_readsBack_of_accepts (c := '-') hmade (by decide)
      · exact not_readsBack_of_closing hopening
    · obtain rfl | rfl | rfl | rfl := hfirst
      · exact not_readsBack_of_error (e := .malformed "[-\\" .unclosed) rfl
      · exact absurd h (by decide)
      · exact not_readsBack_of_error (e := .malformed "\\-\\" .unclosed) rfl
      · exact absurd h (by decide)
    · obtain rfl | rfl | rfl | rfl := hfirst <;> exact absurd h (by decide)

theorem le_and_le_iff {d e c : Char} (h : e.toNat = d.toNat + 1) :
    d ≤ c ∧ c ≤ e ↔ c = d ∨ c = e := by
  rw [← Char.toNat_inj, ← Char.toNat_inj]
  change d.toNat ≤ c.toNat ∧ c.toNat ≤ e.toNat ↔ _
  omega

theorem readsBack_range_hyphen_iff (h : '-' ≤ last) :
    (range '-' last).ReadsBack ↔ last = '-' ∨ last = '.' := by
  by_cases hlast : IsBare last
  · have hfirst : Place.Leads (Place.start ['-', '-', last, ']', '$'])
        ⟨[], ⟨false, true, none, .range '-' '-' .exact⟩, ['-', last, ']', '$']⟩ := rfl
    have hsecond : Place.Leads ⟨[], ⟨false, true, none, .range '-' '-' .exact⟩, ['-', last, ']', '$']⟩
        ⟨[], ⟨false, true, none, .union (.range '-' '-' .exact) (.range '-' '-' .exact)⟩,
          [last, ']', '$']⟩ := rfl
    have hreaches := Relation.ReflTransGen.head hfirst (.single hsecond)
    constructor
    · intro reads
      by_contra hdot
      have hother : ('.' == last) = false := beq_eq_false_iff_ne.2 fun heq => hdot (.inr heq.symm)
      have hle : '.' ≤ last := by
        have horder : '-'.toNat ≤ last.toNat := h
        have hhyphen : last.toNat ≠ '-'.toNat := fun heq => hlast.2.2.2 (Char.toNat_inj.1 heq)
        exact (by omega : '-'.toNat + 1 ≤ last.toNat)
      refine not_readsBack_of_last (c := '.') hlast rfl hreaches ?_ reads
      have hrange : (range '-' last).accepts '.' = true := by simp [accepts, hle]
      rw [hother, hrange]
      rfl
    · rintro (rfl | rfl)
      · exact absurd rfl hlast.2.2.2
      · obtain ⟨made, hmade, haccepts⟩ := exists_of_last hlast rfl hreaches
        refine ⟨made, hmade, fun c => ?_⟩
        rw [haccepts, SetExpr.contains, SetExpr.contains_range_self, Bool.or_self, Bool.bne_false,
          Bool.eq_iff_iff]
        simpa [accepts] using (le_and_le_iff (d := '-') (e := '.') rfl).symm
  · simp only [IsBare, ne_eq, not_and_or, not_not] at hlast
    obtain rfl | rfl | rfl | rfl := hlast
    · exact iff_of_false (not_readsBack_of_error (e := .malformed "--[" .unclosed) rfl) (by decide)
    · exact iff_of_false (not_readsBack_of_closing (by decide)) (by decide)
    · exact iff_of_false (not_readsBack_of_error (e := .malformed "--\\" .unclosed) rfl) (by decide)
    · let s : SetExpr := .nested (.union (.union (.range '-' '-' .exact) (.range '-' '-' .exact))
        (.range '-' '-' .exact)) false
      refine iff_of_true ⟨.bracket "---" (.anchored s), rfl, fun c => ?_⟩ (.inl rfl)
      refine (Pattern.occursIn_anchored s c).trans ?_
      simp [s, SetExpr.contains, Casing.variants, accepts]

theorem readsBack_range_iff (h : first ≤ last) :
    (range first last).ReadsBack ↔ first = '-' ∧ (last = '-' ∨ last = '.') ∨
      first ∉ ['[', ']', '\\', '^', '-'] ∧ last ∉ [']', '\\', '-'] := by
  by_cases hhyphen : first = '-'
  · subst hhyphen
    simp [readsBack_range_hyphen_iff h]
  by_cases hspecial : first ∈ ['[', ']', '\\', '^']
  · refine iff_of_false (not_readsBack_of_special hspecial h) ?_
    rintro (⟨rfl, -⟩ | ⟨hfirst, -⟩)
    · exact hhyphen rfl
    · exact hfirst (List.mem_append_left ['-'] hspecial)
  have hfirst : first ∉ ['[', ']', '\\', '^', '-'] := by simpa [hhyphen] using hspecial
  obtain ⟨hbare, hcaret⟩ : IsBare first ∧ first ≠ '^' := by
    simp only [List.mem_cons, List.not_mem_nil, or_false, not_or] at hspecial
    exact ⟨⟨hspecial.1, hspecial.2.1, hspecial.2.2.1, hhyphen⟩, hspecial.2.2.2⟩
  by_cases hlast : last ∈ [']', '\\', '-']
  · have hnot : ¬(range first last).ReadsBack := by
      simp only [List.mem_cons, List.not_mem_nil, or_false] at hlast
      obtain rfl | rfl | rfl := hlast
      · exact not_readsBack_of_closing hbare.1
      · exact not_readsBack_of_backslash hbare hcaret h
      · exact not_readsBack_of_hyphen hbare hcaret h
    simp [hnot, hhyphen, hlast]
  · exact iff_of_true (readsBack_range_of_bare hbare hcaret hlast h) (.inr ⟨hfirst, hlast⟩)

end Ranges

/-- What a class displays is a pattern for that class if it is a range whose ends have no meaning
where they stand, or a list of members without `[`, `&&` and `~~`. With a `[` the list is refused,
and otherwise the pairs are read as operators, so that it depends on what they make of the members. -/
theorem readsBack_display {first last : Char} (ordered : first ≤ last) {text : String}
    (nonempty : text ≠ "") :
    ((range first last).ReadsBack ↔ first = '-' ∧ (last = '-' ∨ last = '.') ∨
      first ∉ ['[', ']', '\\', '^', '-'] ∧ last ∉ [']', '\\', '-']) ∧
    ((oneOf text).ReadsBack ↔
      '[' ∉ text.toList ∧ (∀ c, denotes text.toList c = text.toList.contains c) ∧
        ofBracket (oneOf text).unbracketed ≠
          .error (.malformed (oneOf text).unbracketed .tooDeep)) ∧
    (¬['&', '&'] <:+: text.toList → ¬['~', '~'] <:+: text.toList →
      ((oneOf text).ReadsBack ↔ '[' ∉ text.toList)) ∧
    ('[' ∈ text.toList → ofBracket (oneOf text).unbracketed =
      .error (.malformed (oneOf text).unbracketed .unclosed)) ∧
    ('[' ∉ text.toList →
      247 < operators text.toList ∧ ofBracket (oneOf text).unbracketed =
          .error (.malformed (oneOf text).unbracketed .tooDeep) ∨
        ∃ made, ofBracket (oneOf text).unbracketed = .ok made ∧
          ∀ c, made.accepts c = denotes text.toList c) := by
  have hmembers : text.toList ≠ [] := by simpa using nonempty
  refine ⟨readsBack_range_iff ordered, readsBack_listed_iff hmembers, ?_,
    ofBracket_listed_of_opening, ofBracket_listed hmembers⟩
  intro hinter hsymmDiff
  exact readsBack_listed_iff_of_operators hmembers (operators_eq_zero hinter hsymmDiff)

theorem readsBack_display_samples :
    '^' ≤ 'a' ∧ ¬(range '^' 'a').ReadsBack ∧ '+' ≤ '[' ∧ (range '+' '[').ReadsBack ∧
    ofBracket (oneOf "a[b").unbracketed =
      .error (.malformed (oneOf "a[b").unbracketed .unclosed) ∧
    (∃ made, ofBracket (oneOf "a&b&&b~~~").unbracketed = .ok made ∧
      ∀ c, made.accepts c = denotes "a&b&&b~~~".toList c) ∧
    ['a', '&', 'b', '~'].map (denotes "a&b&&b~~~".toList) = [false, false, true, true] ∧
    ¬(oneOf "a&b&&b~~~").ReadsBack ∧ (oneOf "]^-\\&~").ReadsBack := by
  obtain ⟨caret, -, -, refused, -⟩ :=
    readsBack_display (by decide : '^' ≤ 'a') (by decide : "a[b" ≠ "")
  obtain ⟨bracket, joined, -, -, read⟩ :=
    readsBack_display (by decide : '+' ≤ '[') (by decide : "a&b&&b~~~" ≠ "")
  obtain ⟨-, -, escaped, -, -⟩ :=
    readsBack_display (by decide : 'a' ≤ 'a') (by decide : "]^-\\&~" ≠ "")
  have lost : denotes "a&b&&b~~~".toList 'a' ≠ "a&b&&b~~~".toList.contains 'a' := by decide
  refine ⟨by decide, caret.not.2 (by decide), by decide, bracket.2 (by decide),
    refused (by decide), ?_, by decide, fun reads => lost ((joined.1 reads).2.1 'a'), ?_⟩
  · obtain ⟨hdeep, -⟩ | made := read (by decide)
    · exact absurd hdeep (by decide)
    · exact made
  · exact (escaped (by decide +kernel) (by decide +kernel)).2 (by decide)

/-- A `[` that is not escaped opens another bracket, and two `&` denote nothing. A range from a caret
is read as what the range does not hold. -/
theorem display_not_readsBack :
    ¬(oneOf "[").ReadsBack ∧ (oneOf "[").display = "[[]" ∧
      ofBracket (oneOf "[").unbracketed = .error (.malformed "[" .unclosed) ∧
    ¬(oneOf "&&").ReadsBack ∧ (oneOf "&&").display = "[&&]" ∧
    ¬(range '^' 'a').ReadsBack ∧ (range '^' 'a').display = "[^-a]" := by
  refine ⟨?_, rfl, rfl, ?_, rfl, ?_, rfl⟩
  · exact not_readsBack_of_error (e := .malformed "[" .unclosed) rfl
  · have hmade : ofBracket (oneOf "&&").unbracketed =
        .ok (.bracket "&&" (.anchored (.nested (.op .inter .empty .empty) false))) := rfl
    exact not_readsBack_of_accepts (c := '&') hmade (by decide)
  · exact not_readsBack_of_leading (by decide) (by simp [IsBare]) (by decide)

end PegGrammar.CharClass
