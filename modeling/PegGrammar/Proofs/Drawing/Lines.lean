import Mathlib.Data.List.ModifyLast
import PegGrammar.Format.Text
import PegGrammar.Proofs.Drawing.Labels

/-!
Drawings of trees. A drawing has one line for each node, in front of those of the nodes below it:
for each node on the way down to it a guide, then a connector, its icon and its label. What stands
in front of the icon tells from the first character on where it ends, so whatever the labels hold,
the depth, the icon and the label of every node can be read off its line. Depths in this order
determine the shape of a tree.
-/

namespace PegGrammar.Snapshot

def hasLater (s : Snapshot) (address : List Nat) : Bool :=
  (s.at? (address.modifyLast (· + 1))).isSome

/-- Whether the nodes on the way to an address, from below the root on, have others behind them. -/
def laters (s : Snapshot) (address : List Nat) : List Bool := address.inits.tail.map s.hasLater

def guide (later : Bool) : List Char := if later then ['│', ' '] else [' ', ' ']

def connector (later : Bool) : List Char := if later then ['├', '─'] else ['└', '─']

def lead : List Bool → List Char
  | [] => []
  | [later] => connector later ++ [' ']
  | later :: laters => guide later ++ lead laters

def line (width : Nat) (s : Snapshot) (v : Visit) : List Char :=
  lead (s.laters v.address) ++ (icon v.node.nodeType).toList ++
    ' ' :: (shorten width v.node.label).toList

section Laters

variable {s child : Snapshot} {i : Nat} {address : List Nat}

theorem hasLater_singleton (s : Snapshot) (i : Nat) :
    s.hasLater [i] = decide (i + 1 < s.children.length) := by
  have hmodify : [i].modifyLast (· + 1) = [i + 1] := List.modifyLast_concat _ i []
  rw [Bool.eq_iff_iff, hasLater, hmodify]
  simp [at?]

theorem hasLater_cons (hi : s.children[i]? = some child) (hne : address ≠ []) :
    s.hasLater (i :: address) = child.hasLater address := by
  have hmodify : (i :: address).modifyLast (· + 1) = i :: address.modifyLast (· + 1) :=
    List.modifyLast_append_of_right_ne_nil _ [i] address hne
  rw [hasLater, hmodify, at?, hi]
  rfl

theorem laters_cons (hi : s.children[i]? = some child) :
    s.laters (i :: address) = decide (i + 1 < s.children.length) :: child.laters address := by
  cases address with
  | nil => simp [laters, hasLater_singleton]
  | cons j address =>
    simp only [laters, List.inits_cons, List.map_cons, List.tail_cons, List.map_map,
      hasLater_singleton]
    congr 1
    refine List.map_congr_left fun below _ => ?_
    exact hasLater_cons hi (List.cons_ne_nil j below)

theorem laters_concat (s : Snapshot) (above : List Nat) (i : Nat) :
    s.laters (above ++ [i]) = s.laters above ++ [s.hasLater (above ++ [i])] := by
  have hne : above.inits ≠ [] := by cases above <;> simp
  have hinits : (above ++ [i]).inits = above.inits ++ [above ++ [i]] := List.inits_append above [i]
  rw [laters, hinits, List.tail_append_of_ne_nil hne, List.map_append]
  rfl

theorem length_laters (s : Snapshot) (address : List Nat) :
    (s.laters address).length = address.length := by
  simp [laters]

end Laters

section Labels

variable {width : Nat} {label : String}

theorem shorten_of_le (h : label.length ≤ width) : shorten width label = label :=
  if_neg (Nat.not_lt.2 h)

theorem shorten_of_lt (h : width < label.length) :
    shorten width label = String.ofList (label.toList.take width) ++ "..." := if_pos h

theorem lt_length_shorten_iff : width < (shorten width label).length ↔ width < label.length := by
  rcases Nat.lt_or_ge width label.length with h | h
  · rw [shorten_of_lt h, String.length_append, String.length_ofList, List.length_take,
      String.length_toList, Nat.min_eq_left (Nat.le_of_lt h)]
    exact iff_of_true (Nat.lt_add_of_pos_right (by decide)) h
  · rw [shorten_of_le h]

theorem lineFeed_notMem_shorten (width : Nat) (h : '\n' ∉ label.toList) :
    '\n' ∉ (shorten width label).toList := by
  unfold shorten
  split
  · simpa using mt List.mem_of_mem_take h
  · exact h

theorem lineFeed_notMem_icon (nodeType : String) : '\n' ∉ (icon nodeType).toList := by
  unfold icon
  split <;> decide

end Labels

theorem lead_concat (laters : List Bool) (later : Bool) :
    lead (laters ++ [later]) = laters.flatMap guide ++ connector later ++ [' '] := by
  induction laters with
  | nil => rfl
  | cons b laters ih =>
    rw [List.cons_append, lead, ih]
    · simp
    · simp

theorem lineFeed_notMem_lead (laters : List Bool) : '\n' ∉ lead laters := by
  rcases laters.eq_nil_or_concat' with rfl | ⟨laters, later, rfl⟩
  · exact List.not_mem_nil
  · have hguide : ∀ later, '\n' ∉ guide later ∧ '\n' ∉ connector later := by decide
    rw [lead_concat]
    simp [hguide]

section Lines

variable {width : Nat} {s child : Snapshot} {i : Nat}

theorem toList_caption (width : Nat) (s : Snapshot) : (caption width s).toList =
    (icon s.nodeType).toList ++ ' ' :: (shorten width s.label).toList ++ ['\n'] := by
  simp [caption]

theorem line_nil (node : Snapshot) : s.line width ⟨[], node⟩ =
    (icon node.nodeType).toList ++ ' ' :: (shorten width node.label).toList := rfl

theorem line_concat (s : Snapshot) (above : List Nat) (i : Nat) (node : Snapshot) :
    s.line width ⟨above ++ [i], node⟩ =
      (above.inits.tail.flatMap fun address => guide (s.hasLater address)) ++
        connector (s.hasLater (above ++ [i])) ++ ' ' :: s.line width ⟨[], node⟩ := by
  rw [line, laters_concat, lead_concat, laters, List.flatMap_map, line_nil]
  simp

theorem line_singleton (hi : s.children[i]? = some child) (node : Snapshot) :
    s.line width ⟨[i], node⟩ =
      connector (decide (i + 1 < s.children.length)) ++ ' ' :: child.line width ⟨[], node⟩ := by
  rw [line, laters_cons hi]
  simp [laters, lead, line_nil]

theorem line_below (hi : s.children[i]? = some child) {v : Visit} (hne : v.address ≠ []) :
    s.line width (v.below i) =
      guide (decide (i + 1 < s.children.length)) ++ child.line width v := by
  have hlaters : child.laters v.address ≠ [] := by
    rwa [← List.length_pos_iff, length_laters, List.length_pos_iff]
  rw [line, line, Visit.below, laters_cons hi, lead]
  · simp only [List.append_assoc]
  · exact hlaters

theorem toList_drawChildren_cons (margin : String) (ss : List Snapshot) :
    (drawChildren width margin (s :: ss)).toList =
      margin.toList ++ connector (!ss.isEmpty) ++ ' ' :: (caption width s).toList ++
        (drawBelow width (margin ++ String.ofList (guide (!ss.isEmpty))) s).toList ++
        (drawChildren width margin ss).toList := by
  cases ss with
  | nil =>
    rw [drawChildren, drawChildren]
    simp [connector, guide]
  | cons t ss =>
    rw [drawChildren]
    · simp [connector, guide]
    · exact List.cons_ne_nil t ss

mutual

theorem toList_drawBelow (width : Nat) : ∀ (margin : String) (s : Snapshot),
    (drawBelow width margin s).toList =
      (visitsFrom 0 s.children).flatMap fun v => margin.toList ++ s.line width v ++ ['\n']
  | margin, ⟨nodeType, label, children⟩ => by
    rw [drawBelow]
    exact toList_drawChildren width margin 0 ⟨nodeType, label, children⟩ children rfl

theorem toList_drawChildren (width : Nat) : ∀ (margin : String) (i : Nat) (p : Snapshot)
    (ss : List Snapshot), p.children.drop i = ss → (drawChildren width margin ss).toList =
      (visitsFrom i ss).flatMap fun v => margin.toList ++ p.line width v ++ ['\n']
  | margin, i, p, [], _ => by simp [drawChildren, visitsFrom]
  | margin, i, p, s :: ss, hdrop => by
    have hi : p.children[i]? = some s := by
      rw [← List.head?_drop, hdrop]
      rfl
    have hrest : p.children.drop (i + 1) = ss := by
      rw [← List.tail_drop, hdrop]
      rfl
    have hlater : decide (i + 1 < p.children.length) = !ss.isEmpty := by
      rw [← hrest, Bool.eq_iff_iff]
      simp
    -- the lines below `s` in its own tree, behind the guide that the margin is longer by
    have hbelow : ((visitsFrom 0 s.children).flatMap fun v =>
          (margin ++ String.ofList (guide (!ss.isEmpty))).toList ++ s.line width v ++ ['\n']) =
        (visitsFrom 0 s.children).flatMap fun v =>
          margin.toList ++ p.line width (v.below i) ++ ['\n'] := by
      refine List.flatMap_congr fun v hv => ?_
      rw [line_below hi (address_ne_nil hv), hlater]
      simp
    rw [toList_drawChildren_cons, visitsFrom, visits_eq s, List.map_cons, List.cons_append,
      List.flatMap_cons, List.flatMap_append, List.flatMap_map, toList_drawBelow width _ s,
      toList_drawChildren width margin (i + 1) p ss hrest, hbelow, Visit.below,
      line_singleton hi, hlater, line_nil, toList_caption]
    simp

end

theorem toList_drawing (width : Nat) (s : Snapshot) :
    (drawing width s).toList = (s.visits.map (s.line width)).flatMap (· ++ ['\n']) := by
  rw [drawing, String.toList_append, toList_drawChildren width "" 0 s s.children rfl, visits_eq,
    List.map_cons, List.flatMap_cons, List.flatMap_map, toList_caption, line_nil]
  simp

theorem splitOn_drawing (h : s.OneLined) :
    (drawing width s).toList.splitOn '\n' = s.visits.map (s.line width) ++ [[]] := by
  rw [toList_drawing]
  refine splitOn_lines _ fun l hl => ?_
  obtain ⟨v, hv, rfl⟩ := List.mem_map.1 hl
  have hlabel := lineFeed_notMem_shorten width (h v hv)
  simp [line, lineFeed_notMem_lead, lineFeed_notMem_icon, hlabel]

end Lines

/-! Icons are single characters, and no guide or connector begins with one of them. -/

def icons : List Char := ['⋯', '☰', '◦', '•', 'λ', '@', '?', '○']

theorem exists_icon (nodeType : String) : ∃ c ∈ icons, (icon nodeType).toList = [c] := by
  unfold icon
  split <;> simp [icons]

def readLead : List Char → List Bool × List Char
  | '│' :: ' ' :: cs => (readLead cs).map (true :: ·) id
  | ' ' :: ' ' :: cs => (readLead cs).map (false :: ·) id
  | '├' :: '─' :: ' ' :: cs => ([true], cs)
  | '└' :: '─' :: ' ' :: cs => ([false], cs)
  | cs => ([], cs)

theorem readLead_icon {c : Char} (hc : c ∈ icons) (cs : List Char) :
    readLead (c :: cs) = ([], c :: cs) := by
  have plain : ∀ c ∈ icons, c ≠ '│' ∧ c ≠ ' ' ∧ c ≠ '├' ∧ c ≠ '└' := by
    simp [icons]
  obtain ⟨hbar, hblank, htee, hcorner⟩ := plain c hc
  unfold readLead
  split <;> simp_all

theorem readLead_lead {c : Char} (hc : c ∈ icons) (laters : List Bool) (cs : List Char) :
    readLead (lead laters ++ c :: cs) = (laters, c :: cs) := by
  induction laters with
  | nil => exact readLead_icon hc cs
  | cons later laters ih =>
    cases laters with
    | nil => cases later <;> rfl
    | cons b laters => cases later <;> simp [lead, guide, readLead, ih]

/-- What the line of a node shows: its depth, counted from `d` on, its icon and its label. -/
def mark (width d : Nat) (v : Visit) : Nat × String × String :=
  (d + v.address.length, icon v.node.nodeType, shorten width v.node.label)

theorem mark_eq_of_line_eq {width : Nat} {s t : Snapshot} {v w : Visit}
    (h : s.line width v = t.line width w) : mark width 0 v = mark width 0 w := by
  obtain ⟨c, hc, hicon⟩ := exists_icon v.node.nodeType
  obtain ⟨c', hc', hicon'⟩ := exists_icon w.node.nodeType
  have hread := congrArg readLead h
  simp only [line, hicon, hicon', List.append_assoc, List.singleton_append, readLead_lead hc,
    readLead_lead hc', Prod.mk.injEq, List.cons.injEq, true_and, String.toList_inj] at hread
  obtain ⟨hlaters, rfl, hlabel⟩ := hread
  have hdepth := congrArg List.length hlaters
  rw [length_laters, length_laters] at hdepth
  rw [mark, mark, hdepth, hlabel, String.toList_inj.1 (hicon.trans hicon'.symm)]

theorem marks_eq_of_drawing_eq {width : Nat} {s t : Snapshot} (hs : s.OneLined) (ht : t.OneLined)
    (h : drawing width s = drawing width t) :
    s.visits.map (mark width 0) = t.visits.map (mark width 0) := by
  have hlines : s.visits.map (s.line width) = t.visits.map (t.line width) := by
    rw [← List.append_left_inj [[]], ← splitOn_drawing hs, ← splitOn_drawing ht, h]
  rw [← List.forall₂_eq_eq_eq, List.forall₂_map_left_iff, List.forall₂_map_right_iff] at hlines ⊢
  exact hlines.imp fun _ _ => mark_eq_of_line_eq

mutual

def shown (width : Nat) : Snapshot → Snapshot
  | ⟨nodeType, label, children⟩ =>
    ⟨icon nodeType, shorten width label, shownAll width children⟩

def shownAll (width : Nat) : List Snapshot → List Snapshot
  | [] => []
  | s :: ss => s.shown width :: shownAll width ss

end

section Decoding

variable {width : Nat}

theorem marks_visits (d : Nat) (nodeType label : String) (children : List Snapshot) :
    (visits ⟨nodeType, label, children⟩).map (mark width d) =
      (d, icon nodeType, shorten width label) :: (visitsFrom 0 children).map (mark width d) := rfl

theorem marks_visitsFrom (d i : Nat) (s : Snapshot) (ss : List Snapshot) :
    (visitsFrom i (s :: ss)).map (mark width d) =
      s.visits.map (mark width (d + 1)) ++ (visitsFrom (i + 1) ss).map (mark width d) := by
  have below (v : Visit) : mark width d (v.below i) = mark width (d + 1) v := by
    simp [mark, Visit.below, Nat.add_assoc, Nat.add_comm 1]
  simp only [visitsFrom, List.map_append, List.map_map, Function.comp_def, below]

/-- The nodes begin no deeper than `d`. -/
def Outside (d : Nat) (marks : List (Nat × String × String)) : Prop :=
  ∀ m, marks.head? = some m → m.1 ≤ d

theorem outside_nil (d : Nat) : Outside d [] := by simp [Outside]

theorem Outside.append {d i : Nat} {rest : List (Nat × String × String)} (h : Outside d rest)
    (ss : List Snapshot) : Outside (d + 1) ((visitsFrom i ss).map (mark width d) ++ rest) := by
  cases ss with
  | nil => exact fun m hm => Nat.le_succ_of_le (h m hm)
  | cons s ss =>
    obtain ⟨nodeType, label, children⟩ := s
    rw [marks_visitsFrom, marks_visits]
    rintro m ⟨⟩
    exact Nat.le_refl (d + 1)

theorem not_outside_marks {d i : Nat} (s : Snapshot) (ss : List Snapshot)
    (rest : List (Nat × String × String)) :
    ¬Outside d ((visitsFrom i (s :: ss)).map (mark width d) ++ rest) := by
  obtain ⟨nodeType, label, children⟩ := s
  rw [marks_visitsFrom, marks_visits]
  exact fun h => Nat.not_succ_le_self d (h _ rfl)

mutual

theorem shown_eq_of_marks : ∀ {s t : Snapshot} {d : Nat} {rest rest' : List (Nat × String × String)},
    Outside d rest → Outside d rest' →
    s.visits.map (mark width d) ++ rest = t.visits.map (mark width d) ++ rest' →
    s.shown width = t.shown width ∧ rest = rest'
  | ⟨nodeType, label, children⟩, ⟨nodeType', label', children'⟩, d, rest, rest', hr, hr', h => by
    rw [marks_visits, marks_visits, List.cons_append, List.cons_append, List.cons.injEq] at h
    obtain ⟨hnode, hbelow⟩ := h
    obtain ⟨hchildren, hrest⟩ := shownAll_eq_of_marks hr hr' hbelow
    simp only [Prod.mk.injEq, true_and] at hnode
    exact ⟨by rw [shown, shown, hnode.1, hnode.2, hchildren], hrest⟩

theorem shownAll_eq_of_marks : ∀ {ss ts : List Snapshot} {i j d : Nat}
    {rest rest' : List (Nat × String × String)}, Outside d rest → Outside d rest' →
    (visitsFrom i ss).map (mark width d) ++ rest = (visitsFrom j ts).map (mark width d) ++ rest' →
    shownAll width ss = shownAll width ts ∧ rest = rest'
  | [], [], _, _, _, _, _, _, _, h => ⟨rfl, h⟩
  | [], t :: ts, _, _, _, _, rest', hr, _, h => by
    obtain rfl : _ = _ ++ rest' := h
    exact absurd hr (not_outside_marks t ts rest')
  | s :: ss, [], _, _, _, rest, _, _, hr', h => by
    obtain rfl : _ ++ rest = _ := h
    exact absurd hr' (not_outside_marks s ss rest)
  | s :: ss, t :: ts, i, j, d, rest, rest', hr, hr', h => by
    rw [marks_visitsFrom, marks_visitsFrom, List.append_assoc, List.append_assoc] at h
    obtain ⟨hfirst, hothers⟩ := shown_eq_of_marks (hr.append ss) (hr'.append ts) h
    obtain ⟨hshown, hrest⟩ := shownAll_eq_of_marks hr hr' hothers
    exact ⟨by rw [shownAll, shownAll, hfirst, hshown], hrest⟩

end

end Decoding

/-- A drawing of a tree whose labels have no line feed has one line for each node, in the order in
which visits come to them. It shows the root by its icon and its label alone; another node, behind
guides for the nodes between, by a connector that tells if there are nodes behind it. A label is
shown whole unless it is longer than the width. Trees of this kind with the same drawing have the
same shape and show the same icons and labels, and all results of the sample grammars are of this
kind. -/
theorem drawing_shows (width : Nat) {s : Snapshot} (hs : s.OneLined) :
    ((∀ v, v ∈ s.visits ↔ s.at? v.address = some v.node) ∧
      s.visits.Pairwise fun v w => v.address < w.address) ∧
    (drawing width s).toList.splitOn '\n' = s.visits.map (s.line width) ++ [[]] ∧
    (∀ node, s.line width ⟨[], node⟩ =
      (icon node.nodeType).toList ++ ' ' :: (shorten width node.label).toList) ∧
    (∀ above i node, s.line width ⟨above ++ [i], node⟩ =
      (above.inits.tail.flatMap fun address => guide (s.hasLater address)) ++
        connector (s.hasLater (above ++ [i])) ++ ' ' :: s.line width ⟨[], node⟩) ∧
    (∀ label : String, (label.length ≤ width → shorten width label = label) ∧
      (width < label.length →
        shorten width label = String.ofList (label.toList.take width) ++ "...") ∧
      (width < (shorten width label).length ↔ width < label.length)) ∧
    (∀ t : Snapshot, t.OneLined → drawing width s = drawing width t →
      s.shown width = t.shown width) ∧
    (∀ name input node, (Lambda.grammar.parseRule name input).value = some node →
      node.snapshot.OneLined) ∧
    ∀ name input node, (Numeral.grammar.parseRule name input).value = some node →
      node.snapshot.OneLined := by
  refine ⟨⟨fun v => mem_visits_iff, pairwise_visits s⟩, splitOn_drawing hs, line_nil,
    line_concat s, fun label => ⟨shorten_of_le, shorten_of_lt, lt_length_shorten_iff⟩,
    fun t ht h => ?_, fun _ _ _ => Grammar.oneLined_of_parseRule Lambda.keepsPlain,
    fun _ _ _ => Grammar.oneLined_of_parseRule Numeral.keepsPlain⟩
  have hmarks := congrArg (· ++ []) (marks_eq_of_drawing_eq hs ht h)
  exact (shown_eq_of_marks (outside_nil 0) (outside_nil 0) hmarks).1

def connectorTree : Snapshot :=
  ⟨"App", "├─ •", [⟨"Abs", "└─ λ x", [⟨"Var", "│ x", []⟩]⟩, ⟨"Var", "  ", []⟩]⟩

theorem drawing_shows_connectorTree :
    connectorTree.OneLined ∧
    (drawing 4 connectorTree).toList.splitOn '\n' = ["@ ├─ •".toList, "├─ λ └─ λ...".toList,
      "│ └─ ○ │ x".toList, "└─ ○   ".toList, []] ∧
    (∀ t : Snapshot, t.OneLined → drawing 4 connectorTree = drawing 4 t →
      connectorTree.shown 4 = t.shown 4) ∧
    ∃ node, (Lambda.grammar.parseRule "abs" "λx.x").value = some node ∧ node.snapshot.OneLined := by
  have hs : connectorTree.OneLined := by simp [connectorTree, oneLined_iff]
  obtain ⟨-, lines, -, -, -, decodes, lambda, -⟩ := drawing_shows 4 hs
  exact ⟨hs, lines.trans (by decide +kernel), decodes, _, rfl, lambda "abs" "λx.x" _ rfl⟩

end PegGrammar.Snapshot
