import PegGrammar.Proofs.Lookup
import PegGrammar.Proofs.MatchedText
import PegGrammar.Proofs.Quoted

/-!
Listings of grammars. A listing puts the root first and then the other rules as they were given,
each on a line of its own with its name filled up to the longest one.

Names, numbers and quoted texts are written without line feeds. A character class shows the
characters it was made from as they are, so a rule takes more than one line exactly when one of its
classes was made from a line feed.
-/

namespace PegGrammar

variable {V : Type}

section Texts

theorem lineFeed_notMem_toDigits {base : Nat} (hb : 1 < base) (n : Nat) :
    '\n' ∉ Nat.toDigits base n := Text.notMem_toDigits hb (by simp) n

theorem lineFeed_notMem_escape (quote c : Char) : '\n' ∉ Text.escape quote c := by
  unfold Text.escape
  split
  case h_6 hfeed _ =>
    have hdigits : '\n' ∉ Nat.toDigits 16 c.toNat := lineFeed_notMem_toDigits (by decide) _
    have hc : '\n' ≠ c := fun h => hfeed h.symm
    split
    · simp [hc]
    · split
      · simp [hdigits]
      · simp [hc]
  all_goals decide

theorem lineFeed_notMem_quoteString (s : String) : '\n' ∉ (Text.quoteString s).toList := by
  simp [Text.quoteString, lineFeed_notMem_escape]

theorem lineFeed_notMem_displayBounds (min : Nat) (max : Option Nat) :
    '\n' ∉ (Expr.displayBounds min max).toList := by
  unfold Expr.displayBounds
  split <;> simp [lineFeed_notMem_toDigits]

theorem mem_toList_intercalate_iff {c : Char} {sep : String} (hc : c ∉ sep.toList)
    (ss : List String) : c ∈ (sep.intercalate ss).toList ↔ ∃ s ∈ ss, c ∈ s.toList := by
  induction ss with
  | nil => simp
  | cons s ss ih =>
    cases ss with
    | nil => simp
    | cons t ss =>
      rw [String.intercalate_cons_cons, String.toList_append, String.toList_append,
        List.mem_append, List.mem_append, ih, List.exists_mem_cons_iff (a := s)]
      simp only [hc, or_false]

theorem isRuleName_iff {name : String} :
    isRuleName name = true ↔ ∃ c cs, name.toList = c :: cs ∧
      (c.isAlpha || c == '_') ∧ ∀ d ∈ cs, d.isAlphanum || d == '_' := by
  unfold isRuleName
  cases name.toList <;> simp

end Texts

def CharClass.HasLineFeed : CharClass → Prop
  | .range first last => first = '\n' ∨ last = '\n'
  | .listed members => '\n' ∈ members
  | .bracket source _ => '\n' ∈ source.toList

theorem CharClass.lineFeed_mem_display_iff (cls : CharClass) :
    '\n' ∈ cls.display.toList ↔ cls.HasLineFeed := by
  cases cls with
  | range first last => simp [display, HasLineFeed, eq_comm]
  | listed members =>
    have one (c : Char) : '\n' ∈ displayMember c ↔ '\n' = c := by
      unfold displayMember
      split <;> simp
    simp [display, HasLineFeed, one]
  | bracket source pattern => simp [display, HasLineFeed]

namespace Expr

def HasLineFeed (e : Expr V) : Prop := ∃ cls, .charClass cls ∈ e.subterms ∧ cls.HasLineFeed

theorem hasLineFeed_iff_of_parts {e : Expr V} (h : ∀ cls, e ≠ .charClass cls) :
    e.HasLineFeed ↔ ∃ p ∈ e.parts, p.HasLineFeed := by
  simp only [HasLineFeed, subterms_eq e, List.mem_cons, (h _).symm, false_or, List.mem_flatMap]
  constructor
  · rintro ⟨cls, ⟨p, hp, hcls⟩, hfeed⟩
    exact ⟨p, hp, cls, hcls, hfeed⟩
  · rintro ⟨p, hp, cls, hcls, hfeed⟩
    exact ⟨cls, ⟨p, hp, hcls⟩, hfeed⟩

theorem displays_eq_map (es : List (Expr V)) : displays es = es.map display := by
  induction es with
  | nil => rfl
  | cons e es ih => rw [displays, ih, List.map_cons]

theorem lineFeed_mem_displays_iff {sep : String} (hsep : '\n' ∉ sep.toList) {es : List (Expr V)}
    (h : ∀ e ∈ es, '\n' ∈ e.display.toList ↔ e.HasLineFeed) :
    '\n' ∈ ("(" ++ sep.intercalate (displays es) ++ ")").toList ↔ ∃ e ∈ es, e.HasLineFeed := by
  have outer : '\n' ∉ "(".toList ∧ '\n' ∉ ")".toList := by decide
  rw [displays_eq_map, String.toList_append, String.toList_append, List.mem_append,
    List.mem_append, mem_toList_intercalate_iff hsep]
  simp only [outer, false_or, or_false, List.mem_map, exists_exists_and_eq_and]
  exact exists_congr fun e => and_congr_right (h e)

/-- An expression shows a line feed exactly where a class in it does, if the names in it have none. -/
theorem lineFeed_mem_display_iff (e : Expr V) (names : ∀ name ∈ e.references, '\n' ∉ name.toList) :
    '\n' ∈ e.display.toList ↔ e.HasLineFeed := by
  induction e using induction_parts with
  | step e ih =>
    have parts : ∀ p ∈ e.parts, '\n' ∈ p.display.toList ↔ p.HasLineFeed := fun p hp =>
      ih p hp fun name hn => names name (references_subset_of_mem_parts hp hn)
    cases e with
    | literal text =>
      rw [hasLineFeed_iff_of_parts (by simp), display]
      simp [Expr.parts, lineFeed_notMem_quoteString]
    | charClass cls =>
      rw [display, cls.lineFeed_mem_display_iff]
      simp [HasLineFeed, subterms]
    | sequence ps =>
      rw [hasLineFeed_iff_of_parts (by simp), display]
      exact lineFeed_mem_displays_iff (by decide) parts
    | repetition body min max =>
      rw [hasLineFeed_iff_of_parts (by simp), display]
      simp [Expr.parts, lineFeed_notMem_displayBounds, parts body List.mem_cons_self]
    | alternation cs =>
      rw [hasLineFeed_iff_of_parts (by simp), display]
      exact lineFeed_mem_displays_iff (by decide) parts
    | reference name =>
      rw [hasLineFeed_iff_of_parts (by simp), display]
      simpa [Expr.parts] using names name List.mem_cons_self
    | hooked body hook =>
      rw [hasLineFeed_iff_of_parts (by simp), display]
      simp [Expr.parts, parts body List.mem_cons_self]

end Expr

section Lines

variable (lines : List (List Char))

theorem count_lineFeed_lines : (lines.flatMap (· ++ ['\n'])).count '\n' =
    lines.length + lines.flatten.count '\n' := by
  induction lines with
  | nil => rfl
  | cons l lines ih =>
    simp only [List.flatMap_cons, List.count_append, ih, List.count_singleton_self,
      List.length_cons, List.flatten_cons]
    omega

theorem splitOn_lines (h : ∀ l ∈ lines, '\n' ∉ l) :
    (lines.flatMap (· ++ ['\n'])).splitOn '\n' = lines ++ [[]] := by
  induction lines with
  | nil => rfl
  | cons l lines ih =>
    obtain ⟨hl, hlines⟩ := List.forall_mem_cons.1 h
    rw [List.flatMap_cons, List.append_assoc, List.singleton_append,
      List.splitOn_append_cons_self_of_not_mem hl, ih hlines]
    rfl

end Lines

theorem lineFeed_notMem_of_isRuleName {name : String} (h : isRuleName name) :
    '\n' ∉ name.toList := by
  obtain ⟨c, cs, hname, hc, hcs⟩ := isRuleName_iff.1 h
  intro hfeed
  rw [hname] at hfeed
  rcases List.mem_cons.1 hfeed with rfl | hfeed
  · simp at hc
  · have := hcs _ hfeed
    simp at this

theorem utf8ByteSize_of_isRuleName {name : String} (h : isRuleName name) :
    name.utf8ByteSize = name.length := by
  have ascii {d : Char} (hd : d.isAlphanum || d == '_') : d.utf8Size = 1 := by
    have ranges : d.isAlphanum = (decide (d.val ≥ 'A'.val ∧ d.val ≤ 'Z'.val) ||
        decide (d.val ≥ 'a'.val) && decide (d.val ≤ 'z'.val) ||
        decide (d.val ≥ '0'.val) && decide (d.val ≤ '9'.val)) := rfl
    simp only [ranges, Bool.or_eq_true, Bool.and_eq_true, decide_eq_true_eq, beq_iff_eq] at hd
    rw [Char.utf8Size_eq_one_iff]
    rcases hd with ((⟨-, hd⟩ | ⟨-, hd⟩) | ⟨-, hd⟩) | rfl
    · exact UInt32.le_trans hd (by decide)
    · exact UInt32.le_trans hd (by decide)
    · exact UInt32.le_trans hd (by decide)
    · decide
  have bytes (cs : List Char) (hcs : ∀ d ∈ cs, d.isAlphanum || d == '_') :
      byteLength cs = cs.length := by
    induction cs with
    | nil => rfl
    | cons d cs ih =>
      obtain ⟨hd, hcs⟩ := List.forall_mem_cons.1 hcs
      rw [byteLength_cons, ascii hd, ih hcs, List.length_cons, Nat.add_comm]
  obtain ⟨c, cs, hname, hc, hcs⟩ := isRuleName_iff.1 h
  rw [← Cursor.byteLength_toList, ← String.length_toList, hname]
  refine bytes (c :: cs) (List.forall_mem_cons.2 ⟨?_, hcs⟩)
  simp only [Char.isAlphanum, Bool.or_eq_true] at hc ⊢
  exact hc.imp_left Or.inl

namespace Grammar

def line (width : Nat) (rule : String × Expr V) : List Char :=
  rule.1.toList ++ List.replicate (width - rule.1.length) ' ' ++ " <- ".toList ++
    rule.2.display.toList

theorem toList_pushn (s : String) (c : Char) (n : Nat) :
    (s.pushn c n).toList = s.toList ++ List.replicate n c := by
  induction n with
  | zero => simp [String.pushn, Nat.repeat]
  | succ n ih =>
    rw [String.pushn] at ih ⊢
    rw [Nat.repeat, String.toList_push, ih, List.append_assoc, List.replicate_succ']

theorem toList_displayRule (width : Nat) (rule : String × Expr V) :
    (displayRule width rule).toList = line width rule ++ ['\n'] := by
  simp [displayRule, line, toList_pushn]

theorem toList_display (g : Grammar V) :
    g.display.toList = (g.listed.map (line g.nameWidth)).flatMap (· ++ ['\n']) := by
  simp only [display, String.toList_join, List.flatMap_map, toList_displayRule]

variable {g : Grammar V}

theorem ruleName_of_mem {rule : String × Expr V} (h : rule ∈ g.rules) : isRuleName rule.1 :=
  g.wellFormed.names_valid rule.1 (List.mem_map_of_mem h)

theorem nameWidth_eq : (∀ rule ∈ g.rules, rule.1.length ≤ g.nameWidth) ∧
    ∃ rule ∈ g.rules, rule.1.length = g.nameWidth := by
  have hmax : (0 :: g.rules.map fun rule => rule.1.utf8ByteSize).max? = some g.nameWidth := by
    rw [List.max?_cons', nameWidth, ruleNames, RuleSet.names, List.foldl_map, List.foldl_map]
  obtain ⟨hmem, hle⟩ := List.max?_eq_some_iff.1 hmax
  have longest : ∀ rule ∈ g.rules, rule.1.length ≤ g.nameWidth := by
    intro rule hr
    rw [← utf8ByteSize_of_isRuleName (ruleName_of_mem hr)]
    exact hle _ (List.mem_cons_of_mem 0 (List.mem_map_of_mem hr))
  refine ⟨longest, ?_⟩
  rcases List.mem_cons.1 hmem with hzero | hmem
  · obtain ⟨rule, hr, -⟩ := List.mem_map.1 g.wellFormed.root_defined
    have := longest rule hr
    exact ⟨rule, hr, by omega⟩
  · obtain ⟨rule, hr, hwidth⟩ := List.mem_map.1 hmem
    exact ⟨rule, hr, by rw [← hwidth, utf8ByteSize_of_isRuleName (ruleName_of_mem hr)]⟩

theorem listed_eq : ∃ rule, (g.root, rule) ∈ g.rules ∧
    g.listed = (g.root, rule) :: g.rules.filter (·.1 != g.root) ∧ g.listed.Perm g.rules := by
  obtain ⟨⟨root, rule⟩, hr, rfl : root = g.root⟩ := List.mem_map.1 g.wellFormed.root_defined
  refine ⟨rule, hr, ?_, ?_⟩
  · obtain ⟨before, after, hrules⟩ := List.append_of_mem hr
    have distinct := g.wellFormed.names_distinct
    simp only [RuleSet.names, hrules, List.map_append, List.map_cons, List.nodup_append,
      List.nodup_cons] at distinct
    obtain ⟨-, ⟨hafter, -⟩, hbefore⟩ := distinct
    have before_ne : before.filter (·.1 == g.root) = [] := by
      rw [List.filter_eq_nil_iff]
      intro r hr heq
      exact hbefore r.1 (List.mem_map_of_mem hr) g.root List.mem_cons_self (beq_iff_eq.1 heq)
    have after_ne : after.filter (·.1 == g.root) = [] := by
      rw [List.filter_eq_nil_iff]
      intro r hr heq
      exact hafter (List.mem_map.2 ⟨r, hr, beq_iff_eq.1 heq⟩)
    have roots : g.rules.filter (·.1 == g.root) = [(g.root, rule)] := by
      simp [hrules, before_ne, after_ne]
    rw [listed, roots]
    rfl
  · exact List.filter_append_perm (·.1 == g.root) g.rules

theorem lineFeed_mem_display_iff {rule : String × Expr V} (h : rule ∈ g.rules) :
    '\n' ∈ rule.2.display.toList ↔ rule.2.HasLineFeed := by
  have names : ∀ name ∈ rule.2.references, '\n' ∉ name.toList := fun name hn =>
    lineFeed_notMem_of_isRuleName
      (g.wellFormed.names_valid name (g.wellFormed.references_defined rule h name hn))
  exact rule.2.lineFeed_mem_display_iff names

theorem lineFeed_mem_line_iff (width : Nat) {rule : String × Expr V} (h : rule ∈ g.rules) :
    '\n' ∈ line width rule ↔ rule.2.HasLineFeed := by
  have hname := lineFeed_notMem_of_isRuleName (ruleName_of_mem h)
  rw [← lineFeed_mem_display_iff h]
  simp [line, hname]

end Grammar

/-- The listing of a grammar that could be built: a line for the root and then one for each other
rule as it was given, each its name filled up to the longest name and the rule as it is displayed,
and a line feed behind each. These are the lines of the text, one for each rule, exactly when no
class in a rule was made from a line feed; such a class shows one in the line of its rule. -/
theorem display_of_build {root : String} {rules : RuleSet V} {g : Grammar V}
    (built : Grammar.build root rules = .ok g) :
    ∃ rule listed width, (root, rule) ∈ rules ∧
      listed = (root, rule) :: rules.filter (·.1 != root) ∧ listed.Perm rules ∧
      (∀ r ∈ rules, r.1.length ≤ width) ∧ (∃ r ∈ rules, r.1.length = width) ∧
      g.display.toList = (listed.map (Grammar.line width)).flatMap (· ++ ['\n']) ∧
      (∀ r ∈ rules, '\n' ∈ r.2.display.toList ↔ r.2.HasLineFeed) ∧
      ((∀ r ∈ rules, ¬r.2.HasLineFeed) →
        g.display.toList.splitOn '\n' = listed.map (Grammar.line width) ++ [[]]) ∧
      (g.display.toList.count '\n' = rules.length ↔ ∀ r ∈ rules, ¬r.2.HasLineFeed) := by
  obtain ⟨rfl, rfl⟩ := Grammar.build_eq_ok_iff.1 built
  obtain ⟨rule, hr, hlisted, hperm⟩ := g.listed_eq
  obtain ⟨hle, hwidth⟩ := g.nameWidth_eq
  have hline : ∀ r ∈ g.listed, '\n' ∈ Grammar.line g.nameWidth r ↔ r.2.HasLineFeed := fun r hr =>
    Grammar.lineFeed_mem_line_iff g.nameWidth (hperm.mem_iff.1 hr)
  refine ⟨rule, g.listed, g.nameWidth, hr, hlisted, hperm, hle, hwidth, g.toList_display,
    fun r hr => Grammar.lineFeed_mem_display_iff hr, fun none => ?_, ?_⟩
  · rw [g.toList_display]
    apply splitOn_lines
    intro l hl
    obtain ⟨r, hr, rfl⟩ := List.mem_map.1 hl
    exact mt (hline r hr).1 (none r (hperm.mem_iff.1 hr))
  · rw [g.toList_display, count_lineFeed_lines, List.length_map, hperm.length_eq,
      Nat.add_eq_left, List.count_eq_zero, List.mem_flatten]
    constructor
    · intro none r hr hfeed
      have hl := (hline r (hperm.mem_iff.2 hr)).2 hfeed
      exact none ⟨_, List.mem_map_of_mem (hperm.mem_iff.2 hr), hl⟩
    · rintro none ⟨l, hl, hfeed⟩
      obtain ⟨r, hr, rfl⟩ := List.mem_map.1 hl
      exact none r (hperm.mem_iff.1 hr) ((hline r hr).1 hfeed)

def itemRules : RuleSet Int64 :=
  [("item", .charClass (.range '0' '9')), ("items", .repeated (.reference "item") 2)]

theorem itemRules_fault?_eq_none : itemRules.fault? "items" = none := by decide +kernel

theorem display_of_build_itemRules :
    ∃ g, Grammar.build "items" itemRules = .ok g ∧ (∀ r ∈ itemRules, ¬r.2.HasLineFeed) ∧
      g.display.toList.count '\n' = itemRules.length ∧
      g.display = "items <- item\x7b2,\x7d\nitem  <- [0-9]\n" := by
  let g : Grammar Int64 := ⟨"items", itemRules, RuleSet.fault?_eq_none_iff.1 itemRules_fault?_eq_none⟩
  have built : Grammar.build "items" itemRules = .ok g := Grammar.build_eq_ok_iff.2 ⟨rfl, rfl⟩
  obtain ⟨_, _, _, _, _, _, _, _, _, shows, _, count⟩ := display_of_build built
  have plain : ∀ r ∈ itemRules, '\n' ∉ r.2.display.toList := by decide +kernel
  have none : ∀ r ∈ itemRules, ¬r.2.HasLineFeed := fun r hr => mt (shows r hr).2 (plain r hr)
  exact ⟨g, built, none, count.2 none, by decide +kernel⟩

def lineFeedRules : RuleSet Int64 := [("a", .charClass (.oneOf "\n"))]

theorem lineFeedRules_fault?_eq_none : lineFeedRules.fault? "a" = none := by decide +kernel

theorem display_lineFeedRules :
    ∃ g, Grammar.build "a" lineFeedRules = .ok g ∧ g.display = "a <- [\n]\n" ∧
      g.display.toList.count '\n' ≠ lineFeedRules.length ∧
      ∃ r ∈ lineFeedRules, '\n' ∈ r.2.display.toList := by
  refine ⟨⟨"a", lineFeedRules, RuleSet.fault?_eq_none_iff.1 lineFeedRules_fault?_eq_none⟩,
    Grammar.build_eq_ok_iff.2 ⟨rfl, rfl⟩, ?_, ?_, ?_⟩
  · decide +kernel
  · decide +kernel
  · decide +kernel

end PegGrammar
