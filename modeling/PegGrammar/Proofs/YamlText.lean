import PegGrammar.Format.Registry
import PegGrammar.Proofs.Yaml.Scalars

/-!
YAML texts. Reading the text of a snapshot gives back the tree of its fields, whatever strings are
in it, so that no two snapshots have the same text.

Reading takes fuel. A node needs seven steps at most besides those of its children, and no node is
written in less than seven characters.
-/

namespace PegGrammar

namespace Yaml

section Readable

theorem mem_quoteSingle {indent : ℕ} {fresh : Bool} {cs : List Char} {c : Char}
    (h : c ∈ quoteSingle indent fresh cs) : c ∈ cs ∨ c = ' ' ∨ c = '\'' := by
  have hindent {fresh : Bool} (h : c ∈ if fresh then indentation indent else []) : c = ' ' := by
    cases fresh with
    | false => cases h
    | true => exact List.eq_of_mem_replicate h
  induction cs generalizing fresh with
  | nil => exact .inr (.inl (hindent h))
  | cons d cs ih =>
    have later {fresh : Bool} (h : c ∈ quoteSingle indent fresh cs) :
        c ∈ d :: cs ∨ c = ' ' ∨ c = '\'' := (ih h).imp_left (List.mem_cons_of_mem d)
    rw [quoteSingle] at h
    split at h
    · rcases List.mem_cons.1 h with rfl | h
      · exact .inl List.mem_cons_self
      · exact later h
    · simp only [List.mem_append] at h
      rcases h with (h | h) | h
      · exact .inr (.inl (hindent h))
      · split at h <;> simp_all
      · exact later h

theorem mem_blockLines {indent : ℕ} {fresh : Bool} {cs : List Char} {c : Char}
    (h : c ∈ blockLines indent fresh cs) : c ∈ cs ∨ c = ' ' := by
  induction cs generalizing fresh with
  | nil => cases h
  | cons d cs ih =>
    have later {fresh : Bool} (h : c ∈ blockLines indent fresh cs) : c ∈ d :: cs ∨ c = ' ' :=
      (ih h).imp_left (List.mem_cons_of_mem d)
    rw [blockLines] at h
    split at h
    · rcases List.mem_cons.1 h with rfl | h
      · exact .inl List.mem_cons_self
      · exact later h
    · rcases List.mem_append.1 h with h | h
      · cases fresh with
        | false => cases h
        | true => exact .inr (List.eq_of_mem_replicate h)
      · rcases List.mem_cons.1 h with rfl | h
        · exact .inl List.mem_cons_self
        · exact later h

theorem isPrintable_toUpper_digitChar :
    ∀ d < 16, isPrintable (Nat.digitChar d).toUpper = true := by
  decide

theorem isPrintable_of_mem_upperHex {width n : ℕ} {c : Char} (h : c ∈ upperHex width n) :
    isPrintable c = true := by
  rcases List.mem_append.1 h with h | h
  · rw [List.eq_of_mem_replicate h]
    rfl
  · clear * - h
    induction n using Nat.strongRecOn with
    | ind n ih =>
      by_cases hn : n < 16
      · rw [Nat.toDigits_of_lt_base hn] at h
        rw [List.mem_singleton.1 h]
        exact isPrintable_toUpper_digitChar n hn
      · rw [Nat.toDigits_of_base_le (by decide) (by omega), List.map_append] at h
        rcases List.mem_append.1 h with h | h
        · exact ih (n / 16) (by omega) h
        · rw [List.mem_singleton.1 h]
          exact isPrintable_toUpper_digitChar (n % 16) (by omega)

theorem isPrintable_of_mem_escape {c d : Char} (h : d ∈ escape c) : isPrintable d = true := by
  have coded {mark : Char} {width n : ℕ} (hmark : isPrintable mark = true)
      (h : d ∈ '\\' :: mark :: upperHex width n) : isPrintable d = true := by
    rcases List.mem_cons.1 h with rfl | h
    · rfl
    · rcases List.mem_cons.1 h with rfl | h
      · exact hmark
      · exact isPrintable_of_mem_upperHex h
  unfold escape at h
  split at h
  case h_15 =>
    split at h
    · next printable => rwa [List.mem_singleton.1 h]
    · split at h
      · exact coded rfl h
      · split at h <;> exact coded rfl h
  all_goals
    simp only [List.mem_cons, List.not_mem_nil, or_false] at h
    rcases h with rfl | rfl <;> rfl

theorem all_isReadable_blockHints (cs : List Char) : (blockHints cs).all isReadable = true := by
  unfold blockHints
  generalize (cs.head?.any fun c => isSpace c || isBreak c) = leading
  cases cs.reverse with
  | nil => cases leading <;> rfl
  | cons c before =>
    dsimp only
    cases isBreak c <;> cases before.head?.all isBreak <;> cases leading <;> rfl

theorem isReadable_of_mem_scalar {indent : ℕ} {cs : List Char} {c : Char}
    (h : c ∈ scalar indent cs) : isReadable c = true := by
  have suits := suits_style cs
  unfold scalar at h
  cases hstyle : style cs with
  | plain =>
    rw [hstyle] at suits h
    rcases List.mem_append.1 h with h | h
    · exact isReadable_of_isPrintable (suits.printable c h)
    · rw [List.mem_singleton.1 h]
      rfl
  | singleQuoted =>
    rw [hstyle] at suits h
    simp only [List.cons_append, List.mem_cons, List.mem_append, List.not_mem_nil, or_false] at h
    rcases h with rfl | h | rfl | rfl
    · rfl
    · rcases mem_quoteSingle h with h | rfl | rfl
      · exact isReadable_of_isPrintable (suits.printable c h)
      · rfl
      · rfl
    · rfl
    · rfl
  | doubleQuoted =>
    rw [hstyle] at h
    simp only [List.cons_append, List.mem_cons, List.mem_append, List.mem_flatMap, List.not_mem_nil,
      or_false] at h
    rcases h with rfl | ⟨d, -, h⟩ | rfl | rfl
    · rfl
    · exact isReadable_of_isPrintable (isPrintable_of_mem_escape h)
    · rfl
    · rfl
  | literal =>
    rw [hstyle] at suits h
    simp only [List.cons_append, List.mem_cons, List.mem_append, List.append_assoc] at h
    rcases h with rfl | h | rfl | h | h
    · rfl
    · exact List.all_eq_true.1 (all_isReadable_blockHints cs) c h
    · rfl
    · rcases mem_blockLines h with h | rfl
      · exact isReadable_of_isPrintable (suits.2 c h)
      · rfl
    · split at h
      · cases h
      · rw [List.mem_singleton.1 h]
        rfl

theorem all_isReadable_scalar (indent : ℕ) (cs : List Char) :
    (scalar indent cs).all isReadable = true :=
  List.all_eq_true.2 fun _ => isReadable_of_mem_scalar

theorem all_isReadable_indentation (indent : ℕ) : (indentation indent).all isReadable = true :=
  List.all_eq_true.2 fun c h => by
    rw [List.eq_of_mem_replicate h]
    rfl

end Readable

section Entries

variable {fuel column : ℕ} {name : String} {rest : List Char}

/-- That `written`, with a colon behind it, is the key `name`. -/
structure WritesKey (written : List Char) (name : String) : Prop where
  head : ∃ c cs, written = c :: cs ∧ c ≠ ' ' ∧ c ≠ '-' ∧ isBreak c = false
  reads : ∀ cs, endsToken cs → key? (written ++ ':' :: cs) = some (name, cs)

def isKeyChar (c : Char) : Bool :=
  !isBlankOrBreak c && !reserved.contains c && c != '-' && c != '?' && c != ':'

theorem readPlain_word {cs : List Char} (word : ∀ c ∈ cs, isKeyChar c = true) (blank : Bool)
    (ends : endsToken rest = true) :
    readPlain blank (cs ++ ':' :: rest) = (cs, ':' :: rest) := by
  induction cs generalizing blank with
  | nil => simp [readPlain, ends]
  | cons c cs ih =>
    obtain ⟨hc, hcs⟩ := List.forall_mem_cons.1 word
    simp only [isKeyChar, isBlankOrBreak, reserved, List.contains_cons, Bool.and_eq_true,
      Bool.not_eq_true', Bool.or_eq_false_iff, bne_iff_ne] at hc
    have goesOn : ¬(isBreak c || c == ':' && endsToken (cs ++ ':' :: rest) ||
        c == '#' && blank) = true := by
      simp [hc]
    rw [List.cons_append, readPlain, if_neg goesOn, ih hcs]

theorem writesKey_of_word (nonempty : name.toList ≠ [])
    (word : name.toList.all isKeyChar = true) : WritesKey name.toList name := by
  rw [List.all_eq_true] at word
  obtain ⟨c, cs, hname⟩ := List.exists_cons_of_ne_nil nonempty
  have first := word c (by simp [hname])
  simp only [isKeyChar, Bool.and_eq_true, Bool.not_eq_true', bne_iff_ne] at first
  obtain ⟨⟨⟨⟨visible, unreserved⟩, hyphen⟩, question⟩, colon⟩ := first
  have starts (rest : List Char) : startsPlain (name.toList ++ ':' :: rest) = true := by
    rw [hname, List.cons_append, startsPlain, visible, unreserved]
    simp [hyphen, question, colon]
  have trimmed : trimBlanks name.toList = name.toList := by
    rw [trimBlanks, List.rdropWhile_eq_self_iff]
    intro nonempty blank
    have last := word _ (List.getLast_mem nonempty)
    simp only [isBlank, Bool.or_eq_true, beq_iff_eq] at blank
    rcases blank with blank | blank <;> simp [blank, isKeyChar, isBlankOrBreak] at last
  simp only [isBlankOrBreak, Bool.or_eq_false_iff, beq_eq_false_iff_ne] at visible
  refine ⟨⟨c, cs, hname, visible.1.1.1, hyphen, visible.1.2⟩, fun rest ends => ?_⟩
  rw [key?, if_pos (starts rest), readPlain_word word false ends]
  simp [trimmed]

theorem WritesKey.below {written : List Char} (key : WritesKey written name) {k bound : ℕ}
    (low : k < bound) (cs : List Char) : Below bound (indentation k ++ (written ++ cs)) := by
  obtain ⟨c, before, rfl, blank, -, noBreak⟩ := key.head
  exact .token low blank noBreak

theorem WritesKey.nextToken {written : List Char} (key : WritesKey written name) (n k : ℕ)
    (cs : List Char) :
    nextToken n (indentation k ++ (written ++ cs)) = (n + k, written ++ cs) := by
  obtain ⟨c, before, rfl, blank, -, noBreak⟩ := key.head
  exact nextToken_indentation blank noBreak n k _

theorem WritesKey.startsItem_eq_false {written : List Char} (key : WritesKey written name)
    (cs : List Char) : startsItem (written ++ cs) = false := by
  obtain ⟨c, before, rfl, -, hyphen, -⟩ := key.head
  simp [startsItem, hyphen]

theorem readEntries_text {written : List Char} (key : WritesKey written name) (text : List Char)
    (below : Below (column + 2) rest) :
    readEntries (fuel + 1) column column
        (written ++ ':' :: ' ' :: (scalar (column + 2) text ++ rest)) =
      (readEntries fuel column (nextToken 0 rest).1 (nextToken 0 rest).2).map
        fun p => ((name, .text (String.ofList text)) :: p.1, p.2) := by
  obtain ⟨c, cs, hscalar, visible⟩ := exists_scalar_eq_cons (column + 2) text
  have hread := readInline_scalar text below
  rw [hscalar, List.cons_append] at hread ⊢
  simp only [isBlankOrBreak, Bool.or_eq_false_iff] at visible
  obtain ⟨⟨⟨blank, tab⟩, noBreak⟩, -⟩ := visible
  have skipped : (' ' :: c :: (cs ++ rest)).dropWhile isBlank = c :: (cs ++ rest) := by
    simp [isBlank, blank, tab]
  have inline : ¬(c :: (cs ++ rest)).head?.all isBreak = true := by simp [noBreak]
  rw [readEntries, if_pos (by simp), key.reads _ rfl]
  simp only [Option.bind_eq_bind, Option.bind_some, skipped, if_neg inline, hread]
  cases readEntries fuel column (nextToken 0 rest).1 (nextToken 0 rest).2 <;> rfl

theorem readEntries_below (below : Below column rest) :
    readEntries (fuel + 1) column (nextToken 0 rest).1 (nextToken 0 rest).2 =
      some ([], nextToken 0 rest) := by
  cases below with
  | nil => rw [readEntries, if_neg (by simp [nextToken])]
  | token low blank noBreak =>
    rw [nextToken_indentation blank noBreak, readEntries, if_neg (by simp; omega)]

theorem readItems_below (below : Below column rest) :
    readItems (fuel + 1) column (nextToken 0 rest).1 (nextToken 0 rest).2 =
      some ([], nextToken 0 rest) := by
  cases below with
  | nil => rw [readItems, if_neg (by simp [nextToken, startsItem])]
  | token low blank noBreak =>
    rw [nextToken_indentation blank noBreak, readItems, if_neg (by simp; omega)]

theorem readEntries_node {written cs : List Char} (key : WritesKey written name)
    (next : nextToken 0 rest = (column, cs)) (item : startsItem cs = true) :
    readEntries (fuel + 1) column column (written ++ ':' :: '\n' :: rest) =
      (readNode fuel column column cs).bind fun p =>
        (readEntries fuel column p.2.1 p.2.2).map fun q => ((name, p.1) :: q.1, q.2) := by
  have hnext : nextToken 0 ('\n' :: rest) = (column, cs) := next
  rw [readEntries, if_pos (by simp), key.reads _ rfl]
  have skipped : ('\n' :: rest).dropWhile isBlank = '\n' :: rest := rfl
  have inline : ('\n' :: rest).head?.all isBreak = true := rfl
  have nested : (decide (column < column) || column == column && true) = true := by simp
  simp only [Option.bind_eq_bind, Option.bind_some, skipped, if_pos inline, hnext, item,
    if_pos nested]
  cases readNode fuel column column cs with
  | none => rfl
  | some p =>
    obtain ⟨value, here, rest⟩ := p
    simp only [Option.bind_some]
    cases readEntries fuel column here rest <;> rfl

theorem readItems_item {inner : List Char}
    (hinner : nextToken (column + 1) (' ' :: inner) = (column + 2, inner)) :
    readItems (fuel + 1) column column ('-' :: ' ' :: inner) =
      (readNode fuel column (column + 2) inner).bind fun p =>
        (readItems fuel column p.2.1 p.2.2).map fun q => (p.1 :: q.1, q.2) := by
  rw [readItems, if_pos (by simp [startsItem, endsToken, isBlankOrBreak])]
  have deeper : column < column + 2 := by omega
  simp only [List.tail_cons, hinner, if_pos deeper, Option.bind_eq_bind]
  cases readNode fuel column (column + 2) inner with
  | none => rfl
  | some p =>
    obtain ⟨item, here, rest⟩ := p
    simp only [Option.bind_some]
    cases readItems fuel column here rest <;> rfl

end Entries

end Yaml

namespace Snapshot

mutual

def toTree : Snapshot → Yaml.Tree
  | ⟨nodeType, label, children⟩ =>
    .mapping [("node_type", .text nodeType), ("label", .text label),
      ("children", .sequence (toTrees children))]

def toTrees : List Snapshot → List Yaml.Tree
  | [] => []
  | s :: ss => s.toTree :: toTrees ss

end

mutual

theorem toTree_inj : ∀ {s t : Snapshot}, s.toTree = t.toTree → s = t
  | ⟨_, _, children⟩, ⟨_, _, children'⟩, h => by
    simp only [toTree, Yaml.Tree.mapping.injEq, List.cons.injEq, Prod.mk.injEq,
      Yaml.Tree.text.injEq, Yaml.Tree.sequence.injEq, true_and, and_true] at h
    obtain ⟨rfl, rfl, h⟩ := h
    rw [toTrees_inj h]

theorem toTrees_inj : ∀ {ss ts : List Snapshot}, toTrees ss = toTrees ts → ss = ts
  | [], [], _ => rfl
  | s :: ss, t :: ts, h => by
    rw [toTrees, toTrees, List.cons.injEq] at h
    rw [toTree_inj h.1, toTrees_inj h.2]
  | [], _ :: _, h => by simp [toTrees] at h
  | _ :: _, [], h => by simp [toTrees] at h

end

mutual

def nodes : Snapshot → ℕ
  | ⟨_, _, children⟩ => nodesOf children + 1

def nodesOf : List Snapshot → ℕ
  | [] => 0
  | s :: ss => s.nodes + nodesOf ss

end

section RoundTrip

open Yaml

theorem writesKey_nodeType : WritesKey "node_type".toList "node_type" :=
  writesKey_of_word (by decide) (by decide)

theorem writesKey_label : WritesKey "label".toList "label" :=
  writesKey_of_word (by decide) (by decide)

theorem writesKey_children : WritesKey "children".toList "children" :=
  writesKey_of_word (by decide) (by decide)

theorem nodes_pos (s : Snapshot) : 0 < s.nodes := by
  obtain ⟨nodeType, label, children⟩ := s
  rw [nodes]
  omega

def childrenLines (indent : ℕ) (children : List Snapshot) (rest : List Char) : List Char :=
  match children with
  | [] => " []\n".toList ++ rest
  | s :: ss => '\n' :: yamlItems indent (s :: ss) rest

theorem yamlLines_eq (indent : ℕ) (nodeType label : String) (children : List Snapshot)
    (rest : List Char) :
    yamlLines indent ⟨nodeType, label, children⟩ rest =
      "node_type".toList ++ ':' :: ' ' :: (scalar (indent + 2) nodeType.toList ++
        (indentation indent ++ ("label".toList ++ ':' :: ' ' ::
          (scalar (indent + 2) label.toList ++ (indentation indent ++
            ("children".toList ++ ':' :: childrenLines indent children rest)))))) := by
  have hnodeType : "node_type: ".toList = "node_type".toList ++ [':', ' '] := rfl
  have hlabel : "label: ".toList = "label".toList ++ [':', ' '] := rfl
  have hchildren : "children:\n".toList = "children".toList ++ [':', '\n'] := rfl
  have hnone : "children: []\n".toList = "children".toList ++ ':' :: " []\n".toList := rfl
  rw [yamlLines.eq_def]
  cases children <;>
    simp only [hnodeType, hlabel, hchildren, hnone, childrenLines, List.append_assoc,
      List.cons_append, List.nil_append]

theorem nextToken_yamlItems (indent : ℕ) (s : Snapshot) (ss : List Snapshot) (rest : List Char) :
    nextToken 0 (yamlItems indent (s :: ss) rest) =
      (indent, '-' :: ' ' :: yamlLines (indent + 2) s (yamlItems indent ss rest)) := by
  rw [yamlItems, nextToken_indentation (by decide) (by decide), Nat.zero_add]

theorem nextToken_yamlLines (column indent : ℕ) (s : Snapshot) (rest : List Char) :
    nextToken column (' ' :: yamlLines indent s rest) = (column + 1, yamlLines indent s rest) := by
  obtain ⟨nodeType, label, children⟩ := s
  rw [yamlLines_eq]
  exact writesKey_nodeType.nextToken column 1 _

theorem below_yamlItems {indent bound : ℕ} (low : indent < bound) (ss : List Snapshot)
    {rest : List Char} (below : Below indent rest) : Below bound (yamlItems indent ss rest) := by
  cases ss with
  | nil =>
    rw [yamlItems]
    exact below.mono low.le
  | cons s ss =>
    rw [yamlItems]
    exact .token low (by decide) (by decide)

theorem readEntries_noChildren {fuel indent : ℕ} {rest : List Char} (below : Below indent rest) :
    readEntries (fuel + 2) indent indent
        ("children".toList ++ ':' :: childrenLines indent [] rest) =
      some ([("children", .sequence [])], nextToken 0 rest) := by
  have skipped :
      (childrenLines indent [] rest).dropWhile isBlank = '[' :: ']' :: '\n' :: rest := rfl
  have inline : ¬('[' :: ']' :: '\n' :: rest).head?.all isBreak = true := by
    simp [isBreak]
  have hread : readInline indent ('[' :: ']' :: '\n' :: rest) =
      some (.sequence [], nextToken 0 rest) := rfl
  rw [readEntries, if_pos (by simp), writesKey_children.reads _ rfl]
  simp only [Option.bind_eq_bind, Option.bind_some, skipped, if_neg inline, hread,
    readEntries_below below]
  rfl

mutual

theorem readNode_yamlLines : ∀ (s : Snapshot) (fuel parent indent : ℕ) (rest : List Char),
    7 * s.nodes ≤ fuel + 1 → Below indent rest →
      readNode fuel parent indent (yamlLines indent s rest) = some (s.toTree, nextToken 0 rest)
  | ⟨nodeType, label, children⟩, fuel, parent, indent, rest, enough, below => by
    rw [nodes] at enough
    obtain ⟨fuel, rfl⟩ : ∃ f, fuel = f + 6 := ⟨fuel - 6, by omega⟩
    have isNode : startsItem (yamlLines indent ⟨nodeType, label, children⟩ rest) = false := by
      rw [yamlLines_eq]
      exact writesKey_nodeType.startsItem_eq_false _
    have hasKey : (key? (yamlLines indent ⟨nodeType, label, children⟩ rest)).isSome = true := by
      rw [yamlLines_eq, writesKey_nodeType.reads _ rfl]
      rfl
    have items := readItems_yamlItems children (fuel + 1) indent rest (by omega) below
    have entry : readEntries (fuel + 3) indent indent
        ("children".toList ++ ':' :: childrenLines indent children rest) =
          some ([("children", .sequence (toTrees children))], nextToken 0 rest) := by
      cases children with
      | nil => exact readEntries_noChildren below
      | cons s ss =>
        rw [nextToken_yamlItems] at items
        have item : startsItem
            ('-' :: ' ' :: yamlLines (indent + 2) s (yamlItems indent ss rest)) = true := rfl
        rw [childrenLines, readEntries_node writesKey_children (nextToken_yamlItems ..) item,
          readNode, if_pos item, items]
        simp only [Option.map_some, Option.bind_some, readEntries_below below]
    rw [readNode, isNode, if_neg (by decide), if_pos hasKey, yamlLines_eq,
      readEntries_text writesKey_nodeType _ (writesKey_label.below (by omega) _),
      writesKey_label.nextToken, Nat.zero_add,
      readEntries_text writesKey_label _ (writesKey_children.below (by omega) _),
      writesKey_children.nextToken, Nat.zero_add, entry]
    simp only [Option.map_some, toTree, String.ofList_toList]

theorem readItems_yamlItems : ∀ (ss : List Snapshot) (fuel indent : ℕ) (rest : List Char),
    7 * nodesOf ss < fuel → Below indent rest →
      readItems fuel indent (nextToken 0 (yamlItems indent ss rest)).1
          (nextToken 0 (yamlItems indent ss rest)).2 =
        some (toTrees ss, nextToken 0 rest)
  | [], fuel + 1, indent, rest, _, below => by
    rw [yamlItems, readItems_below below]
    rfl
  | s :: ss, fuel + 1, indent, rest, enough, below => by
    rw [nodesOf] at enough
    have positive := s.nodes_pos
    have node := readNode_yamlLines s fuel indent (indent + 2) (yamlItems indent ss rest)
      (by omega) (below_yamlItems (by omega) ss below)
    have items := readItems_yamlItems ss fuel indent rest (by omega) below
    rw [nextToken_yamlItems, readItems_item (nextToken_yamlLines ..), node]
    simp only [Option.bind_some, items, Option.map_some, toTrees]

end

mutual

theorem nodes_le_length : ∀ (s : Snapshot) (indent : ℕ) (rest : List Char),
    7 * s.nodes + rest.length ≤ (yamlLines indent s rest).length
  | ⟨nodeType, label, children⟩, indent, rest => by
    have items := nodesOf_le_length children indent rest
    have hvalue :
        7 * nodesOf children + rest.length ≤ (childrenLines indent children rest).length := by
      cases children with
      | nil =>
        rw [nodesOf, childrenLines, List.length_append]
        omega
      | cons s ss =>
        rw [childrenLines, List.length_cons]
        omega
    have hkey : "node_type".toList.length = 9 := rfl
    rw [nodes, yamlLines_eq]
    simp only [List.length_append, List.length_cons, hkey]
    omega

theorem nodesOf_le_length : ∀ (ss : List Snapshot) (indent : ℕ) (rest : List Char),
    7 * nodesOf ss + rest.length ≤ (yamlItems indent ss rest).length
  | [], indent, rest => by simp [nodesOf, yamlItems]
  | s :: ss, indent, rest => by
    have node := nodes_le_length s (indent + 2) (yamlItems indent ss rest)
    have items := nodesOf_le_length ss indent rest
    rw [nodesOf, yamlItems]
    simp only [List.length_append, List.length_cons]
    omega

end

mutual

theorem all_isReadable_yamlLines : ∀ (s : Snapshot) (indent : ℕ) (rest : List Char),
    (yamlLines indent s rest).all isReadable = rest.all isReadable
  | ⟨nodeType, label, children⟩, indent, rest => by
    have items := all_isReadable_yamlItems children indent rest
    have hvalue : (childrenLines indent children rest).all isReadable = rest.all isReadable := by
      cases children with
      | nil => rw [childrenLines, List.all_append]; rfl
      | cons s ss => rw [childrenLines, List.all_cons, items]; rfl
    have hnodeType : "node_type".toList.all isReadable = true := by decide
    have hlabel : "label".toList.all isReadable = true := by decide
    have hchildren : "children".toList.all isReadable = true := by decide
    have hcolon : isReadable ':' = true := rfl
    have hblank : isReadable ' ' = true := rfl
    rw [yamlLines_eq]
    simp only [List.all_append, List.all_cons, all_isReadable_scalar, all_isReadable_indentation,
      hnodeType, hlabel, hchildren, hcolon, hblank, hvalue, Bool.true_and]

theorem all_isReadable_yamlItems : ∀ (ss : List Snapshot) (indent : ℕ) (rest : List Char),
    (yamlItems indent ss rest).all isReadable = rest.all isReadable
  | [], indent, rest => by rw [yamlItems]
  | s :: ss, indent, rest => by
    have hhyphen : isReadable '-' = true := rfl
    have hblank : isReadable ' ' = true := rfl
    rw [yamlItems]
    simp only [List.all_append, List.all_cons, all_isReadable_indentation, hhyphen, hblank,
      all_isReadable_yamlLines s, all_isReadable_yamlItems ss, Bool.true_and]

end

theorem read?_yamlText (s : Snapshot) : Yaml.read? s.yamlText = some s.toTree := by
  have readable : (s.yamlLines 0 []).all isReadable = true :=
    all_isReadable_yamlLines s 0 []
  have enough := s.nodes_le_length 0 []
  have node := readNode_yamlLines s (2 * (s.yamlLines 0 []).length + 2) 0 0 [] (by omega) .nil
  have start : nextToken 0 (s.yamlLines 0 []) = (0, s.yamlLines 0 []) := by
    obtain ⟨nodeType, label, children⟩ := s
    rw [yamlLines_eq]
    exact writesKey_nodeType.nextToken 0 0 _
  simp only [Yaml.read?, yamlText, String.toList_ofList, readable, if_true, start, node]
  rfl

end RoundTrip

/-- The YAML format never fails, and reading its text as YAML gives back the tree of the snapshot it
was written for, so that no other snapshot has the same text. -/
theorem yaml_round_trip (s : Snapshot) :
    ∃ text, FormatRegistry.builtin.serialize "yaml" s = .ok text ∧ Format.yaml.render s = .ok text ∧
      Yaml.read? text = some s.toTree ∧ ∀ s', Format.yaml.render s' = .ok text → s' = s := by
  refine ⟨s.yamlText, rfl, rfl, read?_yamlText s, fun s' h => ?_⟩
  have htext : s'.yamlText = s.yamlText := by simpa [Format.yaml] using h
  have hread := read?_yamlText s'
  rw [htext, read?_yamlText, Option.some.injEq] at hread
  exact (toTree_inj hread).symm

end Snapshot

end PegGrammar
