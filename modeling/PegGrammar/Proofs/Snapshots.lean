import PegGrammar.Lambda.Grammar
import PegGrammar.Proofs.Numerals
import PegGrammar.Proofs.Quoted

/-!
What snapshots tell. The type of a snapshot names the constructor that a node or a term was made by.
The labels that are needed are those of leaves, where a quoted text or a name is shown as a whole;
the labels above them repeat what the children show. So no two results have the same snapshot, as
long as the values in them have snapshots of their own with types of their own.
-/

namespace PegGrammar

/-- Each value has a snapshot of its own, and one that is not of the type of a generic node. -/
structure Domain.IsFaithful (V : Type) [Domain V] : Prop where
  injective : Function.Injective (Domain.snapshot : V → Snapshot)
  apart : ∀ v : V, (Domain.snapshot v).nodeType ∉ ["Literal", "Char", "Sequence", "Repetition"]

namespace Node

variable {V : Type} [Domain V]

theorem value_of_nodeType (faithful : Domain.IsFaithful V) {n : Node V} {v : V}
    (h : n.snapshot = Domain.snapshot v) : ∃ w, n = .value w := by
  have apart := faithful.apart v
  rw [← h] at apart
  cases n with
  | value w => exact ⟨w, rfl⟩
  | _ => simp [snapshot] at apart

mutual

theorem eq_of_snapshot_eq (faithful : Domain.IsFaithful V) :
    (n m : Node V) → n.snapshot = m.snapshot → n = m
  -- a value on one side is met first, since what its type is depends on the domain
  | .value v, m, h => by
    obtain ⟨w, rfl⟩ := value_of_nodeType faithful h.symm
    rw [faithful.injective h]
  | n, .value w, h => by
    obtain ⟨v, rfl⟩ := value_of_nodeType faithful h
    rw [faithful.injective h]
  | .literal s, .literal t, h => by
    rw [Text.quoteString_injective (congrArg Snapshot.label h)]
  | .char c, .char d, h => by
    rw [Text.quoteChar_injective (congrArg Snapshot.label h)]
  | .sequence ns, .sequence ms, h => by
    rw [eq_of_snapshots_eq faithful ns ms (congrArg Snapshot.children h)]
  | .repetition ns, .repetition ms, h => by
    rw [eq_of_snapshots_eq faithful ns ms (congrArg Snapshot.children h)]
  | .literal _, .char _, h | .literal _, .sequence _, h | .literal _, .repetition _, h
  | .char _, .literal _, h | .char _, .sequence _, h | .char _, .repetition _, h
  | .sequence _, .literal _, h | .sequence _, .char _, h | .sequence _, .repetition _, h
  | .repetition _, .literal _, h | .repetition _, .char _, h | .repetition _, .sequence _, h => by
    simp [snapshot] at h

theorem eq_of_snapshots_eq (faithful : Domain.IsFaithful V) :
    (ns ms : List (Node V)) → snapshots ns = snapshots ms → ns = ms
  | [], [], _ => rfl
  | [], _ :: _, h | _ :: _, [], h => by simp [snapshots] at h
  | n :: ns, m :: ms, h => by
    obtain ⟨hn, hns⟩ := List.cons.inj h
    rw [eq_of_snapshot_eq faithful n m hn, eq_of_snapshots_eq faithful ns ms hns]

end

theorem snapshot_eq_value_iff (faithful : Domain.IsFaithful V) {n : Node V} {v : V} :
    n.snapshot = Domain.snapshot v ↔ n = .value v := by
  constructor
  · exact eq_of_snapshot_eq faithful n (.value v)
  · rintro rfl
    rfl

end Node

namespace Lambda.Term

theorem nodeType_snapshot (t : Term) : t.snapshot.nodeType = t.nodeType := by cases t <;> rfl

theorem nodeType_eq_of_snapshot_eq {t u : Term} (h : t.snapshot = u.snapshot) :
    t.nodeType = u.nodeType := by
  rw [← nodeType_snapshot, h, nodeType_snapshot]

theorem snapshot_injective : Function.Injective snapshot := by
  intro t u h
  induction t generalizing u with
  | zero | truth | falsity =>
    cases u with
    | zero | truth | falsity => simp_all [snapshot, nodeType]
    | _ => exact absurd (nodeType_eq_of_snapshot_eq h) (by simp [nodeType])
  | var name =>
    cases u with
    | var name' =>
      obtain rfl : name = name' := congrArg Snapshot.label h
      rfl
    | _ => exact absurd (nodeType_eq_of_snapshot_eq h) (by simp [nodeType])
  | succ t ih =>
    cases u with
    | succ u =>
      obtain ⟨ht, -⟩ := List.cons.inj (congrArg Snapshot.children h)
      rw [ih ht]
    | _ => exact absurd (nodeType_eq_of_snapshot_eq h) (by simp [nodeType])
  | pred t ih =>
    cases u with
    | pred u =>
      obtain ⟨ht, -⟩ := List.cons.inj (congrArg Snapshot.children h)
      rw [ih ht]
    | _ => exact absurd (nodeType_eq_of_snapshot_eq h) (by simp [nodeType])
  | isZero t ih =>
    cases u with
    | isZero u =>
      obtain ⟨ht, -⟩ := List.cons.inj (congrArg Snapshot.children h)
      rw [ih ht]
    | _ => exact absurd (nodeType_eq_of_snapshot_eq h) (by simp [nodeType])
  | abs param body ih =>
    cases u with
    | abs param' body' =>
      obtain ⟨hparam, hrest⟩ := List.cons.inj (congrArg Snapshot.children h)
      obtain ⟨hbody, -⟩ := List.cons.inj hrest
      obtain rfl : param = param' := congrArg Snapshot.label hparam
      rw [ih hbody]
    | _ => exact absurd (nodeType_eq_of_snapshot_eq h) (by simp [nodeType])
  | app left right ihl ihr =>
    cases u with
    | app left' right' =>
      obtain ⟨hleft, hrest⟩ := List.cons.inj (congrArg Snapshot.children h)
      obtain ⟨hright, -⟩ := List.cons.inj hrest
      rw [ihl hleft, ihr hright]
    | _ => exact absurd (nodeType_eq_of_snapshot_eq h) (by simp [nodeType])
  | cond c t e ihc iht ihe =>
    cases u with
    | cond c' t' e' =>
      obtain ⟨hc, hrest⟩ := List.cons.inj (congrArg Snapshot.children h)
      obtain ⟨ht, hlast⟩ := List.cons.inj hrest
      obtain ⟨he, -⟩ := List.cons.inj hlast
      rw [ihc hc, iht ht, ihe he]
    | _ => exact absurd (nodeType_eq_of_snapshot_eq h) (by simp [nodeType])

theorem isFaithful : Domain.IsFaithful Term where
  injective := snapshot_injective
  apart t := by
    change t.snapshot.nodeType ∉ _
    rw [nodeType_snapshot]
    cases t <;> simp [nodeType]

end Lambda.Term

namespace Numeral

theorem display_injective : Function.Injective display := by
  intro n m h
  have read := int64?_eq_some_iff.2 (writes_display n)
  rw [h, int64?_eq_some_iff.2 (writes_display m)] at read
  exact (Option.some.inj read).symm

theorem isFaithful : Domain.IsFaithful Int64 where
  injective _ _ h := display_injective (congrArg Snapshot.label h)
  apart _ := by simp [Domain.snapshot]

end Numeral

/-- Different results have different snapshots, for terms and for integers, and only a value has the
snapshot of a value. The quoted forms that label generic nodes are those of one text or character. -/
theorem snapshot_determines_node :
    Function.Injective (Node.snapshot : Node Lambda.Term → Snapshot) ∧
    Function.Injective (Node.snapshot : Node Int64 → Snapshot) ∧
    Function.Injective Text.quoteString ∧ Function.Injective Text.quoteChar ∧
    (∀ (n : Node Lambda.Term) (t : Lambda.Term), n.snapshot = Domain.snapshot t ↔ n = .value t) ∧
    ∀ (n : Node Int64) (i : Int64), n.snapshot = Domain.snapshot i ↔ n = .value i :=
  ⟨Node.eq_of_snapshot_eq Lambda.Term.isFaithful, Node.eq_of_snapshot_eq Numeral.isFaithful,
    Text.quoteString_injective, Text.quoteChar_injective,
    fun _ _ => Node.snapshot_eq_value_iff Lambda.Term.isFaithful,
    fun _ _ => Node.snapshot_eq_value_iff Numeral.isFaithful⟩

end PegGrammar
