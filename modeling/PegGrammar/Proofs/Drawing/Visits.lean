import Mathlib.Data.List.Lex
import PegGrammar.Node

/-!
Places in a tree. A node is named by its address, the children to go to from the root on. Visits in
the order of the addresses come to every node once, and to each before the nodes below it.
-/

namespace PegGrammar.Snapshot

/-- The node at an address, which names the child to go to, step by step from the root. -/
def at? : Snapshot → List Nat → Option Snapshot
  | s, [] => some s
  | s, i :: address => s.children[i]?.bind fun child => child.at? address

structure Visit where
  address : List Nat
  node : Snapshot

def Visit.below (i : Nat) (v : Visit) : Visit := ⟨i :: v.address, v.node⟩

mutual

def visits : Snapshot → List Visit
  | ⟨nodeType, label, children⟩ => ⟨[], ⟨nodeType, label, children⟩⟩ :: visitsFrom 0 children

def visitsFrom : Nat → List Snapshot → List Visit
  | _, [] => []
  | i, s :: ss => s.visits.map (Visit.below i) ++ visitsFrom (i + 1) ss

end

theorem visits_eq (s : Snapshot) : s.visits = ⟨[], s⟩ :: visitsFrom 0 s.children := by
  obtain ⟨nodeType, label, children⟩ := s
  rw [visits]

theorem exists_of_mem_visitsFrom {i : Nat} {ss : List Snapshot} {v : Visit}
    (h : v ∈ visitsFrom i ss) : ∃ s ∈ ss, ∃ j ≥ i, ∃ w ∈ s.visits, v = w.below j := by
  induction ss generalizing i with
  | nil => cases h
  | cons s ss ih =>
    rw [visitsFrom, List.mem_append] at h
    obtain h | h := h
    · obtain ⟨w, hw, rfl⟩ := List.mem_map.1 h
      exact ⟨s, List.mem_cons_self, i, Nat.le_refl i, w, hw, rfl⟩
    · obtain ⟨t, ht, j, hj, w, hw, rfl⟩ := ih h
      exact ⟨t, List.mem_cons_of_mem s ht, j, by omega, w, hw, rfl⟩

theorem address_ne_nil {i : Nat} {ss : List Snapshot} {v : Visit} (h : v ∈ visitsFrom i ss) :
    v.address ≠ [] := by
  obtain ⟨s, -, j, -, w, -, rfl⟩ := exists_of_mem_visitsFrom h
  exact List.cons_ne_nil j w.address

mutual

theorem mem_visits_iff : ∀ {s : Snapshot} {v : Visit}, v ∈ s.visits ↔ s.at? v.address = some v.node
  | ⟨nodeType, label, children⟩, ⟨[], node⟩ => by
    have below : ⟨[], node⟩ ∉ visitsFrom 0 children := fun h => address_ne_nil h rfl
    simp [visits, at?, below, eq_comm]
  | ⟨nodeType, label, children⟩, ⟨i :: address, node⟩ => by
    rw [visits, List.mem_cons, mem_visitsFrom_iff]
    simp [at?]

theorem mem_visitsFrom_iff : ∀ {ss : List Snapshot} {i : Nat} {v : Visit}, v ∈ visitsFrom i ss ↔
    ∃ k address, v.address = (i + k) :: address ∧
      (ss[k]?.bind fun s => s.at? address) = some v.node
  | [], i, v => by simp [visitsFrom]
  | s :: ss, i, v => by
    rw [visitsFrom, List.mem_append, mem_visitsFrom_iff, List.mem_map]
    constructor
    · rintro (⟨w, hw, rfl⟩ | ⟨k, address, haddress, hat⟩)
      · exact ⟨0, w.address, rfl, mem_visits_iff.1 hw⟩
      · exact ⟨k + 1, address, by rw [haddress]; congr 1; omega, hat⟩
    · rintro ⟨k, address, haddress, hat⟩
      cases k with
      | zero =>
        refine .inl ⟨⟨address, v.node⟩, mem_visits_iff.2 hat, ?_⟩
        rw [Visit.below, ← Nat.add_zero i, ← haddress]
      | succ k => exact .inr ⟨k, address, by rw [haddress]; congr 1; omega, hat⟩

end

mutual

theorem pairwise_visits : ∀ s : Snapshot, s.visits.Pairwise fun v w => v.address < w.address
  | ⟨nodeType, label, children⟩ => by
    rw [visits, List.pairwise_cons]
    refine ⟨fun v hv => ?_, pairwise_visitsFrom 0 children⟩
    obtain ⟨j, address, hj⟩ := List.exists_cons_of_ne_nil (address_ne_nil hv)
    rw [hj]
    exact List.nil_lt_cons j address

theorem pairwise_visitsFrom : ∀ (i : Nat) (ss : List Snapshot),
    (visitsFrom i ss).Pairwise fun v w => v.address < w.address
  | _, [] => .nil
  | i, s :: ss => by
    rw [visitsFrom, List.pairwise_append]
    refine ⟨(pairwise_visits s).map _ fun v w hlt => ?_, pairwise_visitsFrom (i + 1) ss,
      fun v hv w hw => ?_⟩
    · exact List.cons_lt_cons_iff.2 (.inr ⟨rfl, hlt⟩)
    · obtain ⟨v, -, rfl⟩ := List.mem_map.1 hv
      obtain ⟨-, -, j, hj, w, -, rfl⟩ := exists_of_mem_visitsFrom hw
      exact List.cons_lt_cons_iff.2 (.inl (Nat.lt_of_succ_le hj))

end

def OneLined (s : Snapshot) : Prop := ∀ v ∈ s.visits, '\n' ∉ v.node.label.toList

theorem oneLined_iff {nodeType label : String} {children : List Snapshot} :
    OneLined ⟨nodeType, label, children⟩ ↔
      '\n' ∉ label.toList ∧ ∀ child ∈ children, child.OneLined := by
  have below (i : Nat) (ss : List Snapshot) :
      (∀ v ∈ visitsFrom i ss, '\n' ∉ v.node.label.toList) ↔ ∀ child ∈ ss, child.OneLined := by
    induction ss generalizing i with
    | nil => simp [visitsFrom]
    | cons s ss ih => simp [visitsFrom, or_imp, forall_and, ih, OneLined, Visit.below]
  rw [OneLined, visits, List.forall_mem_cons, below]

end PegGrammar.Snapshot
