/-
  SchemaRecovery.Proofs.LabelOrder

  Which lists can be sorted by their labels: those in which no null stands
  beside another label. A list that can be sorted keeps its entries.
-/
import Mathlib.Data.List.Pairwise
import SchemaRecovery.LabelOrder

namespace SchemaRecovery.Label

variable {α : Type}

/-- Among the labels that satisfy `p` no null stands beside a text. -/
def NullAlone (p : Label → Prop) : Prop := p none → ∀ name, p name → name = none

theorem NullAlone.congr {p q : Label → Prop} (h : ∀ name, p name ↔ q name) :
    NullAlone p ↔ NullAlone q := by
  unfold NullAlone
  simp only [h]

theorem comparable_iff {a b : Label} : comparable a b = true ↔ a ≠ none ∧ b ≠ none := by
  unfold comparable
  rw [Bool.and_eq_true, Option.isSome_iff_ne_none, Option.isSome_iff_ne_none]

/-- Different labels can be put in order unless one of them is null. -/
theorem pairwise_comparable_iff {l : List Label} (hnodup : l.Nodup) :
    (l.Pairwise fun x y => comparable x y = true) ↔ NullAlone (· ∈ l) := by
  constructor
  · intro hpair hnone name hname
    by_contra hne
    have hsymm : Std.Symm fun x y => comparable x y = true := by
      refine ⟨fun x y h => ?_⟩
      rw [comparable_iff] at h ⊢
      exact h.symm
    exact (comparable_iff.mp (hpair.forall hnone hname (Ne.symm hne))).1 rfl
  · intro halone
    refine hnodup.imp_of_mem ?_
    intro x y hx hy hxy
    rw [comparable_iff]
    constructor
    · rintro rfl
      exact hxy (halone hx y hy).symm
    · rintro rfl
      exact hxy (halone hy x hx)

/-- Sorting keeps the entries. -/
theorem perm_of_sortOn {key : α → Label} {l r : List α} (h : sortOn key l = .ok r) : r.Perm l := by
  unfold sortOn at h
  split at h
  · rw [Except.ok.injEq] at h
    rw [← h]
    exact List.mergeSort_perm l _
  · cases h

theorem perm_of_sortOnPair {key : α → Label × Label} {l r : List α}
    (h : sortOnPair key l = .ok r) : r.Perm l := by
  unfold sortOnPair at h
  split at h
  · rw [Except.ok.injEq] at h
    rw [← h]
    exact List.mergeSort_perm l _
  · cases h

/-- Entries with different labels can be sorted exactly if no null is beside
    another label. -/
theorem sortOn_decides {key : α → Label} {l : List α} (hnodup : (l.map key).Nodup) :
    (∃ r, sortOn key l = .ok r ∧ r.Perm l ∧ NullAlone (· ∈ l.map key)) ∨
      (sortOn key l = .error .nullOperand ∧ ¬ NullAlone (· ∈ l.map key)) := by
  rw [← pairwise_comparable_iff hnodup, List.pairwise_map]
  unfold sortOn
  split
  · rename_i hpair
    exact Or.inl ⟨_, rfl, List.mergeSort_perm l _, hpair⟩
  · rename_i hpair
    exact Or.inr ⟨rfl, hpair⟩

/-- Entries can be sorted by pairs of texts. -/
theorem sortOnPair_ok {key : α → Label × Label} {l : List α}
    (h : ∀ a ∈ l, (key a).1 ≠ none ∧ (key a).2 ≠ none) : ∃ r, sortOnPair key l = .ok r := by
  unfold sortOnPair
  rw [if_pos]
  · exact ⟨_, rfl⟩
  · refine List.pairwise_of_forall_mem_list fun a ha b hb => ?_
    unfold pairComparable
    split
    · rw [Bool.or_eq_true, comparable_iff]
      exact Or.inr ⟨(h a ha).2, (h b hb).2⟩
    · rw [comparable_iff]
      exact ⟨(h a ha).1, (h b hb).1⟩

end SchemaRecovery.Label
