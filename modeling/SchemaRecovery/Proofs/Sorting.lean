/-
  SchemaRecovery.Proofs.Sorting

  Sorting two lists side by side. Lists that match entry by entry and have the
  same labels there still match when they are sorted (`follows_sortOnPair`).
  If the labels are all different, lists that match in some order only come to
  match entry by entry (`follows_sortOn`).
-/
import Mathlib.Data.List.Nodup
import SchemaRecovery.Proofs.LabelOrder
import SchemaRecovery.Proofs.Simulation

namespace SchemaRecovery

/-! ## The order of labels -/

namespace Text

variable {s t u : Text}

theorem le_iff : le s t = true ↔ precedes t s = false := by
  unfold le
  rw [Bool.not_eq_true']

theorem le_trans (h : le s t = true) (h' : le t u = true) : le s u = true := by
  rw [le_iff] at h h' ⊢
  by_contra hus
  rw [Bool.not_eq_false] at hus
  by_cases htu : t = u
  · rw [htu, hus] at h
    cases h
  · have hlt := precedes_trans (precedes_connected h' (Ne.symm htu)) hus
    rw [h] at hlt
    cases hlt

theorem le_total (s t : Text) : (le s t || le t s) = true := by
  rw [Bool.or_eq_true, le_iff, le_iff]
  by_contra hnot
  rw [not_or, Bool.not_eq_false, Bool.not_eq_false] at hnot
  have hself := precedes_trans hnot.1 hnot.2
  rw [precedes_irrefl] at hself
  cases hself

theorem le_antisymm (h : le s t = true) (h' : le t s = true) : s = t := by
  rw [le_iff] at h h'
  by_contra hne
  rw [precedes_connected h (Ne.symm hne)] at h'
  cases h'

end Text

/-- Sets with the same members are the same: there is one way to put these in
    order. -/
theorem OrderedSet.ext_mem {α : Type} [OrderedKey α] {s t : OrderedSet α}
    (h : ∀ x, x ∈ s ↔ x ∈ t) : s = t := by
  have hperm : s.toList.Perm t.toList :=
    (List.perm_ext_iff_of_nodup s.nodup_toList t.nodup_toList).mpr h
  refine ext_toList (List.Perm.eq_of_pairwise ?_ s.ascending t.ascending hperm)
  intro a b _ _ hab hba
  have hself := OrderedKey.trans hab hba
  rw [OrderedKey.irrefl] at hself
  cases hself

theorem OrderedSet.insert_comm {α : Type} [OrderedKey α] [DecidableEq α] (a b : α)
    (s : OrderedSet α) : (s.insert a).insert b = (s.insert b).insert a :=
  ext_mem fun x => by rw [mem_insert, mem_insert, mem_insert, mem_insert, or_left_comm]

/-- Without `a` and `b` a union is that of sets which differ in these two only. -/
theorem OrderedSet.erase_erase_union_congr {α : Type} [OrderedKey α] [DecidableEq α] {a b : α}
    {s s' t t' : OrderedSet α} (hs : ∀ y, y ≠ a → y ≠ b → (y ∈ s' ↔ y ∈ s))
    (ht : ∀ y, y ≠ a → y ≠ b → (y ∈ t' ↔ y ∈ t)) :
    ((s'.union t').erase a).erase b = ((s.union t).erase a).erase b := by
  apply ext_mem
  intro y
  simp only [mem_erase, mem_union, and_assoc]
  apply and_congr_left
  rintro ⟨hya, hyb⟩
  exact or_congr (hs y hya hyb) (ht y hya hyb)

namespace Label

theorem le_trans {a b c : Label} (h : le a b = true) (h' : le b c = true) : le a c = true := by
  cases a with
  | none => rfl
  | some s =>
      cases b with
      | none => cases h
      | some t =>
          cases c with
          | none => cases h'
          | some u => exact Text.le_trans h h'

theorem le_total (a b : Label) : (le a b || le b a) = true := by
  cases a with
  | none => rfl
  | some s =>
      cases b with
      | none => rfl
      | some t => exact Text.le_total s t

theorem le_antisymm {a b : Label} (h : le a b = true) (h' : le b a = true) : a = b := by
  cases a with
  | none =>
      cases b with
      | none => rfl
      | some t => cases h'
  | some s =>
      cases b with
      | none => cases h
      | some t => exact congrArg some (Text.le_antisymm h h')

end Label

/-! ## Matching lists -/

section Match

variable {α β : Type} {R : α → β → Prop} {l : List α} {l' : List β}

/-- Lists that match are the two sides of a list of related pairs. -/
theorem exists_pairs (h : List.Forall₂ R l l') :
    ∃ zs : List (α × β), l = zs.map (·.1) ∧ l' = zs.map (·.2) ∧ ∀ z ∈ zs, R z.1 z.2 := by
  induction h with
  | nil => exact ⟨[], rfl, rfl, by simp⟩
  | @cons a b l l' hab _ ih =>
      obtain ⟨zs, rfl, rfl, hall⟩ := ih
      exact ⟨(a, b) :: zs, rfl, rfl, List.forall_mem_cons.mpr ⟨hab, hall⟩⟩

theorem forall₂_of_pairs {zs : List (α × β)} (h : ∀ z ∈ zs, R z.1 z.2) :
    List.Forall₂ R (zs.map (·.1)) (zs.map (·.2)) := by
  rw [List.forall₂_map_left_iff, List.forall₂_map_right_iff, List.forall₂_same]
  exact h

theorem forall₂_trans {γ : Type} {S : β → γ → Prop} {T : α → γ → Prop} {l'' : List γ}
    (h : List.Forall₂ R l l') (h' : List.Forall₂ S l' l'')
    (hT : ∀ a b c, R a b → S b c → T a c) : List.Forall₂ T l l'' := by
  induction h generalizing l'' with
  | nil =>
      cases h'
      exact .nil
  | cons hab _ ih =>
      cases h' with
      | cons hbc hrest => exact .cons (hT _ _ _ hab hbc) (ih hrest)

/-- Lists that match still do when they are filtered by what related entries agree
    on. -/
theorem forall₂_filter {p : α → Bool} {q : β → Bool} (h : List.Forall₂ R l l')
    (hpq : ∀ a b, R a b → p a = q b) : List.Forall₂ R (l.filter p) (l'.filter q) := by
  induction h with
  | nil => exact .nil
  | cons hab _ ih =>
      rw [List.filter_cons, List.filter_cons, hpq _ _ hab]
      split
      · exact .cons hab ih
      · exact ih

/-- A search by what related entries agree on. -/
theorem find?_of_forall₂ {p : α → Bool} {q : β → Bool} (h : List.Forall₂ R l l')
    (hpq : ∀ a b, R a b → p a = q b) :
    (l.find? p = none ∧ l'.find? q = none) ∨
      ∃ a b, l.find? p = some a ∧ l'.find? q = some b ∧ R a b := by
  induction h with
  | nil => exact Or.inl ⟨rfl, rfl⟩
  | cons hab _ ih =>
      rw [List.find?_cons, List.find?_cons, hpq _ _ hab]
      split
      · exact Or.inr ⟨_, _, rfl, rfl, hab⟩
      · exact ih

/-- Lists that match still do when they are sorted by an order that only looks at
    what related entries agree on. -/
theorem forall₂_mergeSort (h : List.Forall₂ R l l') {le : α → α → Bool} {le' : β → β → Bool}
    (hle : ∀ a b a' b', R a a' → R b b' → le a b = le' a' b') :
    List.Forall₂ R (l.mergeSort le) (l'.mergeSort le') := by
  obtain ⟨zs, rfl, rfl, hall⟩ := exists_pairs h
  -- Both are the sides of the list of pairs, sorted by its first parts.
  have hleft : (zs.mergeSort fun y z => le y.1 z.1).map (·.1) = (zs.map (·.1)).mergeSort le :=
    List.map_mergeSort fun _ _ _ _ => rfl
  have hright : (zs.mergeSort fun y z => le y.1 z.1).map (·.2) = (zs.map (·.2)).mergeSort le' :=
    List.map_mergeSort fun y hy z hz => hle _ _ _ _ (hall y hy) (hall z hz)
  rw [← hleft, ← hright]
  exact forall₂_of_pairs fun z hz => hall z (List.mem_mergeSort.mp hz)

theorem pairwise_of_forall₂ (h : List.Forall₂ R l l') {p : α → α → Prop} {p' : β → β → Prop}
    (hp : ∀ a b a' b', R a a' → R b b' → p a b → p' a' b') (hl : l.Pairwise p) :
    l'.Pairwise p' := by
  obtain ⟨zs, rfl, rfl, hall⟩ := exists_pairs h
  rw [List.pairwise_map] at hl ⊢
  exact hl.imp_of_mem fun hy hz hyz => hp _ _ _ _ (hall _ hy) (hall _ hz) hyz

namespace Label

/-- Sorting by pairs of labels that related entries agree on. -/
theorem follows_sortOnPair {key : α → Label × Label} {key' : β → Label × Label}
    (h : List.Forall₂ R l l') (hkey : ∀ a b, R a b → key a = key' b) :
    Follows (List.Forall₂ R) (sortOnPair key l) (sortOnPair key' l') := by
  unfold sortOnPair
  split
  · rename_i hpair
    rw [if_pos]
    · refine .ok (forall₂_mergeSort h fun a b a' b' ha hb => ?_)
      rw [hkey _ _ ha, hkey _ _ hb]
    · refine pairwise_of_forall₂ h (fun a b a' b' ha hb hab => ?_) hpair
      rw [← hkey _ _ ha, ← hkey _ _ hb]
      exact hab
  · exact .error _

theorem pairwise_of_sortOn {key : α → Label} {r : List α} (h : sortOn key l = .ok r) :
    (r.map key).Pairwise fun a b => le a b = true := by
  unfold sortOn at h
  split at h
  · rw [← Except.ok.inj h, List.pairwise_map]
    apply List.pairwise_mergeSort
    · exact fun _ _ _ => le_trans
    · exact fun _ _ => le_total _ _
  · cases h

/-- Lists in order with the same labels match entry by entry, if they match in
    some order and the labels are different. -/
theorem forall₂_of_ordered {key : α → Label} {key' : β → Label} (h : Shuffled R l l')
    (hkey : ∀ a b, R a b → key a = key' b) (hnodup : (l'.map key').Nodup)
    (hl : (l.map key).Pairwise fun a b => le a b = true)
    (hl' : (l'.map key').Pairwise fun a b => le a b = true) : List.Forall₂ R l l' := by
  obtain ⟨mid, hmid, hp⟩ := h.exists_forall₂
  rw [map_eq_of_forall₂ hmid hkey] at hl
  -- There is one way to put the labels in order.
  have hsame : mid.map key' = l'.map key' :=
    List.Perm.eq_of_pairwise (fun a b _ _ hab hba => le_antisymm hab hba) hl hl' (hp.map key')
  rw [← List.forall₂_eq_eq_eq, List.forall₂_map_left_iff, List.forall₂_map_right_iff] at hsame
  obtain ⟨zs, hzs, hzs', hall⟩ := exists_pairs hsame
  have heq : mid = l' := by
    rw [hzs, hzs']
    refine List.map_congr_left fun z hz => ?_
    refine List.inj_on_of_nodup_map hnodup (hp.mem_iff.mp ?_) ?_ (hall z hz)
    · rw [hzs]
      exact List.mem_map_of_mem hz
    · rw [hzs']
      exact List.mem_map_of_mem hz
  rw [← heq]
  exact hmid

/-- Sorting by labels that related entries agree on and that are all
    different. -/
theorem follows_sortOn {key : α → Label} {key' : β → Label} (h : Shuffled R l l')
    (hkey : ∀ a b, R a b → key a = key' b) (hnodup : (l.map key).Nodup) :
    Follows (List.Forall₂ R) (sortOn key l) (sortOn key' l') := by
  intro r hr
  have hperm := h.map_perm hkey
  have hnodup' := hperm.nodup_iff.mp hnodup
  rcases sortOn_decides hnodup with ⟨-, -, -, halone⟩ | ⟨herr, -⟩
  · rcases sortOn_decides hnodup' with ⟨r', hr', hp', -⟩ | ⟨-, hnot⟩
    · refine ⟨r', hr', forall₂_of_ordered ?_ hkey ?_ (pairwise_of_sortOn hr)
        (pairwise_of_sortOn hr')⟩
      · exact (h.perm_left (perm_of_sortOn hr)).perm hp'.symm
      · exact (hp'.map key').nodup_iff.mpr hnodup'
    · exact absurd ((NullAlone.congr fun n => hperm.mem_iff).mp halone) hnot
  · rw [herr] at hr
    cases hr

end Label

end Match

end SchemaRecovery
