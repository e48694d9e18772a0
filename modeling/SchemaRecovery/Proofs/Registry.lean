/-
  SchemaRecovery.Proofs.Registry

  What each operation on a registry does to its lookups and to its keys. Every
  other module reads registries through these facts and never through their
  entry lists.
-/
import Mathlib.Data.List.Forall2
import SchemaRecovery.Container.Registry

namespace SchemaRecovery.Registry

universe u v w

variable {κ : Type u} {ν : Type v} {ω : Type w}

/-- Registries with the same entries are the same. -/
theorem ext_entries {r r' : Registry κ ν} (h : r.entries = r'.entries) : r = r' := by
  obtain ⟨entries, hnodup⟩ := r
  obtain ⟨entries', hnodup'⟩ := r'
  obtain rfl : entries = entries' := h
  rfl

/-! ## Keys -/

theorem length_keys (r : Registry κ ν) : r.keys.length = r.size := by
  unfold keys size
  rw [List.length_map]

@[simp] theorem keys_mapValues (f : κ → ν → ω) (r : Registry κ ν) :
    (r.mapValues f).keys = r.keys := by
  unfold mapValues keys
  rw [List.map_map]
  rfl

@[simp] theorem keys_filterKeys (p : κ → Bool) (r : Registry κ ν) :
    (r.filterKeys p).keys = r.keys.filter p := by
  unfold filterKeys keys
  rw [List.filter_map]
  rfl

variable [DecidableEq κ]

/-! ## Lookups and entries -/

/-- A lookup finds exactly the stored entries: no key has two of them. -/
theorem find?_eq_some_iff {r : Registry κ ν} {k : κ} {x : ν} :
    r.find? k = some x ↔ (k, x) ∈ r.entries := by
  obtain ⟨entries, hnodup⟩ := r
  unfold find?
  dsimp only at hnodup ⊢
  induction entries with
  | nil => simp
  | cons e rest ih =>
      rw [List.map_cons, List.nodup_cons] at hnodup
      -- The first entry with the key is found, and there is no other.
      by_cases hk : e.1 = k
      · have hnot : (k, x) ∉ rest := by
          intro hmem
          exact hnodup.1 (hk ▸ List.mem_map_of_mem (f := Prod.fst) hmem)
        rw [List.find?_cons_of_pos (by simpa using hk), Option.map_some, Option.some.injEq,
          List.mem_cons]
        constructor
        · intro hx
          exact Or.inl (by rw [← hx, ← hk])
        · intro hx
          rcases hx with hx | hx
          · rw [← hx]
          · exact absurd hx hnot
      · rw [List.find?_cons_of_neg (by simpa using hk), ih hnodup.2, List.mem_cons]
        constructor
        · exact Or.inr
        · intro hx
          rcases hx with hx | hx
          · exact absurd (by rw [← hx]) hk
          · exact hx

theorem mem_keys {r : Registry κ ν} {k : κ} : k ∈ r.keys ↔ ∃ x, r.find? k = some x := by
  unfold keys
  rw [List.mem_map]
  constructor
  · rintro ⟨⟨j, x⟩, hmem, rfl⟩
    exact ⟨x, find?_eq_some_iff.mpr hmem⟩
  · rintro ⟨x, hx⟩
    exact ⟨(k, x), find?_eq_some_iff.mp hx, rfl⟩

theorem mem_values {r : Registry κ ν} {x : ν} : x ∈ r.values ↔ ∃ k, r.find? k = some x := by
  unfold values
  rw [List.mem_map]
  constructor
  · rintro ⟨⟨k, y⟩, hmem, rfl⟩
    exact ⟨k, find?_eq_some_iff.mpr hmem⟩
  · rintro ⟨k, hk⟩
    exact ⟨(k, x), find?_eq_some_iff.mp hk, rfl⟩

theorem contains_iff {r : Registry κ ν} {k : κ} :
    r.contains k = true ↔ ∃ x, r.find? k = some x := by
  rw [← mem_keys]
  unfold contains keys
  simp [List.any_eq_true]

theorem contains_iff_mem_keys {r : Registry κ ν} {k : κ} : r.contains k = true ↔ k ∈ r.keys := by
  rw [contains_iff, ← mem_keys]

theorem contains_congr {α : Type*} {r : Registry κ ν} {r' : Registry κ ω} {f : ν → α} {g : ω → α}
    {k : κ} (h : (r.find? k).map f = (r'.find? k).map g) : r.contains k = r'.contains k := by
  have hsome := congrArg Option.isSome h
  rw [Option.isSome_map, Option.isSome_map] at hsome
  rw [Bool.eq_iff_iff, contains_iff, contains_iff, ← Option.isSome_iff_exists,
    ← Option.isSome_iff_exists, hsome]

omit [DecidableEq κ] in
@[simp] theorem keys_empty : (∅ : Registry κ ν).keys = [] := rfl

@[simp] theorem find?_empty (k : κ) : (∅ : Registry κ ν).find? k = none := rfl

/-- The entries are the values under the keys, in the order of these. -/
theorem entries_eq_filterMap (r : Registry κ ν) :
    r.entries = r.keys.filterMap fun k => (r.find? k).map fun x => (k, x) := by
  unfold keys
  rw [List.filterMap_map]
  have hentry : ∀ e ∈ r.entries,
      ((fun k => (r.find? k).map fun x => (k, x)) ∘ (·.1)) e = some e := by
    intro e he
    have hfind : r.find? e.1 = some e.2 := find?_eq_some_iff.mpr he
    show ((r.find? e.1).map fun x => (e.1, x)) = some e
    rw [hfind]
    rfl
  rw [List.filterMap_congr hentry, List.filterMap_some]

/-- Registries with the same keys in the same order and the same values are the
    same. -/
theorem ext_find? {r r' : Registry κ ν} (hkeys : r.keys = r'.keys)
    (hfind : ∀ k, r.find? k = r'.find? k) : r = r' := by
  apply ext_entries
  rw [r.entries_eq_filterMap, r'.entries_eq_filterMap, hkeys, funext hfind]

/-! ## Changed values and dropped keys -/

@[simp] theorem find?_mapValues (f : κ → ν → ω) (r : Registry κ ν) (k : κ) :
    (r.mapValues f).find? k = (r.find? k).map (f k) := by
  apply Option.ext
  intro y
  rw [find?_eq_some_iff, Option.map_eq_some_iff]
  unfold mapValues
  rw [List.mem_map]
  constructor
  · rintro ⟨⟨j, x⟩, hmem, heq⟩
    cases heq
    exact ⟨x, find?_eq_some_iff.mpr hmem, rfl⟩
  · rintro ⟨x, hx, rfl⟩
    exact ⟨(k, x), find?_eq_some_iff.mp hx, rfl⟩

@[simp] theorem find?_filterKeys (p : κ → Bool) (r : Registry κ ν) (k : κ) :
    (r.filterKeys p).find? k = if p k = true then r.find? k else none := by
  apply Option.ext
  intro x
  rw [find?_eq_some_iff]
  unfold filterKeys
  rw [List.mem_filter]
  by_cases hp : p k = true
  · rw [if_pos hp, find?_eq_some_iff]
    exact and_iff_left hp
  · rw [if_neg hp]
    simp [hp]

@[simp] theorem find?_erase (j k : κ) (r : Registry κ ν) :
    (r.erase j).find? k = if k = j then none else r.find? k := by
  unfold erase
  rw [find?_filterKeys]
  by_cases hk : k = j
  · simp [hk]
  · simp [hk]

@[simp] theorem keys_erase (j : κ) (r : Registry κ ν) :
    (r.erase j).keys = r.keys.filter fun k => decide (k ≠ j) := by
  unfold erase
  rw [keys_filterKeys]

/-! ## Stored entries -/

theorem mem_store {k : κ} {x : ν} {l : List (κ × ν)} (hnodup : (l.map (·.1)).Nodup)
    {e : κ × ν} : e ∈ store k x l ↔ e = (k, x) ∨ e.1 ≠ k ∧ e ∈ l := by
  induction l with
  | nil => simp [store]
  | cons a rest ih =>
      rw [List.map_cons, List.nodup_cons] at hnodup
      rw [store]
      by_cases ha : a.1 = k
      · have hother : ∀ b ∈ rest, b.1 ≠ k := by
          intro b hb hbk
          exact hnodup.1 (List.mem_map.mpr ⟨b, hb, by rw [hbk, ha]⟩)
        rw [if_pos ha, List.mem_cons, List.mem_cons]
        grind
      · rw [if_neg ha, List.mem_cons, List.mem_cons, ih hnodup.2]
        grind

@[simp] theorem find?_insert (k : κ) (x : ν) (r : Registry κ ν) (j : κ) :
    (r.insert k x).find? j = if j = k then some x else r.find? j := by
  apply Option.ext
  intro y
  rw [find?_eq_some_iff]
  unfold insert
  rw [mem_store r.keys_nodup]
  by_cases hj : j = k
  · subst hj
    rw [if_pos rfl]
    simp [eq_comm]
  · rw [if_neg hj, find?_eq_some_iff]
    simp [hj]

/-- Storing under a key that is there keeps every key in its place. -/
theorem keys_insert_of_mem {k : κ} {x : ν} {r : Registry κ ν} (hk : k ∈ r.keys) :
    (r.insert k x).keys = r.keys := by
  obtain ⟨entries, hnodup⟩ := r
  unfold insert keys at *
  dsimp only at hk ⊢
  clear hnodup
  induction entries with
  | nil => simp at hk
  | cons e rest ih =>
      rw [store]
      by_cases he : e.1 = k
      · rw [if_pos he, List.map_cons, List.map_cons, he]
      · rw [if_neg he, List.map_cons, List.map_cons, ih]
        rw [List.map_cons, List.mem_cons] at hk
        exact hk.resolve_left fun h => he h.symm

/-- Storing the value that is there changes nothing. -/
theorem insert_of_find? {k : κ} {x : ν} {r : Registry κ ν} (hx : r.find? k = some x) :
    r.insert k x = r := by
  apply ext_find?
  · exact keys_insert_of_mem (mem_keys.mpr ⟨x, hx⟩)
  · intro j
    rw [find?_insert]
    by_cases hj : j = k
    · rw [if_pos hj, hj, hx]
    · rw [if_neg hj]

/-- A value under a new key comes behind the others. -/
theorem entries_insert_of_not_mem {k : κ} {x : ν} {r : Registry κ ν} (hk : k ∉ r.keys) :
    (r.insert k x).entries = r.entries ++ [(k, x)] := by
  obtain ⟨entries, hnodup⟩ := r
  unfold insert keys at *
  dsimp only at hk ⊢
  clear hnodup
  induction entries with
  | nil => rfl
  | cons e rest ih =>
      rw [List.map_cons, List.mem_cons, not_or] at hk
      rw [store, if_neg fun he => hk.1 he.symm, ih hk.2, List.cons_append]

theorem keys_insert_of_not_mem {k : κ} {x : ν} {r : Registry κ ν} (hk : k ∉ r.keys) :
    (r.insert k x).keys = r.keys ++ [k] := by
  have hentries := entries_insert_of_not_mem (x := x) hk
  unfold keys
  rw [hentries, List.map_append, List.map_singleton]

/-- A value under a key that is there takes the place of the one before. -/
theorem entries_insert_of_eq {k : κ} {x y : ν} {r : Registry κ ν} {before after : List (κ × ν)}
    (h : r.entries = before ++ (k, y) :: after) :
    (r.insert k x).entries = before ++ (k, x) :: after := by
  obtain ⟨entries, hnodup⟩ := r
  dsimp only at h
  subst h
  unfold insert
  dsimp only
  induction before with
  | nil => rw [List.nil_append, store, if_pos rfl, List.nil_append]
  | cons e rest ih =>
      rw [List.cons_append, List.map_cons, List.nodup_cons] at hnodup
      have hek : e.1 ≠ k := by
        intro hek
        exact hnodup.1 (by simp [hek])
      rw [List.cons_append, store, if_neg hek, ih hnodup.2, List.cons_append]

/-- Storing one value under each key of a list. -/
theorem find?_foldl_insert (l : List κ) (x : ν) (r : Registry κ ν) (j : κ) :
    (l.foldl (fun r k => r.insert k x) r).find? j = if j ∈ l then some x else r.find? j := by
  induction l generalizing r with
  | nil => simp
  | cons k rest ih =>
      rw [List.foldl_cons, ih, find?_insert]
      by_cases hrest : j ∈ rest
      · rw [if_pos hrest, if_pos (List.mem_cons_of_mem k hrest)]
      · rw [if_neg hrest]
        simp [hrest]

/-- Values that know the key they stand under are different. -/
theorem nodup_map_values {r : Registry κ ν} {key : ν → κ}
    (hkeyed : ∀ {k x}, r.find? k = some x → key x = k) : (r.values.map key).Nodup := by
  have hkeys : r.values.map key = r.keys := by
    unfold values keys
    rw [List.map_map]
    refine List.map_congr_left fun e he => ?_
    exact hkeyed (find?_eq_some_iff.mpr he)
  rw [hkeys]
  exact r.keys_nodup

/-- Storing under two keys, one of which is there, can be done in either order. -/
theorem insert_comm {j k : κ} {x y : ν} {r : Registry κ ν} (hjk : j ≠ k) (hk : k ∈ r.keys) :
    (r.insert k x).insert j y = (r.insert j y).insert k x := by
  obtain ⟨entries, hnodup⟩ := r
  unfold insert keys at *
  dsimp only at hk ⊢
  congr 1
  clear hnodup
  induction entries with
  | nil => simp at hk
  | cons e rest ih =>
      rw [List.map_cons, List.mem_cons] at hk
      by_cases hek : e.1 = k
      · simp [store, hek, hjk.symm]
      · have hrest := hk.resolve_left fun h => hek h.symm
        by_cases hej : e.1 = j
        · simp [store, hej, hjk]
        · simp [store, hek, hej, ih hrest]

/-! ## Two registries side by side -/

/-- The registries have the same keys in the same order, and related values under
    these. -/
def Matches (R : ν → ω → Prop) (r : Registry κ ν) (r' : Registry κ ω) : Prop :=
  List.Forall₂ (fun e e' => e.1 = e'.1 ∧ R e.2 e'.2) r.entries r'.entries

section Matches

variable {R : ν → ω → Prop} {r : Registry κ ν} {r' : Registry κ ω}

omit [DecidableEq κ] in
theorem Matches.empty : Matches R (∅ : Registry κ ν) (∅ : Registry κ ω) := List.Forall₂.nil

omit [DecidableEq κ] in
theorem Matches.keys (h : Matches R r r') : r.keys = r'.keys := by
  unfold Registry.keys
  rw [← List.forall₂_eq_eq_eq, List.forall₂_map_left_iff, List.forall₂_map_right_iff]
  exact h.imp fun _ _ he => he.1

omit [DecidableEq κ] in
theorem Matches.size (h : Matches R r r') : r.size = r'.size := by
  rw [← length_keys, ← length_keys, h.keys]

omit [DecidableEq κ] in
theorem Matches.values (h : Matches R r r') : List.Forall₂ R r.values r'.values := by
  unfold Registry.values
  rw [List.forall₂_map_left_iff, List.forall₂_map_right_iff]
  exact h.imp fun _ _ he => he.2

theorem Matches.contains (h : Matches R r r') (k : κ) : r.contains k = r'.contains k := by
  rw [Bool.eq_iff_iff, contains_iff, contains_iff, ← mem_keys, ← mem_keys, h.keys]

theorem Matches.find? (h : Matches R r r') (k : κ) :
    (r.find? k = none ∧ r'.find? k = none) ∨
      ∃ x x', r.find? k = some x ∧ r'.find? k = some x' ∧ R x x' := by
  obtain ⟨entries, hnodup⟩ := r
  obtain ⟨entries', hnodup'⟩ := r'
  unfold Matches at h
  unfold Registry.find?
  dsimp only at h ⊢
  clear hnodup hnodup'
  induction h with
  | nil => exact Or.inl ⟨rfl, rfl⟩
  | @cons e e' rest rest' he _ ih =>
      by_cases hk : e.1 = k
      · have hk' : e'.1 = k := he.1.symm.trans hk
        rw [List.find?_cons_of_pos (by simpa using hk), List.find?_cons_of_pos (by simpa using hk')]
        exact Or.inr ⟨e.2, e'.2, rfl, rfl, he.2⟩
      · have hk' : ¬ e'.1 = k := fun h => hk (he.1.trans h)
        rw [List.find?_cons_of_neg (by simpa using hk), List.find?_cons_of_neg (by simpa using hk')]
        exact ih

theorem Matches.insert (h : Matches R r r') (k : κ) {x : ν} {x' : ω} (hx : R x x') :
    Matches R (r.insert k x) (r'.insert k x') := by
  obtain ⟨entries, hnodup⟩ := r
  obtain ⟨entries', hnodup'⟩ := r'
  unfold Matches at h ⊢
  unfold Registry.insert
  dsimp only at h ⊢
  clear hnodup hnodup'
  induction h with
  | nil => exact .cons ⟨rfl, hx⟩ .nil
  | @cons e e' rest rest' he hrest ih =>
      rw [store, store, he.1]
      split
      · exact .cons ⟨rfl, hx⟩ hrest
      · exact .cons he ih

omit [DecidableEq κ] in
theorem Matches.mapValues {ν' : Type v} {ω' : Type w} {S : ν' → ω' → Prop} {f : κ → ν → ν'}
    {g : κ → ω → ω'} (h : Matches R r r') (hfg : ∀ k x x', (k, x) ∈ r.entries → R x x' →
      S (f k x) (g k x')) : Matches S (r.mapValues f) (r'.mapValues g) := by
  unfold Matches Registry.mapValues
  rw [List.forall₂_map_left_iff, List.forall₂_map_right_iff]
  have hmem := (List.forall₂_and_left _ _).mpr ⟨fun e he => he, h⟩
  refine hmem.imp fun e e' he => ⟨he.2.1, ?_⟩
  rw [← he.2.1]
  exact hfg e.1 e.2 e'.2 he.1 he.2.2

omit [DecidableEq κ] in
theorem Matches.filterKeys (h : Matches R r r') (p : κ → Bool) :
    Matches R (r.filterKeys p) (r'.filterKeys p) := by
  obtain ⟨entries, hnodup⟩ := r
  obtain ⟨entries', hnodup'⟩ := r'
  unfold Matches at h ⊢
  unfold Registry.filterKeys
  dsimp only at h ⊢
  clear hnodup hnodup'
  induction h with
  | nil => exact .nil
  | @cons e e' rest rest' he _ ih =>
      rw [List.filter_cons, List.filter_cons, he.1]
      split
      · exact .cons he ih
      · exact ih

end Matches

end SchemaRecovery.Registry
