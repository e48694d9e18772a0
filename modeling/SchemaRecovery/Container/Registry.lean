/-
  SchemaRecovery.Container.Registry

  Maps that remember the order in which their keys first came. Storing under
  a key that is there already replaces the value and keeps the place.
-/
namespace SchemaRecovery

universe u v w

/-- A map with its entries in the order of first insertion; no key has two
entries. -/
structure Registry (κ : Type u) (ν : Type v) where
  entries : List (κ × ν)
  keys_nodup : (entries.map (·.1)).Nodup

namespace Registry

variable {κ : Type u} {ν : Type v}

/-- The map without entries. -/
def empty : Registry κ ν := ⟨[], by simp⟩

instance : EmptyCollection (Registry κ ν) := ⟨empty⟩

instance : Inhabited (Registry κ ν) := ⟨empty⟩

/-- The keys, oldest first. -/
def keys (r : Registry κ ν) : List κ := r.entries.map (·.1)

/-- The values, in the order of their keys. -/
def values (r : Registry κ ν) : List ν := r.entries.map (·.2)

/-- The number of entries. -/
def size (r : Registry κ ν) : Nat := r.entries.length

/-- Every value changed by `f`, which may look at the key. -/
def mapValues {ω : Type w} (f : κ → ν → ω) (r : Registry κ ν) : Registry κ ω :=
  ⟨r.entries.map fun e => (e.1, f e.1 e.2), by
    have h := r.keys_nodup
    simpa [List.map_map, Function.comp_def] using h⟩

/-- The entries whose key satisfies `p`. -/
def filterKeys (p : κ → Bool) (r : Registry κ ν) : Registry κ ν :=
  ⟨r.entries.filter fun e => p e.1, r.keys_nodup.sublist (List.filter_sublist.map _)⟩

section Lookup

variable [DecidableEq κ]

/-- The value stored under a key. -/
def find? (r : Registry κ ν) (k : κ) : Option ν :=
  (r.entries.find? fun e => e.1 = k).map (·.2)

/-- The key has an entry. -/
def contains (r : Registry κ ν) (k : κ) : Bool := r.entries.any fun e => e.1 = k

/-- Replaces the value of the entry under `k`, or adds an entry at the end. -/
def store (k : κ) (x : ν) : List (κ × ν) → List (κ × ν)
  | [] => [(k, x)]
  | e :: rest => if e.1 = k then (k, x) :: rest else e :: store k x rest

theorem mem_keys_store {k : κ} {x : ν} {l : List (κ × ν)} {j : κ} :
    j ∈ (store k x l).map (·.1) ↔ j = k ∨ j ∈ l.map (·.1) := by
  induction l with
  | nil => simp [store]
  | cons e rest ih =>
    rw [store]
    split
    · rename_i h
      simp [h]
    · simp only [List.map_cons, List.mem_cons, ih]
      grind

theorem nodup_keys_store {k : κ} {x : ν} {l : List (κ × ν)} (h : (l.map (·.1)).Nodup) :
    ((store k x l).map (·.1)).Nodup := by
  induction l with
  | nil => simp [store]
  | cons e rest ih =>
    simp only [List.map_cons, List.nodup_cons] at h
    rw [store]
    split
    · rename_i hk
      simpa [← hk] using h
    · rename_i hk
      simp only [List.map_cons, List.nodup_cons]
      refine ⟨fun hm => ?_, ih h.2⟩
      rcases mem_keys_store.mp hm with hek | hm
      · exact hk hek
      · exact h.1 hm

/-- The map with `x` stored under `k`. -/
def insert (k : κ) (x : ν) (r : Registry κ ν) : Registry κ ν :=
  ⟨store k x r.entries, nodup_keys_store r.keys_nodup⟩

/-- The map without an entry under `k`. -/
def erase (k : κ) (r : Registry κ ν) : Registry κ ν := r.filterKeys fun j => decide (j ≠ k)

end Lookup

end Registry

end SchemaRecovery
