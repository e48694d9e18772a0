/-
  SchemaRecovery.Container.OrderedSet

  Finite sets kept as strictly ascending lists. Each set has one such list, so
  two sets with the same members are equal, and showing a set in order is
  reading the list.
-/
import SchemaRecovery.Text.Order

namespace SchemaRecovery

universe u

/-- A key type with a strict linear order. -/
class OrderedKey (α : Type u) where
  precedes : α → α → Bool
  irrefl (a : α) : precedes a a = false
  trans {a b c : α} : precedes a b = true → precedes b c = true → precedes a c = true
  connected {a b : α} : precedes a b = false → a ≠ b → precedes b a = true

/-- Numbers by size. -/
instance : OrderedKey Int where
  precedes a b := decide (a < b)
  irrefl a := decide_eq_false (by omega)
  trans h₁ h₂ := by
    have h₃ := of_decide_eq_true h₁
    have h₄ := of_decide_eq_true h₂
    exact decide_eq_true (by omega)
  connected h hne := by
    have h₁ := of_decide_eq_false h
    exact decide_eq_true (by omega)

/-- Texts by code point. -/
instance : OrderedKey Text where
  precedes := Text.precedes
  irrefl := Text.precedes_irrefl
  trans := Text.precedes_trans
  connected := Text.precedes_connected

/-- Nothing before something. -/
def optionPrecedes {α : Type u} [OrderedKey α] : Option α → Option α → Bool
  | _, none => false
  | none, some _ => true
  | some a, some b => OrderedKey.precedes a b

instance {α : Type u} [OrderedKey α] : OrderedKey (Option α) where
  precedes := optionPrecedes
  irrefl a := by
    cases a with
    | none => rfl
    | some a => exact OrderedKey.irrefl a
  trans {a b c} h₁ h₂ := by
    cases c with
    | none => exact absurd h₂ Bool.false_ne_true
    | some c =>
      cases b with
      | none => exact absurd h₁ Bool.false_ne_true
      | some b =>
        cases a with
        | none => rfl
        | some a => exact OrderedKey.trans h₁ h₂
  connected {a b} h hne := by
    cases a with
    | none =>
      cases b with
      | none => exact absurd rfl hne
      | some b => exact absurd h.symm Bool.false_ne_true
    | some a =>
      cases b with
      | none => rfl
      | some b => exact OrderedKey.connected h fun heq => hne (heq ▸ rfl)

/-- A finite set, as the strictly ascending list of its members. -/
structure OrderedSet (α : Type u) [OrderedKey α] where
  toList : List α
  ascending : toList.Pairwise fun a b => OrderedKey.precedes a b = true

namespace OrderedSet

variable {α : Type u} [OrderedKey α]

/-- Sets with the same list are the same. -/
theorem ext_toList {s t : OrderedSet α} (h : s.toList = t.toList) : s = t := by
  cases s; cases t; cases h; rfl

instance [DecidableEq α] : DecidableEq (OrderedSet α) := fun s t =>
  if h : s.toList = t.toList then isTrue (ext_toList h)
  else isFalse fun hst => h (hst ▸ rfl)

instance : Membership α (OrderedSet α) := ⟨fun s a => a ∈ s.toList⟩

theorem mem_def {a : α} {s : OrderedSet α} : a ∈ s ↔ a ∈ s.toList := Iff.rfl

/-- No member is listed twice. -/
theorem nodup_toList (s : OrderedSet α) : s.toList.Nodup := by
  refine s.ascending.imp ?_
  rintro a _ h rfl
  rw [OrderedKey.irrefl] at h
  cases h

instance [DecidableEq α] (a : α) (s : OrderedSet α) : Decidable (a ∈ s) :=
  inferInstanceAs (Decidable (a ∈ s.toList))

/-- The set without members. -/
def empty : OrderedSet α := ⟨[], .nil⟩

instance : EmptyCollection (OrderedSet α) := ⟨empty⟩

instance : Inhabited (OrderedSet α) := ⟨empty⟩

@[simp] theorem not_mem_empty (a : α) : ¬ a ∈ (∅ : OrderedSet α) := by
  simp [mem_def, EmptyCollection.emptyCollection, empty]

/-- The number of members. -/
def size (s : OrderedSet α) : Nat := s.toList.length

/-- The set has no member. -/
def isEmpty (s : OrderedSet α) : Bool := s.toList.isEmpty

/-- The members that satisfy `p`. -/
def filter (p : α → Bool) (s : OrderedSet α) : OrderedSet α :=
  ⟨s.toList.filter p, s.ascending.filter p⟩

@[simp] theorem mem_filter {p : α → Bool} {s : OrderedSet α} {a : α} :
    a ∈ s.filter p ↔ a ∈ s ∧ p a = true := by
  simp [mem_def, filter]

section Erase

variable [DecidableEq α]

/-- The set with `a` taken away. -/
def erase (a : α) (s : OrderedSet α) : OrderedSet α := s.filter fun x => decide (x ≠ a)

@[simp] theorem mem_erase {a x : α} {s : OrderedSet α} : x ∈ s.erase a ↔ x ∈ s ∧ x ≠ a := by
  simp [erase]

/-- The members of `s` that are not in `t`. -/
def diff (s t : OrderedSet α) : OrderedSet α := s.filter fun x => decide (¬ x ∈ t)

@[simp] theorem mem_diff {x : α} {s t : OrderedSet α} : x ∈ s.diff t ↔ x ∈ s ∧ ¬ x ∈ t := by
  simp [diff]

end Erase

section Insert

variable [DecidableEq α]

/-- Puts `a` at its place in an ascending list, unless it is there. -/
def insertInto (a : α) : List α → List α
  | [] => [a]
  | b :: rest =>
    if OrderedKey.precedes a b then a :: b :: rest
    else if a = b then b :: rest
    else b :: insertInto a rest

theorem mem_insertInto {a x : α} {l : List α} : x ∈ insertInto a l ↔ x = a ∨ x ∈ l := by
  induction l with
  | nil => simp [insertInto]
  | cons b rest ih => grind [insertInto]

theorem ascending_insertInto {a : α} {l : List α}
    (h : l.Pairwise fun x y => OrderedKey.precedes x y = true) :
    (insertInto a l).Pairwise fun x y => OrderedKey.precedes x y = true := by
  induction l with
  | nil => simp [insertInto]
  | cons b rest ih =>
    rw [List.pairwise_cons] at h
    rw [insertInto]
    split
    · rename_i hab
      exact List.pairwise_cons.mpr ⟨fun x hx => by
        rcases List.mem_cons.mp hx with rfl | hx
        · exact hab
        · exact OrderedKey.trans hab (h.1 x hx), List.pairwise_cons.mpr h⟩
    · split
      · exact List.pairwise_cons.mpr h
      · rename_i hab hne
        refine List.pairwise_cons.mpr ⟨fun x hx => ?_, ih h.2⟩
        rcases mem_insertInto.mp hx with rfl | hx
        · exact OrderedKey.connected (Bool.eq_false_iff.mpr hab) hne
        · exact h.1 x hx

/-- The set with `a` added. -/
def insert (a : α) (s : OrderedSet α) : OrderedSet α :=
  ⟨insertInto a s.toList, ascending_insertInto s.ascending⟩

@[simp] theorem mem_insert {a x : α} {s : OrderedSet α} :
    x ∈ s.insert a ↔ x = a ∨ x ∈ s := mem_insertInto

/-- The set with all of `l` added. -/
def insertAll (s : OrderedSet α) (l : List α) : OrderedSet α := l.foldl (fun t a => t.insert a) s

@[simp] theorem mem_insertAll {x : α} {s : OrderedSet α} {l : List α} :
    x ∈ s.insertAll l ↔ x ∈ s ∨ x ∈ l := by
  induction l generalizing s with
  | nil => simp [insertAll]
  | cons a rest ih =>
    have h := ih (s := s.insert a)
    simp only [insertAll, List.foldl_cons] at h ⊢
    rw [h]
    grind [mem_insert]

/-- The set of the entries of a list. -/
def ofList (l : List α) : OrderedSet α := insertAll ∅ l

@[simp] theorem mem_ofList {x : α} {l : List α} : x ∈ ofList l ↔ x ∈ l := by
  simp [ofList]

/-- The set whose one member is `a`. -/
def singleton (a : α) : OrderedSet α := ofList [a]

@[simp] theorem mem_singleton {a x : α} : x ∈ singleton a ↔ x = a := by
  unfold singleton
  rw [mem_ofList, List.mem_singleton]

/-- The members of either set. -/
def union (s t : OrderedSet α) : OrderedSet α := s.insertAll t.toList

@[simp] theorem mem_union {x : α} {s t : OrderedSet α} : x ∈ s.union t ↔ x ∈ s ∨ x ∈ t := by
  simp [union, mem_def (s := t)]

end Insert

end OrderedSet

end SchemaRecovery
