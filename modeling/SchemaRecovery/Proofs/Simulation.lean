/-
  SchemaRecovery.Proofs.Simulation

  Two computations side by side. One follows another if it succeeds whenever the
  other does, with a result that is related to the other's (`Follows`). Steps in
  a row follow each other if each step does, and so do walks and folds over lists
  that match entry by entry. Where two lists match in some order only
  (`Shuffled`), walks still follow each other, and folds do whose steps can
  change places.
-/
import Mathlib.Data.List.Perm.Basic
import SchemaRecovery.Proofs.Outcome

namespace SchemaRecovery

variable {ε : Type} {α β γ δ : Type}

/-! ## Outcomes -/

/-- Whenever `x` succeeds so does `y`, and their results are related. -/
def Follows (R : α → β → Prop) (x : Except ε α) (y : Except ε β) : Prop :=
  ∀ a, x = .ok a → ∃ b, y = .ok b ∧ R a b

namespace Follows

variable {R : α → β → Prop} {S : γ → δ → Prop} {x : Except ε α} {y : Except ε β}

theorem ok {a : α} {b : β} (h : R a b) : Follows R (.ok a : Except ε α) (.ok b) := by
  intro a' ha
  cases ha
  exact ⟨b, rfl, h⟩

theorem error (e : ε) : Follows R (.error e) y := by
  intro a ha
  cases ha

theorem of_eq {y : Except ε α} (h : x = y) : Follows Eq x y := by
  intro a ha
  exact ⟨a, h ▸ ha, rfl⟩

theorem refl {R : α → α → Prop} (hR : ∀ a, R a a) (x : Except ε α) : Follows R x x :=
  fun a ha => ⟨a, ha, hR a⟩

theorem trans_eq {z : Except ε β} (h : Follows R x y) (h' : Follows Eq y z) : Follows R x z := by
  intro a ha
  obtain ⟨b, hb, hab⟩ := h a ha
  obtain ⟨c, hc, rfl⟩ := h' b hb
  exact ⟨b, hc, hab⟩

theorem with_ok (h : Follows R x y) : Follows (fun a b => x = .ok a ∧ R a b) x y := by
  intro a ha
  obtain ⟨b, hb, hab⟩ := h a ha
  exact ⟨b, hb, ha, hab⟩

/-- Steps in a row follow each other if each does. -/
theorem bind {f : α → Except ε γ} {g : β → Except ε δ} (h : Follows R x y)
    (hstep : ∀ a b, R a b → Follows S (f a) (g b)) : Follows S (x >>= f) (y >>= g) := by
  intro c hc
  obtain ⟨a, ha, hc⟩ := bind_eq_ok.mp hc
  obtain ⟨b, hb, hab⟩ := h a ha
  obtain ⟨d, hd, hcd⟩ := hstep a b hab c hc
  exact ⟨d, bind_eq_ok.mpr ⟨b, hb, hd⟩, hcd⟩

/-- Steps in a row follow each other from the same start. -/
theorem bind_same {f : α → Except ε γ} {g : α → Except ε δ}
    (hstep : ∀ a, Follows S (f a) (g a)) : Follows S (x >>= f) (x >>= g) := by
  refine (of_eq rfl).bind fun a b hab => ?_
  rw [← hab]
  exact hstep a

/-- Walks over lists that match entry by entry. -/
theorem mapM {l : List α} {l' : List β} {f : α → Except ε γ} {g : β → Except ε δ}
    (hl : List.Forall₂ R l l') (hstep : ∀ a b, R a b → Follows S (f a) (g b)) :
    Follows (List.Forall₂ S) (l.mapM f) (l'.mapM g) := by
  induction hl with
  | nil =>
      rw [List.mapM_nil, List.mapM_nil]
      exact .ok .nil
  | cons hab _ ih =>
      rw [List.mapM_cons, List.mapM_cons]
      refine (hstep _ _ hab).bind fun c d hcd => ih.bind fun cs ds hrest => ?_
      exact .ok (.cons hcd hrest)

/-- Walks over one list. -/
theorem mapM_same {f : α → Except ε γ} {g : α → Except ε δ} (l : List α)
    (hstep : ∀ a, Follows S (f a) (g a)) : Follows (List.Forall₂ S) (l.mapM f) (l.mapM g) := by
  refine .mapM (R := Eq) (List.forall₂_same.mpr fun _ _ => rfl) fun a b hab => ?_
  rw [← hab]
  exact hstep a

/-- Walks over one list that give nothing. -/
theorem forM {f g : α → Except ε Unit} (l : List α) (hstep : ∀ a, Follows Eq (f a) (g a)) :
    Follows Eq (l.forM f) (l.forM g) := by
  induction l with
  | nil => exact .of_eq rfl
  | cons a rest ih => exact (hstep a).bind fun _ _ _ => ih

/-- Folds over lists that match entry by entry. -/
theorem foldlM {l : List α} {l' : List β} {f : γ → α → Except ε γ} {g : δ → β → Except ε δ}
    (hl : List.Forall₂ R l l')
    (hstep : ∀ c d a b, S c d → R a b → Follows S (f c a) (g d b)) {c : γ} {d : δ} (hcd : S c d) :
    Follows S (l.foldlM f c) (l'.foldlM g d) := by
  induction hl generalizing c d with
  | nil => exact .ok hcd
  | cons hab _ ih =>
      rw [List.foldlM_cons, List.foldlM_cons]
      exact (hstep _ _ _ _ hcd hab).bind fun c' d' h => ih h

/-- Folds over one list. -/
theorem foldlM_same {f : γ → α → Except ε γ} {g : δ → α → Except ε δ} (l : List α)
    (hstep : ∀ c d a, S c d → Follows S (f c a) (g d a)) {c : γ} {d : δ} (hcd : S c d) :
    Follows S (l.foldlM f c) (l.foldlM g d) := by
  refine .foldlM (R := Eq) (List.forall₂_same.mpr fun _ _ => rfl) (fun c d a b h hab => ?_) hcd
  rw [← hab]
  exact hstep c d a h

/-- A fold over a list that is reordered follows, if any two of its steps can
    change places. -/
theorem foldlM_perm {f : β → α → Except ε β}
    (hcomm : ∀ b a a', Follows Eq (f b a >>= fun c => f c a') (f b a' >>= fun c => f c a))
    {l l' : List α} (hp : l.Perm l') (b : β) : Follows Eq (l.foldlM f b) (l'.foldlM f b) := by
  induction hp generalizing b with
  | nil => exact .of_eq rfl
  | cons a _ ih =>
      rw [List.foldlM_cons, List.foldlM_cons]
      exact bind_same fun c => ih c
  | swap a a' l =>
      rw [List.foldlM_cons, List.foldlM_cons]
      simp only [List.foldlM_cons]
      rw [← bind_assoc, ← bind_assoc]
      refine (hcomm b a' a).bind fun c c' hc => ?_
      rw [hc]
      exact .of_eq rfl
  | trans _ _ ih ih' => exact (ih b).trans_eq (ih' b)

end Follows

/-! ## Lists in another order -/

/-- The second list matches the first entry by entry, in some order. -/
inductive Shuffled (R : α → β → Prop) : List α → List β → Prop
  | nil : Shuffled R [] []
  | cons {a : α} {b : β} {l : List α} {l' : List β} (h : R a b) (hs : Shuffled R l l') :
      Shuffled R (a :: l) (b :: l')
  | perm {l : List α} {l' l'' : List β} (hs : Shuffled R l l') (hp : l'.Perm l'') :
      Shuffled R l l''

namespace Shuffled

variable {R : α → β → Prop} {S : γ → δ → Prop} {l : List α} {l' : List β}

theorem of_forall₂ (h : List.Forall₂ R l l') : Shuffled R l l' := by
  induction h with
  | nil => exact .nil
  | cons hab _ ih => exact .cons hab ih

theorem of_perm {l l' : List α} (h : l.Perm l') : Shuffled Eq l l' :=
  .perm (.of_forall₂ (List.forall₂_eq_eq_eq ▸ rfl)) h

theorem exists_forall₂ (h : Shuffled R l l') :
    ∃ mid, List.Forall₂ R l mid ∧ mid.Perm l' := by
  induction h with
  | nil => exact ⟨[], .nil, .refl []⟩
  | cons hab _ ih =>
      obtain ⟨mid, hmid, hp⟩ := ih
      exact ⟨_ :: mid, .cons hab hmid, hp.cons _⟩
  | perm _ hp ih =>
      obtain ⟨mid, hmid, hp'⟩ := ih
      exact ⟨mid, hmid, hp'.trans hp⟩

theorem with_mem (h : Shuffled R l l') : Shuffled (fun a b => a ∈ l ∧ R a b) l l' := by
  obtain ⟨mid, hmid, hp⟩ := h.exists_forall₂
  exact .perm (.of_forall₂ ((List.forall₂_and_left _ _).mpr ⟨fun a ha => ha, hmid⟩)) hp

theorem perm_left {l₀ : List α} (hp : l₀.Perm l) (h : Shuffled R l l') : Shuffled R l₀ l' := by
  obtain ⟨mid, hmid, hp'⟩ := h.exists_forall₂
  obtain ⟨mid', hmid', hp''⟩ := List.perm_comp_forall₂ hp hmid
  exact .perm (.of_forall₂ hmid') (hp''.trans hp')

/-- What related entries agree on gives the same list in another order. -/
theorem map_perm (h : Shuffled R l l') {f : α → γ} {g : β → γ} (hfg : ∀ a b, R a b → f a = g b) :
    (l.map f).Perm (l'.map g) := by
  induction h with
  | nil => exact .refl []
  | cons hab _ ih =>
      rw [List.map_cons, List.map_cons, hfg _ _ hab]
      exact ih.cons _
  | perm _ hp ih => exact ih.trans (hp.map g)

/-- Parts that related entries agree on, but for their order, give the same list in
    another order. -/
theorem flatMap_perm (h : Shuffled R l l') {f : α → List γ} {g : β → List γ}
    (hfg : ∀ a b, R a b → (f a).Perm (g b)) : (l.flatMap f).Perm (l'.flatMap g) := by
  induction h with
  | nil => exact .refl []
  | cons hab _ ih =>
      rw [List.flatMap_cons, List.flatMap_cons]
      exact (hfg _ _ hab).append ih
  | perm _ hp ih => exact ih.trans (hp.flatMap_right g)

theorem append {r : List α} {r' : List β} (h : Shuffled R l l') (hr : Shuffled R r r') :
    Shuffled R (l ++ r) (l' ++ r') := by
  induction h with
  | nil => exact hr
  | cons hab _ ih => exact .cons hab ih
  | perm _ hp ih => exact .perm ih (hp.append_right r')

theorem flatten {l : List (List α)} {l' : List (List β)} (h : Shuffled (Shuffled R) l l') :
    Shuffled R l.flatten l'.flatten := by
  induction h with
  | nil => exact .nil
  | cons hab _ ih => exact hab.append ih
  | perm _ hp ih => exact .perm ih hp.flatten

/-- A search for an entry of which there is one at most. -/
theorem find? {p : α → Bool} {q : β → Bool} (h : Shuffled R l l')
    (hpq : ∀ a b, R a b → p a = q b)
    (hone : ∀ b ∈ l', ∀ c ∈ l', q b = true → q c = true → b = c) :
    (l.find? p = none ∧ l'.find? q = none) ∨
      ∃ a b, l.find? p = some a ∧ l'.find? q = some b ∧ R a b := by
  obtain ⟨mid, hmid, hp⟩ := h.exists_forall₂
  cases hfound : l.find? p with
  | none =>
      refine Or.inl ⟨rfl, List.find?_eq_none.mpr fun b hb hqb => ?_⟩
      obtain ⟨a, ha, hab⟩ := exists_left_of_forall₂ hmid (hp.mem_iff.mpr hb)
      exact List.find?_eq_none.mp hfound a ha (hpq a b hab ▸ hqb)
  | some a =>
      obtain ⟨b, hb, hab⟩ := exists_right_of_forall₂ hmid (List.mem_of_find?_eq_some hfound)
      have hqb : q b = true := hpq a b hab ▸ List.find?_some hfound
      refine Or.inr ⟨a, b, rfl, ?_, hab⟩
      -- What is found in the other list is the entry that matches.
      cases hfound' : l'.find? q with
      | none => exact absurd hqb (List.find?_eq_none.mp hfound' b (hp.mem_iff.mp hb))
      | some c =>
          rw [hone c (List.mem_of_find?_eq_some hfound') b (hp.mem_iff.mp hb)
            (List.find?_some hfound') hqb]

/-- Walks over lists that match in some order. -/
theorem mapM {f : α → Except ε γ} {g : β → Except ε δ} (h : Shuffled R l l')
    (hstep : ∀ a b, R a b → Follows S (f a) (g b)) :
    Follows (Shuffled S) (l.mapM f) (l'.mapM g) := by
  obtain ⟨mid, hmid, hp⟩ := h.exists_forall₂
  intro r hr
  obtain ⟨r', hr', hS⟩ := Follows.mapM hmid hstep r hr
  obtain ⟨r'', hr'', hp'⟩ := List.perm_comp_forall₂ hp.symm (mapM_eq_ok_iff.mp hr')
  exact ⟨r'', mapM_eq_ok_iff.mpr hr'', .perm (.of_forall₂ hS) hp'.symm⟩

/-- Folds over lists that match in some order, if any two steps of the second can
    change places. -/
theorem foldlM {f : γ → α → Except ε γ} {g : δ → β → Except ε δ} (h : Shuffled R l l')
    (hstep : ∀ c d a b, S c d → R a b → Follows S (f c a) (g d b))
    (hcomm : ∀ d b b', Follows Eq (g d b >>= fun e => g e b') (g d b' >>= fun e => g e b))
    {c : γ} {d : δ} (hcd : S c d) : Follows S (l.foldlM f c) (l'.foldlM g d) := by
  obtain ⟨mid, hmid, hp⟩ := h.exists_forall₂
  exact (Follows.foldlM hmid hstep hcd).trans_eq (.foldlM_perm hcomm hp d)

end Shuffled

end SchemaRecovery
