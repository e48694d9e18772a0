/-
  SchemaRecovery.Proofs.Outcome

  Computations that may fail, taken apart step by step: a sequence, a fold or
  a walk over a list gives a result exactly if each of its steps does. A fold is
  reasoned about by an invariant on what is still to come and what has been
  made. Where a computation does not succeed, `FailsOnly` says for which causes.
-/
import Mathlib.Data.List.Forall2
import SchemaRecovery.Logged

namespace SchemaRecovery

variable {ε : Type} {α β γ : Type}

theorem bind_eq_ok {x : Except ε α} {f : α → Except ε β} {b : β} :
    (x >>= f) = .ok b ↔ ∃ a, x = .ok a ∧ f a = .ok b := by
  cases x with
  | error e =>
      constructor
      · intro h
        cases h
      · rintro ⟨a, h, -⟩
        cases h
  | ok a =>
      constructor
      · intro h
        exact ⟨a, rfl, h⟩
      · rintro ⟨a', h, hb⟩
        cases h
        exact hb

theorem map_eq_ok {x : Except ε α} {f : α → β} {b : β} :
    f <$> x = .ok b ↔ ∃ a, x = .ok a ∧ b = f a := by
  constructor
  · intro h
    cases x with
    | error e => cases h
    | ok a => exact ⟨a, rfl, (Except.ok.inj h).symm⟩
  · rintro ⟨a, rfl, rfl⟩
    rfl

theorem eq_ok_of_toOption {x : Except ε α} {a : α} (h : x.toOption = some a) : x = .ok a := by
  cases x with
  | error e => cases h
  | ok b => exact congrArg Except.ok (Option.some.inj h)

theorem ok_bind (a : α) (f : α → Except ε β) : ((.ok a : Except ε α) >>= f) = f a := rfl

/-- What the steps of a fold keep holds at its end. -/
theorem foldlM_keeps {f : β → α → Except ε β} (I : List α → β → Prop)
    (hstep : ∀ a rest b b', I (a :: rest) b → f b a = .ok b' → I rest b')
    {l : List α} {b r : β} (h : I l b) (hr : l.foldlM f b = .ok r) : I [] r := by
  induction l generalizing b with
  | nil =>
      cases hr
      exact h
  | cons a rest ih =>
      rw [List.foldlM_cons, bind_eq_ok] at hr
      obtain ⟨b', hb', hr⟩ := hr
      exact ih (hstep a rest b b' h hb') hr

/-- A fold whose steps succeed and keep an invariant succeeds. -/
theorem foldlM_ok {f : β → α → Except ε β} (I : List α → β → Prop)
    (hstep : ∀ a rest b, I (a :: rest) b → ∃ b', f b a = .ok b' ∧ I rest b')
    {l : List α} {b : β} (h : I l b) : ∃ r, l.foldlM f b = .ok r ∧ I [] r := by
  induction l generalizing b with
  | nil => exact ⟨b, rfl, h⟩
  | cons a rest ih =>
      obtain ⟨b', hb', hkept⟩ := hstep a rest b h
      obtain ⟨r, hr, hend⟩ := ih hkept
      refine ⟨r, ?_, hend⟩
      rw [List.foldlM_cons, hb']
      exact hr

/-- A fold each of whose steps adds something adds what its steps add. `R p b b'`
    says that `b'` is `b` with what satisfies `p` added; the steps may rely on an
    invariant. -/
theorem foldlM_adds {f : β → α → Except ε β} (R : (γ → Prop) → β → β → Prop)
    (hnothing : ∀ b, R (fun _ => False) b b)
    (htrans : ∀ {p q b b' b''}, R p b b' → R q b' b'' → R (fun x => p x ∨ q x) b b'')
    (I : β → Prop) {p : α → γ → Prop} {l : List α} {b r : β} (hb : I b)
    (hr : l.foldlM f b = .ok r)
    (hstep : ∀ a b b', I b → f b a = .ok b' → R (p a) b b' ∧ I b') :
    R (fun x => ∃ a ∈ l, p a x) b r ∧ I r := by
  induction l generalizing b with
  | nil =>
      obtain rfl : b = r := Except.ok.inj hr
      have hnone : (fun x => ∃ a ∈ ([] : List α), p a x) = fun _ => False := by simp
      rw [hnone]
      exact ⟨hnothing b, hb⟩
  | cons a rest ih =>
      rw [List.foldlM_cons] at hr
      obtain ⟨next, hnext, hr⟩ := bind_eq_ok.mp hr
      obtain ⟨hadd, hI⟩ := hstep a b next hb hnext
      obtain ⟨hrest, hend⟩ := ih hI hr
      -- What the first step adds, or one of the others.
      have hsplit : (fun x => ∃ c ∈ a :: rest, p c x) = fun x => p a x ∨ ∃ c ∈ rest, p c x := by
        simp
      rw [hsplit]
      exact ⟨htrans hadd hrest, hend⟩

/-- A walk over a list that gives nothing succeeds if each of its steps does. -/
theorem forM_eq_ok {f : α → Except ε Unit} {l : List α} (h : ∀ a ∈ l, f a = .ok ()) :
    l.forM f = .ok () := by
  induction l with
  | nil => rfl
  | cons a rest ih =>
      show (f a >>= fun _ => rest.forM f) = _
      rw [h a List.mem_cons_self, ok_bind]
      exact ih fun b hb => h b (List.mem_cons_of_mem a hb)

/-- A walk over a list gives the results of its steps, in order. -/
theorem mapM_eq_ok_iff {f : α → Except ε β} {l : List α} {r : List β} :
    l.mapM f = .ok r ↔ List.Forall₂ (fun a b => f a = .ok b) l r := by
  induction l generalizing r with
  | nil =>
      rw [List.mapM_nil]
      constructor
      · intro h
        cases h
        exact .nil
      · intro h
        cases h
        rfl
  | cons a rest ih =>
      rw [List.mapM_cons, bind_eq_ok]
      constructor
      · rintro ⟨b, hb, h⟩
        obtain ⟨bs, hbs, h⟩ := bind_eq_ok.mp h
        cases h
        exact .cons hb (ih.mp hbs)
      · intro h
        cases h with
        | cons hb hbs =>
            refine ⟨_, hb, ?_⟩
            rw [ih.mpr hbs]
            rfl

/-- In two lists that match entry by entry, an entry of the second has its match
    in the first. -/
theorem exists_left_of_forall₂ {R : α → β → Prop} {l : List α} {r : List β} {b : β}
    (h : List.Forall₂ R l r) (hb : b ∈ r) : ∃ a ∈ l, R a b := by
  induction h with
  | nil => cases hb
  | cons hab _ ih =>
      rcases List.mem_cons.mp hb with rfl | hb
      · exact ⟨_, List.mem_cons_self, hab⟩
      · obtain ⟨a, ha, hR⟩ := ih hb
        exact ⟨a, List.mem_cons_of_mem _ ha, hR⟩

theorem exists_right_of_forall₂ {R : α → β → Prop} {l : List α} {r : List β} {a : α}
    (h : List.Forall₂ R l r) (ha : a ∈ l) : ∃ b ∈ r, R a b :=
  exists_left_of_forall₂ (R := flip R) h.flip ha

/-- Lists that match entry by entry give the same list of what their entries agree
    on. -/
theorem map_eq_of_forall₂ {R : α → β → Prop} {f : α → γ} {g : β → γ} {l : List α} {r : List β}
    (h : List.Forall₂ R l r) (hfg : ∀ a b, R a b → f a = g b) : l.map f = r.map g := by
  rw [← List.forall₂_eq_eq_eq, List.forall₂_map_left_iff, List.forall₂_map_right_iff]
  exact h.imp hfg

/-- Every result of a walk is that of an entry of the list. -/
theorem exists_of_mem_mapM {f : α → Except ε β} {l : List α} {r : List β} {b : β}
    (h : l.mapM f = .ok r) (hb : b ∈ r) : ∃ a ∈ l, f a = .ok b :=
  exists_left_of_forall₂ (R := fun a b => f a = .ok b) (mapM_eq_ok_iff.mp h) hb

/-- Every entry of the list has its result among those of a walk. -/
theorem exists_mem_of_mapM {f : α → Except ε β} {l : List α} {r : List β} {a : α}
    (h : l.mapM f = .ok r) (ha : a ∈ l) : ∃ b ∈ r, f a = .ok b :=
  exists_right_of_forall₂ (R := fun a b => f a = .ok b) (mapM_eq_ok_iff.mp h) ha

theorem mem_mapM_iff {f : α → Except ε β} {l : List α} {r : List β} {b : β}
    (h : l.mapM f = .ok r) : b ∈ r ↔ ∃ a ∈ l, f a = .ok b := by
  refine ⟨exists_of_mem_mapM h, ?_⟩
  rintro ⟨a, ha, hb⟩
  obtain ⟨b', hmem, hb'⟩ := exists_mem_of_mapM h ha
  rw [hb, Except.ok.injEq] at hb'
  exact hb' ▸ hmem

/-- A walk succeeds if each of its steps does. -/
theorem exists_mapM_eq_ok {f : α → Except ε β} {l : List α} (h : ∀ a ∈ l, ∃ b, f a = .ok b) :
    ∃ r, l.mapM f = .ok r := by
  simp only [mapM_eq_ok_iff]
  induction l with
  | nil => exact ⟨[], .nil⟩
  | cons a rest ih =>
      obtain ⟨⟨b, hb⟩, hrest⟩ := List.forall_mem_cons.mp h
      obtain ⟨r, hr⟩ := ih hrest
      exact ⟨b :: r, .cons hb hr⟩

/-! ## Failures -/

/-- Whenever the computation fails, the cause satisfies `P`. -/
def FailsOnly (P : ε → Prop) (x : Except ε α) : Prop := ∀ e, x = .error e → P e

namespace FailsOnly

variable {P Q : ε → Prop} {x : Except ε α}

theorem ok (a : α) : FailsOnly P (.ok a : Except ε α) := by
  intro e he
  cases he

theorem error {e : ε} (h : P e) : FailsOnly P (.error e : Except ε α) := by
  intro e' he
  cases he
  exact h

theorem of_ok {a : α} (h : x = .ok a) : FailsOnly P x := by
  rw [h]
  exact ok a

theorem mono (h : FailsOnly P x) (hPQ : ∀ e, P e → Q e) : FailsOnly Q x :=
  fun e he => hPQ e (h e he)

theorem bind {f : α → Except ε β} (hx : FailsOnly P x)
    (hf : ∀ a, x = .ok a → FailsOnly P (f a)) : FailsOnly P (x >>= f) := by
  cases x with
  | error e => exact error (hx e rfl)
  | ok a => exact hf a rfl

theorem mapM {f : α → Except ε β} {l : List α} (h : ∀ a ∈ l, FailsOnly P (f a)) :
    FailsOnly P (l.mapM f) := by
  induction l with
  | nil =>
      rw [List.mapM_nil]
      exact ok []
  | cons a rest ih =>
      obtain ⟨ha, hrest⟩ := List.forall_mem_cons.mp h
      rw [List.mapM_cons]
      exact ha.bind fun b _ => (ih hrest).bind fun bs _ => ok (b :: bs)

/-- A fold fails only as its steps do. The steps may rely on an invariant on what is
    still to come and what has been made. -/
theorem foldlM {f : β → α → Except ε β} (I : List α → β → Prop)
    (hstep : ∀ a rest b, I (a :: rest) b →
      FailsOnly P (f b a) ∧ ∀ b', f b a = .ok b' → I rest b')
    {l : List α} {b : β} (h : I l b) : FailsOnly P (l.foldlM f b) := by
  induction l generalizing b with
  | nil => exact ok b
  | cons a rest ih =>
      obtain ⟨hfails, hkeeps⟩ := hstep a rest b h
      rw [List.foldlM_cons]
      exact hfails.bind fun b' hb' => ih (hkeeps b' hb')

/-- A fold whose steps need no invariant. -/
theorem foldlM_of_forall {f : β → α → Except ε β} (h : ∀ b a, FailsOnly P (f b a)) (l : List α)
    (b : β) : FailsOnly P (l.foldlM f b) :=
  foldlM (fun _ _ => True) (fun a _ b _ => ⟨h b a, fun _ _ => trivial⟩) trivial

end FailsOnly

namespace Logged

theorem outcome_bind_eq_ok {x : Logged α} {f : α → Logged β} {b : β} :
    (x >>= f).outcome = .ok b ↔ ∃ a, x.outcome = .ok a ∧ (f a).outcome = .ok b := by
  rw [outcome_bind, bind_eq_ok]

theorem failsOnly_bind {P : Failure → Prop} {x : Logged α} {f : α → Logged β}
    (hx : FailsOnly P x.outcome) (hf : ∀ a, x.outcome = .ok a → FailsOnly P (f a).outcome) :
    FailsOnly P (x >>= f).outcome := by
  rw [outcome_bind]
  exact hx.bind hf

/-- The outcome of a fold is the fold of the outcomes. -/
theorem outcome_foldlM (f : β → α → Logged β) (l : List α) (b : β) :
    (l.foldlM f b).outcome = l.foldlM (fun b a => (f b a).outcome) b := by
  induction l generalizing b with
  | nil => rfl
  | cons a rest ih =>
      rw [List.foldlM_cons, List.foldlM_cons, outcome_bind]
      simp only [ih]

/-- The outcome of a walk is the walk of the outcomes. -/
theorem outcome_mapM (f : α → Logged β) (l : List α) :
    (l.mapM f).outcome = l.mapM fun a => (f a).outcome := by
  induction l with
  | nil =>
      rw [List.mapM_nil, List.mapM_nil]
      rfl
  | cons a rest ih =>
      rw [List.mapM_cons, List.mapM_cons, outcome_bind]
      simp only [outcome_bind, ih]
      rfl

theorem failsOnly_mapM {P : Failure → Prop} {f : α → Logged β} {l : List α}
    (h : ∀ a ∈ l, FailsOnly P (f a).outcome) : FailsOnly P (l.mapM f).outcome := by
  rw [outcome_mapM]
  exact FailsOnly.mapM h

end Logged

end SchemaRecovery
