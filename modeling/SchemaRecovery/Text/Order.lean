/-
  SchemaRecovery.Text.Order

  The order of texts: by the code point at the first place where they differ,
  a text before its continuations. It is a strict linear order.
-/
import SchemaRecovery.Text.Basic

namespace SchemaRecovery.Text

/-- One text comes before another. -/
def precedes : Text → Text → Bool
  | _, [] => false
  | [], _ :: _ => true
  | a :: as, b :: bs =>
    if a = b then precedes as bs else decide (a.toNat < b.toNat)

theorem precedes_irrefl (as : Text) : precedes as as = false := by
  induction as with
  | nil => rfl
  | cons a as ih => rw [precedes, if_pos rfl]; exact ih

theorem precedes_trans {as bs cs : Text} (hab : precedes as bs = true)
    (hbc : precedes bs cs = true) : precedes as cs = true := by
  induction as generalizing bs cs with
  | nil =>
    cases cs with
    | nil => cases bs <;> exact hbc
    | cons c cs => rfl
  | cons a as ih =>
    cases bs with
    | nil => exact absurd hab Bool.false_ne_true
    | cons b bs =>
      cases cs with
      | nil => exact absurd hbc Bool.false_ne_true
      | cons c cs =>
        rw [precedes] at hab hbc ⊢
        by_cases h₁ : a = b
        · subst h₁
          rw [if_pos rfl] at hab
          by_cases h₂ : a = c
          · rw [if_pos h₂] at hbc ⊢
            exact ih hab hbc
          · rw [if_neg h₂] at hbc ⊢
            exact hbc
        · rw [if_neg h₁] at hab
          have hlt₁ := of_decide_eq_true hab
          by_cases h₂ : b = c
          · subst h₂
            rw [if_neg h₁]
            exact hab
          · rw [if_neg h₂] at hbc
            have hlt₂ := of_decide_eq_true hbc
            have hne : a ≠ c := by
              intro heq
              subst heq
              omega
            rw [if_neg hne]
            exact decide_eq_true (by omega)

theorem precedes_connected {as bs : Text} (hab : precedes as bs = false)
    (hne : as ≠ bs) : precedes bs as = true := by
  induction as generalizing bs with
  | nil =>
    cases bs with
    | nil => exact absurd rfl hne
    | cons b bs => exact absurd hab.symm Bool.false_ne_true
  | cons a as ih =>
    cases bs with
    | nil => rfl
    | cons b bs =>
      rw [precedes] at hab ⊢
      by_cases h : a = b
      · subst h
        rw [if_pos rfl] at hab ⊢
        exact ih hab fun heq => hne (heq ▸ rfl)
      · rw [if_neg h] at hab
        rw [if_neg fun heq : b = a => h heq.symm]
        have hge := of_decide_eq_false hab
        have hcode : a.toNat ≠ b.toNat := fun heq => h (CodePoint.toNat_inj heq)
        exact decide_eq_true (by omega)

/-- `s` is `t` or comes before it. -/
def le (s t : Text) : Bool := !precedes t s

end SchemaRecovery.Text
