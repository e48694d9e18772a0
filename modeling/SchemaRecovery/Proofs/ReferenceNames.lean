/-
  SchemaRecovery.Proofs.ReferenceNames

  The names in a type reference that was read from a text begin like names do:
  with a letter or an underscore (`wellNamed_of_parse`). So no reference names a
  type without a name, or one declared in such a type.
-/
import SchemaRecovery.Proofs.ReferenceGrammar

namespace SchemaRecovery.TypeReference

/-- The text begins with a character that names begin with. -/
def StartsName (s : Text) : Prop := ∃ c rest, s = c :: rest ∧ c.holds isNameStart = true

theorem not_startsName_slash (rest : Text) : ¬ StartsName ("/" ++ rest) := by
  rintro ⟨c, rest', h, hc⟩
  obtain ⟨rfl, -⟩ := List.cons.inj h
  revert hc
  decide

/-- All names of the reference begin like names do. -/
inductive WellNamed : TypeReference → Prop
  | mk {name : Text} {arguments : List TypeReference} {rank : Nat} (start : StartsName name)
      (inner : ∀ t ∈ arguments, WellNamed t) : WellNamed ⟨name, arguments, rank⟩

theorem WellNamed.start {t : TypeReference} (h : t.WellNamed) : StartsName t.name := by
  cases h with
  | mk start inner => exact start

theorem WellNamed.inner {t : TypeReference} (h : t.WellNamed) :
    ∀ u ∈ t.arguments, u.WellNamed := by
  cases h with
  | mk start inner => exact inner

/-- Names begin like names do. -/
theorem WellFormed.wellNamed {t : TypeReference} (h : t.WellFormed) : t.WellNamed := by
  induction h with
  | mk isName inner ih =>
      obtain ⟨c, rest, hname, hc, -⟩ := isName
      exact .mk ⟨c, rest, hname, hc⟩ ih

/-- The names of a reference that was read begin like names do. -/
theorem wellNamed_of_parse {s : Text} {t : TypeReference} (h : parse? s = some t) :
    t.WellNamed :=
  (parse?_eq_some_iff.mp h).1.wellNamed

end SchemaRecovery.TypeReference
