/-
  SchemaRecovery.Proofs.IndexedNames

  File names with an index, compared in lower case. What stands behind a text
  changes its lower case only where a sigma may end a word, and no index makes a
  word go on; so names of one base with different indices stay different
  (`lower_indexedName_inj`). The search for an index finds the least one that is
  free, because more names are tried than are in use (`isLeast_freeIndex`).
-/
import Mathlib.Data.List.Nodup
import Mathlib.Order.Bounds.Basic
import SchemaRecovery.OutputFile.Plan

namespace SchemaRecovery

namespace Text.LetterCase

/-! ## Lower case in parts -/

theorem meetsCased_append_congr {tail tail' : Text} (h : meetsCased tail = meetsCased tail')
    (s : Text) : meetsCased (s ++ tail) = meetsCased (s ++ tail') := by
  induction s with
  | nil => exact h
  | cons c rest ih =>
      unfold meetsCased at ih ⊢
      rw [List.cons_append, List.cons_append, List.dropWhile_cons, List.dropWhile_cons]
      by_cases hc : isIgnorable c = true
      · rw [if_pos hc, if_pos hc]
        exact ih
      · rw [if_neg hc, if_neg hc]

/-- What is lowered before two tails is the same if words go on alike behind it. -/
theorem lowerFrom_append {tail tail' : Text} (h : meetsCased tail = meetsCased tail')
    (before s : Text) : ∃ front,
      lowerFrom before (s ++ tail) = front ++ lowerFrom (s.reverse ++ before) tail ∧
      lowerFrom before (s ++ tail') = front ++ lowerFrom (s.reverse ++ before) tail' := by
  induction s generalizing before with
  | nil => exact ⟨[], rfl, rfl⟩
  | cons c rest ih =>
      obtain ⟨front, hfront, hfront'⟩ := ih (c :: before)
      -- Only a sigma looks at what follows, and it looks for a word that goes on.
      have hsigma : lowerSigma before (rest ++ tail) = lowerSigma before (rest ++ tail') := by
        unfold lowerSigma
        rw [meetsCased_append_congr h]
      refine ⟨(if c = .char 'Σ' then [lowerSigma before (rest ++ tail)] else lowerPoint c) ++ front,
        ?_, ?_⟩
      · rw [List.cons_append, lowerFrom, hfront]
        simp
      · rw [List.cons_append, lowerFrom, hfront', hsigma]
        simp

/-- A character that is its own lower case, whatever is around it. -/
def isLow (c : CodePoint) : Bool := c.holds fun d => d.toNat < 0x80 && d.toLower == d

theorem lowerFrom_of_isLow {t : Text} (h : ∀ c ∈ t, isLow c = true) (before : Text) :
    lowerFrom before t = t := by
  induction t generalizing before with
  | nil => rfl
  | cons c rest ih =>
      obtain ⟨hc, hrest⟩ := List.forall_mem_cons.mp h
      cases c with
      | half n => cases hc
      | char d =>
          obtain ⟨hascii, hlow⟩ : d.toNat < 0x80 ∧ d.toLower = d := by
            simpa [isLow, CodePoint.holds] using hc
          have hsigma : CodePoint.char d ≠ .char 'Σ' := by
            intro heq
            rw [CodePoint.char.inj heq] at hascii
            revert hascii
            decide
          rw [lowerFrom, if_neg hsigma, ih hrest, lowerPoint, if_pos hascii, hlow]
          rfl

/-- The digits are not looked past, and they make no word go on. -/
theorem digits_uncased : ∀ n ∈ List.range' 48 10,
    within ignorableRanges n = false ∧ within casedRanges n = false := by
  decide +kernel

theorem isLow_of_isDigit {d : Char} (h : d.isDigit = true) :
    isLow (.char d) = true ∧ isIgnorable (.char d) = false ∧ isCased (.char d) = false := by
  have hlow : d.toLower = d := by
    unfold Char.toLower
    unfold Char.isDigit at h
    grind
  have hrange : 48 ≤ d.toNat ∧ d.toNat ≤ 57 := by
    unfold Char.isDigit at h
    simp only [ge_iff_le, Bool.and_eq_true, decide_eq_true_eq, UInt32.le_iff_toNat_le] at h
    exact h
  have hascii : d.toNat < 0x80 := by omega
  refine ⟨by simp [isLow, CodePoint.holds, hascii, hlow], digits_uncased d.toNat ?_⟩
  rw [List.mem_range'_1]
  omega

end Text.LetterCase

namespace OutputFile

open Text.LetterCase

/-! ## Names with an index -/

/-- What an index puts behind the base of a file name. -/
def indexTail (index : Nat) : Text := "." ++ toString index ++ ending

theorem indexedName_eq (base : Text) (index : Nat) :
    indexedName base index = base ++ indexTail index := by
  unfold indexedName indexTail
  simp only [List.append_assoc]

theorem mem_toString {c : CodePoint} {index : Nat}
    (h : c ∈ (Text.ofString (toString index))) : ∃ d : Char, c = .char d ∧ d.isDigit = true := by
  obtain ⟨d, hd, rfl⟩ := List.mem_map.mp h
  rw [Nat.toString_eq_repr, Nat.toList_repr] at hd
  exact ⟨d, rfl, Nat.isDigit_of_mem_toDigits (by decide) (by decide) hd⟩

theorem lowerFrom_indexTail (before : Text) (index : Nat) :
    lowerFrom before (indexTail index) = indexTail index := by
  have hpoint : ∀ c ∈ (("." : String) : Text), isLow c = true := by decide
  have hending : ∀ c ∈ ending, isLow c = true := by decide
  refine lowerFrom_of_isLow (fun c hc => ?_) before
  unfold indexTail at hc
  rcases List.mem_append.mp hc with hc | hc
  · rcases List.mem_append.mp hc with hc | hc
    · exact hpoint c hc
    · obtain ⟨d, rfl, hd⟩ := mem_toString hc
      exact (isLow_of_isDigit hd).1
  · exact hending c hc

/-- A word does not go on behind the base, whatever the index. -/
theorem meetsCased_indexTail (index : Nat) : meetsCased (indexTail index) = false := by
  have hpoint : isIgnorable (.char '.') = true := by decide
  cases hdigits : Text.ofString (toString index) with
  | nil =>
      have hnil : Nat.toDigits 10 index = [] := by
        rw [← Nat.toList_repr, ← Nat.toString_eq_repr]
        exact List.map_eq_nil_iff.mp hdigits
      exact absurd hnil Nat.toDigits_ne_nil
  | cons c rest =>
      obtain ⟨d, rfl, hd⟩ := mem_toString (hdigits ▸ List.mem_cons_self)
      obtain ⟨-, hseen, huncased⟩ := isLow_of_isDigit hd
      have htail : indexTail index = .char '.' :: .char d :: (rest ++ ending) := by
        unfold indexTail
        rw [hdigits]
        rfl
      rw [htail, meetsCased, List.dropWhile_cons_of_pos hpoint,
        List.dropWhile_cons_of_neg (by rw [hseen]; exact Bool.false_ne_true)]
      exact huncased

theorem lower_indexedName_inj (base : Text) {i j : Nat}
    (h : Text.lower (indexedName base i) = Text.lower (indexedName base j)) : i = j := by
  rw [indexedName_eq, indexedName_eq] at h
  obtain ⟨front, hi, hj⟩ := lowerFrom_append
    ((meetsCased_indexTail i).trans (meetsCased_indexTail j).symm) [] base
  unfold Text.lower at h
  rw [hi, hj, lowerFrom_indexTail, lowerFrom_indexTail, List.append_cancel_left_eq] at h
  unfold indexTail at h
  rw [List.append_cancel_right_eq, List.append_cancel_left_eq] at h
  -- What is left are the digits, from which the index is read back.
  have hchars : (toString i).toList = (toString j).toList :=
    List.map_injective_iff.mpr (fun _ _ => CodePoint.char.inj) h
  simp only [Nat.toString_eq_repr, Nat.toList_repr] at hchars
  have hread := congrArg (fun digits => Nat.ofDigitChars 10 digits 0) hchars
  simpa [Nat.ofDigitChars_toDigits] using hread

/-! ## The free index -/

variable {used : List Text} {base : Text}

/-- The search goes past names in use only, and stops at one of them only at its end. -/
theorem freeIndex_spec (used : List Text) (base : Text) (n k : Nat) :
    k ≤ freeIndex used base n k ∧
      (∀ j, k ≤ j → j < freeIndex used base n k → Text.lower (indexedName base j) ∈ used) ∧
      (Text.lower (indexedName base (freeIndex used base n k)) ∈ used →
        freeIndex used base n k = k + n) := by
  fun_induction freeIndex used base n k with
  | case1 k => exact ⟨Nat.le_refl k, fun j hj hlt => absurd hj (Nat.not_le.mpr hlt), fun _ => rfl⟩
  | case2 n k hused ih =>
      obtain ⟨hle, hpast, hend⟩ := ih
      rw [List.contains_iff_mem] at hused
      refine ⟨by omega, fun j hj hlt => ?_, fun hmem => ?_⟩
      · by_cases hjk : j = k
        · rw [hjk]
          exact hused
        · exact hpast j (by omega) hlt
      · rw [hend hmem]
        omega
  | case3 n k hfree =>
      rw [List.contains_iff_mem] at hfree
      exact ⟨Nat.le_refl k, fun j hj hlt => absurd hj (Nat.not_le.mpr hlt),
        fun hmem => absurd hmem hfree⟩

/-- The name that is found is free: otherwise more names would be in use than there
    are. -/
theorem freeIndex_free (used : List Text) (base : Text) :
    Text.lower (indexedName base (freeIndex used base used.length 1)) ∉ used := by
  intro hmem
  obtain ⟨-, hpast, hend⟩ := freeIndex_spec used base used.length 1
  have hlast := hend hmem
  -- The search went on to its bound, so all names up to there are in use.
  have hnodup : ((List.range' 1 (used.length + 1)).map fun i =>
      Text.lower (indexedName base i)).Nodup :=
    (List.nodup_range' 1 (by decide)).map fun i j h => lower_indexedName_inj base h
  have hsub : ((List.range' 1 (used.length + 1)).map fun i =>
      Text.lower (indexedName base i)) ⊆ used := by
    intro name hname
    obtain ⟨i, hi, rfl⟩ := List.mem_map.mp hname
    rw [List.mem_range'_1] at hi
    by_cases hilast : i = freeIndex used base used.length 1
    · rw [hilast]
      exact hmem
    · exact hpast i hi.1 (by omega)
  have hlen := hnodup.length_le_of_subset hsub
  rw [List.length_map, List.length_range'] at hlen
  omega

/-- The least free index is found: the bound on the search does not end it. -/
theorem isLeast_freeIndex (used : List Text) (base : Text) :
    IsLeast {i | 1 ≤ i ∧ Text.lower (indexedName base i) ∉ used}
      (freeIndex used base used.length 1) := by
  obtain ⟨hle, hpast, -⟩ := freeIndex_spec used base used.length 1
  refine ⟨⟨hle, freeIndex_free used base⟩, ?_⟩
  rintro i ⟨hi, hfree⟩
  by_contra hlt
  exact hfree (hpast i hi (Nat.not_le.mp hlt))

theorem freeIndex_eq {k : Nat} (hk : 1 ≤ k)
    (hpast : ∀ j, 1 ≤ j → j < k → Text.lower (indexedName base j) ∈ used)
    (hfree : Text.lower (indexedName base k) ∉ used) :
    freeIndex used base used.length 1 = k := by
  refine (isLeast_freeIndex used base).unique ⟨⟨hk, hfree⟩, ?_⟩
  rintro j ⟨hj, hnot⟩
  by_contra hlt
  exact hnot (hpast j hj (Nat.not_le.mp hlt))

end OutputFile

end SchemaRecovery
