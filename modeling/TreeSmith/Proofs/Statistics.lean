import Mathlib.Data.List.Basic
import TreeSmith.Bench.Stats

/-!
# Statistics depend on the numbers only

Sums of floating point numbers depend on the order of the numbers.  Statistics do not,
because the numbers are sorted first, by an order in which only equal bits are equal: lists
of the same numbers become the same list, and whatever is computed from it is the same, in
any arithmetic and also where a number is infinite, a zero with a sign, or no number at all.

## Main definitions

* `TotalLe` — the total order of binary representations, by sign and magnitude.

## Main results

* `totalKey_le_iff`, `totalKey_injective` — the key of the sort is exact for this order.
* `sorted_eq_of_perm` — the same numbers in any order are sorted into the same list.
* `Stats.computed?_order_free` — **statistics do not depend on the order of the numbers.**
-/

namespace TreeSmith.Bench

/-! ### The total order -/

/-- The weight of the sign among the bits. -/
def signWeight : Nat := 0x8000000000000000

/-- The sign is set. -/
def isNegative (bits : UInt64) : Bool :=
  decide (signWeight ≤ bits.toNat)

/-- The bits without the sign: the exponent, and below it the fraction. -/
def magnitude (bits : UInt64) : Nat :=
  bits.toNat % signWeight

/-- The total order of binary representations.  What has the sign comes before what has
not; without the sign the magnitudes grow, and with it they fall. -/
def TotalLe (a b : UInt64) : Prop :=
  match isNegative a, isNegative b with
  | true, false => True
  | false, true => False
  | false, false => magnitude a ≤ magnitude b
  | true, true => magnitude b ≤ magnitude a

instance (a b : UInt64) : Decidable (TotalLe a b) := by
  unfold TotalLe
  split <;> infer_instance

theorem magnitude_lt (bits : UInt64) : magnitude bits < signWeight :=
  Nat.mod_lt _ (by decide)

/-- The sign and the magnitude are all there is to a number. -/
theorem toNat_eq (bits : UInt64) :
    bits.toNat = (if isNegative bits then signWeight else 0) + magnitude bits := by
  have hbits : bits.toNat < signWeight + signWeight := bits.toNat_lt
  unfold isNegative magnitude
  split
  · next h =>
    rw [decide_eq_true_eq] at h
    rw [Nat.mod_eq_sub_mod h, Nat.mod_eq_of_lt (by omega)]
    omega
  · next h =>
    rw [decide_eq_true_eq, Nat.not_le] at h
    rw [Nat.mod_eq_of_lt h, Nat.zero_add]

/-- The keys of negative numbers are in the lower half and go down with the magnitude; those
of all others are in the upper half and go up. -/
theorem totalKey_eq (bits : UInt64) :
    totalKey bits =
      if isNegative bits then signWeight - 1 - magnitude bits else signWeight + magnitude bits := by
  have hlt := magnitude_lt bits
  have hhalf : Nat.pow 2 63 = signWeight := rfl
  have hwhole : Nat.pow 2 64 = signWeight + signWeight := rfl
  simp only [totalKey, toNat_eq bits, hhalf, hwhole]
  cases isNegative bits with
  | true =>
    rw [if_pos rfl, if_pos rfl, if_neg (by omega)]
    omega
  | false => rw [if_neg Bool.false_ne_true, if_neg Bool.false_ne_true, Nat.zero_add, if_pos hlt]

/-- The key of the sort is the place in the total order. -/
theorem totalKey_le_iff {a b : UInt64} : totalKey a ≤ totalKey b ↔ TotalLe a b := by
  have ha := magnitude_lt a
  have hb := magnitude_lt b
  rw [totalKey_eq a, totalKey_eq b, TotalLe]
  cases isNegative a with
  | false =>
    cases isNegative b with
    | false => simp
    | true =>
      simp
      omega
  | true =>
    cases isNegative b with
    | false =>
      simp
      omega
    | true =>
      simp
      omega

/-- Numbers in the same place of the total order have the same bits. -/
theorem totalKey_injective : Function.Injective totalKey := by
  intro a b h
  have ha := magnitude_lt a
  have hb := magnitude_lt b
  rw [totalKey_eq a, totalKey_eq b] at h
  apply UInt64.toNat_inj.mp
  rw [toNat_eq a, toNat_eq b]
  -- keys of numbers with different signs are in different halves
  revert h
  cases isNegative a <;> cases isNegative b <;> simp <;> omega

/-! ### Sorting -/

theorem perm_sorted (samples : List UInt64) : (sorted samples).Perm samples :=
  List.mergeSort_perm _ _

theorem pairwise_sorted (samples : List UInt64) : (sorted samples).Pairwise TotalLe := by
  have h : (sorted samples).Pairwise fun a b => decide (totalKey a ≤ totalKey b) = true := by
    apply List.pairwise_mergeSort
    · intro a b c hab hbc
      rw [decide_eq_true_eq] at hab hbc ⊢
      exact Nat.le_trans hab hbc
    · intro a b
      rw [Bool.or_eq_true, decide_eq_true_eq, decide_eq_true_eq]
      exact Nat.le_total _ _
  exact h.imp fun hab => totalKey_le_iff.mp (decide_eq_true_eq.mp hab)

/-- The same numbers in any order are sorted into the same list. -/
theorem sorted_eq_of_perm {samples samples' : List UInt64} (h : samples.Perm samples') :
    sorted samples = sorted samples' := by
  refine List.Perm.eq_of_pairwise ?_ (pairwise_sorted samples) (pairwise_sorted samples')
    ((perm_sorted samples).trans (h.trans (perm_sorted samples').symm))
  intro a b _ _ hab hba
  exact totalKey_injective
    (Nat.le_antisymm (totalKey_le_iff.mpr hab) (totalKey_le_iff.mpr hba))

theorem totalLe_refl (a : UInt64) : TotalLe a a :=
  totalKey_le_iff.mp (Nat.le_refl _)

/-! ### The ends of a sorted list -/

section Ends

variable {first : UInt64} {rest : List UInt64}

theorem totalLe_of_mem (h : (first :: rest).Pairwise TotalLe) :
    ∀ x ∈ first :: rest, TotalLe first x := by
  intro x hx
  rcases List.mem_cons.mp hx with rfl | hx
  · exact totalLe_refl x
  · exact (List.pairwise_cons.mp h).1 x hx

/-- The last number is one of the list, and above all of them. -/
theorem totalLe_getLastD (h : (first :: rest).Pairwise TotalLe) :
    rest.getLastD first ∈ first :: rest ∧ ∀ x ∈ first :: rest, TotalLe x (rest.getLastD first) := by
  induction rest generalizing first with
  | nil =>
    refine ⟨List.mem_cons_self, fun x hx => ?_⟩
    rw [List.mem_singleton.mp hx]
    exact totalLe_refl first
  | cons second rest ih =>
    obtain ⟨hfirst, htail⟩ := List.pairwise_cons.mp h
    obtain ⟨hmem, hall⟩ := ih htail
    -- the list does not end with its first number, so that number plays no part
    rw [List.getLastD_cons]
    refine ⟨List.mem_cons_of_mem _ hmem, fun x hx => ?_⟩
    rcases List.mem_cons.mp hx with rfl | hx
    · exact hfirst _ hmem
    · exact hall x hx

end Ends

/-! ### Statistics -/

namespace Stats

variable {arith : Arithmetic} {samples : List UInt64}

theorem computed?_of_perm {samples' : List UInt64} (h : samples'.Perm samples) :
    computed? arith samples' = computed? arith samples := by
  rw [computed?, computed?, sorted_eq_of_perm h]

/-- Some numbers are sorted into a list with a first one. -/
theorem exists_sorted_eq_cons (h : samples ≠ []) :
    ∃ first rest, sorted samples = first :: rest := by
  cases hsorted : sorted samples with
  | nil =>
    have hnil := perm_sorted samples
    rw [hsorted] at hnil
    exact absurd hnil.symm.eq_nil h
  | cons first rest => exact ⟨first, rest, rfl⟩

/-- **Statistics do not depend on the order of the numbers.**  In any arithmetic, some
numbers have statistics, and every other order of them has the same ones, bit by bit.  The
least number is one of the numbers and below all of them in the total order; the greatest is
one of them and above all of them. -/
theorem computed?_order_free (arith : Arithmetic) {samples : List UInt64} (h : samples ≠ []) :
    ∃ s, computed? arith samples = some s ∧
      (∀ samples', samples'.Perm samples → computed? arith samples' = some s) ∧
      (s.min ∈ samples ∧ ∀ x ∈ samples, TotalLe s.min x) ∧
      s.max ∈ samples ∧ ∀ x ∈ samples, TotalLe x s.max := by
  obtain ⟨first, rest, hsorted⟩ := exists_sorted_eq_cons h
  have hcomputed : computed? arith samples = some (ofSorted arith first rest) := by
    rw [computed?, hsorted]
  have hmem : ∀ {x}, x ∈ first :: rest ↔ x ∈ samples := by
    intro x
    rw [← hsorted]
    exact (perm_sorted samples).mem_iff
  have hpairwise : (first :: rest).Pairwise TotalLe := hsorted ▸ pairwise_sorted samples
  obtain ⟨hlast, habove⟩ := totalLe_getLastD hpairwise
  refine ⟨ofSorted arith first rest, hcomputed, ?_, ⟨?_, ?_⟩, ?_, ?_⟩
  · intro samples' hperm
    rw [computed?_of_perm hperm, hcomputed]
  · exact hmem.mp List.mem_cons_self
  · exact fun x hx => totalLe_of_mem hpairwise x (hmem.mpr hx)
  · exact hmem.mp hlast
  · exact fun x hx => habove x (hmem.mpr hx)

/-- Both zeros, one, an infinity below zero and two things that are not numbers. -/
def oddSamples : List UInt64 :=
  [0x7FF8000000000001, 0x0000000000000000, 0xFFF0000000000000, 0x3FF0000000000000,
    0x8000000000000000, 0x7FF8000000000000]

/-- Backwards they have the same statistics; the infinity is the least of them, and the one
with the greater bits of the two that are not numbers is the greatest. -/
theorem computed?_order_free_oddSamples :
    oddSamples ≠ [] ∧ ∃ s, ofSamples? oddSamples = some s ∧
      ofSamples? oddSamples.reverse = some s ∧
      s.min = 0xFFF0000000000000 ∧ s.max = 0x7FF8000000000001 := by
  have hne : oddSamples ≠ [] := by decide
  obtain ⟨s, hs, hperm, ⟨hmin, hbelow⟩, hmax, habove⟩ := computed?_order_free .floats hne
  refine ⟨hne, s, hs, hperm _ (List.reverse_perm _), ?_, ?_⟩
  · have hleast := hbelow 0xFFF0000000000000 (by decide)
    simp only [oddSamples, List.mem_cons, List.not_mem_nil, or_false] at hmin
    rcases hmin with h | h | h | h | h | h <;> rw [h] at hleast ⊢ <;> revert hleast <;> decide
  · have hgreatest := habove 0x7FF8000000000001 (by decide)
    simp only [oddSamples, List.mem_cons, List.not_mem_nil, or_false] at hmax
    rcases hmax with h | h | h | h | h | h <;> rw [h] at hgreatest ⊢ <;> revert hgreatest <;> decide

end Stats

end TreeSmith.Bench
