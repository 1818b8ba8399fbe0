import PacketDispatch.Text.Blank
import PacketDispatch.Text.Numeral
import Mathlib.Data.Nat.Digits.Lemmas

/-!
# Numerals and their numbers

A digit has one way to write it or, from ten on, two.  A numeral of some base stands for one number, with
its most significant digit first.  A number is written as a numeral of itself, in upper case and with as
many zeros in front as a width demands, and no others.
-/

namespace PacketDispatch
namespace Text

variable {base d n width : Nat} {c : Char} {cs : List Char}

/-- A character is a digit of a base with some value: one of the ways to write this value. -/
def IsDigit (base d : Nat) (c : Char) : Prop :=
  d < base ∧ (c = lowerDigit d ∨ c = upperDigit d)
  deriving Decidable

/-- Characters are digits of a base which stand for a number, most significant first. -/
def Numeral (base : Nat) (cs : List Char) (n : Nat) : Prop :=
  ∃ ds, List.Forall₂ (IsDigit base) ds cs ∧ Nat.ofDigits base ds.reverse = n

/-- Characters are the upper-case digits of a number, at least so many and with no zero in front when
there are more. -/
def Written (base width : Nat) (cs : List Char) (n : Nat) : Prop :=
  ∃ ds : List Nat, cs = ds.map upperDigit ∧ (∀ d ∈ ds, d < base) ∧ Nat.ofDigits base ds.reverse = n ∧
    width ≤ ds.length ∧ (width < ds.length → ds.head? ≠ some 0)

/-! ## Digits -/

theorem toNat_ofNat_of_lt (h : n < 128) : (Char.ofNat n).toNat = n := by
  rw [Char.ofNat, dif_pos (Or.inl (by omega))]
  rfl

theorem eq_lowerDigit_iff (h : d < 36) :
    c = lowerDigit d ↔ c.toNat = if d < 10 then 48 + d else 87 + d := by
  rw [← Char.toNat_inj, lowerDigit]
  split <;> rw [toNat_ofNat_of_lt (by omega)]

theorem eq_upperDigit_iff (h : d < 36) :
    c = upperDigit d ↔ c.toNat = if d < 10 then 48 + d else 55 + d := by
  rw [← Char.toNat_inj, upperDigit]
  split <;> rw [toNat_ofNat_of_lt (by omega)]

/-- Digits in terms of code points. -/
theorem isDigit_iff (hbase : base ≤ 36) :
    IsDigit base d c ↔
      d < base ∧ if d < 10 then c.toNat = 48 + d else c.toNat = 87 + d ∨ c.toNat = 55 + d := by
  refine and_congr_right fun hd => ?_
  have hd36 : d < 36 := Nat.lt_of_lt_of_le hd hbase
  rw [eq_lowerDigit_iff hd36, eq_upperDigit_iff hd36]
  split <;> simp

theorem IsDigit.unique {d' : Nat} (hbase : base ≤ 36) (h : IsDigit base d c)
    (h' : IsDigit base d' c) : d = d' := by
  rw [isDigit_iff hbase] at h h'
  split_ifs at h h' <;> omega

/-- Digits are decimal digits and letters. -/
theorem IsDigit.toNat_bounds (hbase : base ≤ 36) (h : IsDigit base d c) :
    48 ≤ c.toNat ∧ c.toNat ≤ 57 ∨ 65 ≤ c.toNat ∧ c.toNat ≤ 122 := by
  rw [isDigit_iff hbase] at h
  split_ifs at h <;> omega

theorem IsDigit.not_blank (hbase : base ≤ 36) (h : IsDigit base d c) : isBlank c = false := by
  have hbounds := h.toNat_bounds hbase
  simp only [isBlank, blankRanges, List.any_cons, List.any_nil, Bool.or_false, Bool.or_eq_false_iff,
    Bool.and_eq_false_iff, decide_eq_false_iff_not]
  omega

/-! ## Numerals -/

theorem numeral_nil : Numeral base [] 0 :=
  ⟨[], .nil, rfl⟩

theorem Numeral.exists_isDigit (h : Numeral base cs n) (hc : c ∈ cs) : ∃ d, IsDigit base d c := by
  obtain ⟨ds, hspelled, -⟩ := h
  induction hspelled with
  | nil => cases hc
  | @cons d first ds rest hfirst _ ih =>
      rcases List.mem_cons.mp hc with rfl | hc
      · exact ⟨d, hfirst⟩
      · exact ih hc

theorem Written.numeral (h : Written base width cs n) : Numeral base cs n := by
  obtain ⟨ds, rfl, hbelow, hvalue, -⟩ := h
  refine ⟨ds, ?_, hvalue⟩
  rw [List.forall₂_map_right_iff, List.forall₂_same]
  exact fun d hd => ⟨hbelow d hd, .inr rfl⟩

theorem Written.ne_nil (h : Written base width cs n) (hwidth : 0 < width) : cs ≠ [] := by
  obtain ⟨ds, rfl, -, -, hlength, -⟩ := h
  rw [Ne, List.map_eq_nil_iff, ← List.length_eq_zero_iff]
  omega

/-! ## Numbers that are written -/

theorem digitsFromLow_eq (hbase : 1 < base) (n : Nat) :
    digitsFromLow base n = Nat.digits base n := by
  induction n using Nat.strongRecOn with
  | ind n ih =>
      unfold digitsFromLow
      by_cases hn : 0 < n
      · rw [dif_pos ⟨hbase, hn⟩, Nat.digits_def' hbase hn, ih _ (Nat.div_lt_self hn hbase)]
      · obtain rfl : n = 0 := by omega
        simp

theorem lt_of_mem_digits (hbase : 1 < base) (h : d ∈ digits base n) : d < base := by
  unfold digits at h
  split at h
  · rw [List.mem_singleton.mp h]
    omega
  · rw [digitsFromLow_eq hbase, List.mem_reverse] at h
    exact Nat.digits_lt_base hbase h

theorem ofDigits_reverse_digits (hbase : 1 < base) (n : Nat) :
    Nat.ofDigits base (digits base n).reverse = n := by
  unfold digits
  split
  · rename_i hn
    rw [hn]
    rfl
  · rw [List.reverse_reverse, digitsFromLow_eq hbase, Nat.ofDigits_digits]

theorem length_digits_pos (hbase : 1 < base) (n : Nat) : 0 < (digits base n).length := by
  unfold digits
  split
  · exact Nat.one_pos
  · rename_i hn
    rw [digitsFromLow_eq hbase, List.length_reverse, List.length_pos_iff]
    exact Nat.digits_ne_nil_iff_ne_zero.mpr hn

/-- The first digit of a number is no zero, unless it is the only one. -/
theorem head?_digits_ne_zero (hbase : 1 < base) (h : 1 < (digits base n).length) :
    (digits base n).head? ≠ some 0 := by
  unfold digits at h ⊢
  split at h
  · exact absurd h (lt_irrefl 1)
  · rename_i hn
    rw [if_neg hn, digitsFromLow_eq hbase, List.head?_reverse]
    intro hlast
    have hne : Nat.digits base n ≠ [] := Nat.digits_ne_nil_iff_ne_zero.mpr hn
    rw [List.getLast?_eq_some_getLast hne] at hlast
    exact Nat.getLast_digit_ne_zero base hn (Option.some.inj hlast)

theorem written_padZeros (hbase : 1 < base) (hwidth : 1 ≤ width) (n : Nat) :
    Written base width (padZeros width ((digits base n).map upperDigit)) n := by
  let zeros := List.replicate (width - (digits base n).length) 0
  have hlength : (zeros ++ digits base n).length =
      width - (digits base n).length + (digits base n).length := by
    rw [List.length_append, List.length_replicate]
  refine ⟨zeros ++ digits base n, ?_, ?_, ?_, by omega, ?_⟩
  · have hzero : upperDigit 0 = '0' := rfl
    rw [List.map_append, List.map_replicate, hzero, padZeros, List.length_map]
  · intro d hd
    rcases List.mem_append.mp hd with hd | hd
    · rw [List.eq_of_mem_replicate hd]
      omega
    · exact lt_of_mem_digits hbase hd
  · rw [List.reverse_append, List.reverse_replicate, Nat.ofDigits_append_replicate_zero,
      ofDigits_reverse_digits hbase]
  · intro hmore
    have hnone : width - (digits base n).length = 0 := by omega
    have hzeros : zeros = [] := by simp only [zeros, hnone, List.replicate_zero]
    rw [hzeros, List.nil_append]
    exact head?_digits_ne_zero hbase (by omega)

theorem written_decimal (n : Nat) : Written 10 1 (decimal n).toList n := by
  have hwritten : Written 10 1 _ n := written_padZeros (by decide) (Nat.le_refl 1) n
  have hpos : 0 < (digits 10 n).length := length_digits_pos (by decide) n
  rw [padZeros, List.length_map, Nat.sub_eq_zero_of_le hpos, List.replicate_zero, List.nil_append]
    at hwritten
  rwa [decimal, String.toList_ofList]

theorem written_hexWord (n : Nat) :
    ∃ cs, (hexWord n).toList = '0' :: 'x' :: cs ∧ Written 16 4 cs n := by
  refine ⟨_, ?_, written_padZeros (by decide) (by decide) n⟩
  rw [hexWord, String.toList_append, String.toList_ofList (l := padZeros _ _)]
  rfl

end Text
end PacketDispatch
