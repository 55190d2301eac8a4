import NodeInventory.Proofs.Text.Numeral
import Mathlib.Data.String.Basic

/-!
# Numbers of one width

Digits of one width are in the order of the numbers that they denote (`digits_lt_iff`).  A number
that is padded to a width denotes itself, and among numbers padded to one width the smaller one
comes first, whatever follows it (`paddedNat_append_lt_iff`).
-/

namespace NodeInventory

theorem append_lt_append_iff : ∀ {front front' back back' : List Char},
    front.length = front'.length →
      (front ++ back < front' ++ back' ↔ front < front' ∨ front = front' ∧ back < back')
  | [], [], back, back', _ => by simp
  | c :: front, c' :: front', back, back', same => by
      have shorter : front.length = front'.length := Nat.succ.inj same
      rw [List.cons_append, List.cons_append, List.cons_lt_cons_iff, List.cons_lt_cons_iff,
        append_lt_append_iff shorter, List.cons.injEq]
      tauto

/-! ### Digits -/

theorem digitChar_lt_iff {d d' : Nat} (small : d < 10) (small' : d' < 10) :
    Nat.digitChar d < Nat.digitChar d' ↔ d < d' := by
  have all : ∀ d < 10, ∀ d' < 10, Nat.digitChar d < Nat.digitChar d' ↔ d < d' := by decide
  exact all d small d' small'

theorem digitChar_inj {d d' : Nat} (small : d < 10) (small' : d' < 10) :
    Nat.digitChar d = Nat.digitChar d' ↔ d = d' := by
  have all : ∀ d < 10, ∀ d' < 10, Nat.digitChar d = Nat.digitChar d' ↔ d = d' := by decide
  exact all d small d' small'

theorem number_cons {d : Nat} (small : d < 10) (cs : List Char) :
    Nat.ofDigitChars 10 (Nat.digitChar d :: cs) 0 =
      10 ^ cs.length * d + Nat.ofDigitChars 10 cs 0 := by
  rw [Nat.ofDigitChars_cons_digitChar_of_lt_ten small, Nat.mul_zero, Nat.zero_add,
    Nat.ofDigitChars_eq_ofDigitChars_zero]

theorem number_lt : ∀ {cs : List Char}, AllDigits cs →
    Nat.ofDigitChars 10 cs 0 < 10 ^ cs.length
  | [], _ => by decide
  | c :: cs, digits => by
      obtain ⟨d, small, rfl⟩ := exists_digitChar (digits c List.mem_cons_self)
      have rest := number_lt fun c member => digits c (List.mem_cons_of_mem _ member)
      have first : 10 ^ cs.length * (d + 1) ≤ 10 ^ cs.length * 10 :=
        Nat.mul_le_mul_left _ small
      rw [Nat.mul_succ] at first
      rw [number_cons small, List.length_cons, Nat.pow_succ]
      omega

theorem mul_add_lt_iff {p d d' x x' : Nat} (small : x < p) (small' : x' < p) :
    p * d + x < p * d' + x' ↔ d < d' ∨ d = d' ∧ x < x' := by
  rcases Nat.lt_trichotomy d d' with less | rfl | greater
  · have whole : p * (d + 1) ≤ p * d' := Nat.mul_le_mul_left p less
    rw [Nat.mul_succ] at whole
    omega
  · omega
  · have whole : p * (d' + 1) ≤ p * d := Nat.mul_le_mul_left p greater
    rw [Nat.mul_succ] at whole
    omega

/-- Digits of one width are in the order of their numbers. -/
theorem digits_lt_iff : ∀ {cs cs' : List Char}, AllDigits cs → AllDigits cs' →
    cs.length = cs'.length →
      (cs < cs' ↔ Nat.ofDigitChars 10 cs 0 < Nat.ofDigitChars 10 cs' 0)
  | [], [], _, _, _ => by simp
  | c :: cs, c' :: cs', digits, digits', same => by
      obtain ⟨d, small, rfl⟩ := exists_digitChar (digits c List.mem_cons_self)
      obtain ⟨d', small', rfl⟩ := exists_digitChar (digits' c' List.mem_cons_self)
      have rest : AllDigits cs := fun c member => digits c (List.mem_cons_of_mem _ member)
      have rest' : AllDigits cs' := fun c member => digits' c (List.mem_cons_of_mem _ member)
      have width : cs.length = cs'.length := Nat.succ.inj same
      rw [List.cons_lt_cons_iff, number_cons small, number_cons small', width,
        mul_add_lt_iff (width ▸ number_lt rest) (number_lt rest'), digits_lt_iff rest rest' width,
        digitChar_lt_iff small small', digitChar_inj small small']

/-! ### Padding -/

section padded

variable {width n m : Nat}

theorem number_paddedNat (width n : Nat) :
    Nat.ofDigitChars 10 (paddedNat width n).toList 0 = n := by
  rw [toList_paddedNat, padZeros, Nat.ofDigitChars_append, Nat.ofDigitChars_replicate_zero,
    Nat.mul_zero, Nat.ofDigitChars_ten_toDigits]

theorem length_paddedNat (some_ : 0 < width) (fits : n < 10 ^ width) :
    (paddedNat width n).toList.length = width := by
  have short := (Nat.length_toDigits_le_iff (by decide) some_).mpr fits
  rw [toList_paddedNat, padZeros, List.length_append, List.length_replicate]
  omega

/-- Of two texts that begin with numbers of one width, the numbers decide the order unless they are
equal. -/
theorem paddedNat_append_lt_iff {back back' : List Char} (some_ : 0 < width)
    (fits : n < 10 ^ width) (fits' : m < 10 ^ width) :
    (paddedNat width n).toList ++ back < (paddedNat width m).toList ++ back' ↔
      n < m ∨ n = m ∧ back < back' := by
  have same : (paddedNat width n).toList.length = (paddedNat width m).toList.length := by
    rw [length_paddedNat some_ fits, length_paddedNat some_ fits']
  have equal : (paddedNat width n).toList = (paddedNat width m).toList ↔ n = m := by
    constructor
    · intro texts
      rw [← number_paddedNat width n, texts, number_paddedNat]
    · rintro rfl
      rfl
  rw [append_lt_append_iff same, equal,
    digits_lt_iff (allDigits_paddedNat _ _) (allDigits_paddedNat _ _) same,
    number_paddedNat, number_paddedNat]

theorem paddedNat_lt_iff (some_ : 0 < width) (fits : n < 10 ^ width) (fits' : m < 10 ^ width) :
    (paddedNat width n).toList < (paddedNat width m).toList ↔ n < m := by
  have alone := @paddedNat_append_lt_iff width n m [] [] some_ fits fits'
  simpa using alone

end padded

end NodeInventory
