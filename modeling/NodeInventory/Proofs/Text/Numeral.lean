import NodeInventory.Calendar.DateTime
import NodeInventory.Text.Digit
import Mathlib.Data.List.Induction

/-!
# The characters of numbers and timestamps

A number and a timestamp are written with digits, minus signs, colons and the letter between date
and time, and with nothing else.  Digits without a zero in front are the text of the number that
they denote, and of no other one (`toDigits_asciiNumber`).
-/

namespace NodeInventory

/-- A text of digits. -/
def AllDigits (cs : List Char) : Prop := ∀ c ∈ cs, c.isDigit = true

theorem allDigits_toString (n : Nat) : AllDigits (toString n).toList := by
  intro c member
  have digit : c ∈ Nat.toDigits 10 n := by simpa using member
  exact Nat.isDigit_of_mem_toDigits (by decide) (by decide) digit

theorem toList_paddedNat (width n : Nat) :
    (paddedNat width n).toList = padZeros width (Nat.toDigits 10 n) :=
  String.toList_ofList

theorem allDigits_paddedNat (width n : Nat) : AllDigits (paddedNat width n).toList := by
  intro c member
  rw [toList_paddedNat] at member
  rcases List.mem_append.mp member with zero | digit
  · rw [List.eq_of_mem_replicate zero]
    rfl
  · exact Nat.isDigit_of_mem_toDigits (by decide) (by decide) digit

/-- A character of a number or a timestamp. -/
def isStampChar (c : Char) : Bool := c.isDigit || c == '-' || c == ':' || c == 'T'

/-- A text of such characters. -/
def Stamped (s : String) : Prop := ∀ c ∈ s.toList, isStampChar c = true

instance (s : String) : Decidable (Stamped s) :=
  decidable_of_iff (s.toList.all isStampChar = true) List.all_eq_true

theorem Stamped.not_mem {s : String} (h : Stamped s) {c : Char} (other : isStampChar c = false) :
    c ∉ s.toList := by
  intro member
  rw [h c member] at other
  cases other

@[simp] theorem stamped_append {s t : String} :
    Stamped (s ++ t) ↔ Stamped s ∧ Stamped t := by
  simp only [Stamped, String.toList_append, List.forall_mem_append]

theorem isStampChar_of_isDigit {c : Char} (h : c.isDigit = true) : isStampChar c = true := by
  simp [isStampChar, h]

theorem stamped_nat (n : Nat) : Stamped (toString n) := fun c member =>
  isStampChar_of_isDigit (allDigits_toString n c member)

theorem stamped_int (n : Int) : Stamped (toString n) := by
  cases n with
  | ofNat n => exact stamped_nat n
  | negSucc n =>
      have signed : toString (Int.negSucc n) = "-" ++ toString (n + 1) := rfl
      rw [signed]
      exact stamped_append.mpr ⟨by decide, stamped_nat (n + 1)⟩

theorem stamped_paddedNat (width n : Nat) : Stamped (paddedNat width n) := fun c member =>
  isStampChar_of_isDigit (allDigits_paddedNat width n c member)

theorem stamped_stamp (t : DateTime) : Stamped t.stamp := by
  have dash : Stamped "-" := by decide
  have colon : Stamped ":" := by decide
  have letter : Stamped "T" := by decide
  simp only [DateTime.stamp, stamped_append, stamped_nat, stamped_paddedNat, dash, colon, letter,
    and_self]

/-! ### Digits and their number -/

theorem asciiNumber_eq (cs : List Char) : Text.asciiNumber cs = Nat.ofDigitChars 10 cs 0 := by
  rw [Nat.ofDigitChars_eq_foldl, Text.asciiNumber, Text.ofDigits, List.foldl_map]

theorem exists_digitChar {c : Char} (h : c.isDigit = true) : ∃ d < 10, c = Nat.digitChar d := by
  obtain ⟨low, high⟩ := Char.isDigit_iff_toNat.mp h
  have digit : ∀ n < 58, 48 ≤ n → Char.ofNat n = Nat.digitChar (n - 48) := by decide
  have upper : c.toNat < 58 := Nat.lt_succ_of_le high
  refine ⟨c.toNat - 48, by omega, ?_⟩
  rw [← digit c.toNat upper low, Char.ofNat_toNat]

/-- Digits without a zero in front of others are the text of the number that they denote. -/
theorem toDigits_asciiNumber {cs : List Char} (some_ : cs ≠ [])
    (digits : ∀ c ∈ cs, c.isDigit = true) (unpadded : cs.head? = some '0' → cs = ['0']) :
    Nat.toDigits 10 (Text.asciiNumber cs) = cs := by
  rw [asciiNumber_eq]
  -- the last digit is what division by ten leaves
  induction cs using List.reverseRecOn with
  | nil => exact absurd rfl some_
  | append_singleton lead c ih =>
      obtain ⟨d, small, rfl⟩ := exists_digitChar (digits c (by simp))
      rw [Nat.ofDigitChars_append, Nat.ofDigitChars_cons_digitChar_of_lt_ten small,
        Nat.ofDigitChars_nil]
      cases lead with
      | nil =>
          rw [Nat.ofDigitChars_nil, Nat.mul_zero, Nat.zero_add, Nat.toDigits_of_lt_base small]
          rfl
      | cons first rest =>
          have unpadded' : first ≠ '0' := by
            rintro rfl
            simpa using unpadded rfl
          have lead_eq := ih (List.cons_ne_nil _ _)
            (fun c member => digits c (List.mem_append_left _ member))
            (fun zero => absurd (Option.some.inj zero) unpadded')
          have positive : 0 < Nat.ofDigitChars 10 (first :: rest) 0 := by
            refine Nat.pos_of_ne_zero fun zero => unpadded' ?_
            rw [zero, Nat.toDigits_zero] at lead_eq
            exact (List.cons.inj lead_eq).1.symm
          rw [← Nat.toDigits_append_toDigits (by decide) positive small, lead_eq,
            Nat.toDigits_of_lt_base small]

end NodeInventory
