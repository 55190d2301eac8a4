import NodeInventory.Discovery.Reference
import NodeInventory.Proofs.Remote.Sending
import NodeInventory.Proofs.Text.Numeral
import NodeInventory.Proofs.Text.Whole

/-!
# What references and identifiers stand for

A text of digit characters is converted exactly if all of them are decimal digits and there are at
most `digitLimit` of them (`Text.toInt_of_isDigits`).  The test for digit characters is wider than
that: a text that passes it without being convertible slips through (`Text.Slips`).  What a
reference or an identifier stands for is found without a failure exactly if no such text is in it
(`digit_guards_protect_iff`), and a superscript is such a text (`superscript_slips`).
-/

namespace NodeInventory

namespace Text

/-! ### Texts of digits -/

theorem isDigits_iff {s : String} :
    isDigits s = true ↔ s.toList ≠ [] ∧ ∀ c ∈ s.toList, isDigit c = true := by
  simp [isDigits]

theorem isDigit_of_value {c : Char} {d : Nat} (digit : decimalValue? c = some d) :
    isDigit c = true := by
  simp [isDigit, digit]

theorem isDigit_space {c : Char} (space : isSpace c = true) : isDigit c = false := by
  have outside : ∀ n ∈ spaceCodes,
      (otherDigitRanges.any fun range => range.1 ≤ n && n ≤ range.2) = false := by decide
  have other : inRanges otherDigitRanges c = false := outside c.toNat (mem_spaceCodes space)
  rw [isDigit, decimalValue?_space space, other]
  rfl

/-- A text of which every character is a decimal digit, and which has not too many of them. -/
structure Convertible (s : String) : Prop where
  decimal : ∀ c ∈ s.toList, (decimalValue? c).isSome = true
  short : s.toList.length ≤ digitLimit

/-- The number that the decimal digits in a text make. -/
def digitNumber (s : String) : Nat := ofDigits (s.toList.filterMap decimalValue?)

/-- Digit characters are written without underscores, so that each of them has its own value. -/
theorem Digits.values {cs : List Char} {ds : List Nat} (h : Digits cs ds)
    (digits : ∀ c ∈ cs, isDigit c = true) :
    (∀ c ∈ cs, (decimalValue? c).isSome = true) ∧ cs.filterMap decimalValue? = ds ∧
      ds.length = cs.length := by
  induction h with
  | last digit => simp [digit]
  | next digit _ ih =>
      obtain ⟨some_, values, length⟩ := ih (List.forall_mem_cons.mp digits).2
      refine ⟨List.forall_mem_cons.mpr ⟨Option.isSome_of_eq_some digit, some_⟩, ?_, ?_⟩
      · rw [List.filterMap_cons_some digit, values]
      · rw [List.length_cons, List.length_cons, length]
  | apart _ _ _ =>
      have other : isDigit '_' = false := by decide
      have passes : isDigit '_' = true := digits '_' (by simp)
      rw [other] at passes
      cases passes

theorem digits_filterMap : ∀ {cs : List Char}, cs ≠ [] →
    (∀ c ∈ cs, (decimalValue? c).isSome = true) → Digits cs (cs.filterMap decimalValue?)
  | [], some_, _ => absurd rfl some_
  | [c], _, decimal => by
      obtain ⟨d, digit⟩ := Option.isSome_iff_exists.mp (decimal c (by simp))
      rw [List.filterMap_cons_some digit]
      exact .last digit
  | c :: c' :: rest, _, decimal => by
      obtain ⟨d, digit⟩ := Option.isSome_iff_exists.mp (decimal c (by simp))
      rw [List.filterMap_cons_some digit]
      exact .next digit (digits_filterMap (by simp) (List.forall_mem_cons.mp decimal).2)

/-- A text of digit characters is a whole number exactly if it is convertible. -/
theorem writes_iff_of_isDigits {s : String} (passes : isDigits s = true) {n : Int} :
    Writes s n ↔ Convertible s ∧ n = digitNumber s := by
  obtain ⟨some_, digits⟩ := isDigits_iff.mp passes
  constructor
  · rintro ⟨whole, leads, signs, written, few, tails⟩
    rename_i lead sign cs tail negative ds
    -- spaces and signs are no digit characters, so there are none
    have not_digit {c : Char} (other : isDigit c = false) (member : c ∈ s.toList) : False := by
      rw [digits c member] at other
      cases other
    have no_lead : lead = [] := List.eq_nil_iff_forall_not_mem.mpr fun c member =>
      not_digit (isDigit_space (leads c member)) (by simp [whole, member])
    have no_tail : tail = [] := List.eq_nil_iff_forall_not_mem.mpr fun c member =>
      not_digit (isDigit_space (tails c member)) (by simp [whole, member])
    subst no_lead no_tail
    cases signs with
    | none =>
        rw [List.nil_append, List.nil_append, List.append_nil] at whole
        obtain ⟨decimal, values, length⟩ := written.values (whole ▸ digits)
        rw [length] at few
        refine ⟨⟨whole ▸ decimal, whole ▸ few⟩, ?_⟩
        rw [digitNumber, whole, values]
        rfl
    | plus => exact (not_digit (c := '+') (by decide) (by simp [whole])).elim
    | minus => exact (not_digit (c := '-') (by decide) (by simp [whole])).elim
  · rintro ⟨⟨decimal, short⟩, rfl⟩
    have written := digits_filterMap some_ decimal
    have few := (written.values digits).2.2
    have parts : s.toList = [] ++ ([] ++ (s.toList ++ [])) := by simp
    exact .intro parts (by simp) .none written (by omega) (by simp)

/-- A text of digit characters is converted exactly if it is convertible, to the number that its
digits make. -/
theorem toInt_of_isDigits {s : String} (passes : isDigits s = true) {n : Int} :
    toInt s = .ok n ↔ Convertible s ∧ n = digitNumber s :=
  toInt_iff.trans (writes_iff_of_isDigits passes)

/-- A text that passes for a number without being convertible: it has digit characters only, but
one of them is no decimal digit, or there are too many of them. -/
structure Slips (s : String) : Prop where
  passes : isDigits s = true
  inconvertible : (∃ c ∈ s.toList, decimalValue? c = none) ∨ digitLimit < s.toList.length

theorem not_convertible_iff {s : String} :
    ¬Convertible s ↔ (∃ c ∈ s.toList, decimalValue? c = none) ∨ digitLimit < s.toList.length := by
  have both : Convertible s ↔
      (∀ c ∈ s.toList, (decimalValue? c).isSome = true) ∧ s.toList.length ≤ digitLimit :=
    ⟨fun h => ⟨h.decimal, h.short⟩, fun h => ⟨h.1, h.2⟩⟩
  rw [both, Classical.not_and_iff_not_or_not]
  simp

theorem not_slips_iff {s : String} : ¬Slips s ↔ (isDigits s = true → Convertible s) := by
  constructor
  · intro caught passes
    by_contra other
    exact caught ⟨passes, not_convertible_iff.mp other⟩
  · rintro protected_ ⟨passes, inconvertible⟩
    exact not_convertible_iff.mpr inconvertible (protected_ passes)

/-! ### The texts of numbers -/

theorem decimalValue?_ascii {c : Char} (digit : c.isDigit = true) :
    decimalValue? c = some (c.toNat - '0'.toNat) := by
  have all : ∀ d < 10, decimalValue? (Nat.digitChar d) =
      some ((Nat.digitChar d).toNat - '0'.toNat) := by decide
  obtain ⟨d, small, rfl⟩ := exists_digitChar digit
  exact all d small

theorem isDigits_toString (n : Nat) : isDigits (toString n) = true := by
  refine isDigits_iff.mpr ⟨?_, fun c member => ?_⟩
  · simp
  · exact isDigit_of_value (decimalValue?_ascii (allDigits_toString n c member))

theorem convertible_toString {n : Nat} (short : (toString n).toList.length ≤ digitLimit) :
    Convertible (toString n) :=
  ⟨fun c member => Option.isSome_of_eq_some (decimalValue?_ascii (allDigits_toString n c member)),
    short⟩

theorem digitNumber_toString (n : Nat) : digitNumber (toString n) = n := by
  have values : (toString n).toList.filterMap decimalValue? =
      (toString n).toList.map fun c => c.toNat - '0'.toNat := by
    rw [← List.filterMap_eq_map]
    exact List.filterMap_congr fun c member => decimalValue?_ascii (allDigits_toString n c member)
  rw [digitNumber, values]
  show asciiNumber (toString n).toList = n
  rw [asciiNumber_eq]
  simp

end Text

/-! ### References and identifiers -/

open Text

theorem nodeNumber_text (s : String) :
    nodeNumber (.text s) = match s.toList with
      | 'N' :: ':' :: number =>
          if isDigits (String.ofList number) then some <$> toInt (String.ofList number)
          else .ok none
      | _ => .ok none := rfl

theorem nodeNumber_marked (digits : String) :
    nodeNumber (.text ("N:" ++ digits)) =
      if isDigits digits then some <$> toInt digits else .ok none := by
  have parts : ("N:" ++ digits).toList = 'N' :: ':' :: digits.toList := by simp
  rw [nodeNumber_text, parts]
  simp only [String.ofList_toList]

theorem nodeNumber_unmarked {s : String} (unmarked : ∀ digits, s ≠ "N:" ++ digits) :
    nodeNumber (.text s) = .ok none := by
  rw [nodeNumber_text]
  split
  next number parts =>
    refine absurd ?_ (unmarked (String.ofList number))
    rw [← String.toList_inj, parts]
    simp
  next => rfl

/-- A text refers to a node: it is the mark and digit characters. -/
def RefersTo (s digits : String) : Prop := s = "N:" ++ digits ∧ isDigits digits = true

theorem RefersTo.nodeNumber_eq {s digits : String} (h : RefersTo s digits) :
    nodeNumber (.text s) = some <$> toInt digits := by
  obtain ⟨rfl, passes⟩ := h
  rw [nodeNumber_marked, if_pos passes]

theorem nodeNumber_of_not_refersTo {s : String} (other : ∀ digits, ¬RefersTo s digits) :
    nodeNumber (.text s) = .ok none := by
  by_cases marked : ∃ digits, s = "N:" ++ digits
  · obtain ⟨digits, rfl⟩ := marked
    rw [nodeNumber_marked, if_neg fun passes => other digits ⟨rfl, passes⟩]
  · exact nodeNumber_unmarked fun digits same => marked ⟨digits, same⟩

theorem nodeNumber_eq_none_iff {s : String} :
    nodeNumber (.text s) = .ok none ↔ ∀ digits, ¬RefersTo s digits := by
  constructor
  · intro found digits refers
    rw [refers.nodeNumber_eq] at found
    obtain ⟨_, -, ⟨⟩⟩ := map_eq_ok.mp found
  · exact nodeNumber_of_not_refersTo

theorem nodeNumber_eq_some_iff {s : String} {n : Int} :
    nodeNumber (.text s) = .ok (some n) ↔
      ∃ digits, RefersTo s digits ∧ Convertible digits ∧ n = digitNumber digits := by
  constructor
  · intro found
    by_cases refers : ∃ digits, RefersTo s digits
    · obtain ⟨digits, refers⟩ := refers
      rw [refers.nodeNumber_eq] at found
      obtain ⟨m, read, ⟨⟩⟩ := map_eq_ok.mp found
      exact ⟨digits, refers, (toInt_of_isDigits refers.2).mp read⟩
    · rw [nodeNumber_of_not_refersTo fun digits h => refers ⟨digits, h⟩] at found
      cases found
  · rintro ⟨digits, refers, convertible⟩
    rw [refers.nodeNumber_eq, (toInt_of_isDigits refers.2).mpr convertible]
    rfl

theorem profileNumber_eq_ok_iff {s : String} {profile : Value} :
    profileNumber (.text s) = .ok profile ↔
      isDigits s = true ∧ Convertible s ∧ profile = .int (digitNumber s) ∨
        isDigits s = false ∧ profile = .text s := by
  show (if isDigits s then Value.int <$> toInt s else .ok (.text s)) = .ok profile ↔ _
  cases passes : isDigits s with
  | false => simp [eq_comm]
  | true =>
      rw [if_pos rfl]
      constructor
      · intro found
        obtain ⟨n, read, rfl⟩ := map_eq_ok.mp found
        obtain ⟨convertible, rfl⟩ := (toInt_of_isDigits passes).mp read
        exact .inl ⟨rfl, convertible, rfl⟩
      · rintro (⟨-, convertible, rfl⟩ | ⟨⟨⟩, -⟩)
        rw [(toInt_of_isDigits passes).mpr ⟨convertible, rfl⟩]
        rfl

theorem nodeNumber_toString {n : Nat} (short : (toString n).toList.length ≤ digitLimit) :
    nodeNumber (.text ("N:" ++ toString n)) = .ok (some n) :=
  nodeNumber_eq_some_iff.mpr ⟨toString n, ⟨rfl, isDigits_toString n⟩, convertible_toString short,
    congrArg Int.ofNat (digitNumber_toString n).symm⟩

theorem profileNumber_toString {n : Nat} (short : (toString n).toList.length ≤ digitLimit) :
    profileNumber (.text (toString n)) = .ok (.int n) :=
  profileNumber_eq_ok_iff.mpr (.inl ⟨isDigits_toString n, convertible_toString short,
    congrArg (Value.int ∘ Int.ofNat) (digitNumber_toString n).symm⟩)

/-! ### Where the test protects the conversion -/

/-- What a reference stands for is found unless the text behind its mark slips through. -/
theorem nodeNumber_found_iff {s : String} :
    (∃ number, nodeNumber (.text s) = .ok number) ↔
      ¬∃ digits, s = "N:" ++ digits ∧ Slips digits := by
  constructor
  · rintro ⟨number, found⟩ ⟨digits, rfl, slips⟩
    have refers : RefersTo ("N:" ++ digits) digits := ⟨rfl, slips.passes⟩
    cases number with
    | none => exact nodeNumber_eq_none_iff.mp found digits refers
    | some n =>
        obtain ⟨digits', ⟨same, -⟩, convertible, -⟩ := nodeNumber_eq_some_iff.mp found
        obtain rfl : digits = digits' := by simpa using same
        exact not_convertible_iff.mpr slips.inconvertible convertible
  · intro caught
    by_cases refers : ∃ digits, RefersTo s digits
    · obtain ⟨digits, refers⟩ := refers
      have convertible : Convertible digits :=
        not_slips_iff.mp (fun slips => caught ⟨digits, refers.1, slips⟩) refers.2
      exact ⟨_, nodeNumber_eq_some_iff.mpr ⟨digits, refers, convertible, rfl⟩⟩
    · exact ⟨none, nodeNumber_of_not_refersTo fun digits h => refers ⟨digits, h⟩⟩

/-- What an identifier stands for is found unless it slips through. -/
theorem profileNumber_found_iff {s : String} :
    (∃ profile, profileNumber (.text s) = .ok profile) ↔ ¬Slips s := by
  rw [not_slips_iff]
  constructor
  · rintro ⟨profile, found⟩ passes
    rcases profileNumber_eq_ok_iff.mp found with ⟨-, convertible, -⟩ | ⟨other, -⟩
    · exact convertible
    · rw [passes] at other
      cases other
  · intro protected_
    cases passes : isDigits s with
    | false => exact ⟨_, profileNumber_eq_ok_iff.mpr (.inr ⟨passes, rfl⟩)⟩
    | true => exact ⟨_, profileNumber_eq_ok_iff.mpr (.inl ⟨passes, protected_ passes, rfl⟩)⟩

/-- What is said of a text that may be converted, that may refer to a node, and that may identify a
profile. -/
structure Guarded (s : String) : Prop where
  /-- A text that passes the test is converted exactly if it does not slip through. -/
  converted_iff : (isDigits s = true → ∃ n, toInt s = .ok n) ↔ ¬Slips s
  /-- What a reference stands for is found exactly if no text slips through behind its mark. -/
  referred_iff : (∃ number, nodeNumber (.text s) = .ok number) ↔
    ¬∃ digits, s = "N:" ++ digits ∧ Slips digits
  /-- What an identifier stands for is found exactly if it does not slip through. -/
  identified_iff : (∃ profile, profileNumber (.text s) = .ok profile) ↔ ¬Slips s
  /-- A reference stands for the number of its digits, when it has digits that are convertible. -/
  number_iff : ∀ n, nodeNumber (.text s) = .ok (some n) ↔
    ∃ digits, RefersTo s digits ∧ Convertible digits ∧ n = digitNumber digits
  /-- It stands for no node when it has none. -/
  numberless_iff : nodeNumber (.text s) = .ok none ↔ ∀ digits, ¬RefersTo s digits
  /-- An identifier stands for the number of its digits, or for itself when it has other
  characters. -/
  profile_iff : ∀ profile, profileNumber (.text s) = .ok profile ↔
    isDigits s = true ∧ Convertible s ∧ profile = .int (digitNumber s) ∨
      isDigits s = false ∧ profile = .text s

/-- The test for digits protects the conversion behind it from every text but those that slip
through. -/
theorem digit_guards_protect_iff (s : String) : Guarded s := by
  refine ⟨?_, nodeNumber_found_iff, profileNumber_found_iff, fun n => nodeNumber_eq_some_iff,
    nodeNumber_eq_none_iff, fun profile => profileNumber_eq_ok_iff⟩
  rw [not_slips_iff]
  refine forall_congr' fun passes => ?_
  simp [toInt_of_isDigits passes]

/-- A superscript passes for a digit, but neither it nor what refers or identifies by it can be
converted. -/
theorem superscript_slips :
    isDigits "\u00b2" = true ∧ (∀ n, toInt "\u00b2" ≠ .ok n) ∧
      (∀ number, nodeNumber (.text "N:\u00b2") ≠ .ok number) ∧
      ∀ profile, profileNumber (.text "\u00b2") ≠ .ok profile := by
  have conversion : (toInt "\u00b2").isOk = false := by decide
  have reference : (nodeNumber (.text "N:\u00b2")).isOk = false := by decide
  have identifier : (profileNumber (.text "\u00b2")).isOk = false := by decide
  refine ⟨by decide, fun n found => ?_, fun number found => ?_, fun profile found => ?_⟩
  · rw [found] at conversion
    cases conversion
  · rw [found] at reference
    cases reference
  · rw [found] at identifier
    cases identifier

end NodeInventory
