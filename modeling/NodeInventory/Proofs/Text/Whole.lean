import NodeInventory.Value.Integer
import Mathlib.Data.List.TakeWhile
import Mathlib.Data.Rat.Floor

/-!
# Which texts are whole numbers

The notation of whole numbers as a grammar: spaces, a sign or none, digits of any script with single
underscores between them, at most `digitLimit` of them, and spaces.  A text is converted exactly if
it is written so, and to the number that its digits make (`toInt_iff`).  A value counts as a whole
number by its kind: a truth value as one or zero, a finite number without its fraction, a text by
this notation, and anything else not at all (`Value.toInt_iff`).
-/

namespace NodeInventory.Text

/-! ### The notation -/

/-- Characters are decimal digits with these values, single underscores between them. -/
inductive Digits : List Char → List Nat → Prop
  | last {c : Char} {d : Nat} : decimalValue? c = some d → Digits [c] [d]
  | next {c : Char} {d : Nat} {cs : List Char} {ds : List Nat} :
      decimalValue? c = some d → Digits cs ds → Digits (c :: cs) (d :: ds)
  | apart {c : Char} {d : Nat} {cs : List Char} {ds : List Nat} :
      decimalValue? c = some d → Digits cs ds → Digits (c :: '_' :: cs) (d :: ds)

/-- A sign, or none, and whether it makes a number negative. -/
inductive Sign : List Char → Bool → Prop
  | none : Sign [] false
  | plus : Sign ['+'] false
  | minus : Sign ['-'] true

/-- A number under a sign. -/
def signed (negative : Bool) (n : Int) : Int := if negative then -n else n

/-- A text is a whole number in this notation. -/
inductive Writes : String → Int → Prop
  | intro {s : String} {lead sign cs tail : List Char} {negative : Bool} {ds : List Nat} :
      s.toList = lead ++ (sign ++ (cs ++ tail)) → (∀ c ∈ lead, isSpace c = true) →
      Sign sign negative → Digits cs ds → ds.length ≤ digitLimit →
      (∀ c ∈ tail, isSpace c = true) → Writes s (signed negative (ofDigits ds))

/-! ### Spaces, signs and digits are different characters -/

/-- The spaces. -/
def spaceCodes : List Nat :=
  [0x9, 0xA, 0xB, 0xC, 0xD, 0x20, 0x85, 0xA0, 0x1680, 0x2000, 0x2001, 0x2002, 0x2003, 0x2004,
   0x2005, 0x2006, 0x2007, 0x2008, 0x2009, 0x200A, 0x2028, 0x2029, 0x202F, 0x205F, 0x3000]

theorem mem_spaceCodes {c : Char} (space : isSpace c = true) : c.toNat ∈ spaceCodes := by
  have blank : c = ' ' ↔ c.toNat = 0x20 := Char.toNat_inj.symm
  simp only [isSpace, Bool.or_eq_true, Bool.and_eq_true, decide_eq_true_eq, beq_iff_eq, blank]
    at space
  simp only [spaceCodes, List.mem_cons, List.not_mem_nil, or_false]
  omega

theorem decimalValue?_space {c : Char} (space : isSpace c = true) : decimalValue? c = none := by
  have outside : ∀ n ∈ spaceCodes,
      (decimalZeros.find? fun first => first ≤ n && n ≤ first + 9) = none := by decide
  unfold decimalValue?
  rw [outside c.toNat (mem_spaceCodes space)]
  rfl

theorem ne_of_digit {c other : Char} {d : Nat} (digit : decimalValue? c = some d)
    (valueless : decimalValue? other = none) : c ≠ other := by
  rintro rfl
  rw [valueless] at digit
  cases digit

theorem not_space_of_digit {c : Char} {d : Nat} (digit : decimalValue? c = some d) :
    ¬isSpace c = true := fun space => ne_of_digit digit (decimalValue?_space space) rfl

/-! ### Signs -/

theorem takeSign_sound (cs : List Char) :
    ∃ sign, Sign sign (takeSign cs).1 ∧ cs = sign ++ (takeSign cs).2 := by
  unfold takeSign
  split
  · exact ⟨['-'], .minus, rfl⟩
  · exact ⟨['+'], .plus, rfl⟩
  · exact ⟨[], .none, rfl⟩

theorem takeSign_append {sign rest : List Char} {negative : Bool} {c : Char}
    (h : Sign sign negative) (minus : c ≠ '-') (plus : c ≠ '+') :
    takeSign (sign ++ c :: rest) = (negative, c :: rest) := by
  cases h with
  | none =>
      refine takeSign.eq_3 _ (fun _ same => ?_) (fun _ same => ?_)
      · exact minus (List.cons.inj same).1
      · exact plus (List.cons.inj same).1
  | plus => rfl
  | minus => rfl

theorem dropWhile_sign {sign rest : List Char} {negative : Bool} {c : Char}
    (h : Sign sign negative) (visible : ¬isSpace c = true) :
    (sign ++ c :: rest).dropWhile isSpace = sign ++ c :: rest := by
  cases h with
  | none => exact List.dropWhile_cons_of_neg visible
  | plus => rfl
  | minus => rfl

/-! ### Digits -/

theorem Digits.head {cs : List Char} {ds : List Nat} (h : Digits cs ds) :
    ∃ c rest d, cs = c :: rest ∧ decimalValue? c = some d := by
  cases h with
  | last digit => exact ⟨_, _, _, rfl, digit⟩
  | next digit _ => exact ⟨_, _, _, rfl, digit⟩
  | apart digit _ => exact ⟨_, _, _, rfl, digit⟩

/-- What is taken from the start of a text is written there. -/
theorem takeDigits_sound {cs after : List Char} {ds : List Nat}
    (taken : takeDigits cs = some (ds, after)) :
    ∃ front, Digits front ds ∧ cs = front ++ after := by
  fun_induction takeDigits cs generalizing ds after with
  | case1 => cases taken
  | case2 => cases taken
  | case3 c rest d digit ih =>
      obtain ⟨⟨ds', after'⟩, inner, whole⟩ := Option.map_eq_some_iff.mp taken
      cases whole
      obtain ⟨front, written, rfl⟩ := ih inner
      exact ⟨c :: '_' :: front, .apart digit written, rfl⟩
  | case4 => cases taken
  | case5 c rest _ d digit ds' after' inner ih =>
      cases taken
      obtain ⟨front, written, rfl⟩ := ih inner
      exact ⟨c :: front, .next digit written, rfl⟩
  | case6 c rest _ d digit _ ih =>
      cases taken
      exact ⟨[c], .last digit, rfl⟩

/-- The first character of a text, if it has one, is neither a digit nor an underscore. -/
def NoDigits (cs : List Char) : Prop :=
  ∀ c rest, cs = c :: rest → c ≠ '_' ∧ decimalValue? c = none

theorem takeDigits_noDigits {cs : List Char} (h : NoDigits cs) : takeDigits cs = none := by
  cases taken : takeDigits cs with
  | none => rfl
  | some p =>
      obtain ⟨front, written, rfl⟩ := takeDigits_sound taken
      obtain ⟨c, rest, d, rfl, digit⟩ := written.head
      rw [(h c _ rfl).2] at digit
      cases digit

/-- Digits are taken to their end. -/
theorem takeDigits_append {cs after : List Char} {ds : List Nat} (h : Digits cs ds)
    (ends : NoDigits after) : takeDigits (cs ++ after) = some (ds, after) := by
  induction h with
  | @last c d digit =>
      show takeDigits (c :: after) = _
      rw [takeDigits.eq_3 c after fun rest same => (ends _ _ same).1 rfl, digit,
        takeDigits_noDigits ends]
  | @next c d cs ds digit more ih =>
      obtain ⟨c', rest, d', rfl, digit'⟩ := more.head
      have joined : ∀ rest', c' :: rest ++ after = '_' :: rest' → False := fun _ same =>
        ne_of_digit digit' (by decide) (List.cons.inj same).1
      show takeDigits (c :: (c' :: rest ++ after)) = _
      rw [takeDigits.eq_3 c _ joined, digit, ih]
  | @apart c d cs ds digit more ih =>
      show takeDigits (c :: '_' :: (cs ++ after)) = _
      rw [takeDigits.eq_2, digit, ih]
      rfl

theorem noDigits_of_spaces {cs : List Char} (spaces : ∀ c ∈ cs, isSpace c = true) :
    NoDigits cs := by
  rintro c rest rfl
  have space := spaces c List.mem_cons_self
  refine ⟨?_, decimalValue?_space space⟩
  rintro rfl
  cases space

/-! ### Texts -/

/-- The whole numbers that texts are converted to are those that they are written for. -/
theorem toInt_iff {s : String} {n : Int} : toInt s = .ok n ↔ Writes s n := by
  constructor
  · intro read
    obtain ⟨sign, signs, whole⟩ := takeSign_sound (s.toList.dropWhile isSpace)
    unfold toInt at read
    dsimp only at read
    split at read
    · cases read
    next ds after taken =>
      obtain ⟨front, written, split_⟩ := takeDigits_sound taken
      split at read
      · cases read
      next few =>
        split at read
        next spaces =>
          cases read
          have parts : s.toList = s.toList.takeWhile isSpace ++ (sign ++ (front ++ after)) := by
            rw [← split_, ← whole, List.takeWhile_append_dropWhile]
          exact .intro parts (fun c => List.mem_takeWhile_imp) signs written
            (Nat.le_of_not_lt few) (List.all_eq_true.mp spaces)
        next => cases read
  · rintro ⟨whole, leads, signs, written, few, tails⟩
    obtain ⟨c, rest, d, rfl, digit⟩ := written.head
    have minus : c ≠ '-' := ne_of_digit digit (by decide)
    have plus : c ≠ '+' := ne_of_digit digit (by decide)
    unfold toInt
    rw [whole, List.dropWhile_append_of_pos leads]
    dsimp only [List.cons_append]
    rw [dropWhile_sign signs (not_space_of_digit digit), takeSign_append signs minus plus]
    dsimp only
    rw [← List.cons_append, takeDigits_append written (noDigits_of_spaces tails)]
    dsimp only
    rw [if_neg (Nat.not_lt.mpr few), if_pos (List.all_eq_true.mpr tails)]
    rfl

end NodeInventory.Text

namespace NodeInventory.Value

/-- What a value counts as when a whole number is asked for: truth values as one and zero, a finite
number without its fraction, and a text as the number that it is written for. -/
inductive Counts : Value → Int → Prop
  | no : Counts (.bool false) 0
  | yes : Counts (.bool true) 1
  | int (n : Int) : Counts (.int n) n
  | float (negative : Bool) {m : Rat} {k : Int} : k ≤ m → m < k + 1 →
      Counts (.float (.finite negative m)) (Text.signed negative k)
  | text {s : String} {n : Int} : Text.Writes s n → Counts (.text s) n

/-- The whole number of a value is what it counts as. -/
theorem toInt_iff {v : Value} {n : Int} : v.toInt = .ok n ↔ v.Counts n := by
  constructor
  · intro read
    unfold toInt at read
    split at read
    case h_1 b =>
      cases read
      cases b
      · exact .no
      · exact .yes
    case h_2 n =>
      cases read
      exact .int n
    case h_5 negative m =>
      cases read
      exact .float negative (Rat.floor_le m) (Int.lt_floor_add_one m)
    case h_6 s => exact .text (Text.toInt_iff.mp read)
    all_goals cases read
  · intro counts
    cases counts with
    | no => rfl
    | yes => rfl
    | int n => rfl
    | @float negative m k least most =>
        have floor : m.floor = k := Int.floor_eq_iff.mpr ⟨least, most⟩
        show Except.ok (Text.signed negative m.floor) = _
        rw [floor]
    | text written => exact Text.toInt_iff.mpr written

theorem Counts.unique {v : Value} {n n' : Int} (h : v.Counts n) (h' : v.Counts n') : n = n' := by
  have same : (.ok n : Outcome Int) = .ok n' := (toInt_iff.mpr h).symm.trans (toInt_iff.mpr h')
  cases same
  rfl

end NodeInventory.Value
