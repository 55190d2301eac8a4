import NodeInventory.Json.Reader
import NodeInventory.Proofs.Text.Whole

/-!
# The grammar of JSON

What a text has to look like to be JSON, and the value that it then denotes, without regard to how
it is read.  The grammar is that of the interchange format, with `NaN` and the two infinities as
further words.

Two things are left open (`Dialect`).  A number without fraction and exponent is a whole number; the
format sets no bound to its digits, and a reader may.  And a text may be written with half of a
surrogate pair in it, which is no character: what such a text denotes is known up to that half
only.
-/

namespace NodeInventory.Json

/-- What the format leaves to its reader: how many digits a whole number may have, and which
character stands for half of a surrogate pair. -/
structure Dialect where
  short : Nat → Prop
  half : Char

/-- Characters that may stand between tokens. -/
def Gap (cs : List Char) : Prop := ∀ c ∈ cs, isGap c = true

/-! ### Texts in quotes -/

/-- The code of the second half of a pair stands at the start. -/
def StartsLow (cs : List Char) : Prop :=
  ∃ a b c d rest low, cs = '\\' :: 'u' :: a :: b :: c :: d :: rest ∧
    codeUnit? a b c d = some low ∧ isLowSurrogate low = true

/-- The character of a code unit that stands alone, if one is chosen for half of a pair. -/
def standing (half : Char) (n : Nat) : Char :=
  if isHighSurrogate n || isLowSurrogate n then half else Char.ofNat n

/-- What stands between two quotes spells a text.  The two halves of a pair are one character when
the second one follows the first directly, and stand alone otherwise. -/
inductive Spells (half : Char) : List Char → List Char → Prop
  | done : Spells half [] []
  | plain {c : Char} {cs t : List Char} : 0x20 ≤ c.toNat → c ≠ '"' → c ≠ '\\' →
      Spells half cs t → Spells half (c :: cs) (c :: t)
  | escape {c e : Char} {cs t : List Char} : escaped? c = some e → Spells half cs t →
      Spells half ('\\' :: c :: cs) (e :: t)
  | unit {a b c d : Char} {unit : Nat} {cs t : List Char} : codeUnit? a b c d = some unit →
      (isHighSurrogate unit = true → ¬StartsLow cs) → Spells half cs t →
      Spells half ('\\' :: 'u' :: a :: b :: c :: d :: cs) (standing half unit :: t)
  | pair {a b c d e f g h : Char} {high low : Nat} {cs t : List Char} :
      codeUnit? a b c d = some high → isHighSurrogate high = true →
      codeUnit? e f g h = some low → isLowSurrogate low = true → Spells half cs t →
      Spells half ('\\' :: 'u' :: a :: b :: c :: d :: '\\' :: 'u' :: e :: f :: g :: h :: cs)
        (pairChar high low :: t)

/-! ### Numbers -/

/-- One digit or more. -/
structure Digits (cs : List Char) : Prop where
  nonempty : cs ≠ []
  digits : ∀ c ∈ cs, isAsciiDigit c = true

/-- Digits without a zero in front of others. -/
structure Whole (cs : List Char) : Prop extends Digits cs where
  unpadded : cs.head? = some '0' → cs = ['0']

/-- A point and the digits after it, or nothing. -/
inductive Fraction : List Char → List Char → Prop
  | none : Fraction [] []
  | some {ds : List Char} : Digits ds → Fraction ('.' :: ds) ds

/-- An exponent, or nothing. -/
inductive Exponent : List Char → Option Int → Prop
  | none : Exponent [] none
  | some {mark : Char} {sign ds : List Char} {negative : Bool} : mark = 'e' ∨ mark = 'E' →
      Text.Sign sign negative → Digits ds →
      Exponent (mark :: (sign ++ ds)) (some (Text.signed negative (Text.asciiNumber ds)))

/-- The sign of a number. -/
def minus (negative : Bool) : List Char := if negative then ['-'] else []

/-- A number: a whole one with few enough digits, or the binary64 number next to what a fraction or
an exponent makes of the digits. -/
inductive Numeral (short : Nat → Prop) : List Char → Value → Prop
  | whole (negative : Bool) {ds : List Char} : Whole ds → short ds.length →
      Numeral short (minus negative ++ ds) (.int (Text.signed negative (Text.asciiNumber ds)))
  | decimal (negative : Bool) {ds fraction fs exponent : List Char} {n : Option Int} :
      Whole ds → Fraction fraction fs → Exponent exponent n → fs ≠ [] ∨ n ≠ none →
      Numeral short (minus negative ++ (ds ++ (fraction ++ exponent)))
        (.float (Binary64.ofDecimal negative (Text.asciiNumber (ds ++ fs)) (n.getD 0 - fs.length)))

/-! ### Values -/

mutual

/-- A text denotes a value. -/
inductive Denotes (d : Dialect) : List Char → Value → Prop
  | word {w : String} {v : Value} : (w, v) ∈ words → Denotes d w.toList v
  | number {cs : List Char} {v : Value} : Numeral d.short cs v → Denotes d cs v
  | text {cs t : List Char} : Spells d.half cs t →
      Denotes d ('"' :: (cs ++ ['"'])) (.text (String.ofList t))
  | emptyList {gap : List Char} : Gap gap → Denotes d ('[' :: (gap ++ [']'])) (.list [])
  | list {gap cs : List Char} {vs : List Value} : Gap gap → Items d cs vs →
      Denotes d ('[' :: (gap ++ cs)) (.list vs)
  | emptyObject {gap : List Char} : Gap gap →
      Denotes d ('\x7b' :: (gap ++ ['\x7d'])) (.object [])
  | object {gap cs : List Char} {fields : Fields} : Gap gap → Members d cs fields →
      Denotes d ('\x7b' :: (gap ++ cs)) (.object (Fields.ofList fields))

/-- The items of a list, up to the bracket that closes it. -/
inductive Items (d : Dialect) : List Char → List Value → Prop
  | last {cs gap : List Char} {v : Value} : Denotes d cs v → Gap gap →
      Items d (cs ++ (gap ++ [']'])) [v]
  | next {cs gap gap' more : List Char} {v : Value} {vs : List Value} : Denotes d cs v →
      Gap gap → Gap gap' → Items d more vs →
      Items d (cs ++ (gap ++ ',' :: (gap' ++ more))) (v :: vs)

/-- A field of an object as it is written. -/
inductive Member (d : Dialect) : List Char → String × Value → Prop
  | intro {name t gap gap' cs : List Char} {v : Value} : Spells d.half name t → Gap gap →
      Gap gap' → Denotes d cs v →
      Member d ('"' :: (name ++ '"' :: (gap ++ ':' :: (gap' ++ cs)))) (String.ofList t, v)

/-- The fields of an object as they are written, up to the brace that closes it. -/
inductive Members (d : Dialect) : List Char → Fields → Prop
  | last {cs gap : List Char} {field : String × Value} : Member d cs field → Gap gap →
      Members d (cs ++ (gap ++ ['\x7d'])) [field]
  | next {cs gap gap' more : List Char} {field : String × Value} {fields : Fields} :
      Member d cs field → Gap gap → Gap gap' → Members d more fields →
      Members d (cs ++ (gap ++ ',' :: (gap' ++ more))) (field :: fields)

end

/-- A whole text is JSON for a value. -/
inductive Document (d : Dialect) : List Char → Value → Prop
  | intro {gap cs gap' : List Char} {v : Value} : Gap gap → Denotes d cs v → Gap gap' →
      Document d (gap ++ (cs ++ gap')) v

end NodeInventory.Json
