import NodeInventory.Fault
import NodeInventory.Text.Case
import NodeInventory.Text.Decimal
import NodeInventory.Text.Integer
import NodeInventory.Yaml.Scalar
import NodeInventory.Yaml.Stamp

/-!
# What scalars stand for

A scalar has a tag that says how its text is read: as nothing, as a truth value, as a whole number
in base two, eight, ten, sixteen or sixty, as a number with a point, as a date, or as the text it
is.  A plain scalar without a tag has the tag that its text looks like.  Underscores among digits do
not count.
-/

namespace NodeInventory.Yaml

/-- How a node is read. -/
inductive Tag where
  | null | bool | int | float | stamp | text | sequence | mapping
  /-- The key under which other mappings are taken in. -/
  | merge
  /-- The key of a mapping's usual value. -/
  | usual
  /-- A tag that nothing is known of. -/
  | unknown
  deriving DecidableEq, Repr

namespace Tag

/-- What the names of the common tags begin with. -/
def stem : String := "tag:yaml.org,2002:"

/-- The common tags. -/
def names : List (String × Tag) :=
  [("null", .null), ("bool", .bool), ("int", .int), ("float", .float), ("timestamp", .stamp),
   ("str", .text), ("seq", .sequence), ("map", .mapping), ("merge", .merge), ("value", .usual)]

/-- The tag of a name. -/
def ofName (name : String) : Tag :=
  ((names.find? fun (short, _) => stem ++ short == name).map (·.2)).getD .unknown

end Tag

/-! ### What texts look like -/

/-- The spellings of a word: in small letters, with a capital, in capitals. -/
def spellings (word : String) : List String := [word, word.capitalize, word.toUpper]

/-- The words for truth values. -/
def truthWords : List (String × Bool) :=
  [("yes", true), ("no", false), ("true", true), ("false", false), ("on", true), ("off", false)]

/-- The words for nothing. -/
def nullWords : List String := ["", "~"] ++ spellings "null"

/-- The words for what is not a finite number, after their point. -/
def infinityWords : List String := spellings "inf"

/-- The words for no number, after their point. -/
def nanWords : List String := ["nan", "NaN", "NAN"]

/-- A digit or an underscore. -/
def isPart (c : Char) : Bool := c.isDigit || c = '_'

/-- One or more characters of a class. -/
def allOf (p : Char → Bool) (cs : List Char) : Bool := !cs.isEmpty && cs.all p

/-- Parts of a number in base sixty after the first one, each after a colon. -/
def isSixties : List Char → Bool
  | [] => true
  | ':' :: a :: b :: rest =>
      if b.isDigit then '0' ≤ a && a ≤ '5' && isSixties rest
      else a.isDigit && isSixties (b :: rest)
  | [':', a] => a.isDigit
  | _ => false

/-- A whole number after its sign. -/
def isWhole (cs : List Char) : Bool :=
  match cs with
  | ['0'] => true
  | '0' :: 'b' :: digits => allOf (fun c => c = '0' || c = '1' || c = '_') digits
  | '0' :: 'x' :: digits => allOf (fun c => (hexValue? [c]).isSome || c = '_') digits
  | '0' :: digits => allOf (fun c => ('0' ≤ c && c ≤ '7') || c = '_') digits
  | c :: rest => c.isDigit && isSixties (rest.dropWhile isPart)
  | [] => false

/-- An exponent, or none: its sign has to be there. -/
def isExponent : List Char → Bool
  | [] => true
  | e :: sign :: digits =>
      (e = 'e' || e = 'E') && (sign = '+' || sign = '-') && allOf Char.isDigit digits
  | _ => false

/-- A number with a point in it. -/
def isPointed (s : List Char) : Bool :=
  let (_, cs) := Text.takeSign s
  let unsigned := cs.length = s.length
  let rest := cs.dropWhile isPart
  if cs.head?.any Char.isDigit then
    match rest.dropWhile fun c => isPart c || c = ':' with
    | '.' :: after =>
        let fraction := after.dropWhile isPart
        let sixties := rest.takeWhile (· != '.')
        if sixties.isEmpty then isExponent fraction else isSixties sixties && fraction.isEmpty
    | _ => false
  else
    match cs with
    | '.' :: after =>
        let word := String.ofList after
        infinityWords.contains word ||
          (unsigned && (nanWords.contains word ||
            (after.head?.any Char.isDigit && isExponent (after.dropWhile isPart))))
    | _ => false

/-- The tag that a plain text looks like. -/
def tagOf (s : String) : Tag :=
  let cs := s.toList
  if truthWords.any fun (word, _) => (spellings word).contains s then .bool
  else if isPointed cs then .float
  else if isWhole (Text.takeSign cs).2 then .int
  else if s = "<<" then .merge
  else if nullWords.contains s then .null
  else if (Stamp.read? cs).isSome then .stamp
  else if s = "=" then .usual
  else .text

/-! ### What texts denote -/

/-- The value of a digit in a base up to sixteen. -/
def digitIn (base : Nat) (c : Char) : Option Nat :=
  (hexValue? [c]).bind fun d => if d < base then some d else none

/-- The number of digits in a base, of which there is one at least. -/
def natIn (base : Nat) (cs : List Char) : Outcome Int :=
  match if cs.isEmpty then none else cs.mapM (digitIn base) with
  | some ds => .ok (ds.foldl (fun n d => base * n + d) 0 : Nat)
  | none => .error .badValue

/-- The parts of a text between colons. -/
def colonParts (cs : List Char) : List String := (String.ofList cs).splitOn ":"

/-- The whole number that a text denotes. -/
def wholeOf (s : String) : Outcome Int := do
  let (negative, cs) := Text.takeSign (s.toList.filter (· != '_'))
  let n ← match cs with
    | ['0'] => pure 0
    | '0' :: 'b' :: digits => natIn 2 digits
    | '0' :: 'x' :: digits => natIn 16 digits
    | '0' :: _ => natIn 8 cs
    | _ => do
        let parts ← (colonParts cs).mapM Text.toInt
        pure (parts.foldl (fun n d => 60 * n + d) 0)
  pure (if negative then -n else n)

/-- The nearest representable sum of two numbers that are not negative. -/
def plus (x y : Number) : Number :=
  match x, y with
  | .finite _ m, .finite _ m' => Binary64.ofMagnitude false (m + m')
  | .finite .., _ => y
  | _, _ => x

/-- A number that is not negative, times a whole one. -/
def times (x : Number) (n : Nat) : Number :=
  match x with
  | .finite _ m => Binary64.ofMagnitude false (m * n)
  | _ => x

/-- The number with a point that a text denotes. -/
def pointOf (s : String) : Outcome Number := do
  let (negative, cs) := Text.takeSign ((s.toList.filter (· != '_')).map Char.toLower)
  let signed (x : Number) : Number := match x with
    | .finite _ m => .finite negative m
    | .infinite _ => .infinite negative
    | .nan => .nan
  let number (part : String) : Outcome Number :=
    match Text.toNumber? part with
    | some x => .ok x
    | none => .error .badValue
  match cs with
  | ['.', 'i', 'n', 'f'] => pure (.infinite negative)
  | ['.', 'n', 'a', 'n'] => pure .nan
  | _ => do
      let parts ← (colonParts cs).mapM number
      let (sum, _) := parts.reverse.foldl
        (fun (sum, base) part => (plus sum (times part base), 60 * base)) (Number.ofInt 0, 1)
      pure (signed (if parts.length = 1 then parts.headD sum else sum))

/-- The value of a scalar. -/
def scalarValue (tag : Tag) (s : String) : Outcome Value :=
  match tag with
  | .null => .ok .null
  | .bool =>
      let word := Text.lower s
      match truthWords.find? fun (known, _) => known == word with
      | some (_, b) => .ok (.bool b)
      | none => .error (.missingKey word)
  | .int => (wholeOf s).map .int
  | .float => (pointOf s).map .float
  | .stamp =>
      match Stamp.read? s.toList with
      | some stamp =>
          match stamp.text? with
          | some text => .ok (.text text)
          | none => .error .badValue
      | none => .error (.noAttribute .null "groupdict")
  | .text => .ok (.text s)
  | .sequence | .mapping | .merge | .usual | .unknown => .error .unconstructable

end NodeInventory.Yaml
