import NodeInventory.Text.Ranges
import NodeInventory.Text.CaseTable

/-!
# Letter case

The full lower-case form of a text.  Two letters are special: the dotted capital I becomes two
characters, and a capital sigma becomes a final sigma where it ends a word, that is after a cased
character and before none, characters without a say in case set aside.  Capitals are written
character by character.
-/

namespace NodeInventory.Text

/-- The one-character lower-case form. -/
def lowerChar (c : Char) : Char :=
  match lowerRuns.find? fun (first, last, step, _) =>
      first ≤ c.toNat && c.toNat ≤ last && (c.toNat - first) % step == 0 with
  | some (_, _, _, offset) => Char.ofNat (c.toNat + offset).toNat
  | none => c

/-- The one-character capital form. -/
def upperChar (c : Char) : Char :=
  match capitalExceptions.find? fun (small, _) => small == c.toNat with
  | some (_, capital) => Char.ofNat capital
  | none =>
      let n : Int := c.toNat
      match lowerRuns.find? fun (first, last, step, offset) =>
          first + offset ≤ n && n ≤ last + offset && (n - offset - first) % step == 0 with
      | some (_, _, _, offset) => Char.ofNat (n - offset).toNat
      | none => c

/-- Whether the nearest character with a say in case is a cased one. -/
def meetsCased (cs : List Char) : Bool :=
  match cs.dropWhile (inRanges caseIgnorableRanges) with
  | [] => false
  | c :: _ => inRanges casedRanges c

/-- Lower-cases a text whose already read part, nearest character first, is `before`. -/
def lowerFrom (before : List Char) : List Char → List Char
  | [] => []
  | c :: rest =>
      let form :=
        if c = 'Σ' then [if meetsCased before && !meetsCased rest then 'ς' else 'σ']
        else if c = 'İ' then ['i', '\u0307']
        else [lowerChar c]
      form ++ lowerFrom (c :: before) rest

/-- The lower-case form of a text. -/
def lower (s : String) : String := String.ofList (lowerFrom [] s.toList)

end NodeInventory.Text
