/-!
# Character sets

What may stand between the brackets of a pattern: characters and ranges, all of them excluded when
an exclamation mark leads.  A hyphen makes a range unless it comes first, last, or right after a
range.  A range whose ends are reversed is dropped with its two ends, and only then is the leading
exclamation mark looked for.
-/

namespace NodeInventory

/-- A set of characters, given by ranges or by what they leave out. -/
structure CharSet where
  negated : Bool
  ranges : List (Char × Char)
  deriving DecidableEq, Repr

namespace CharSet

/-- Whether a set holds a character. -/
def holds (s : CharSet) (c : Char) : Bool :=
  (s.ranges.any fun (first, last) => first ≤ c && c ≤ last) != s.negated

/-- Cuts at the first hyphen that has at least `keep` characters before it. -/
def cutRange (keep : Nat) (cs : List Char) : Option (List Char × List Char) :=
  match (cs.drop keep).dropWhile (· != '-') with
  | [] => none
  | _ :: rest => some (cs.take keep ++ (cs.drop keep).takeWhile (· != '-'), rest)

theorem cutRange_length {keep : Nat} {cs before rest : List Char}
    (h : cutRange keep cs = some (before, rest)) : rest.length < cs.length := by
  unfold cutRange at h
  split at h
  · simp at h
  · rename_i c tail found
    have dropped : ((cs.drop keep).dropWhile (· != '-')).length ≤ (cs.drop keep).length :=
      (List.dropWhile_sublist _).length_le
    have rests : tail = rest := by simpa using (Option.some.inj h |> Prod.mk.inj).2
    rw [found] at dropped
    simp only [List.length_cons, List.length_drop] at dropped
    rw [← rests]
    omega

/-- The pieces between the hyphens that make ranges. -/
def pieces (keep : Nat) (cs : List Char) : List (List Char) :=
  match _h : cutRange keep cs with
  | none => [cs]
  | some (before, rest) => before :: pieces 2 rest
termination_by cs.length
decreasing_by exact cutRange_length _h

/-- An empty last piece means that the hyphen before it stands for itself. -/
def closeLast : List (List Char) → List (List Char)
  | [piece, []] => [piece ++ ['-']]
  | piece :: rest => piece :: closeLast rest
  | [] => []

/-- Whether the range from one piece to the next has its ends reversed. -/
def reversed (piece next : List Char) : Bool :=
  match piece.getLast?, next.head? with
  | some first, some last => decide (last < first)
  | _, _ => false

/-- Joins the pieces around a reversed range, the range left out, the last one first. -/
def dropReversed : List (List Char) → List (List Char)
  | [] => []
  | piece :: rest =>
      match dropReversed rest with
      | [] => [piece]
      | next :: more =>
          if reversed piece next then (piece.dropLast ++ next.tail) :: more
          else piece :: next :: more

/-- The characters of the pieces and the ranges between them. -/
def rangesOf : List (List Char) → List (Char × Char)
  | [] => []
  | piece :: rest =>
      let own := piece.map fun c => (c, c)
      match piece.getLast?, rest.head?.bind List.head? with
      | some first, some last => own ++ (first, last) :: rangesOf rest
      | _, _ => own ++ rangesOf rest

/-- The set that some pieces stand for. -/
def ofPieces : List (List Char) → CharSet
  | ['!'] :: next :: rest => ⟨true, ('-', '-') :: rangesOf (next :: rest)⟩
  | ('!' :: piece) :: rest => ⟨true, rangesOf (piece :: rest)⟩
  | parts => ⟨false, rangesOf parts⟩

/-- The set that a text between brackets stands for. -/
def ofText (cs : List Char) : CharSet :=
  let keep := if cs.head? = some '!' then 2 else 1
  ofPieces (dropReversed (closeLast (pieces keep cs)))

end CharSet

end NodeInventory
