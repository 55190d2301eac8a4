import NodeInventory.Fault
import NodeInventory.Yaml.Cursor

/-!
# Scalars in a document

A scalar is written plainly, between quotes, or as a block of lines under a mark.  Line breaks
inside a plain or a quoted scalar are folded: a single one counts as a blank, of several the first
one does not count.  The lines of a block keep their breaks, or are folded where neither
neighbour starts with a blank.
-/

namespace NodeInventory.Yaml

/-! ### Runs of blanks and line breaks -/

/-- A run of blanks and line breaks: its length, the blanks before the first break, and the
breaks. -/
structure Run where
  length : Nat
  blanks : List Char
  breaks : List Char

/-- A run of blanks and line breaks; tabs count as blanks where `tabs` says so. -/
def takeRun (tabs : Bool) (cs : List Char) : Run :=
  let isBlank (c : Char) : Bool := c = ' ' || (tabs && c = '\t')
  let blanks := cs.takeWhile isBlank
  let rest := cs.dropWhile isBlank
  if rest.head?.any isBreak then
    let more := rest.takeWhile fun c => isBlank c || isBreak c
    ⟨blanks.length + more.length, blanks, (more.filter isBreak).map breakChar⟩
  else ⟨blanks.length, blanks, []⟩

/-- What a run stands for inside a scalar: its blanks, or its line breaks folded. -/
def Run.folded (r : Run) : List Char :=
  match r.breaks with
  | [] => r.blanks
  | first :: rest =>
      (if first != '\n' then [first] else if rest.isEmpty then [' '] else []) ++ rest

/-- Whether a mark between documents stands at the beginning of a line inside a run. -/
def marksIn (c : Cursor) : Nat → Bool
  | 0 => c.atDocumentMark
  | n + 1 => (c.column = 0 && c.atDocumentMark) || marksIn c.next n

/-! ### Plain scalars -/

/-- The length of the piece of a plain scalar without blanks. -/
def pieceLength (inFlow : Bool) : List Char → Nat
  | [] => 0
  | c :: rest =>
      let ends :=
        isGap (some c) ||
          (c = ':' &&
            (isGap rest.head? || (inFlow && rest.head?.any (",[]\x7b\x7d".toList.contains ·)))) ||
          (inFlow && ",?[]\x7b\x7d".toList.contains c)
      if ends then 0 else pieceLength inFlow rest + 1

/-- A plain scalar from a place on, before which there was a gap that stands for `pending`: its
text, the place after it, and whether a line ended right before that place.  A line that begins
before the column `least` is none of it. -/
def plainFrom (inFlow : Bool) (least : Nat) :
    Nat → Cursor → List Char → Bool → List Char × Cursor × Bool
  | 0, c, _, broken => ([], c, broken)
  | fuel + 1, c, pending, broken =>
      let n := if c.peek 0 = some '#' then 0 else pieceLength inFlow c.rest
      if n = 0 then ([], c, broken)
      else
        let text := pending ++ c.rest.take n
        let c := c.advance n
        let run := takeRun false c.rest
        let after := c.advance run.length
        let broken := !run.breaks.isEmpty
        let stops :=
          run.length = 0 || after.peek 0 = some '#' || (!inFlow && after.column < least) ||
            (broken && after.atDocumentMark)
        if stops then (text, after, broken)
        else
          let (more, last, broken) := plainFrom inFlow least fuel after run.folded broken
          (text ++ more, last, broken)

/-! ### Quoted scalars -/

/-- The characters that a one-letter escape stands for. -/
def escapes : List (Char × Char) :=
  [('0', '\x00'), ('a', '\x07'), ('b', '\x08'), ('t', '\t'), ('\t', '\t'), ('n', '\n'),
   ('v', '\x0b'), ('f', '\x0c'), ('r', '\r'), ('e', '\x1b'), (' ', ' '), ('"', '"'), ('\\', '\\'),
   ('/', '/'), ('N', '\u0085'), ('_', '\u00a0'), ('L', '\u2028'), ('P', '\u2029')]

/-- The number of digits of an escape by code. -/
def escapeWidth? : Char → Option Nat
  | 'x' => some 2
  | 'u' => some 4
  | 'U' => some 8
  | _ => none

/-- The code of some hexadecimal digits. -/
def hexValue? (cs : List Char) : Option Nat :=
  cs.foldlM (fun n c =>
    if '0' ≤ c ∧ c ≤ '9' then some (16 * n + (c.toNat - '0'.toNat))
    else if 'a' ≤ c ∧ c ≤ 'f' then some (16 * n + (c.toNat - 'a'.toNat + 10))
    else if 'A' ≤ c ∧ c ≤ 'F' then some (16 * n + (c.toNat - 'A'.toNat + 10))
    else none) 0

/-- The largest code of a character. -/
def largestCode : Nat := 0x10FFFF

/-- The largest code that is looked at. -/
def codeLimit : Nat := Nat.pow 2 31 - 1

/-- The character of a code. -/
def charOfCode (n : Nat) : Outcome Char :=
  if n ≤ largestCode then .ok (Char.ofNat n)
  else .error (if n ≤ codeLimit then .badValue else .outOfRange)

/-- What an escape stands for and the place after it, from the place after its backslash. -/
def escaped (c : Cursor) : Outcome (List Char × Cursor) :=
  match c.rest with
  | [] => .error .unscannable
  | ch :: _ =>
      match escapes.find? fun (letter, _) => letter == ch with
      | some (_, stands) => .ok ([stands], c.next)
      | none =>
          match escapeWidth? ch with
          | some width =>
              let digits := c.next.rest.take width
              match if digits.length = width then hexValue? digits else none with
              | some code => do pure ([← charOfCode code], c.advance (width + 1))
              | none => .error .unscannable
          | none =>
              let run := takeRun true c.rest
              if !isBreak ch || marksIn c.next (run.length - 1) then .error .unscannable
              else .ok (run.breaks.drop 1, c.advance run.length)

/-- The rest of a quoted scalar and the place after it. -/
def quotedFrom (double : Bool) : Nat → Cursor → Outcome (List Char × Cursor)
  | 0, _ => .error .unscannable
  | fuel + 1, c => do
      let after (stands : List Char) (place : Cursor) : Outcome (List Char × Cursor) := do
        let (more, last) ← quotedFrom double fuel place
        pure (stands ++ more, last)
      match c.rest with
      | [] => .error .unscannable
      | ch :: rest =>
          if isGap (some ch) then
            let run := takeRun true c.rest
            if !run.breaks.isEmpty && marksIn c run.length then .error .unscannable
            else after run.folded (c.advance run.length)
          else if double && ch = '\\' then
            let (stands, place) ← escaped c.next
            after stands place
          else if !double && ch = '\x27' && rest.head? = some '\x27' then
            after ['\x27'] (c.advance 2)
          else if ch = (if double then '"' else '\x27') then .ok ([], c.next)
          else after [ch] c.next

/-! ### Blocks of lines -/

/-- What becomes of the line breaks at the end of a block. -/
inductive Chomping where
  /-- The last line keeps its break. -/
  | clip
  | strip
  | keep
  deriving DecidableEq, Repr

/-- The sign of a way of chomping. -/
def Chomping.ofChar? : Char → Option Chomping
  | '+' => some .keep
  | '-' => some .strip
  | _ => none

/-- The signs after the mark of a block: how it is chomped, how much deeper it is, and the place
after them. -/
def blockSigns (c : Cursor) : Outcome (Chomping × Option Nat × Cursor) :=
  let digit? (c : Cursor) : Option Nat :=
    (c.peek 0).bind fun ch => if ch.isDigit then some (ch.toNat - '0'.toNat) else none
  let (chomping, c) := match (c.peek 0).bind Chomping.ofChar? with
    | some chomping => (some chomping, c.next)
    | none => (none, c)
  let (depth, c) := match digit? c with
    | some n => (some n, c.next)
    | none => (none, c)
  let (chomping, c) := match chomping, depth, (c.peek 0).bind Chomping.ofChar? with
    | none, some _, some chomping => (some chomping, c.next)
    | _, _, _ => (chomping, c)
  if depth = some 0 || !isStop (c.peek 0) then .error .unscannable
  else .ok (chomping.getD .clip, depth, c)

/-- The end of a line on which only a comment may still stand. -/
def endOfLine (c : Cursor) : Outcome Cursor :=
  let c := c.dropWhile (· = ' ')
  let c := if c.peek 0 = some '#' then c.dropWhile (!isBreak ·) else c
  if (c.peek 0).all isBreak then .ok c.takeBreak.2 else .error .unscannable

/-- The length of the longest run of blanks, `here` of which have been met. -/
def widest (here : Nat) : List Char → Nat
  | ' ' :: rest => max (here + 1) (widest (here + 1) rest)
  | _ :: rest => widest 0 rest
  | [] => here

/-- The breaks of empty lines up to the first other line, and the place in that line, not beyond
the column `indent`. -/
def emptyLines (indent : Nat) : Nat → Cursor → List Char × Cursor
  | 0, c => ([], c)
  | fuel + 1, c =>
      let blanks := (c.rest.takeWhile (· = ' ')).length
      let c := c.advance (min blanks (indent - c.column))
      match c.takeBreak with
      | ([], _) => ([], c)
      | (ended, c) =>
          let (more, last) := emptyLines indent fuel c
          (ended ++ more, last)

/-- The lines of a block: their text, the last one's break, the breaks of the empty lines after it,
and the place there. -/
structure Lines where
  text : List Char
  ended : List Char
  empty : List Char
  place : Cursor

/-- The lines of a block from a place on, before which there were empty lines. -/
def blockLines (folded : Bool) (indent : Nat) : Nat → List Char → Cursor → Lines
  | 0, empty, c => ⟨[], [], empty, c⟩
  | fuel + 1, empty, c =>
      let inBlock (c : Cursor) : Bool := c.column = indent && !c.rest.isEmpty
      let startsBlank (c : Cursor) : Bool := (c.peek 0).any fun ch => ch = ' ' || ch = '\t'
      if !inBlock c then ⟨[], [], empty, c⟩
      else
        let (line, ended) := c.takeWhile (!isBreak ·)
        let (lineBreak, next) := ended.takeBreak
        let (more, after) := emptyLines indent (next.rest.length + 1) next
        if inBlock after then
          let between :=
            if folded && lineBreak == ['\n'] && !startsBlank c && !startsBlank after then
              if more.isEmpty then [' '] else []
            else lineBreak
          let lines := blockLines folded indent fuel more after
          { lines with text := empty ++ line ++ between ++ lines.text }
        else ⟨empty ++ line, lineBreak, more, after⟩

/-- A block of lines after its mark, inside a collection whose column is one less than `least`: its
text and the place after it. -/
def block (folded : Bool) (least : Nat) (c : Cursor) : Outcome (List Char × Cursor) := do
  let (chomping, depth, c) ← blockSigns c
  let c ← endOfLine c
  let least := max 1 least
  let (indent, empty, c) := match depth with
    | some n =>
        let indent := least + n - 1
        let (empty, c) := emptyLines indent (c.rest.length + 1) c
        (indent, empty, c)
    | none =>
        let (gap, c) := c.takeWhile fun ch => ch = ' ' || isBreak ch
        (max least (widest 0 gap), (gap.filter isBreak).map breakChar, c)
  let lines := blockLines folded indent (c.rest.length + 1) empty c
  let tail := match chomping with
    | .strip => []
    | .clip => lines.ended
    | .keep => lines.ended ++ lines.empty
  pure (lines.text ++ tail, lines.place)

end NodeInventory.Yaml
