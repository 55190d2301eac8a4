import NodeInventory.Yaml.Property
import NodeInventory.Yaml.Scalar
import NodeInventory.Yaml.Token

/-!
# Cutting a document into tokens

A document is cut into tokens from left to right.  Indentation opens and closes block collections.
What turns out to be the key of a mapping is only known at the colon after it, so every place where
a key may have begun is kept as a candidate, and the tokens that go in front of it are spliced in
at the end.

A text that cannot be cut yields the tokens before the place where that shows, and no more.
-/

namespace NodeInventory.Yaml

/-- A place where a key may have begun, before a token. -/
structure Candidate where
  level : Nat
  token : Nat
  required : Bool
  line : Nat
  column : Nat
  index : Nat

/-- What has been cut so far. -/
structure Cutting where
  cursor : Cursor
  /-- The tokens so far, the last one first. -/
  tokens : List Token := []
  count : Nat := 0
  /-- The tokens to put in front of others, by their places. -/
  splices : List (Nat × List Token) := []
  /-- The columns of the open block collections, the innermost first. -/
  indents : List Nat := []
  /-- The number of open flow collections. -/
  flow : Nat := 0
  keyAllowed : Bool := true
  candidates : List Candidate := []

namespace Cutting

/-- A step that may show that the text cannot be cut. -/
abbrev Step := Outcome Cutting

def emit (s : Cutting) (t : Token) : Cutting :=
  { s with tokens := t :: s.tokens, count := s.count + 1 }

/-- Emits a token for the character under the cursor. -/
def emitHere (s : Cutting) (t : Token) (width : Nat) : Cutting :=
  { s.emit t with cursor := s.cursor.advance width }

/-- Whether a column is deeper than the innermost block collection. -/
def isDeeper (s : Cutting) (column : Nat) : Bool :=
  match s.indents with
  | [] => true
  | indent :: _ => indent < column

/-- The least column inside the innermost block collection. -/
def leastColumn (s : Cutting) : Nat :=
  match s.indents with
  | [] => 0
  | indent :: _ => indent + 1

/-- The columns and the number of block collections that end at a column. -/
def unwoundTo (column : Option Nat) : List Nat → List Nat × Nat
  | [] => ([], 0)
  | indent :: rest =>
      match column with
      | some c =>
          if c < indent then
            let (left, n) := unwoundTo column rest
            (left, n + 1)
          else (indent :: rest, 0)
      | none =>
          let (left, n) := unwoundTo column rest
          (left, n + 1)

/-- Closes the block collections that are deeper than a column, all of them without one. -/
def unwind (s : Cutting) (column : Option Nat) : Cutting :=
  if s.flow != 0 then s
  else
    let (left, n) := unwoundTo column s.indents
    { s with
      indents := left
      tokens := List.replicate n .blockEnd ++ s.tokens
      count := s.count + n }

/-- The largest distance between a key and its colon. -/
def keyLimit : Nat := 1024

def isStale (s : Cutting) (c : Candidate) : Bool :=
  c.line != s.cursor.line || keyLimit < s.cursor.index - c.index

/-- Drops the candidates that are too far back. -/
def dropStale (s : Cutting) : Step :=
  if s.candidates.any fun c => s.isStale c && c.required then .error .unscannable
  else .ok { s with candidates := s.candidates.filter fun c => !s.isStale c }

/-- The candidate among the items of the innermost flow collection. -/
def candidate? (s : Cutting) : Option Candidate := s.candidates.find? fun c => c.level == s.flow

def withoutCandidate (s : Cutting) : Cutting :=
  { s with candidates := s.candidates.filter fun c => c.level != s.flow }

/-- Drops the innermost candidate. -/
def dropCandidate (s : Cutting) : Step :=
  match s.candidate? with
  | some c => if c.required then .error .unscannable else .ok s.withoutCandidate
  | none => .ok s

/-- Keeps the place of the next token as a candidate, where a key may begin. -/
def saveCandidate (s : Cutting) : Step :=
  if s.keyAllowed then do
    let required := s.flow == 0 && s.indents.head? == some s.cursor.column
    let s ← s.dropCandidate
    pure { s with
      candidates :=
        ⟨s.flow, s.count, required, s.cursor.line, s.cursor.column, s.cursor.index⟩ ::
          s.candidates }
  else .ok s

/-- The length of the gap before the next token, and whether a line ends in it. -/
def gapLength (inComment : Bool) : List Char → Nat × Bool
  | [] => (0, false)
  | c :: rest =>
      if isBreak c then ((gapLength false rest).1 + 1, true)
      else if inComment then
        let (n, broken) := gapLength true rest
        (n + 1, broken)
      else if c = ' ' then
        let (n, broken) := gapLength false rest
        (n + 1, broken)
      else if c = '#' then
        let (n, broken) := gapLength true rest
        (n + 1, broken)
      else (0, false)

/-- Moves to the next token. -/
def skipGap (s : Cutting) : Cutting :=
  let (n, broken) := gapLength false s.cursor.rest
  { s with
    cursor := s.cursor.advance n
    keyAllowed := s.keyAllowed || (broken && s.flow == 0) }

/-! ### One token -/

/-- The end of the text. -/
def finish (s : Cutting) : Step := do
  let s ← (s.unwind none).dropCandidate
  pure { s.emit .streamEnd with keyAllowed := false, candidates := [] }

/-- A mark between documents. -/
def documentMark (s : Cutting) (t : Token) : Step := do
  let s ← (s.unwind none).dropCandidate
  pure { s.emitHere t 3 with keyAllowed := false }

/-- A line about the document. -/
def directiveLine (s : Cutting) : Step := do
  let s ← (s.unwind none).dropCandidate
  let (d, cursor) ← directive s.cursor.next
  pure { s.emit (.directive d) with cursor := cursor, keyAllowed := false }

def openFlow (s : Cutting) (t : Token) : Step := do
  let s ← s.saveCandidate
  pure { s.emitHere t 1 with flow := s.flow + 1, keyAllowed := true }

def closeFlow (s : Cutting) (t : Token) : Step := do
  let s ← s.dropCandidate
  pure { s.emitHere t 1 with flow := s.flow - 1, keyAllowed := false }

def flowEntry (s : Cutting) : Step := do
  let s ← s.dropCandidate
  pure { s.emitHere .flowEntry 1 with keyAllowed := true }

/-- Opens a block collection at the cursor unless one is open there. -/
def openBlock (s : Cutting) (t : Token) : Cutting :=
  if s.flow == 0 && s.isDeeper s.cursor.column then
    { s.emit t with indents := s.cursor.column :: s.indents }
  else s

/-- Goes on where a key may begin, as it has to for a mark of a block collection. -/
def whereKeyBegins (s : Cutting) : Step :=
  if s.flow == 0 && !s.keyAllowed then .error .unscannable else .ok s

def blockEntry (s : Cutting) : Step := do
  let s ← s.whereKeyBegins
  let s ← (s.openBlock .blockSequence).dropCandidate
  pure { s.emitHere .blockEntry 1 with keyAllowed := true }

def keyMark (s : Cutting) : Step := do
  let s ← s.whereKeyBegins
  let s ← (s.openBlock .blockMapping).dropCandidate
  pure { s.emitHere .key 1 with keyAllowed := s.flow == 0 }

def valueMark (s : Cutting) : Step :=
  match s.candidate? with
  | some c =>
      let s := s.withoutCandidate
      let opens := s.flow == 0 && s.isDeeper c.column
      .ok
        { s.emitHere .value 1 with
          splices := (c.token, if opens then [.blockMapping, .key] else [.key]) :: s.splices
          indents := if opens then c.column :: s.indents else s.indents
          keyAllowed := false }
  | none => do
      let s ← s.whereKeyBegins
      let s ← (s.openBlock .blockMapping).dropCandidate
      pure { s.emitHere .value 1 with keyAllowed := s.flow == 0 }

/-- A token that may begin a key and ends before one. -/
def keyStart (s : Cutting) (cut : Cursor → Outcome (Token × Cursor)) : Step := do
  let s ← s.saveCandidate
  let (t, cursor) ← cut s.cursor
  pure { s.emit t with cursor := cursor, keyAllowed := false }

def anchorMark (s : Cutting) : Step := s.keyStart fun c => do
  let (name, c) ← anchorName c.next
  pure (.anchor name, c)

def aliasMark (s : Cutting) : Step := s.keyStart fun c => do
  let (name, c) ← anchorName c.next
  pure (.alias_ name, c)

def tagMark (s : Cutting) : Step := s.keyStart fun c => do
  let (handle, text, c) ← tag c
  pure (.tag handle text, c)

def quoted (s : Cutting) (double : Bool) : Step := s.keyStart fun c => do
  let (text, c) ← quotedFrom double (c.rest.length + 1) c.next
  pure (.scalar (String.ofList text) false, c)

/-- A plain scalar; a key may begin after it where a line has ended. -/
def plain (s : Cutting) : Step := do
  let s ← s.saveCandidate
  let (text, cursor, broken) :=
    plainFrom (s.flow != 0) s.leastColumn (s.cursor.rest.length + 1) s.cursor [] false
  pure { s.emit (.scalar (String.ofList text) true) with cursor := cursor, keyAllowed := broken }

/-- A block of lines, after which a key may begin. -/
def lines (s : Cutting) (folded : Bool) : Step := do
  let s ← s.dropCandidate
  let (text, cursor) ← block folded s.leastColumn s.cursor.next
  pure { s.emit (.scalar (String.ofList text) false) with cursor := cursor, keyAllowed := true }

/-- Whether a plain scalar can begin with a character before another one. -/
def beginsPlain (inFlow : Bool) (c : Char) (after : Option Char) : Bool :=
  !(isGap (some c) || "-?:,[]\x7b\x7d#&*!|>\x27\"%@\x60".toList.contains c) ||
    (!isGap after && (c = '-' || (!inFlow && (c = '?' || c = ':'))))

/-- Cuts the next token, the cursor standing at it. -/
def cut (s : Cutting) : Step :=
  let s := s.unwind (some s.cursor.column)
  let inFlow := s.flow != 0
  match s.cursor.rest with
  | [] => s.finish
  | c :: rest =>
      let spaced := isGap rest.head?
      if s.cursor.column = 0 && c = '%' then s.directiveLine
      else if s.cursor.column = 0 && s.cursor.atMarks '-' then s.documentMark .documentStart
      else if s.cursor.column = 0 && s.cursor.atMarks '.' then s.documentMark .documentEnd
      else if c = '[' then s.openFlow .flowSequence
      else if c = '\x7b' then s.openFlow .flowMapping
      else if c = ']' then s.closeFlow .flowSequenceEnd
      else if c = '\x7d' then s.closeFlow .flowMappingEnd
      else if c = ',' then s.flowEntry
      else if c = '-' && spaced then s.blockEntry
      else if c = '?' && (inFlow || spaced) then s.keyMark
      else if c = ':' && (inFlow || spaced) then s.valueMark
      else if c = '*' then s.aliasMark
      else if c = '&' then s.anchorMark
      else if c = '!' then s.tagMark
      else if c = '|' && !inFlow then s.lines false
      else if c = '>' && !inFlow then s.lines true
      else if c = '\x27' then s.quoted false
      else if c = '"' then s.quoted true
      else if beginsPlain inFlow c rest.head? then s.plain
      else .error .unscannable

/-! ### All tokens -/

/-- The tokens of a text, and what is wrong after them. -/
structure Tokens where
  list : List Token
  fault : Option Fault

/-- Puts the tokens in order, those spliced in front of others in their places. -/
def spliced (splices : List (Nat × List Token)) : Nat → List Token → List Token
  | _, [] => []
  | i, t :: rest =>
      ((splices.find? fun (place, _) => place == i).map (·.2)).getD [] ++
        t :: spliced splices (i + 1) rest

/-- The tokens of a text that has been cut to its end. -/
def whole (s : Cutting) : Tokens := ⟨spliced s.splices 0 s.tokens.reverse, none⟩

/-- The tokens before the first candidate of a text that could not be cut to its end. -/
def upTo (s : Cutting) (fault : Fault) : Tokens :=
  let first := s.candidates.foldl (fun n c => min n c.token) s.count
  ⟨spliced s.splices 0 (s.tokens.reverse.take first), some fault⟩

/-- Cuts to the end. -/
def run : Nat → Cutting → Tokens
  | 0, s => s.upTo .unscannable
  | fuel + 1, s =>
      if s.tokens.head? = some .streamEnd then s.whole
      else
        match s.dropStale with
        | .error fault => s.upTo fault
        | .ok s =>
            match s.skipGap.dropStale >>= cut with
            | .error fault => s.upTo fault
            | .ok s => run fuel s

end Cutting

/-- A text with every line end written as one line feed. -/
def evenLines : List Char → List Char
  | '\r' :: '\n' :: rest => '\n' :: evenLines rest
  | '\r' :: rest => '\n' :: evenLines rest
  | c :: rest => c :: evenLines rest
  | [] => []

/-- The tokens of a text. -/
def tokensOf (text : List Char) : Cutting.Tokens :=
  let text := evenLines (if text.head? = some byteOrderMark then text.drop 1 else text)
  Cutting.run (text.length + 2) { cursor := { rest := text } }

end NodeInventory.Yaml
