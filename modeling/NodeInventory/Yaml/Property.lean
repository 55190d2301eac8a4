import NodeInventory.Fault
import NodeInventory.Text.Digit
import NodeInventory.Yaml.Scalar
import NodeInventory.Yaml.Token

/-!
# Names, tags and directives

What is said about a node rather than in it: the name it can be repeated by, and the tag that says
what it stands for.  Directives say what version a document has and what the handles of its tags
stand for.
-/

namespace NodeInventory.Yaml

/-- A character of the name of an anchor, a handle or a directive. -/
def isNameChar (c : Char) : Bool := c.isAlphanum || c = '-' || c = '_'

/-- A name that stands here, of one character at least. -/
def takeName (c : Cursor) : Outcome (String × Cursor) :=
  match c.takeWhile isNameChar with
  | ([], _) => .error .unscannable
  | (name, c) => .ok (String.ofList name, c)

/-- The name of an anchor or an alias after its mark. -/
def anchorName (c : Cursor) : Outcome (String × Cursor) := do
  let (name, c) ← takeName c
  if isGap (c.peek 0) || (c.peek 0).any ("?:,]\x7d%@\x60".toList.contains ·) then pure (name, c)
  else .error .unscannable

/-! ### Tags -/

/-- A character of a tag, apart from escapes. -/
def isTagChar (c : Char) : Bool := c.isAlphanum || "-;/?:@&=+$,_.!~*\x27()[]".toList.contains c

/-- The bytes of the escapes that stand here. -/
def escapedBytes : Nat → Cursor → Outcome (List UInt8 × Cursor)
  | 0, c => .ok ([], c)
  | fuel + 1, c =>
      match c.rest with
      | '%' :: h :: h' :: _ =>
          match hexValue? [h, h'] with
          | some n => do
              let (more, last) ← escapedBytes fuel (c.advance 3)
              pure (n.toUInt8 :: more, last)
          | none => .error .unscannable
      | '%' :: _ => .error .unscannable
      | _ => .ok ([], c)

/-- The text of a tag from a place on, perhaps none. -/
def tagTextFrom : Nat → Cursor → Outcome (List Char × Cursor)
  | 0, c => .ok ([], c)
  | fuel + 1, c => do
      let (text, c) := c.takeWhile isTagChar
      if c.peek 0 = some '%' then
        let (bytes, c) ← escapedBytes (c.rest.length + 1) c
        match String.fromUTF8? ⟨bytes.toArray⟩ with
        | some chars =>
            let (more, last) ← tagTextFrom fuel c
            pure (text ++ chars.toList ++ more, last)
        | none => .error .unscannable
      else pure (text, c)

/-- The text of a tag. -/
def tagText (c : Cursor) : Outcome (String × Cursor) := do
  let (text, last) ← tagTextFrom (c.rest.length + 1) c
  if last.index = c.index then .error .unscannable else pure (String.ofList text, last)

/-- A handle: an exclamation mark, or a name between two of them. -/
def tagHandle (c : Cursor) : Outcome (String × Cursor) :=
  match c.rest with
  | '!' :: ' ' :: _ => .ok ("!", c.next)
  | '!' :: _ =>
      let (name, c) := c.next.takeWhile isNameChar
      if c.peek 0 = some '!' then .ok (String.ofList ('!' :: name ++ ['!']), c.next)
      else .error .unscannable
  | _ => .error .unscannable

/-- The handle and the text of a tag; one that is given whole, or is the mark alone, has no
handle. -/
def tag (c : Cursor) : Outcome (Option String × String × Cursor) := do
  let (handle, text, c) ←
    if c.peek 1 = some '<' then do
      let (text, c) ← tagText (c.advance 2)
      if c.peek 0 = some '>' then pure (none, text, c.next) else .error .unscannable
    else if isGap (c.peek 1) then pure (none, "!", c.next)
    else do
      let (handle, c) ←
        if (c.next.rest.takeWhile fun ch => !isStop (some ch)).contains '!' then tagHandle c
        else pure ("!", c.next)
      let (text, c) ← tagText c
      pure (some handle, text, c)
  if isStop (c.peek 0) then pure (handle, text, c) else .error .unscannable

/-! ### Directives -/

/-- A number of a version. -/
def versionNumber (c : Cursor) : Outcome (Nat × Cursor) :=
  match c.takeWhile Char.isDigit with
  | ([], _) => .error .unscannable
  | (digits, c) => .ok (Text.asciiNumber digits, c)

/-- A version. -/
def version (c : Cursor) : Outcome (Directive × Cursor) := do
  let (major, c) ← versionNumber (c.dropWhile (· = ' '))
  if c.peek 0 = some '.' then
    let (minor, c) ← versionNumber c.next
    if isStop (c.peek 0) then pure (.version major minor, c) else .error .unscannable
  else .error .unscannable

/-- A handle and what it stands for. -/
def handleMeaning (c : Cursor) : Outcome (Directive × Cursor) := do
  let (name, c) ← tagHandle (c.dropWhile (· = ' '))
  if c.peek 0 = some ' ' then
    let (stem, c) ← tagText (c.dropWhile (· = ' '))
    if isStop (c.peek 0) then pure (.handle name stem, c) else .error .unscannable
  else .error .unscannable

/-- A directive after its mark, and the place on the next line. -/
def directive (c : Cursor) : Outcome (Directive × Cursor) := do
  let (name, c) ← takeName c
  if !isStop (c.peek 0) then .error .unscannable
  let (d, c) ←
    if name = "YAML" then version c
    else if name = "TAG" then handleMeaning c
    else pure (.other, c.dropWhile (!isBreak ·))
  pure (d, ← endOfLine c)

end NodeInventory.Yaml
