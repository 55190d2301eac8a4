import NodeInventory.Yaml.Cutting
import NodeInventory.Yaml.Plain

/-!
# Nodes of a document

The tokens of a document make up a tree of scalars, sequences and mappings, in block and in flow
style; a missing node is an empty scalar.  An anchor names a node, and an alias repeats the node
of its name.  Tokens in no order that makes a document are unparsable; where the tokens run out,
what is wrong is what was wrong with cutting the text.
-/

namespace NodeInventory.Yaml

/-- A node. -/
inductive Node where
  | scalar (tag : Tag) (text : String)
  | sequence (tag : Tag) (items : List Node)
  | mapping (tag : Tag) (pairs : List (Node × Node))
  deriving Repr

/-- A node that is missing. -/
def Node.missing : Node := .scalar .null ""

/-- What is left to read: the tokens, what is wrong after them, and the nodes that have names, each
once it is complete. -/
structure Reading where
  tokens : List Token
  fault : Fault
  anchors : List (String × Option Node) := []

/-- Reads a part of a document. -/
abbrev Reader := StateT Reading Outcome

namespace Reader

/-- The next token. -/
def peek : Reader Token := do
  let r ← get
  match r.tokens with
  | t :: _ => pure t
  | [] => throw r.fault

/-- Goes past the next token. -/
def skip : Reader Unit := modify fun r => { r with tokens := r.tokens.drop 1 }

/-- Stops at a token that cannot stand there. -/
def unexpected {α : Type} : Reader α := do
  let _ ← peek
  throw .unparsable

/-- Takes a name for the node that begins; a name is taken once. -/
def open_ (anchor : Option String) : Reader Unit := do
  match anchor with
  | none => pure ()
  | some name =>
      if (← get).anchors.any fun (known, _) => known == name then throw .miscomposed
      else modify fun r => { r with anchors := (name, none) :: r.anchors }

/-- Gives a node the name that was taken for it. -/
def close (anchor : Option String) (n : Node) : Reader Node := do
  modify fun r =>
    { r with
      anchors := r.anchors.map fun (name, node) =>
        if some name = anchor then (name, some n) else (name, node) }
  pure n

/-- The node of a name; one that is not complete has none. -/
def nodeOf (name : String) : Reader Node := do
  match (← get).anchors.find? fun (known, _) => known == name with
  | some (_, some n) => pure n
  | _ => throw .miscomposed

/-! ### Properties -/

/-- What the handles of tags stand for. -/
abbrev Handles := List (String × String)

/-- The full name of a tag. -/
def tagName (handles : Handles) (handle : Option String) (suffix : String) : Reader String :=
  match handle with
  | none => pure suffix
  | some handle =>
      match handles.find? fun (known, _) => known == handle with
      | some (_, stem) => pure (stem ++ suffix)
      | none => throw .unparsable

/-- The anchor that stands here. -/
def takeAnchor : Reader (Option String) := do
  match ← peek with
  | .anchor name => skip; pure (some name)
  | _ => pure none

/-- The tag that stands here. -/
def takeTag : Reader (Option (Option String × String)) := do
  match ← peek with
  | .tag handle suffix => skip; pure (some (handle, suffix))
  | _ => pure none

/-- What comes in front of a node: its anchor and the name of its tag. -/
structure Front where
  anchor : Option String
  tag : Option String

/-- The anchor and the tag of a node, in either order. -/
def takeFront (handles : Handles) : Reader Front := do
  let anchor ← takeAnchor
  let tag ← takeTag
  let anchor ← if anchor.isNone && tag.isSome then takeAnchor else pure anchor
  match tag with
  | some (handle, suffix) => do pure ⟨anchor, some (← tagName handles handle suffix)⟩
  | none => pure ⟨anchor, none⟩

/-- The tag that leaves it to a node how it is read. -/
def openTag : String := "!"

/-- The tag of a scalar. -/
def scalarTag (tag : Option String) (plain : Bool) (s : String) : Tag :=
  match tag with
  | none => if plain then tagOf s else .text
  | some name => if name = openTag then tagOf s else Tag.ofName name

/-- The tag of a collection, `own` being that of its kind. -/
def collectionTag (tag : Option String) (own : Tag) : Tag :=
  match tag with
  | none => own
  | some name => if name = openTag then own else Tag.ofName name

/-! ### Nodes -/

/-- Whether a node is missing in front of a token of a block mapping. -/
def endsPart : Token → Bool
  | .key | .value | .blockEnd => true
  | _ => false

/-- Whether a node is missing in front of a token of a sequence that is not indented. -/
def endsLooseItem (t : Token) : Bool := t = .blockEntry || endsPart t

/-- Whether a node is missing in front of a token of a block sequence. -/
def endsItem (t : Token) : Bool := t = .blockEntry || t = .blockEnd

/-- Goes past the comma before an item of a flow collection, unless it is the first one. -/
def takeComma (first : Bool) : Reader Unit := do
  if !first then
    match ← peek with
    | .flowEntry => skip
    | _ => unexpected

/-- A scalar after what comes in front of it. -/
def Front.scalar (f : Front) (text : String) (plain : Bool) : Reader Node := do
  open_ f.anchor
  close f.anchor (.scalar (scalarTag f.tag plain text) text)

/-- A sequence after what comes in front of it. -/
def Front.sequence (f : Front) (items : Reader (List Node)) : Reader Node := do
  open_ f.anchor
  close f.anchor (.sequence (collectionTag f.tag .sequence) (← items))

/-- A mapping after what comes in front of it. -/
def Front.mapping (f : Front) (pairs : Reader (List (Node × Node))) : Reader Node := do
  open_ f.anchor
  close f.anchor (.mapping (collectionTag f.tag .mapping) (← pairs))

/-- A node without anything but what comes in front of it. -/
def Front.alone (f : Front) : Reader Node :=
  if f.anchor.isNone && f.tag.isNone then unexpected else f.scalar "" true

mutual

/-- A node; `block` says whether it may be a block collection, `loose` whether it may be a sequence
that is not indented. -/
def node (handles : Handles) (block loose : Bool) : Nat → Reader Node
  | 0 => unexpected
  | fuel + 1 => do
      match ← peek with
      | .alias_ name => do
          skip
          nodeOf name
      | _ => do
          let f ← takeFront handles
          match ← peek with
          | .blockEntry => if loose then f.sequence (looseItems handles fuel) else f.alone
          | .scalar text plain => do
              skip
              f.scalar text plain
          | .flowSequence => do
              skip
              f.sequence (flowItems handles true fuel)
          | .flowMapping => do
              skip
              f.mapping (flowPairs handles true fuel)
          | .blockSequence =>
              if block then do
                skip
                f.sequence (blockItems handles fuel)
              else f.alone
          | .blockMapping =>
              if block then do
                skip
                f.mapping (blockPairs handles fuel)
              else f.alone
          | _ => f.alone

/-- A node that is missing in front of some tokens. -/
def nodeUnless (handles : Handles) (missing : Token → Bool) (block loose : Bool) :
    Nat → Reader Node
  | 0 => unexpected
  | fuel + 1 => do
      if missing (← peek) then pure .missing else node handles block loose fuel

/-- The items of a block sequence. -/
def blockItems (handles : Handles) : Nat → Reader (List Node)
  | 0 => unexpected
  | fuel + 1 => do
      match ← peek with
      | .blockEntry => do
          skip
          let item ← nodeUnless handles endsItem true false fuel
          return item :: (← blockItems handles fuel)
      | .blockEnd => do
          skip
          pure []
      | _ => unexpected

/-- The items of a sequence that is not indented. -/
def looseItems (handles : Handles) : Nat → Reader (List Node)
  | 0 => unexpected
  | fuel + 1 => do
      match ← peek with
      | .blockEntry => do
          skip
          let item ← nodeUnless handles endsLooseItem true false fuel
          return item :: (← looseItems handles fuel)
      | _ => pure []

/-- The pairs of a block mapping, each of which begins with the mark of a key. -/
def blockPairs (handles : Handles) : Nat → Reader (List (Node × Node))
  | 0 => unexpected
  | fuel + 1 => do
      match ← peek with
      | .key => do
          skip
          let k ← nodeUnless handles endsPart true true fuel
          let v ← valueOf handles endsPart true fuel
          return (k, v) :: (← blockPairs handles fuel)
      | .blockEnd => do
          skip
          pure []
      | _ => unexpected

/-- The value of a pair, which may be missing with or without its mark. -/
def valueOf (handles : Handles) (missing : Token → Bool) (block : Bool) : Nat → Reader Node
  | 0 => unexpected
  | fuel + 1 => do
      match ← peek with
      | .value => do
          skip
          nodeUnless handles missing block block fuel
      | _ => pure .missing

/-- The items of a flow sequence; a pair among them is a mapping of its own. -/
def flowItems (handles : Handles) (first : Bool) : Nat → Reader (List Node)
  | 0 => unexpected
  | fuel + 1 => do
      let ends (t : Token) : Bool := t = .flowEntry || t = .flowSequenceEnd
      if (← peek) != .flowSequenceEnd then takeComma first
      match ← peek with
      | .flowSequenceEnd => do
          skip
          pure []
      | .key => do
          skip
          let k ← nodeUnless handles (fun t => t = .value || ends t) false false fuel
          let v ← valueOf handles ends false fuel
          return .mapping .mapping [(k, v)] :: (← flowItems handles false fuel)
      | _ => do
          let item ← node handles false false fuel
          return item :: (← flowItems handles false fuel)

/-- The pairs of a flow mapping. -/
def flowPairs (handles : Handles) (first : Bool) : Nat → Reader (List (Node × Node))
  | 0 => unexpected
  | fuel + 1 => do
      let ends (t : Token) : Bool := t = .flowEntry || t = .flowMappingEnd
      if (← peek) != .flowMappingEnd then takeComma first
      match ← peek with
      | .flowMappingEnd => do
          skip
          pure []
      | .key => do
          skip
          let k ← nodeUnless handles (fun t => t = .value || ends t) false false fuel
          let v ← valueOf handles ends false fuel
          return (k, v) :: (← flowPairs handles false fuel)
      | _ => do
          let k ← node handles false false fuel
          return (k, .missing) :: (← flowPairs handles false fuel)

end

/-! ### Documents -/

/-- The handles that every document has. -/
def commonHandles : Handles := [("!", "!"), ("!!", Tag.stem)]

/-- The version of documents that can be read, whatever follows the point. -/
def knownVersion : Nat := 1

/-- The directives in front of a document: whether its version has been given, and the handles so
far.  Each is given once. -/
def directives (versioned : Bool) (handles : Handles) : Nat → Reader Handles
  | 0 => unexpected
  | fuel + 1 => do
      match ← peek with
      | .directive d => do
          skip
          match d with
          | .version major _ =>
              if versioned || major != knownVersion then throw .unparsable
              else directives true handles fuel
          | .handle name stem =>
              if handles.any fun (known, _) => known == name then throw .unparsable
              else directives versioned ((name, stem) :: handles) fuel
          | .other => directives versioned handles fuel
      | _ => pure (handles ++ commonHandles)

/-- Goes past marks of the end of a document. -/
def skipEnds : Nat → Reader Unit
  | 0 => pure ()
  | fuel + 1 => do
      if (← peek) = .documentEnd then
        skip
        skipEnds fuel

/-- The handles of a document that begins with a mark, after it. -/
def documentMark (fuel : Nat) : Reader Handles := do
  let handles ← directives false [] fuel
  match ← peek with
  | .documentStart => do
      skip
      pure handles
  | _ => unexpected

/-- Whether a document has no content in front of a token. -/
def endsDocument : Token → Bool
  | .directive _ | .documentStart | .documentEnd | .streamEnd => true
  | _ => false

/-- The content of the first document, if there is one. -/
def content (fuel : Nat) : Reader (Option Node) := do
  match ← peek with
  | .streamEnd => pure none
  | .directive _ | .documentStart => do
      let handles ← documentMark fuel
      if endsDocument (← peek) then pure (some .missing)
      else some <$> node handles true false fuel
  | _ => some <$> node commonHandles true false fuel

/-- The only document. -/
def document (fuel : Nat) : Reader (Option Node) := do
  let n ← content fuel
  skipEnds fuel
  if (← peek) = .streamEnd then pure n
  else
    let _ ← documentMark fuel
    throw .miscomposed

end Reader

/-- The root of the only document in a text, if it has one. -/
def rootOf (text : List Char) : Outcome (Option Node) :=
  let tokens := tokensOf text
  let fuel := 4 * tokens.list.length + 4
  ((Reader.document fuel).run ⟨tokens.list, tokens.fault.getD .unscannable, []⟩).map (·.1)

end NodeInventory.Yaml
