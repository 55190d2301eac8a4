/-!
# Tokens of a document

What a document is cut into before its nodes are read: the marks that are written, the beginnings
and ends that indentation stands for, names, tags and scalars.
-/

namespace NodeInventory.Yaml

/-- What a line about the document itself says. -/
inductive Directive where
  | version (major minor : Nat)
  | handle (name stem : String)
  | other
  deriving DecidableEq, Repr

/-- A token. -/
inductive Token where
  | directive (d : Directive)
  | documentStart | documentEnd
  | blockSequence | blockMapping | blockEnd
  | flowSequence | flowSequenceEnd | flowMapping | flowMappingEnd
  | blockEntry | flowEntry
  | key | value
  | anchor (name : String)
  | alias_ (name : String)
  | tag (handle : Option String) (suffix : String)
  | scalar (text : String) (plain : Bool)
  | streamEnd
  deriving DecidableEq, Repr

end NodeInventory.Yaml
