import NodeInventory.Decimal.Fixed
import NodeInventory.Json.Problem
import NodeInventory.Query.SeverityScale
import NodeInventory.Value.Shown

/-!
# Causes of failure

Everything that can go wrong, as data.  `Fault.message` is the one place where a cause is put
into words.
-/

namespace NodeInventory

/-- A step from a payload to a part of it. -/
inductive PathStep where
  | field (name : String)
  | index (i : Nat)
  deriving DecidableEq, Repr

/-- The rules that a payload field can break. -/
inductive Rule where
  | intType | intParsing | intParsingSize | intFromFloat | finiteNumber
  | textType
  | boolType | boolParsing
  | listType
  | objectType
  deriving DecidableEq, Repr

/-- The word for a rule. -/
def Rule.word : Rule → String
  | .intType => "int_type"
  | .intParsing => "int_parsing"
  | .intParsingSize => "int_parsing_size"
  | .intFromFloat => "int_from_float"
  | .finiteNumber => "finite_number"
  | .textType => "string_type"
  | .boolType => "bool_type"
  | .boolParsing => "bool_parsing"
  | .listType => "list_type"
  | .objectType => "dict_type"

/-- A rule broken by one part of a payload. -/
structure Violation where
  path : List PathStep
  rule : Rule
  deriving DecidableEq, Repr

/-- A cause of failure. -/
inductive Fault where
  /-- A value of this kind does not offer what was asked of it. -/
  | noAttribute (kind : Kind) (name : String)
  /-- A value of this kind has no items to go through. -/
  | notIterable (kind : Kind)
  /-- A value of this kind has no length. -/
  | notSized (kind : Kind)
  /-- A value of this kind cannot serve as named arguments of the callee. -/
  | notMapping (callee : String) (kind : Kind)
  /-- A named argument of the callee is given twice. -/
  | duplicateArgument (callee name : String)
  /-- A named argument that nothing takes. -/
  | unknownArgument (name : String)
  /-- A required argument is missing. -/
  | missingArgument (name : String)
  /-- A value has the wrong type for an operation. -/
  | wrongType
  /-- An object lacks a key. -/
  | missingKey (key : String)
  /-- A text is no whole number. -/
  | notInteger (text : String)
  /-- A decimal text has more digits than are converted. -/
  | tooManyDigits (count : Nat)
  /-- A value is of the right type but not acceptable. -/
  | badValue
  /-- A result lies outside its range. -/
  | outOfRange
  /-- The year of a time is too large to be counted. -/
  | yearOverflow
  /-- A reply is not JSON. -/
  | malformed (problem : Json.Problem)
  /-- The server rejected a request. -/
  | rejected (status : Int) (remote : Value) (url : String)
  /-- A request got no reply. -/
  | lost (reason : String)
  /-- A listener failed. -/
  | listenerFailed (label : String)
  /-- A wait went on for more polls than are followed. -/
  | endless
  | unknownSeverity (keyword : String)
  | missingSection (name : String)
  | missingField (section_ name : String)
  | nonPositiveInterval
  | noServer
  | noSession
  | noTargets
  | noSuchFile (path : String)
  | isDirectory
  | notStarted
  | unknownCredential (name : String)
  | timedOut (job : String) (elapsed : Rat)
  | cancelled (job : String)
  | invalid (violations : List Violation)
  | unrecognisedNode (reference : String)
  | unknownZone (name : String)
  /-- A configuration text holds characters that none may hold. -/
  | unreadable
  /-- A configuration text does not scan. -/
  | unscannable
  /-- A configuration text scans but does not parse. -/
  | unparsable
  /-- A configuration text parses into parts that do not go together. -/
  | miscomposed
  /-- A part of a configuration text stands for no value. -/
  | unconstructable
  | badCertificate
  deriving Repr

namespace Fault

/-- A cause in words. -/
def message : Fault → String
  | .noAttribute kind name => "'" ++ kind.word ++ "' object has no attribute '" ++ name ++ "'"
  | .notIterable kind => "'" ++ kind.word ++ "' object is not iterable"
  | .notSized kind => "object of type '" ++ kind.word ++ "' has no len()"
  | .notMapping callee kind =>
      callee ++ " argument after ** must be a mapping, not " ++ kind.word
  | .duplicateArgument callee name =>
      callee ++ " got multiple values for argument '" ++ name ++ "'"
  | .unknownArgument name => "unexpected argument '" ++ name ++ "'"
  | .missingArgument name => "missing argument '" ++ name ++ "'"
  | .wrongType => "unsupported type"
  | .missingKey key => Text.quoted key
  | .notInteger text =>
      "invalid literal for int() with base 10: " ++
        String.ofList ((Text.quoted text).toList.take 200)
  | .tooManyDigits count =>
      "Exceeds the limit (4300 digits) for integer string conversion: value has " ++
        toString count ++ " digits; use sys.set_int_max_str_digits() to increase the limit"
  | .badValue => "unacceptable value"
  | .outOfRange => "out of range"
  | .yearOverflow => "Value too large for defined data type"
  | .malformed problem => problem.message
  | .rejected status remote _ => "SWIS HTTP " ++ toString status ++ ": " ++ remote.shown
  | .lost reason => reason
  | .listenerFailed label => "listener " ++ label ++ " failed"
  | .endless => "the wait has not ended"
  | .unknownSeverity keyword =>
      "Unknown severity keyword '" ++ keyword ++ "' (expected one of: " ++
        ", ".intercalate SeverityScale.keywords ++ ")"
  | .missingSection name => "Missing required configuration section: " ++ name
  | .missingField section_ name => "Missing required " ++ section_ ++ " field: " ++ name
  | .nonPositiveInterval => "discovery.poll_interval_seconds must be positive"
  | .noServer => "SWIS connection requires a server address"
  | .noSession => "SWIS connection requires an authenticated session"
  | .noTargets => "At least one target address is required"
  | .noSuchFile path => "Config file not found: " ++ path
  | .isDirectory => "Is a directory"
  | .notStarted => "Service not started"
  | .unknownCredential name => "Credential not found: " ++ name
  | .timedOut job elapsed =>
      "Discovery " ++ job ++ " still in progress after " ++ fixedText 0 elapsed ++ "s"
  | .cancelled job => "Discovery " ++ job ++ " wait cancelled"
  | .invalid violations => toString violations.length ++ " validation errors"
  | .unrecognisedNode reference => "Unrecognised node reference '" ++ reference ++ "'"
  | .unknownZone name => name
  | .unreadable => "unreadable character"
  | .unscannable => "unreadable token"
  | .unparsable => "unexpected token"
  | .miscomposed => "parts that do not go together"
  | .unconstructable => "a part without a value"
  | .badCertificate => "no certificate found"

end Fault

/-- A result or the cause of its absence. -/
abbrev Outcome := Except Fault

end NodeInventory
