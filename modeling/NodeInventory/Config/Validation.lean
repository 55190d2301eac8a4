import NodeInventory.Fault
import NodeInventory.Value.Access

/-!
# Validating a configuration

A configuration has to name the server and the account, and its polling interval, when there is
one, has to be positive.
-/

namespace NodeInventory.Config

/-- The fields that the server's section has to have. -/
def requiredFields : List String := ["server", "username", "password"]

/-- The required fields of the server's section, each with a value that counts as true. -/
def checkRequired (swis : Value) : List String → Outcome Unit
  | [] => .ok ()
  | name :: rest => do
      if (← swis.get name).truthy then checkRequired swis rest
      else .error (.missingField "swis" name)

/-- An interval is a number above zero, when there is one. -/
def checkInterval (interval : Value) : Outcome Unit :=
  if interval.isNull then .ok ()
  else
    match interval.number? with
    | some x => if x.le (Number.ofInt 0) then .error .nonPositiveInterval else .ok ()
    | none => .error .wrongType

/-- The path of a certificate that is to be used is a text.  A path that leads nowhere is no fault.
Looking there can fail by itself, for a path that is too long or in a directory that may not be
searched, and that failure is left out: every path can be looked at. -/
def checkCertificate (swis : Value) : Outcome Unit := do
  let verify ← swis.getOr "ssl_verify" (.bool false)
  let path ← swis.get "ca_cert_path"
  if verify.truthy && path.truthy && !path.isText then .error .wrongType else .ok ()

/-- Checks a configuration. -/
def validate (config : Value) : Outcome Unit := do
  if !(← config.holds "swis") then .error (.missingSection "swis")
  else
    let swis ← config.field "swis"
    checkRequired swis requiredFields
    let discovery ← config.getOr "discovery" (.object [])
    checkInterval (← discovery.get "poll_interval_seconds")
    checkCertificate swis

end NodeInventory.Config
