import NodeInventory.Fault
import NodeInventory.Value.Access

/-!
# Sessions

A session with the server is always encrypted.  Whether the server's certificate is verified, and
against which authority, is chosen; the account is sent with every request.
-/

namespace NodeInventory

/-- What the path of a certificate leads to.  As when a configuration is validated, every path can be
looked at. -/
inductive CertificateFile where
  | none
  | missing
  | certificate
  | garbage
  deriving DecidableEq, Repr

/-- How a session is opened. -/
structure SessionOptions where
  username : Value
  password : Value
  timeout : Value := .int 30
  verify : Value := .bool false
  certificate : Value := .null

/-- An open session. -/
structure Session where
  verified : Bool
  /-- Whether an authority of its own was loaded. -/
  authorityLoaded : Bool
  username : Value
  password : Value
  timeout : Value
  contentType : String := "application/json"
  /-- The largest number of connections. -/
  limit : Nat := 10
  /-- The largest number of connections to one server. -/
  limitPerHost : Nat := 5
  forceClose : Bool := false

/-- The name of an account must be there and must hold no colon, which ends it on the wire; so must
the password be there. -/
def checkAccount (username password : Value) : Outcome Unit :=
  if username.isNull || password.isNull then .error .badValue
  else do if ← username.holds ":" then .error .badValue else .ok ()

/-- Opens a session.  A certificate is looked at only when the server is verified. -/
def openSession (options : SessionOptions) (file : CertificateFile) : Outcome Session :=
  let verify := options.verify.truthy
  if verify && file = .garbage then .error .badCertificate
  else do
    checkAccount options.username options.password
    pure
      { verified := verify
        authorityLoaded := verify && file = .certificate
        username := options.username
        password := options.password
        timeout := options.timeout }

end NodeInventory
