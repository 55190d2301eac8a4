import NodeInventory.Remote.Client
import NodeInventory.Value.Integer

/-!
# Credentials

A credential is given by its number or looked up by its name.
-/

namespace NodeInventory

/-- Looks a credential up by its name. -/
def credentialQuery : String :=
  "SELECT ID FROM Orion.Credential WHERE Name = @name AND CredentialOwner = 'Orion'"

/-- The number of a credential. -/
def resolveCredential (c : Connection) (credential : Value) : Exchange Int :=
  match credential with
  | .int n => pure n
  | _ => do
      let rows ← c.query credentialQuery [("name", credential)]
      if rows.truthy then
        let row ← rows.first
        (← row.field "ID").toInt
      else Exchange.fail (.unknownCredential credential.shown)

end NodeInventory
