import NodeInventory.Fault
import NodeInventory.Network.Address

/-!
# Short names

The host part of a name: what stands before its first dot.  An address is no name and stays whole.
-/

namespace NodeInventory

/-- The host part of a caption. -/
def shortName (caption : String) : String :=
  if Address.isAddress caption then caption
  else String.ofList (caption.toList.takeWhile (· != '.'))

/-- `shortName` for any value; a number that is an address stays as it is. -/
def shortNameOf (caption : Value) : Outcome Value :=
  match caption with
  | .text s => .ok (.text (shortName s))
  | .bool _ => .ok caption
  | .int n => if Address.isAddressNumber n then .ok caption else .error (.noAttribute .int "split")
  | v => .error (.noAttribute v.kind "split")

end NodeInventory
