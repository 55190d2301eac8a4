import NodeInventory.Network.ShortName
import NodeInventory.Proofs.Network.Grammar
import Mathlib.Data.List.TakeWhile

/-!
# The host part of a name

A name is shortened to its host part, that is to what stands in front of its first dot.  A name
without a dot stays as it is, and so does an address, whose dots are no domain separators; nothing
else does, and a name that has been shortened is not shortened again: `shortName_keeps_addresses`.
A name that begins with a dot has nothing in front of it (`shortName_eq_empty_iff`).
-/

namespace NodeInventory

open Address

/-- The longest beginning of a name that has no dot. -/
structure HostPart (name host : List Char) : Prop where
  begins : host <+: name
  undotted : '.' ∉ host
  longest : ∀ lead, lead <+: name → '.' ∉ lead → lead <+: host

theorem hostPart_takeWhile (name : List Char) : HostPart name (name.takeWhile (· != '.')) where
  begins := List.takeWhile_prefix _
  undotted := by
    intro dot
    simpa using List.mem_takeWhile_imp dot
  longest := by
    rintro lead ⟨rest, rfl⟩ undotted
    have kept : ∀ c ∈ lead, (c != '.') = true := fun c member =>
      bne_iff_ne.mpr fun same => undotted (same ▸ member)
    rw [List.takeWhile_append_of_pos kept]
    exact List.prefix_append _ _

theorem shortName_of_address {s : String} (h : AddressText s.toList) : shortName s = s := by
  rw [shortName, if_pos (isAddress_iff.mpr h)]

theorem shortName_toList {s : String} (other : ¬AddressText s.toList) :
    (shortName s).toList = s.toList.takeWhile (· != '.') := by
  rw [shortName, if_neg (mt isAddress_iff.mp other), String.toList_ofList]

theorem shortName_hostPart {s : String} (other : ¬AddressText s.toList) :
    HostPart s.toList (shortName s).toList := by
  rw [shortName_toList other]
  exact hostPart_takeWhile _

theorem shortName_eq_self_iff {s : String} :
    shortName s = s ↔ '.' ∉ s.toList ∨ AddressText s.toList := by
  by_cases address : AddressText s.toList
  · exact iff_of_true (shortName_of_address address) (.inr address)
  · have undotted : (∀ c ∈ s.toList, (c != '.') = true) ↔ '.' ∉ s.toList := by
      simp only [bne_iff_ne]
      exact ⟨fun each dot => each _ dot rfl, fun free c member same => free (same ▸ member)⟩
    rw [← String.toList_inj, shortName_toList address, List.takeWhile_eq_self_iff, undotted]
    exact (or_iff_left address).symm

/-- Nothing is left of a name exactly if it is empty or begins with a dot. -/
theorem shortName_eq_empty_iff {s : String} :
    shortName s = "" ↔ s = "" ∨ s.toList.head? = some '.' := by
  by_cases address : AddressText s.toList
  · rw [shortName_of_address address]
    exact (or_iff_left address.head_ne_dot).symm
  · rw [← String.toList_inj, ← String.toList_inj, shortName_toList address]
    cases s.toList with
    | nil => simp
    | cons c rest => simp [List.takeWhile_cons]

/-- A name stays as it is exactly if it has no dot or is an address, and any other one is shortened
to its host part.  A short name is not shortened again. -/
theorem shortName_keeps_addresses (caption : String) :
    (shortName caption = caption ↔ '.' ∉ caption.toList ∨ AddressText caption.toList) ∧
    (¬('.' ∉ caption.toList ∨ AddressText caption.toList) →
      HostPart caption.toList (shortName caption).toList) ∧
    shortName (shortName caption) = shortName caption := by
  refine ⟨shortName_eq_self_iff, fun other => ?_, ?_⟩
  · exact shortName_hostPart fun address => other (.inr address)
  · by_cases address : AddressText caption.toList
    · rw [shortName_of_address address, shortName_of_address address]
    · exact shortName_eq_self_iff.mpr (.inl (shortName_hostPart address).undotted)

/-- A dot in a scope is none of the name's. -/
example : shortName "fe80::192.0.2.1%eth0.1" = "fe80::192.0.2.1%eth0.1" ∧
    shortName "192.0.2.01" = "192" := by decide +kernel

end NodeInventory
