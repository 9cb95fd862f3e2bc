import NanHost.Identifier

/-!
# Hardware addresses

A hardware address is six octets, written as pairs of hexadecimal digits with colons between.
Addresses are ordered octet by octet from the left, which is the order of the numbers they spell.
-/

namespace NanHost

/-- Six octets, the most significant first. -/
structure MacAddress where
  octets : Vector UInt8 6
  deriving DecidableEq

namespace MacAddress

/-- The address whose octets are all zero. -/
def zero : MacAddress := ⟨Vector.replicate 6 0⟩

instance : Inhabited MacAddress := ⟨zero⟩

/-- The number the octets spell, most significant first. -/
def toNat (address : MacAddress) : Nat :=
  address.octets.toList.foldl (fun number octet => number * 256 + octet.toNat) 0

/-- One octet as two lower-case hexadecimal digits. -/
def octetText (octet : UInt8) : String :=
  String.ofList [(octet.toNat / 16).digitChar, (octet.toNat % 16).digitChar]

/-- The address as it is written: `02:00:00:00:00:07`. -/
def text (address : MacAddress) : String :=
  ":".intercalate (address.octets.toList.map octetText)

instance : ToString MacAddress := ⟨text⟩

/-- The address with its kind spelled out, for diagnostics. -/
def debugText (address : MacAddress) : String := "MacAddress(" ++ address.text ++ ")"

/-- Addresses in ascending order, equal ones in the order given. -/
def sort (addresses : List MacAddress) : List MacAddress :=
  addresses.mergeSort fun a b => a.toNat ≤ b.toNat

end MacAddress

end NanHost
