import Std.Data.ExtTreeMap.Lemmas
import Std.Data.ExtTreeSet.Lemmas

/-!
# Identifiers

The numbers by which the host and the firmware speak of the same thing. Each is a type of its own,
over the width the firmware interface gives it, so that a session number is never looked up among
the data paths. Zero is never handed out by the firmware: as a session or data path number it means
"not numbered yet", and as a peer number it means a peer known by its address alone.

Every identifier is ordered by its number. Tables keyed by identifiers list their rows in that
order, and two such tables with the same rows are equal.
-/

namespace NanHost

/-- The number under which a command is filed from the moment it is issued until it is resolved. -/
structure TransactionId where
  raw : UInt16
  deriving DecidableEq

/-- The number the firmware gives a discovery session. -/
structure SessionId where
  raw : UInt8
  deriving DecidableEq

/-- The number the firmware gives a data path. -/
structure DataPathId where
  raw : UInt32
  deriving DecidableEq

/-- The number under which the firmware knows a peer's instance of a service. -/
structure PeerId where
  raw : UInt32
  deriving DecidableEq

/-- A status code reported by the firmware. -/
structure FirmwareStatus where
  code : UInt16
  deriving DecidableEq

/-! ## The order of identifiers -/

instance : Ord TransactionId := ⟨compareOn TransactionId.raw⟩
instance : Ord SessionId := ⟨compareOn SessionId.raw⟩
instance : Ord DataPathId := ⟨compareOn DataPathId.raw⟩
instance : Ord PeerId := ⟨compareOn PeerId.raw⟩

instance : Std.TransOrd TransactionId :=
  inferInstanceAs (Std.TransCmp (compareOn TransactionId.raw))

instance : Std.TransOrd SessionId :=
  inferInstanceAs (Std.TransCmp (compareOn SessionId.raw))

instance : Std.TransOrd DataPathId :=
  inferInstanceAs (Std.TransCmp (compareOn DataPathId.raw))

instance : Std.TransOrd PeerId :=
  inferInstanceAs (Std.TransCmp (compareOn PeerId.raw))

instance : Std.LawfulEqOrd TransactionId where
  eq_of_compare {a b} h := by
    cases a; cases b
    exact congrArg TransactionId.mk (Std.LawfulEqOrd.compare_eq_iff_eq.1 h)

instance : Std.LawfulEqOrd SessionId where
  eq_of_compare {a b} h := by
    cases a; cases b
    exact congrArg SessionId.mk (Std.LawfulEqOrd.compare_eq_iff_eq.1 h)

instance : Std.LawfulEqOrd DataPathId where
  eq_of_compare {a b} h := by
    cases a; cases b
    exact congrArg DataPathId.mk (Std.LawfulEqOrd.compare_eq_iff_eq.1 h)

instance : Std.LawfulEqOrd PeerId where
  eq_of_compare {a b} h := by
    cases a; cases b
    exact congrArg PeerId.mk (Std.LawfulEqOrd.compare_eq_iff_eq.1 h)

/-! ## Numbers that were given -/

namespace SessionId

/-- Whether the firmware has numbered the session. -/
def isAssigned (id : SessionId) : Bool := id.raw != 0

end SessionId

namespace DataPathId

/-- Whether the firmware has numbered the data path. -/
def isAssigned (id : DataPathId) : Bool := id.raw != 0

end DataPathId

namespace PeerId

/-- Whether the peer was met through a discovery session, and is not known by its address alone. -/
def isAssociated (id : PeerId) : Bool := id.raw != 0

end PeerId

/-! ## Texts: an identifier reads as its decimal number -/

instance : ToString TransactionId := ⟨fun id => toString id.raw.toNat⟩
instance : ToString SessionId := ⟨fun id => toString id.raw.toNat⟩
instance : ToString DataPathId := ⟨fun id => toString id.raw.toNat⟩
instance : ToString PeerId := ⟨fun id => toString id.raw.toNat⟩

namespace FirmwareStatus

/-- The status of a command that went well. -/
def success : FirmwareStatus := ⟨0⟩

/-- A status in words. -/
def text (status : FirmwareStatus) : String := "firmware status " ++ toString status.code.toNat

end FirmwareStatus

end NanHost
