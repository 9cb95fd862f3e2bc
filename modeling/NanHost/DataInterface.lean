import NanHost.Capabilities
import NanHost.Rejection

/-!
# Data interfaces

The named interfaces over which data paths run. An interface is created, ready, and deleted again;
while the firmware has not answered it is neither usable nor gone. A name belongs to one interface
at a time.
-/

namespace NanHost

/-- The stage of a data interface, with the command that it waits for. -/
inductive DataInterfaceState where
  | creating (id : TransactionId)
  | ready
  | deleting (id : TransactionId)
  deriving DecidableEq

/-- The data interfaces by name. -/
structure DataInterfaceTable where
  interfaces : Std.ExtTreeMap String DataInterfaceState
  deriving DecidableEq

namespace DataInterfaceTable

/-- No data interface. -/
def empty : DataInterfaceTable := ⟨∅⟩

/-- The stage of the interface of a name. -/
def state? (table : DataInterfaceTable) (name : String) : Option DataInterfaceState :=
  table.interfaces[name]?

/-- How many interfaces there are, at whatever stage. -/
def size (table : DataInterfaceTable) : Nat := table.interfaces.size

/-- Whether there is no interface. -/
def isEmpty (table : DataInterfaceTable) : Bool := table.interfaces.isEmpty

/-- The names of the interfaces that are ready, ascending. -/
def readyNames (table : DataInterfaceTable) : List String :=
  (table.interfaces.toList.filter fun row => row.2 = .ready).map (·.1)

/-- Whether an interface of this name may be created: the name is not taken, and the firmware, as
far as it is known, carries one more. -/
def checkCreate (table : DataInterfaceTable) (name : String)
    (capabilities : Option Capabilities) : Verdict := do
  require (name ∉ table.interfaces) (.interfaceExists name)
  capabilities.forM fun known =>
    require (table.size < known.maxDataInterfaces.toNat)
      (.limitExceeded .dataInterface known.maxDataInterfaces)

/-- Enters an interface whose creation was sent to the firmware. -/
def beginCreate (table : DataInterfaceTable) (name : String) (id : TransactionId) :
    DataInterfaceTable :=
  ⟨table.interfaces.insert name (.creating id)⟩

/-- Ends a creation that was under way: the interface is ready, or it is gone. -/
def resolveCreate (table : DataInterfaceTable) (name : String) (success : Bool) :
    DataInterfaceTable :=
  match table.state? name with
  | some (.creating _) =>
    if success then ⟨table.interfaces.insert name .ready⟩ else ⟨table.interfaces.erase name⟩
  | _ => table

/-- Whether the interface may be deleted: it has to be ready. -/
def checkDelete (table : DataInterfaceTable) (name : String) : Verdict :=
  match table.state? name with
  | some .ready => .ok ()
  | some (.deleting _) => .error (.invalidState .deleteInterface (.interfaceBeingDeleted name))
  | some (.creating _) | none => .error (.unknownInterface name)

/-- Marks an interface whose deletion was sent to the firmware. -/
def beginDelete (table : DataInterfaceTable) (name : String) (id : TransactionId) :
    DataInterfaceTable :=
  ⟨table.interfaces.modify name fun _ => .deleting id⟩

/-- Ends a deletion that was under way: the interface is gone, or it is ready again. -/
def resolveDelete (table : DataInterfaceTable) (name : String) (success : Bool) :
    DataInterfaceTable :=
  match table.state? name with
  | some (.deleting _) =>
    if success then ⟨table.interfaces.erase name⟩ else ⟨table.interfaces.insert name .ready⟩
  | _ => table

/-- Whether a data path may run over the interface. -/
def requireReady (table : DataInterfaceTable) (name : String) : Verdict :=
  require (table.state? name = some .ready) (.unknownInterface name)

end DataInterfaceTable

end NanHost
