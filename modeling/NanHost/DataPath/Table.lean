import NanHost.DataPath
import NanHost.Failure

/-!
# The table of data paths

The paths by number, the initiations that the firmware has not numbered yet by the command that
carries them, and the events that were reported before their path had a number.

The firmware may confirm or end a path before it answers the command that asked for it. Such an
event names a number that is not in the table. While an initiation is under way it is held back;
once the initiation ends, the events for the number it was given are replayed, and when no
initiation is left the rest is forgotten.
-/

namespace NanHost

/-- An event that came ahead of the number of its path. -/
inductive HeldEvent where
  | confirmed (accepted : Bool) (peerInterface : MacAddress) (appInfo : ByteArray)
      (status : FirmwareStatus)
  | terminated (status : FirmwareStatus)
  deriving DecidableEq

/-- What a confirmation amounts to. -/
inductive ConfirmOutcome where
  | confirmed
  | rejected (status : FirmwareStatus)
  | held
  | ignored
  deriving DecidableEq

/-- What the firmware's report that a path ended amounts to. -/
inductive PathEnd where
  /-- The caller has not asked for it, and has to be told. -/
  | unasked
  /-- The caller has asked for it. -/
  | asked
  | held
  | ignored
  deriving DecidableEq

/-- The data paths, the initiations under way and the events held back. -/
structure DataPathTable where
  paths : Std.ExtTreeMap DataPathId DataPath
  initiating : Std.ExtTreeMap TransactionId InitiateRequest
  held : Std.ExtTreeMap DataPathId (List HeldEvent)
  /-- How long a peer waits for an answer. -/
  graceMs : UInt64
  deriving DecidableEq

/-- Whether the firmware takes so many bytes of application information. -/
def checkAppInfo (size : UInt64) (known : Capabilities) : Verdict :=
  require (size ≤ known.maxAppInfoLen) (.invalidArgument (.tooLong .appInfo known.maxAppInfoLen))

namespace DataPathTable

/-- No data path. -/
def new (graceMs : UInt64) : DataPathTable := ⟨∅, ∅, ∅, graceMs⟩

/-- The path of a number. -/
def get? (table : DataPathTable) (id : DataPathId) : Option DataPath := table.paths[id]?

/-- The paths in the order of their numbers. -/
def toList (table : DataPathTable) : List DataPath := table.paths.toList.map (·.2)

/-- How many paths are up. -/
def activeCount (table : DataPathTable) : Nat := table.toList.countP (·.isConfirmed)

/-- How many initiations are under way. -/
def initiatingCount (table : DataPathTable) : Nat := table.initiating.size

/-- Whether there is neither a path nor an initiation under way. -/
def isEmpty (table : DataPathTable) : Bool := table.paths.isEmpty && table.initiating.isEmpty

/-- Whether a live path or an initiation under way runs over the interface. -/
def usesInterface (table : DataPathTable) (name : String) : Bool :=
  table.toList.any (fun path => path.isLive && path.interfaceName = some name) ||
    table.initiating.toList.any fun row => row.2.interfaceName = name

/-- Removes the path if nothing is left to keep it on record for. -/
def purge (table : DataPathTable) (id : DataPathId) : DataPathTable :=
  match table.get? id with
  | some path => if path.isDone then { table with paths := table.paths.erase id } else table
  | none => table

/-- Puts a path's new state in the place of its old one. -/
def put (table : DataPathTable) (id : DataPathId) (path : DataPath) : DataPathTable :=
  { table with paths := table.paths.insert id path }

/-- Changes the path of a number, if there is one. -/
def update (table : DataPathTable) (id : DataPathId) (change : DataPath → DataPath) :
    DataPathTable :=
  { table with paths := table.paths.modify id change }

/-- The path of a number, unless it is terminated. -/
def live (table : DataPathTable) (id : DataPathId) : Except Rejection DataPath :=
  match table.get? id with
  | some path => if path.isLive then .ok path else .error (.unknownDataPath id)
  | none => .error (.unknownDataPath id)

/-! ## Initiations -/

/-- Whether a path can be asked for: the firmware, as far as it is known, takes so many bytes of
application information and carries one more path. -/
def checkInitiate (table : DataPathTable) (appInfoSize : UInt64)
    (capabilities : Option Capabilities) : Verdict :=
  capabilities.forM fun known => do
    checkAppInfo appInfoSize known
    require (table.toList.countP (·.isLive) + table.initiatingCount < known.maxDataPaths.toNat)
      (.limitExceeded .dataPath known.maxDataPaths)

/-- Enters an initiation that was sent to the firmware. -/
def beginInitiate (table : DataPathTable) (id : TransactionId) (request : InitiateRequest) :
    DataPathTable :=
  { table with initiating := table.initiating.insert id request }

/-- The events held back for one number alone. -/
def onlyHeld (table : DataPathTable) (keep : Option DataPathId) : DataPathTable :=
  { table with
    held := match keep with
      | some id => (table.held[id]?).elim ∅ fun events => (∅ : Std.ExtTreeMap _ _).insert id events
      | none => ∅ }

/-- Enters the path of an initiation under the number the firmware gave it, if that is neither zero
nor taken. -/
def enterInitiated (table : DataPathTable) (request : InitiateRequest)
    (assigned : Except Failure DataPathId) : Except Failure DataPathId × DataPathTable :=
  match assigned with
  | .error failure => (.error failure, table)
  | .ok path =>
    if !path.isAssigned then (.error (.invalidAnswer .pathIdZero), table)
    else if table.paths.contains path then (.error (.invalidAnswer .duplicatePathId), table)
    else (.ok path, table.put path (.initiated path request))

/-- Ends an initiation. When it was the last one under way, events held back for other numbers are
forgotten: no path can claim them any more. -/
def resolveInitiate (table : DataPathTable) (id : TransactionId)
    (assigned : Except Failure DataPathId) : Except Failure DataPathId × DataPathTable :=
  match table.initiating[id]? with
  | none => (.error .aborted, table)
  | some request =>
    let rest := { table with initiating := table.initiating.erase id }
    let (result, entered) := rest.enterInitiated request assigned
    (result, if entered.initiating.isEmpty then entered.onlyHeld result.toOption else entered)

/-- Takes the events held back for a number, in the order in which they came. -/
def takeHeld (table : DataPathTable) (id : DataPathId) : List HeldEvent × DataPathTable :=
  ((table.held[id]?).getD [], { table with held := table.held.erase id })

/-- Holds an event back for a number that is not in the table. -/
def hold (table : DataPathTable) (id : DataPathId) (event : HeldEvent) : DataPathTable :=
  { table with held := table.held.insert id ((table.held[id]?).getD [] ++ [event]) }

/-! ## Requests of peers -/

/-- Enters a path that a peer asks for, and tells whether it is a new one. -/
def onRequest (table : DataPathTable) (id : DataPathId) (peerId : PeerId)
    (peerAddress : MacAddress) (appInfo : ByteArray) (now : Timestamp) : Bool × DataPathTable :=
  if !id.isAssigned || table.paths.contains id then (false, table)
  else (true, table.put id
    (.requestedByPeer id peerId peerAddress appInfo (now.addMillis table.graceMs)))

/-- Whether a peer's request can be answered so: it has to be open, and the firmware, as far as it
is known, has to take the application information of an acceptance. -/
def checkRespond (table : DataPathTable) (request : RespondRequest)
    (capabilities : Option Capabilities) : Verdict := do
  let path ← table.live request.pathId
  require path.awaitsAnswer
    (.invalidState .respondDataPath (.notAwaitingResponse request.pathId))
  if request.accept then
    capabilities.forM fun known => checkAppInfo request.appInfo.size.toUInt64 known

/-- Marks a path whose answer was sent to the firmware. -/
def beginRespond (table : DataPathTable) (id : TransactionId) (request : RespondRequest) :
    DataPathTable :=
  table.update request.pathId fun path => (path.attach id).answered request

/-- Ends an answer, and tells whether it was an acceptance. A failed answer takes the path down,
unless it failed because the engine gave it up. -/
def resolveRespond (table : DataPathTable) (path : DataPathId) (id : TransactionId)
    (outcome : Except Failure Unit) : Except Failure Bool × DataPathTable :=
  match table.get? path with
  | none => (.error .aborted, table)
  | some entry =>
    let settled := entry.detach id
    let accepted := entry.response = some true
    match outcome with
    | .ok () =>
      (if accepted && !entry.isLive then .error .aborted else .ok accepted,
        (table.put path settled).purge path)
    | .error .aborted => (.error .aborted, (table.put path settled).purge path)
    | .error failure => (.error failure, (table.put path settled.terminated).purge path)

/-- Takes down every path whose request has gone unanswered past its deadline, and lists them in
ascending order. They stay on record: the firmware has yet to be told. -/
def expireResponses (table : DataPathTable) (now : Timestamp) : List DataPathId × DataPathTable :=
  let overdue := table.toList.filter (·.isOverdue now)
  (overdue.map (·.id),
    { table with
      paths := table.paths.map fun _ path =>
        if path.isOverdue now then path.terminated.withoutDeadline else path })

/-! ## Reports of the firmware -/

/-- Notes a confirmation, and tells what it amounts to. -/
def onConfirmed (table : DataPathTable) (id : DataPathId) (accepted : Bool)
    (peerInterface : MacAddress) (appInfo : ByteArray) (status : FirmwareStatus) :
    ConfirmOutcome × DataPathTable :=
  match table.get? id with
  | none =>
    if table.initiating.isEmpty then (.ignored, table)
    else (.held, table.hold id (.confirmed accepted peerInterface appInfo status))
  | some path =>
    if !path.isConfirmable then (.ignored, table)
    else if accepted then (.confirmed, table.put id (path.confirmed peerInterface appInfo))
    else (.rejected status, (table.put id path.terminated).purge id)

/-- Notes that a path ended, and tells what that amounts to. -/
def onTerminated (table : DataPathTable) (id : DataPathId) (status : FirmwareStatus) :
    PathEnd × DataPathTable :=
  match table.get? id with
  | none =>
    if table.initiating.isEmpty then (.ignored, table)
    else (.held, table.hold id (.terminated status))
  | some path =>
    if !path.isLive then (.ignored, table)
    else (if path.endPending then .asked else .unasked,
      (table.put id path.terminated.withoutDeadline).purge id)

/-! ## Ends -/

/-- Whether a path can be ended: it is up, or it is a peer's request, and no end is under way. -/
def checkEnd (table : DataPathTable) (id : DataPathId) : Verdict := do
  let path ← table.live id
  require ((path.state = .confirmed ∨ path.state = .awaitingLocalResponse) ∧ !path.endPending)
    (.invalidState .endDataPath (.dataPath id path.state))

/-- Marks a path whose end was sent to the firmware. -/
def beginEnd (table : DataPathTable) (path : DataPathId) (id : TransactionId) : DataPathTable :=
  table.update path fun entry => { (entry.attach id).withoutDeadline with endPending := true }

/-- Ends an end: the path is down, whatever the firmware answered. Tells whether there was such a
path. -/
def resolveEnd (table : DataPathTable) (path : DataPathId) (id : TransactionId) :
    Bool × DataPathTable :=
  ((table.get? path).isSome,
    (table.update path fun entry =>
      { (entry.detach id).terminated with endPending := false }).purge path)

/-! ## Other commands about a path -/

/-- Notes a command about the path. -/
def attach (table : DataPathTable) (path : DataPathId) (id : TransactionId) : DataPathTable :=
  table.update path (·.attach id)

/-- Strikes a command about the path off. -/
def detach (table : DataPathTable) (path : DataPathId) (id : TransactionId) : DataPathTable :=
  (table.update path (·.detach id)).purge path

/-- Removes everything, and lists the paths that were not terminated yet. -/
def terminateAll (table : DataPathTable) : List DataPathId × DataPathTable :=
  ((table.toList.filter (·.isLive)).map (·.id), new table.graceMs)

end DataPathTable

end NanHost
