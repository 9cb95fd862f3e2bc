import NanHost.DataPath.Table
import NanHost.Proofs.Secrecy.Masks
import NanHost.Proofs.Tables

/-!
# Data paths with masked secrets

A secret that was admitted is kept with the initiation under way, and later with the path. Nothing that
is done to the table of data paths looks at it: to mask the secrets and then do a thing is to do the
thing and then mask the secrets, and what the table tells besides is the same.

Each function of the table has its law here, all of the form `table.masked.f = (table.f).masked`; the
laws of functions that only tell something say that they tell the same.
-/

namespace NanHost

namespace DataPath

/-- The path with all secrets masked. -/
def masked (path : DataPath) : DataPath := { path with security := path.security.masked }

variable (path : DataPath)

@[simp] theorem isLive_masked : path.masked.isLive = path.isLive := rfl

@[simp] theorem isConfirmed_masked : path.masked.isConfirmed = path.isConfirmed := rfl

@[simp] theorem isDone_masked : path.masked.isDone = path.isDone := rfl

@[simp] theorem isConfirmable_masked : path.masked.isConfirmable = path.isConfirmable := rfl

@[simp] theorem isOverdue_masked (now : Timestamp) : path.masked.isOverdue now = path.isOverdue now :=
  rfl

theorem initiated_masked (id : DataPathId) (request : InitiateRequest) :
    initiated id request.masked = (initiated id request).masked := rfl

/-- A path that a peer asks for has no secrets yet. -/
theorem masked_requestedByPeer (id : DataPathId) (peer : PeerId) (address : MacAddress)
    (appInfo : ByteArray) (deadline : Timestamp) :
    (requestedByPeer id peer address appInfo deadline).masked =
      requestedByPeer id peer address appInfo deadline := rfl

/-- The secrets of an acceptance are those of the path from then on. -/
theorem answered_masked (request : RespondRequest) :
    path.masked.answered request.masked = (path.answered request).masked := by
  unfold answered
  show (if request.accept then _ else _) = (if request.accept then _ else _ : DataPath).masked
  split <;> rfl

end DataPath

namespace DataPathTable

/-- The table with all secrets masked. -/
def masked (table : DataPathTable) : DataPathTable :=
  { table with
    paths := table.paths.map fun _ => DataPath.masked
    initiating := table.initiating.map fun _ => InitiateRequest.masked }

variable (table : DataPathTable)

theorem masked_new (graceMs : UInt64) : (new graceMs).masked = new graceMs := by
  have paths : (∅ : Std.ExtTreeMap DataPathId DataPath).map (fun _ => DataPath.masked) = ∅ :=
    Std.ExtTreeMap.map_eq_empty_iff.mpr rfl
  have initiating : (∅ : Std.ExtTreeMap TransactionId InitiateRequest).map
      (fun _ => InitiateRequest.masked) = ∅ := Std.ExtTreeMap.map_eq_empty_iff.mpr rfl
  rw [masked, new, paths, initiating]

/-! ## What is in a table -/

@[simp] theorem get?_masked (id : DataPathId) :
    table.masked.get? id = (table.get? id).map DataPath.masked := Std.ExtTreeMap.getElem?_map

@[simp] theorem contains_masked (id : DataPathId) :
    table.masked.paths.contains id = table.paths.contains id := Std.ExtTreeMap.contains_map

@[simp] theorem toList_masked : table.masked.toList = table.toList.map DataPath.masked := by
  rw [toList, masked, Std.ExtTreeMap.toList_map, List.map_map, toList, List.map_map]
  rfl

@[simp] theorem initiating_masked (id : TransactionId) :
    table.masked.initiating[id]? = (table.initiating[id]?).map InitiateRequest.masked :=
  Std.ExtTreeMap.getElem?_map

@[simp] theorem isEmpty_initiating_masked :
    table.masked.initiating.isEmpty = table.initiating.isEmpty := Tables.isEmpty_map _ _

@[simp] theorem initiatingCount_masked : table.masked.initiatingCount = table.initiatingCount :=
  Std.ExtTreeMap.size_map

/-- What is asked of each path is answered for the table. -/
theorem any_toList_masked (condition : DataPath → Bool)
    (blind : ∀ path : DataPath, condition path.masked = condition path) :
    table.masked.toList.any condition = table.toList.any condition := by
  rw [toList_masked, List.any_map]
  exact List.any_congr rfl fun path => blind path

theorem usesInterface_masked (name : String) :
    table.masked.usesInterface name = table.usesInterface name := by
  have under : table.masked.initiating.toList.any (fun row => row.2.interfaceName = name) =
      table.initiating.toList.any fun row => row.2.interfaceName = name := by
    rw [masked, Std.ExtTreeMap.toList_map, List.any_map]
    rfl
  rw [usesInterface, table.any_toList_masked _ fun _ => rfl, under, usesInterface]

theorem live_masked (id : DataPathId) :
    table.masked.live id = (table.live id).map DataPath.masked := by
  rw [live, get?_masked, live]
  cases table.get? id with
  | none => rfl
  | some path =>
    simp only [Option.map_some, DataPath.isLive_masked, apply_ite (Except.map DataPath.masked)]
    rfl

/-! ## Entries that change -/

theorem put_masked (id : DataPathId) (path : DataPath) :
    table.masked.put id path.masked = (table.put id path).masked :=
  congrArg (fun paths => { table.masked with paths := paths }) (Tables.map_insert _ _ _ _)

/-- A change that does not look at secrets may be made before or after. -/
theorem update_masked (id : DataPathId) {change change' : DataPath → DataPath}
    (commutes : ∀ path : DataPath, change' path.masked = (change path).masked) :
    table.masked.update id change' = (table.update id change).masked :=
  congrArg (fun paths => { table.masked with paths := paths }) (Tables.map_modify _ _ commutes)

theorem purge_masked (id : DataPathId) : table.masked.purge id = (table.purge id).masked := by
  have erased : { table.masked with paths := table.masked.paths.erase id } =
      { table with paths := table.paths.erase id }.masked :=
    congrArg (fun paths => { table.masked with paths := paths }) (Tables.map_erase _ _ _)
  rw [purge, get?_masked, purge]
  cases table.get? id with
  | none => rfl
  | some path => simp only [Option.map_some, DataPath.isDone_masked, erased, apply_ite masked]

theorem attach_masked (id : DataPathId) (txn : TransactionId) :
    table.masked.attach id txn = (table.attach id txn).masked := table.update_masked id fun _ => rfl

theorem detach_masked (id : DataPathId) (txn : TransactionId) :
    table.masked.detach id txn = (table.detach id txn).masked := by
  have struck : table.masked.update id (·.detach txn) = (table.update id (·.detach txn)).masked :=
    table.update_masked id fun _ => rfl
  rw [detach, struck, purge_masked, detach]

/-! ## Initiations -/

theorem checkInitiate_masked (size : UInt64) (capabilities : Option Capabilities) :
    table.masked.checkInitiate size capabilities = table.checkInitiate size capabilities := by
  have live : table.masked.toList.countP (·.isLive) = table.toList.countP (·.isLive) := by
    rw [toList_masked, List.countP_map]
    rfl
  rw [checkInitiate, live, initiatingCount_masked, checkInitiate]

theorem beginInitiate_masked (id : TransactionId) (request : InitiateRequest) :
    table.masked.beginInitiate id request.masked = (table.beginInitiate id request).masked :=
  congrArg (fun initiating => { table.masked with initiating := initiating })
    (Tables.map_insert _ _ _ _)

/-- What is told, and the table with all secrets masked. -/
def maskedNext {α : Type} (outcome : α × DataPathTable) : α × DataPathTable :=
  (outcome.1, outcome.2.masked)

theorem enterInitiated_masked (request : InitiateRequest) (assigned : Except Failure DataPathId) :
    table.masked.enterInitiated request.masked assigned =
      maskedNext (table.enterInitiated request assigned) := by
  unfold enterInitiated
  cases assigned with
  | error failure => rfl
  | ok path =>
    simp only [contains_masked, DataPath.initiated_masked, put_masked]
    split
    · rfl
    · split <;> rfl

theorem resolveInitiate_masked (id : TransactionId) (assigned : Except Failure DataPathId) :
    table.masked.resolveInitiate id assigned = maskedNext (table.resolveInitiate id assigned) := by
  unfold resolveInitiate
  rw [initiating_masked]
  cases table.initiating[id]? with
  | none => rfl
  | some request =>
    have rest : { table.masked with initiating := table.masked.initiating.erase id } =
        { table with initiating := table.initiating.erase id }.masked :=
      congrArg (fun initiating => { table.masked with initiating := initiating })
        (Tables.map_erase _ _ _)
    simp only [Option.map_some, rest, enterInitiated_masked, maskedNext, isEmpty_initiating_masked]
    split <;> rfl

/-! ## Requests of peers -/

theorem onRequest_masked (id : DataPathId) (peer : PeerId) (address : MacAddress)
    (appInfo : ByteArray) (now : Timestamp) :
    table.masked.onRequest id peer address appInfo now =
      maskedNext (table.onRequest id peer address appInfo now) := by
  unfold onRequest
  rw [contains_masked]
  split
  · rfl
  · rw [← DataPath.masked_requestedByPeer, put_masked]
    rfl

theorem checkRespond_masked (request : RespondRequest) (capabilities : Option Capabilities) :
    table.masked.checkRespond request.masked capabilities =
      table.checkRespond request capabilities := by
  unfold checkRespond
  show (table.masked.live request.pathId >>= _) = _
  rw [live_masked]
  cases table.live request.pathId <;> rfl

theorem beginRespond_masked (id : TransactionId) (request : RespondRequest) :
    table.masked.beginRespond id request.masked = (table.beginRespond id request).masked :=
  table.update_masked request.pathId fun path => (path.attach id).answered_masked request

theorem resolveRespond_masked (path : DataPathId) (id : TransactionId)
    (outcome : Except Failure Unit) :
    table.masked.resolveRespond path id outcome =
      maskedNext (table.resolveRespond path id outcome) := by
  unfold resolveRespond
  rw [get?_masked]
  cases table.get? path with
  | none => rfl
  | some entry =>
    have put (next : DataPath) : (table.masked.put path next.masked).purge path =
        ((table.put path next).purge path).masked := by rw [put_masked, purge_masked]
    have settled := put (entry.detach id)
    have taken := put (entry.detach id).terminated
    rcases outcome with (_ | _) | _
    all_goals first
      | exact congrArg (Prod.mk _) settled
      | exact congrArg (Prod.mk _) taken

theorem expireResponses_masked (now : Timestamp) :
    table.masked.expireResponses now = maskedNext (table.expireResponses now) := by
  have overdue : (table.masked.toList.filter (·.isOverdue now)).map (·.id) =
      (table.toList.filter (·.isOverdue now)).map (·.id) := by
    rw [toList_masked, List.filter_map, List.map_map]
    rfl
  have paths : table.masked.paths.map (fun _ path =>
        if path.isOverdue now then path.terminated.withoutDeadline else path) =
      (table.paths.map fun _ path =>
        if path.isOverdue now then path.terminated.withoutDeadline else path).map
          fun _ => DataPath.masked := by
    rw [masked, Std.ExtTreeMap.map_map, Std.ExtTreeMap.map_map]
    congr
    funext _ path
    rw [DataPath.isOverdue_masked]
    split <;> rfl
  exact Prod.ext overdue (congrArg (fun paths => { table.masked with paths := paths }) paths)

/-! ## Reports of the firmware -/

theorem onConfirmed_masked (id : DataPathId) (accepted : Bool) (peerInterface : MacAddress)
    (appInfo : ByteArray) (status : FirmwareStatus) :
    table.masked.onConfirmed id accepted peerInterface appInfo status =
      maskedNext (table.onConfirmed id accepted peerInterface appInfo status) := by
  unfold onConfirmed
  rw [get?_masked, isEmpty_initiating_masked]
  cases table.get? id with
  | none =>
    show (if _ then _ else _) = maskedNext (if _ then _ else _)
    split <;> rfl
  | some path =>
    have confirmed : table.masked.put id (path.masked.confirmed peerInterface appInfo) =
        (table.put id (path.confirmed peerInterface appInfo)).masked :=
      table.put_masked id (path.confirmed peerInterface appInfo)
    have rejected : (table.masked.put id path.masked.terminated).purge id =
        ((table.put id path.terminated).purge id).masked := by
      rw [← purge_masked, ← put_masked]
      rfl
    simp only [Option.map_some, DataPath.isConfirmable_masked, confirmed, rejected]
    split
    · rfl
    · split <;> rfl

theorem onTerminated_masked (id : DataPathId) (status : FirmwareStatus) :
    table.masked.onTerminated id status = maskedNext (table.onTerminated id status) := by
  unfold onTerminated
  rw [get?_masked, isEmpty_initiating_masked]
  cases table.get? id with
  | none =>
    show (if _ then _ else _) = maskedNext (if _ then _ else _)
    split <;> rfl
  | some path =>
    have ended : (table.masked.put id path.masked.terminated.withoutDeadline).purge id =
        ((table.put id path.terminated.withoutDeadline).purge id).masked := by
      rw [← purge_masked, ← put_masked]
      rfl
    simp only [Option.map_some, DataPath.isLive_masked, ended]
    split <;> rfl

/-! ## Ends -/

theorem checkEnd_masked (id : DataPathId) : table.masked.checkEnd id = table.checkEnd id := by
  unfold checkEnd
  rw [live_masked]
  cases table.live id <;> rfl

theorem beginEnd_masked (path : DataPathId) (id : TransactionId) :
    table.masked.beginEnd path id = (table.beginEnd path id).masked :=
  table.update_masked path fun _ => rfl

theorem resolveEnd_masked (path : DataPathId) (id : TransactionId) :
    table.masked.resolveEnd path id = maskedNext (table.resolveEnd path id) := by
  have found : (table.masked.get? path).isSome = (table.get? path).isSome := by
    rw [get?_masked, Option.isSome_map]
  have down : table.masked.update path (fun entry =>
        { (entry.detach id).terminated with endPending := false }) =
      (table.update path fun entry =>
        { (entry.detach id).terminated with endPending := false }).masked :=
    table.update_masked path fun _ => rfl
  exact Prod.ext found ((congrArg (·.purge path) down).trans (purge_masked _ path))

theorem terminateAll_masked : table.masked.terminateAll = maskedNext table.terminateAll := by
  have live : (table.masked.toList.filter (·.isLive)).map (·.id) =
      (table.toList.filter (·.isLive)).map (·.id) := by
    rw [toList_masked, List.filter_map, List.map_map]
    rfl
  unfold terminateAll
  rw [live]
  exact congrArg (Prod.mk _) (masked_new table.graceMs).symm

end DataPathTable

end NanHost
