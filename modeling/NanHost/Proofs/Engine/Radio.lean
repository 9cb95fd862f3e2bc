import NanHost.Proofs.Engine.Announcements

/-!
# Radio — what is told of the interface, and what becomes of it meanwhile

The caller is told of the interface in three ways: a command to configure it has ended well, a command
to disable it has, or it has gone down by itself. Each of them comes with a change of what is in force.
Everything else leaves in force what is, though a change of the interface that was under way may be
given up with it.

## What is proved

A reaction *leaves* the interface if nothing is told of it and what is in force stays (`LeavesRadio`).
So do commands that are given up (`leavesRadio_giveUpAll`), answers to other commands and refusals of a
change (`Coherent.leavesRadio_refused`), and all reports but that the interface is down
(`leavesRadio_handle`). What the three ways come with is said by `Coherent.configured_onCompleted`,
`Coherent.down_onCompleted` and `Coherent.down_onInterfaceDown`.
-/

namespace NanHost

/-- What the caller is told of the interface: it was configured by a command, or it is down. -/
inductive RadioReport where
  | configured (id : TransactionId) (initial : Bool)
  | down
  deriving DecidableEq

/-- What a notification tells of the interface. -/
def Notification.radio? : Notification → Option RadioReport
  | completed ⟨id, .configure, .ok (.enabled initial)⟩ => some (.configured id initial)
  | completed ⟨_, .disable, .ok .disabled⟩ => some .down
  | interfaceDown _ => some .down
  | _ => none

/-- What the caller is told of the interface, in order. -/
def radioReports (notices : List Notification) : List RadioReport := notices.filterMap (·.radio?)

theorem radioReports_append (first second : List Notification) :
    radioReports (first ++ second) = radioReports first ++ radioReports second :=
  List.filterMap_append

theorem radioReports_eq_nil {notices : List Notification}
    (plain : ∀ notice ∈ notices, notice.radio? = none) : radioReports notices = [] :=
  List.filterMap_eq_nil_iff.mpr plain

/-- What is told of a path is not told of the interface. -/
theorem Notification.radio?_of_path {notice : Notification} {id : DataPathId}
    (about : notice.place? = some (.path id)) : notice.radio? = none := by
  cases notice with
  | completed completion =>
    obtain ⟨txn, kind, result⟩ := completion
    cases result with
    | error failure => cases kind <;> rfl
    | ok detail =>
      cases detail with
      | dataPathInitiated => cases kind <;> rfl
      | _ => cases about
  | interfaceDown => cases about
  | _ => rfl

/-- The failure of a command is not told of the interface. -/
theorem Notification.radio?_failed (id : TransactionId) (kind : CommandKind) (failure : Failure) :
    (Notification.completed ⟨id, kind, .error failure⟩).radio? = none := by
  cases kind <;> rfl

/-- Neither is the end of a command of another kind. -/
theorem Notification.radio?_other (id : TransactionId) {kind : CommandKind}
    (notConfigure : kind ≠ .configure) (notDisable : kind ≠ .disable)
    (result : Except Failure CompletionDetail) :
    (Notification.completed ⟨id, kind, result⟩).radio? = none := by
  cases kind with
  | configure => exact absurd rfl notConfigure
  | disable => exact absurd rfl notDisable
  | _ => cases result <;> rfl

namespace Interface

/-- What is in force stays. If a change was under way, it may have been given up. -/
inductive Recedes (before : Interface) : Interface → Prop
  | same : Recedes before before
  | back {after : Interface} (resting : after.phase.awaited = none)
    (applied : after.applied = before.applied) : Recedes before after

namespace Recedes

variable {first second third : Interface}

theorem applied (recedes : first.Recedes second) : second.applied = first.applied := by
  cases recedes with
  | same => rfl
  | back resting applied => exact applied

theorem trans (before : first.Recedes second) (after : second.Recedes third) :
    first.Recedes third := by
  cases after with
  | same => exact before
  | back resting applied => exact .back resting (applied.trans before.applied)

end Recedes

theorem recedes_completeEnable (interface : Interface) :
    interface.Recedes (interface.completeEnable false).2 := by
  unfold completeEnable
  split
  · exact .back rfl rfl
  · exact .back rfl rfl
  · exact .same

theorem recedes_completeDisable (interface : Interface) :
    interface.Recedes (interface.completeDisable false).2 := by
  unfold completeDisable
  split
  · exact .back rfl rfl
  · exact .same

end Interface

namespace Engine

variable {engine : Engine} {record : TransactionRecord} {id : TransactionId}

/-- **A reaction leaves the interface**: nothing is told of it, and what is in force stays. -/
structure LeavesRadio (engine : Engine) (reaction : Reaction) : Prop where
  recedes : engine.interface.Recedes reaction.1.interface
  unsaid : radioReports reaction.2 = []

/-! ## Ends of commands -/

theorem interface_replayHeld (engine : Engine) (id : DataPathId) :
    (engine.replayHeld id).1.interface = engine.interface := by
  refine sweep_keeps (fun (next : Engine) (_ : List Notification) =>
    next.interface = engine.interface) ?_ _ _ [] rfl
  rintro next told event before
  cases event with
  | confirmed => exact before
  | terminated => exact before

theorem interface_announce (record : TransactionRecord) (settlement : Settlement) :
    (announce record settlement).1.interface = settlement.engine.interface := by
  unfold announce
  dsimp only
  split
  · exact interface_replayHeld _ _
  · rfl

/-- Of an announcement only the completion may tell of the interface. -/
theorem radioReports_announce {settlement : Settlement}
    (unsaid : radioReports settlement.notices = []) :
    radioReports (announce record settlement).2 =
      radioReports [.completed ⟨record.id, record.kind, settlement.result⟩] := by
  have replayed (id : DataPathId) : radioReports (settlement.engine.replayHeld id).2 = [] :=
    radioReports_eq_nil fun notice told => Notification.radio?_of_path (place?_replayHeld told)
  unfold announce
  dsimp only
  rw [radioReports_append, unsaid, List.nil_append, ← List.singleton_append, radioReports_append]
  split
  · rw [replayed, List.append_nil]
  · exact List.append_nil _

/-- Beside its completion a command that is settled by itself tells nothing of the interface. -/
theorem radioReports_settleByItself (engine : Engine) (record : TransactionRecord)
    (outcome : Outcome) : radioReports (engine.settleByItself record outcome).notices = [] := by
  have respond (path : DataPathId) :
      radioReports (engine.settleRespond record.id path outcome).notices = [] := by
    unfold settleRespond
    dsimp only
    split <;> rfl
  unfold settleByItself
  split
  next => unfold settleCapabilities; split <;> rfl
  next => unfold settleConfigure; split <;> rfl
  all_goals first | exact respond _ | rfl

/-- Only a configuration touches the interface as it is settled by itself. -/
theorem interface_settleByItself (notConfigure : record.kind ≠ .configure) (outcome : Outcome) :
    (engine.settleByItself record outcome).engine.interface = engine.interface := by
  unfold settleByItself
  split
  next => unfold settleCapabilities; split <;> rfl
  next configure => exact absurd configure notConfigure
  all_goals rfl

/-- A command that fails, or is about something else, leaves the interface. -/
theorem leavesRadio_announce {settlement : Settlement}
    (recedes : engine.interface.Recedes settlement.engine.interface)
    (unsaid : radioReports settlement.notices = [])
    (plain : (Notification.completed ⟨record.id, record.kind, settlement.result⟩).radio? = none) :
    engine.LeavesRadio (announce record settlement) where
  recedes := by
    rw [interface_announce]
    exact recedes
  unsaid := by
    rw [radioReports_announce unsaid, radioReports, List.filterMap_cons, plain, List.filterMap_nil]

theorem leavesRadio_strikeOff (engine : Engine) (record : TransactionRecord) :
    engine.LeavesRadio (engine.strikeOff record) := by
  unfold strikeOff
  split <;> exact ⟨.same, rfl⟩

/-- **A command that is given up leaves the interface.** -/
theorem leavesRadio_giveUp (engine : Engine) (record : TransactionRecord) (failure : Failure) :
    engine.LeavesRadio (engine.giveUp record failure) := by
  let left := engine.upon (engine.ledger.rollback record.id)
  suffices leaves : left.LeavesRadio (left.conclude record (.error failure)) from
    ⟨leaves.recedes, leaves.unsaid⟩
  cases origin : record.origin with
  | engine =>
    rw [conclude_engine origin]
    exact leavesRadio_strikeOff left record
  | caller =>
    rw [conclude_caller origin]
    by_cases disable : record.kind = .disable
    · rw [settle_disable disable, settleDisable_failed]
      exact leavesRadio_announce (Interface.recedes_completeDisable _) rfl
        (Notification.radio?_failed ..)
    · rw [settle_eq_settleByItself disable]
      obtain ⟨reason, failed⟩ := result_settleByItself_failed left record failure
      refine leavesRadio_announce ?_ (left.radioReports_settleByItself record _) ?_
      · by_cases configure : record.kind = .configure
        · rw [settleByItself_configure configure, engine_settleConfigure]
          exact Interface.recedes_completeEnable left.interface
        · rw [interface_settleByItself configure]
          exact .same
      · rw [failed]
        exact Notification.radio?_failed ..

/-- So do a number of them. -/
theorem leavesRadio_giveUpAll {records : List TransactionRecord}
    (onFile : engine.ledger.OnFile records) (failure : Failure) :
    engine.LeavesRadio (engine.giveUpAll records failure) := by
  apply kept_giveUpAll (fun next told => engine.LeavesRadio (next, told)) [] onFile ⟨.same, rfl⟩
  intro next told record _ _ before
  have leaves := next.leavesRadio_giveUp record failure
  refine ⟨before.recedes.trans leaves.recedes, ?_⟩
  show radioReports (told ++ _) = []
  have unsaid : radioReports told = [] := before.unsaid
  rw [radioReports_append, unsaid, leaves.unsaid]
  rfl

/-- What falls with the interface is not told of the interface. -/
theorem radioReports_cascade (engine : Engine) (reason : TerminationReason) :
    radioReports (engine.cascade reason) = [] := by
  refine radioReports_eq_nil fun notice member => ?_
  simp only [cascade, List.mem_append, List.mem_map] at member
  rcases member with (⟨record, _, rfl⟩ | ⟨entry, _, rfl⟩) | ⟨path, _, rfl⟩
  · exact Notification.radio?_failed ..
  · rfl
  · rfl

namespace Coherent

/-- **An answer leaves the interface** if it refuses a command, or is to a command that is not about
the interface, or to none. -/
theorem leavesRadio_refused (coherent : engine.Coherent) (id : TransactionId)
    (outcome : Except FirmwareStatus AnswerPayload)
    (plain : ∀ record payload, engine.ledger.get? id = some record → outcome = .ok payload →
      record.isSuperseded = false) : engine.LeavesRadio (engine.onCompleted id outcome) := by
  cases onFile : engine.ledger.get? id with
  | none =>
    rw [onCompleted_of_absent onFile]
    exact ⟨.same, rfl⟩
  | some record =>
    obtain rfl := coherent.filed.own onFile
    rw [onCompleted_of_onFile onFile]
    cases outcome with
    | error status => exact engine.leavesRadio_giveUp record (.firmware status)
    | ok payload =>
      have other := plain record payload onFile rfl
      simp only [TransactionRecord.isSuperseded, decide_eq_false_iff_not, not_or] at other
      obtain ⟨notConfigure, notDisable⟩ := other
      let left := engine.upon (engine.ledger.rollback record.id)
      suffices leaves : left.LeavesRadio (left.conclude record (.ok payload)) from
        ⟨leaves.recedes, leaves.unsaid⟩
      cases origin : record.origin with
      | engine =>
        rw [conclude_engine origin]
        exact leavesRadio_strikeOff left record
      | caller =>
        rw [conclude_caller origin, settle_eq_settleByItself notDisable]
        refine leavesRadio_announce ?_ (left.radioReports_settleByItself record _)
          (Notification.radio?_other _ notConfigure notDisable _)
        rw [interface_settleByItself notConfigure]
        exact .same

/-- **A configuration that ends well is in force**, and this is told. -/
theorem configured_onCompleted (coherent : engine.Coherent)
    (onFile : engine.ledger.get? id = some record) (configure : record.kind = .configure)
    {request : EnableRequest} {initial : Bool} (staged : engine.interface.staged = some request)
    (phase : engine.interface.phase = if initial then .enabling else .reconfiguring)
    (payload : AnswerPayload) :
    (engine.onCompleted id (.ok payload)).1.interface = ⟨.enabled, some request, none⟩ ∧
      radioReports (engine.onCompleted id (.ok payload)).2 = [.configured id initial] := by
  obtain rfl := coherent.filed.own onFile
  have origin := (coherent.superseded onFile (by simp [TransactionRecord.isSuperseded, configure])).2
  have completed : engine.interface.completeEnable true =
      (some initial, ⟨.enabled, some request, none⟩) := by
    unfold Interface.completeEnable
    rw [phase, staged]
    cases initial <;> rfl
  have settled : (engine.upon (engine.ledger.rollback record.id)).settle record (.ok payload) =
      ⟨.ok (.enabled initial), { engine.upon (engine.ledger.rollback record.id) with
        interface := ⟨.enabled, some request, none⟩ }, []⟩ := by
    rw [settle_eq_settleByItself (by simp [configure]), settleByItself_configure configure,
      settleConfigure]
    have here : (engine.upon (engine.ledger.rollback record.id)).interface.completeEnable
        (Except.ok payload : Outcome).isOk = (some initial, ⟨.enabled, some request, none⟩) :=
      completed
    rw [here]
    rfl
  have concluded : engine.onCompleted record.id (.ok payload) =
      Engine.announce record ((engine.upon (engine.ledger.rollback record.id)).settle record
        (.ok payload)) := by
    rw [onCompleted_of_onFile onFile, conclude_caller origin]
    rfl
  rw [concluded, interface_announce, settled, radioReports_announce rfl, configure]
  exact ⟨rfl, rfl⟩

/-- **A disabling that ends well takes the interface down**, and this is told. -/
theorem down_onCompleted (coherent : engine.Coherent)
    (onFile : engine.ledger.get? id = some record) (disable : record.kind = .disable)
    (payload : AnswerPayload) :
    (engine.onCompleted id (.ok payload)).1.interface = .down ∧
      radioReports (engine.onCompleted id (.ok payload)).2 = [.down] := by
  rw [coherent.onCompleted_disable onFile disable payload]
  refine ⟨rfl, ?_⟩
  rw [radioReports_append, radioReports_cascade]
  rfl

/-- **An interface that was up goes down by itself**, and this is told. -/
theorem down_onInterfaceDown (coherent : engine.Coherent)
    (up : engine.interface.phase ≠ .disabled) (status : FirmwareStatus) :
    (engine.onInterfaceDown status).1.interface = .down ∧
      radioReports (engine.onInterfaceDown status).2 = [.down] := by
  have superseded : radioReports ((engine.ledger.records.filter (·.isSuperseded)).map
      (·.failed .aborted)) = [] := by
    refine radioReports_eq_nil fun notice member => ?_
    obtain ⟨record, -, rfl⟩ := List.mem_map.mp member
    exact Notification.radio?_failed ..
  rw [coherent.onInterfaceDown_exact up]
  refine ⟨rfl, ?_⟩
  rw [radioReports_append, radioReports_append, superseded, radioReports_cascade]
  rfl

end Coherent

/-! ## Reports -/

/-- **Reports of other things leave the interface.** -/
theorem leavesRadio_handle (engine : Engine) (now : Timestamp) {event : FirmwareEvent}
    (ends : event.endsCommands = false) : engine.LeavesRadio (engine.handle now event) := by
  cases event with
  | commandCompleted | interfaceDown => cases ends
  | sessionMatched session peer address serviceSpecificInfo matchFilter =>
    refine ⟨.same, ?_⟩
    simp only [handle, onMatched]
    split <;> rfl
  | messageReceived session peer address payload =>
    refine ⟨.same, ?_⟩
    simp only [handle, onMessage]
    split <;> rfl
  | sessionTerminated session status =>
    refine ⟨.same, ?_⟩
    simp only [handle, onSessionTerminated]
    split <;> rfl
  | dataPathRequested path peer address appInfo =>
    simp only [handle, onPathRequested]
    split
    · refine ⟨.same, ?_⟩
      dsimp only
      split <;> rfl
    · exact ⟨.same, rfl⟩
  | dataPathConfirmed path accepted peerInterface appInfo status =>
    refine ⟨.same, ?_⟩
    simp only [handle, onPathConfirmed]
    split <;> rfl
  | dataPathTerminated path status =>
    refine ⟨.same, ?_⟩
    simp only [handle, onPathTerminated]
    split <;> rfl
  | identityChanged address =>
    refine ⟨.same, ?_⟩
    simp only [handle]
    split <;> rfl

end Engine

end NanHost
