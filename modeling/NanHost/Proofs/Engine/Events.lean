import NanHost.Proofs.Engine.Conclusion

/-!
# Events — no report of the firmware and no deadline makes an engine incoherent

Most reports change one table and let no command leave. The answer to a command, the interface going
down and the two batches, of deadlines and at shutdown, let commands leave.

## What is proved

- `Coherent.handle`, `Coherent.expireTransactions` and `Coherent.shutdown`: each leaves the engine
  coherent.
- `Coherent.onInterfaceDown_eq`: an interface that goes down by itself supersedes the command that
  it awaited, and is torn down. The superseded command finds the interface down already, so all it
  does is to be reported.
- `expireTransactions_eq` and `shutdown_eq`: a deadline and a shutdown give up what is meant, one
  command at a time.
-/

namespace NanHost

namespace TransactionRecord

/-- How a command is reported that failed. -/
def failed (failure : Failure) (record : TransactionRecord) : Notification :=
  .completed ⟨record.id, record.kind, .error failure⟩

/-- Whether the interface going down leaves the command without a purpose. -/
def isSuperseded (record : TransactionRecord) : Bool :=
  record.kind = .configure ∨ record.kind = .disable

end TransactionRecord

namespace Engine

variable {engine : Engine} {record : TransactionRecord} {id : TransactionId}

/-! ## Answers to commands -/

/-- An answer to no command on file is passed over. -/
theorem onCompleted_of_absent (absent : engine.ledger.get? id = none)
    (outcome : Except FirmwareStatus AnswerPayload) :
    engine.onCompleted id outcome = engine.quiet := by
  unfold onCompleted
  rw [Ledger.resolve_eq, absent]

/-- The answer to a command on file takes it off and concludes it. -/
theorem onCompleted_of_onFile (onFile : engine.ledger.get? id = some record)
    (outcome : Except FirmwareStatus AnswerPayload) :
    engine.onCompleted id outcome =
      (engine.upon (engine.ledger.rollback id)).conclude record (outcome.mapError .firmware) := by
  unfold onCompleted
  rw [Ledger.resolve_eq, onFile]
  rfl

/-! ## Sightings -/

/-- Reacts to a peer that a session sees. -/
def sight (engine : Engine) (id : SessionId) (learn : Session → PeerRecord)
    (notice : Notification) : Reaction :=
  ({ engine with sessions := (engine.sessions.sight id learn).2 },
    if (engine.sessions.sight id learn).1 then [notice] else [])

theorem onMatched_eq (engine : Engine) (session : SessionId) (peer : PeerId)
    (address : MacAddress) (serviceSpecificInfo matchFilter : ByteArray) (now : Timestamp) :
    engine.onMatched session peer address serviceSpecificInfo matchFilter now =
      engine.sight session (fun _ => ⟨peer, address, serviceSpecificInfo, matchFilter, now⟩)
        (.matchFound session peer address serviceSpecificInfo) := by
  unfold onMatched sight
  rw [SessionRegistry.onMatch_eq]

theorem onMessage_eq (engine : Engine) (session : SessionId) (peer : PeerId)
    (address : MacAddress) (payload : ByteArray) (now : Timestamp) :
    engine.onMessage session peer address payload now =
      engine.sight session (·.heard peer address now) (.messageReceived session peer payload) := by
  unfold onMessage sight
  rw [SessionRegistry.onMessage_eq]

/-! ## The interface goes down -/

/-- The engine once its interface has gone down and the command that it awaited has left. -/
def grounded (engine : Engine) : Engine :=
  { engine with
    interface := .down
    ledger := (engine.ledger.drainWhere (·.isSuperseded)).2 }

/-- A superseded command finds the interface down, and is reported. -/
theorem conclude_superseded (down : engine.interface = .down)
    (superseded : record.isSuperseded = true) (origin : record.origin = .caller) :
    engine.conclude record (.error .aborted) = (engine, [record.failed .aborted]) := by
  rw [conclude_caller origin]
  simp only [TransactionRecord.isSuperseded, decide_eq_true_eq] at superseded
  rcases superseded with configure | disable
  · rw [settle_eq_settleByItself (by simp [configure]), settleByItself_configure configure]
    simp only [settleConfigure, down]
    rfl
  · have same : (engine.interface.completeDisable false).2 = engine.interface := by
      rw [down]
      rfl
    rw [settle_disable disable, settleDisable_failed, same]
    rfl

/-- So does a number of them. -/
theorem abandon_superseded (down : engine.interface = .down) {records : List TransactionRecord}
    (superseded : ∀ record ∈ records, record.isSuperseded = true ∧ record.origin = .caller) :
    engine.abandon records .aborted = (engine, records.map (·.failed .aborted)) := by
  unfold abandon
  induction records with
  | nil => rfl
  | cons record rest ih =>
    obtain ⟨first, origin⟩ := superseded record (by simp)
    rw [sweep_cons, conclude_superseded down first origin,
      ih fun other member => superseded other (List.mem_cons_of_mem _ member)]
    rfl

namespace Coherent

/-- The superseded commands are about the interface, and a caller asked for them. -/
theorem superseded (coherent : engine.Coherent) (onFile : engine.ledger.get? id = some record)
    (superseded : record.isSuperseded = true) :
    record.context = .interface ∧ record.origin = .caller := by
  have commission : Commission record.kind record.context record.origin :=
    coherent.commissioned onFile
  simp only [TransactionRecord.isSuperseded, decide_eq_true_eq] at superseded
  have about := commission.interface_iff.mpr (.inr superseded)
  exact ⟨about, commission.caller_of_ne fun path => by simp [about]⟩

/-- A command to configure or to disable the interface that is on file is the one that the interface
waits for. -/
theorem awaited_of_onFile (coherent : engine.Coherent) (onFile : engine.ledger.get? id = some record)
    (radio : record.kind = .configure ∨ record.kind = .disable) :
    engine.interface.phase.awaited = some record.kind := by
  have interface : engine.interface.Agrees _ := coherent.agrees .interface
  have about := (coherent.commissioned onFile).interface_iff.mpr (.inr radio)
  have notQuery : record.kind ≠ .capabilities := by
    rcases radio with kind | kind <;> simp [kind]
  exact interface.awaited_of_out (Ledger.docket_eq_some.mpr ⟨onFile, by rw [about]; rfl⟩) notQuery

/-- Once the interface is down and what it awaited has left, the engine is coherent. -/
theorem grounded (coherent : engine.Coherent) : engine.grounded.Coherent where
  filed := coherent.filed.mono
    (fun onFile => by
      rw [Engine.grounded, Ledger.get?_drainWhere, Option.filter_eq_some_iff] at onFile
      exact onFile.1)
    (by rw [Engine.grounded, Ledger.drainWhere_frame])
  commissioned onFile := by
    rw [Engine.grounded, Ledger.get?_drainWhere, Option.filter_eq_some_iff] at onFile
    exact coherent.commissioned onFile.1
  agrees subject := by
    have stays (elsewhere : subject ≠ .interface) :
        (engine.ledger.drainWhere (·.isSuperseded)).2.docket subject =
          engine.ledger.docket subject := by
      apply Ledger.docket_drainWhere_of_stays
      intro txn record out
      obtain ⟨onFile, about⟩ := Ledger.docket_eq_some.mp out
      refine Bool.eq_false_iff.mpr fun leaves => elsewhere ?_
      rw [← about, (coherent.superseded onFile leaves).1]
      rfl
    have before := coherent.agrees subject
    cases subject with
    | interface =>
      apply Interface.Agrees.down
      intro txn record out
      obtain ⟨out, stays⟩ := Ledger.docket_drainWhere_eq_some.mp out
      obtain ⟨onFile, about⟩ := Ledger.docket_eq_some.mp out
      have commission := coherent.commissioned onFile
      have about : record.context = .interface := by
        cases context : record.context <;> simp_all [PendingContext.subject]
      simp only [TransactionRecord.isSuperseded, decide_eq_false_iff_not] at stays
      exact (commission.interface_iff.mp about).resolve_right stays
    | dataInterfaces | sessions | paths =>
      rw [← stays (by decide)] at before
      exact before

/-- The superseded commands, once they have left, are reported and do nothing else. -/
theorem abandon_grounded (coherent : engine.Coherent) :
    engine.grounded.abandon (engine.ledger.drainWhere (·.isSuperseded)).1 .aborted =
      (engine.grounded,
        (engine.ledger.records.filter (·.isSuperseded)).map (·.failed .aborted)) := by
  rw [abandon_superseded rfl, Ledger.drainWhere_fst, List.map_map]
  · rfl
  · intro record member
    rw [Ledger.drainWhere_fst, List.mem_map] at member
    obtain ⟨record, member, rfl⟩ := member
    obtain ⟨there, meant⟩ := List.mem_filter.mp member
    obtain ⟨id, onFile⟩ := engine.ledger.mem_records.mp there
    exact ⟨meant, (coherent.superseded onFile meant).2⟩

/-- They may as well be given up one at a time. -/
theorem giveUpAll_superseded (coherent : engine.Coherent) :
    { engine with interface := .down }.giveUpAll
      (engine.ledger.records.filter (·.isSuperseded)) .aborted =
        (engine.grounded,
          (engine.ledger.records.filter (·.isSuperseded)).map (·.failed .aborted)) := by
  rw [← coherent.abandon_grounded]
  exact (abandon_drained { engine with interface := .down } coherent.filed _ .aborted).symm

/-- **The interface goes down by itself**: what it awaited is reported, then it is torn down. -/
theorem onInterfaceDown_eq (coherent : engine.Coherent)
    (up : engine.interface.phase ≠ .disabled) (status : FirmwareStatus) :
    engine.onInterfaceDown status =
      ((engine.grounded.teardown .interfaceDown).1,
        (engine.ledger.records.filter (·.isSuperseded)).map (·.failed .aborted) ++
          (engine.grounded.teardown .interfaceDown).2 ++ [.interfaceDown status]) := by
  let abandoned :=
    engine.grounded.abandon (engine.ledger.drainWhere (·.isSuperseded)).1 .aborted
  have reported : abandoned = _ := coherent.abandon_grounded
  unfold Engine.onInterfaceDown Interface.forceDown
  rw [decide_eq_true up]
  show ((abandoned.1.teardown .interfaceDown).1,
    abandoned.2 ++ (abandoned.1.teardown .interfaceDown).2 ++ [.interfaceDown status]) = _
  rw [reported]

/-- If the interface was down already, nothing happens. -/
theorem onInterfaceDown_of_down (coherent : engine.Coherent)
    (down : engine.interface.phase = .disabled) (status : FirmwareStatus) :
    engine.onInterfaceDown status = engine.quiet := by
  have interface : engine.interface.Agrees _ := coherent.agrees .interface
  have same : Interface.down = engine.interface := (interface.eq_down down).symm
  unfold Engine.onInterfaceDown Interface.forceDown
  rw [decide_eq_false (by simpa using down)]
  simp only [same]

theorem onInterfaceDown (coherent : engine.Coherent) (status : FirmwareStatus) :
    (engine.onInterfaceDown status).1.Coherent := by
  by_cases down : engine.interface.phase = .disabled
  · rw [coherent.onInterfaceDown_of_down down]
    exact coherent
  · rw [coherent.onInterfaceDown_eq down]
    exact coherent.grounded.teardown .interfaceDown

/-! ## Answers -/

/-- The answer to a start or to an initiation is announced as it is settled. -/
theorem onCompleted_beginning (coherent : engine.Coherent)
    (onFile : engine.ledger.get? record.id = some record)
    (about : record.context.isSessionOrPath = true)
    (beginning : ∀ path, record.context ≠ .dataPath path)
    (outcome : Except FirmwareStatus AnswerPayload) :
    engine.onCompleted record.id outcome =
      Engine.announce record ((engine.upon (engine.ledger.rollback record.id)).settleByItself record
        (outcome.mapError .firmware)) := by
  have commission : Commission record.kind record.context record.origin :=
    coherent.commissioned onFile
  rw [onCompleted_of_onFile onFile, conclude_caller (commission.caller_of_ne beginning),
    settle_eq_settleByItself (coherent.notDisable onFile about)]

/-- **The answer to a command leaves a coherent engine.** -/
theorem onCompleted (coherent : engine.Coherent) (id : TransactionId)
    (outcome : Except FirmwareStatus AnswerPayload) :
    (engine.onCompleted id outcome).1.Coherent := by
  cases onFile : engine.ledger.get? id with
  | none =>
    rw [onCompleted_of_absent onFile]
    exact coherent
  | some record =>
    rw [onCompleted_of_onFile onFile]
    exact coherent.conclude onFile (outcome.mapError .firmware)

/-! ## Reports -/

theorem onPathRequested (coherent : engine.Coherent) (path : DataPathId) (peer : PeerId)
    (address : MacAddress) (appInfo : ByteArray) (now : Timestamp) :
    (engine.onPathRequested path peer address appInfo now).1.Coherent := by
  unfold Engine.onPathRequested
  split
  · exact coherent.touchTable .paths
      (DataPathTable.Agrees.onRequest (coherent.agrees .paths) path peer address appInfo now)
  · exact coherent

/-- **A report of the firmware leaves a coherent engine.** -/
theorem handle (coherent : engine.Coherent) (now : Timestamp) (event : FirmwareEvent) :
    (engine.handle now event).1.Coherent := by
  have sessions : engine.sessions.Agrees _ := coherent.agrees .sessions
  cases event with
  | commandCompleted id outcome => exact coherent.onCompleted id outcome
  | sessionMatched session peer address serviceSpecificInfo matchFilter =>
    exact coherent.touchTable .sessions
      (sessions.sight session fun _ => ⟨peer, address, serviceSpecificInfo, matchFilter, now⟩)
  | messageReceived session peer address payload =>
    show (engine.onMessage session peer address payload now).1.Coherent
    rw [onMessage_eq]
    exact coherent.touchTable .sessions (sessions.sight session (·.heard peer address now))
  | sessionTerminated session status =>
    exact coherent.touchTable .sessions (sessions.onTerminated session)
  | dataPathRequested path peer address appInfo =>
    exact coherent.onPathRequested path peer address appInfo now
  | dataPathConfirmed path accepted peerInterface appInfo status =>
    exact coherent.onPathConfirmed path accepted peerInterface appInfo status
  | dataPathTerminated path status => exact coherent.onPathTerminated path status
  | identityChanged address => exact coherent
  | interfaceDown status => exact coherent.onInterfaceDown status

end Coherent

/-! ## Deadlines and shutdown -/

/-- Deadlines that have come give up the commands meant, one at a time. -/
theorem expireTransactions_eq (filed : engine.ledger.WellFiled) (now : Timestamp) :
    engine.expireTransactions now =
      ((engine.ledger.records.filter (·.deadline ≤ now)).length,
        engine.giveUpAll (engine.ledger.records.filter (·.deadline ≤ now)) .timeout) := by
  rw [← engine.abandon_drained filed]
  unfold expireTransactions Ledger.expire
  simp only [Ledger.drainWhere_fst, List.length_map]
  rfl

/-- A shutdown gives up all commands, one at a time. -/
theorem shutdown_eq (filed : engine.ledger.WellFiled) :
    engine.shutdown = engine.giveUpAll engine.ledger.records .aborted := by
  have all := engine.abandon_drained filed (fun _ => true) .aborted
  rw [List.filter_eq_self.mpr fun _ _ => rfl] at all
  exact all

namespace Coherent

theorem expireTransactions (coherent : engine.Coherent) (now : Timestamp) :
    (engine.expireTransactions now).2.1.Coherent := by
  rw [expireTransactions_eq coherent.filed]
  exact coherent.giveUpAll (coherent.filed.onFile_filter _) .timeout

theorem shutdown (coherent : engine.Coherent) : engine.shutdown.1.Coherent := by
  rw [shutdown_eq coherent.filed]
  exact coherent.giveUpAll coherent.filed.onFile_records .aborted

end Coherent

end Engine

end NanHost
