import NanHost.Proofs.Engine.Teardown

/-!
# Patience — a reaction of the engine leaves the grace periods of peers alone

Whether a peer has waited too long is looked at by the host, which alone has the way to the firmware.
For what is told of it, and for which paths it finds waiting, it matters what reactions of the engine
do not do.

## What is proved

- `handle_patient`, `expireTransactions_patient` and `shutdown_patient`: no reaction tells the caller
  that a peer has waited too long (`Patient`).
- `Coherent.get?_giveUpAll`: commands that are given up leave a path as it is that none of them is
  about.
-/

namespace NanHost

/-- Nobody is told that a peer has waited too long. -/
def Patient (notices : List Notification) : Prop :=
  ∀ path, .dataPathTerminated path .responseTimeout ∉ notices

namespace Patient

theorem nil : Patient [] := fun _ => List.not_mem_nil

theorem append {first second : List Notification} (patient : Patient first)
    (patient' : Patient second) : Patient (first ++ second) := by
  intro path member
  rcases List.mem_append.mp member with before | after
  · exact patient path before
  · exact patient' path after

theorem map {α : Type} {tell : α → Notification} (items : List α)
    (tells : ∀ item path, tell item ≠ .dataPathTerminated path .responseTimeout) :
    Patient (items.map tell) := by
  intro path member
  obtain ⟨item, _, same⟩ := List.mem_map.mp member
  exact tells item path same

end Patient

namespace Engine

variable {engine : Engine} {record : TransactionRecord} {failure : Failure}

/-! ## What is told -/

theorem sweep_patient {α : Type} {react : Engine → α → Reaction}
    (patient : ∀ engine item, Patient (react engine item).2) (items : List α) (engine : Engine) :
    Patient (engine.sweep items react).2 := by
  exact sweep_keeps (fun _ told => Patient told) (fun item before => before.append (patient _ item))
    items engine [] .nil

theorem replay_patient (engine : Engine) (path : DataPathId) (event : HeldEvent) :
    Patient (engine.replay path event).2 := by
  cases event with
  | confirmed =>
    unfold replay onPathConfirmed
    dsimp only
    split <;> simp [Patient]
  | terminated =>
    unfold replay onPathTerminated
    dsimp only
    split <;> simp [Patient]

theorem replayHeld_patient (engine : Engine) (path : DataPathId) :
    Patient (engine.replayHeld path).2 :=
  sweep_patient (fun engine event => engine.replay_patient path event) _ _

/-- The only thing that a settlement may tell beside is that a path could not be set up. -/
theorem settleByItself_patient (engine : Engine) (record : TransactionRecord) (outcome : Outcome) :
    Patient (engine.settleByItself record outcome).notices := by
  have respond (path : DataPathId) :
      Patient (engine.settleRespond record.id path outcome).notices := by
    unfold settleRespond
    dsimp only
    split <;> simp [Patient]
  unfold settleByItself
  split
  next => unfold settleCapabilities; split <;> exact .nil
  next => unfold settleConfigure; split <;> exact .nil
  all_goals first | exact respond _ | exact .nil

theorem announce_patient {settlement : Settlement} (patient : Patient settlement.notices)
    (record : TransactionRecord) : Patient (announce record settlement).2 := by
  have replayed : ∃ replayed, Patient replayed ∧ (announce record settlement).2 =
      settlement.notices ++ .completed ⟨record.id, record.kind, settlement.result⟩ :: replayed := by
    unfold announce
    refine ⟨_, ?_, rfl⟩
    split
    · exact replayHeld_patient _ _
    · exact .nil
  obtain ⟨replayed, patient', told⟩ := replayed
  rw [told]
  refine patient.append fun path member => ?_
  rcases List.mem_cons.mp member with same | later
  · cases same
  · exact patient' path later

theorem strikeOff_patient (engine : Engine) (record : TransactionRecord) :
    Patient (engine.strikeOff record).2 := by
  unfold strikeOff
  split <;> exact .nil

theorem concludeByItself_patient (engine : Engine) (record : TransactionRecord)
    (outcome : Outcome) : Patient (engine.concludeByItself record outcome).2 := by
  unfold concludeByItself
  split
  · exact engine.strikeOff_patient record
  · exact announce_patient (engine.settleByItself_patient record outcome) record

theorem teardown_patient (engine : Engine) {reason : TerminationReason}
    (other : reason ≠ .responseTimeout) : Patient (engine.teardown reason).2 := by
  unfold teardown
  refine ((sweep_patient (fun engine record => engine.concludeByItself_patient record _) _ _).append
    ?_).append ?_
  · exact .map _ fun _ _ => by simp
  · exact .map _ fun _ _ same => other (Notification.dataPathTerminated.inj same).2

theorem conclude_patient (engine : Engine) (record : TransactionRecord) (outcome : Outcome) :
    Patient (engine.conclude record outcome).2 := by
  unfold conclude
  split
  · exact engine.strikeOff_patient record
  · refine announce_patient ?_ record
    unfold settle
    split
    · unfold settleDisable
      split
      · exact teardown_patient _ (by simp)
      · exact .nil
    · exact engine.settleByItself_patient record outcome

theorem abandon_patient (engine : Engine) (records : List TransactionRecord) (failure : Failure) :
    Patient (engine.abandon records failure).2 :=
  sweep_patient (fun engine record => engine.conclude_patient record _) _ _

theorem expireTransactions_patient (engine : Engine) (now : Timestamp) :
    Patient (engine.expireTransactions now).2.2 := abandon_patient _ _ _

theorem shutdown_patient (engine : Engine) : Patient engine.shutdown.2 := abandon_patient _ _ _

/-- **No report of the firmware makes the engine tell that a peer has waited too long.** -/
theorem handle_patient (engine : Engine) (now : Timestamp) (event : FirmwareEvent) :
    Patient (engine.handle now event).2 := by
  cases event with
  | commandCompleted id outcome =>
    show Patient (engine.onCompleted id outcome).2
    cases onFile : engine.ledger.get? id with
    | none =>
      rw [onCompleted_of_absent onFile]
      exact .nil
    | some record =>
      rw [onCompleted_of_onFile onFile]
      exact conclude_patient _ _ _
  | sessionMatched =>
    unfold handle onMatched
    dsimp only
    split <;> simp [Patient]
  | messageReceived =>
    unfold handle onMessage
    dsimp only
    split <;> simp [Patient]
  | sessionTerminated =>
    unfold handle onSessionTerminated
    dsimp only
    split <;> simp [Patient]
  | dataPathRequested =>
    unfold handle onPathRequested
    dsimp only
    split
    · split <;> simp [Patient]
    · exact .nil
  | dataPathConfirmed path accepted peerInterface appInfo status =>
    exact engine.replay_patient path (.confirmed accepted peerInterface appInfo status)
  | dataPathTerminated path status => exact engine.replay_patient path (.terminated status)
  | identityChanged address =>
    unfold handle
    dsimp only
    split <;> simp [Patient]
  | interfaceDown status =>
    show Patient (engine.onInterfaceDown status).2
    unfold onInterfaceDown
    split
    · exact .nil
    · refine ((abandon_patient _ _ _).append (teardown_patient _ (by simp))).append ?_
      simp [Patient]

/-! ## Paths that no command is about -/

variable {path : DataPathId}

/-- A failed command replays nothing. -/
theorem announce_failed {settlement : Settlement} (record : TransactionRecord)
    (failed : settlement.result = .error failure) :
    (announce record settlement).1 = settlement.engine := by
  rw [announce_of_ne record fun path => by simp [failed]]

/-- A change of another path leaves a path as it is. -/
theorem get?_update_purge (table : DataPathTable) {other : DataPathId} (apart : path ≠ other)
    (change : DataPath → DataPath) :
    ((table.update other change).purge other).get? path = table.get? path := by
  rw [DataPathTable.get?_purge, if_neg apart]
  show (table.paths.modify other change)[path]? = _
  rw [Tables.getElem?_modify, if_neg apart]
  rfl

/-- So does an answer to another peer. -/
theorem get?_resolveRespond (table : DataPathTable) {other : DataPathId} (apart : path ≠ other)
    (txn : TransactionId) (outcome : Except Failure Unit) :
    (table.resolveRespond other txn outcome).2.get? path = table.get? path := by
  have elsewhere (entry : DataPath) :
      ((table.put other entry).purge other).get? path = table.get? path := by
    rw [DataPathTable.get?_purge, if_neg apart, DataPathTable.get?_put, if_neg apart]
  unfold DataPathTable.resolveRespond
  split
  · rfl
  · dsimp only
    split <;> exact elsewhere _

namespace Coherent

/-- A command that leaves the interface up, and that failed, leaves a path as it is that it is not
about. -/
theorem get?_settleByItself (coherent : engine.Coherent)
    (onFile : engine.ledger.get? record.id = some record) (notDisable : record.kind ≠ .disable)
    (apart : record.context ≠ .dataPath path) (failure : Failure) :
    ((engine.upon (engine.ledger.rollback record.id)).settleByItself record
      (.error failure)).engine.paths.get? path = engine.paths.get? path := by
  have commission : Commission record.kind record.context record.origin :=
    coherent.commissioned onFile
  have differs {other : DataPathId} (about : record.context = .dataPath other) : path ≠ other :=
    fun same => apart (same ▸ about)
  generalize kind : record.kind = kind', context : record.context = context',
    origin : record.origin = origin' at commission
  cases commission with
  | capabilities =>
    rw [settleByItself_capabilities kind]
    rfl
  | configure =>
    rw [settleByItself_configure kind, engine_settleConfigure]
    rfl
  | disable => exact absurd kind notDisable
  | start role =>
    rw [settleByItself_start kind context]
    rfl
  | update role session =>
    rw [settleByItself_update kind context]
    rfl
  | message session =>
    rw [settleByItself_message kind context]
    rfl
  | stop role session =>
    rw [settleByItself_stop kind context]
    rfl
  | create name =>
    rw [settleByItself_create kind context]
    rfl
  | delete name =>
    rw [settleByItself_delete kind context]
    rfl
  | initiate =>
    rw [settleByItself_initiate kind context]
    show (engine.paths.resolveInitiate record.id (.error failure)).2.paths[path]? = _
    rw [(DataPathTable.resolveInitiate_failed record.id failure).1]
    rfl
  | respond other =>
    rw [settleByItself_respond kind context]
    exact get?_resolveRespond _ (differs context) record.id _
  | close other =>
    rw [settleByItself_close kind context]
    exact get?_update_purge _ (differs context) _

/-- A command that is given up leaves a path as it is that it is not about. -/
theorem get?_giveUp (coherent : engine.Coherent)
    (onFile : engine.ledger.get? record.id = some record)
    (apart : record.context ≠ .dataPath path) (failure : Failure) :
    (engine.giveUp record failure).1.paths.get? path = engine.paths.get? path := by
  unfold Engine.giveUp
  cases origin : record.origin with
  | engine =>
    rw [conclude_engine origin]
    unfold Engine.strikeOff
    split
    next other about =>
      have differs : path ≠ other := fun same => apart (same ▸ about)
      exact get?_update_purge _ differs _
    next => rfl
  | caller =>
    rw [conclude_caller origin]
    by_cases disable : record.kind = .disable
    · rw [settle_disable disable, settleDisable_failed, announce_failed record rfl]
      rfl
    · obtain ⟨reason, failed⟩ := result_settleByItself_failed
        (engine.upon (engine.ledger.rollback record.id)) record failure
      rw [settle_eq_settleByItself disable, announce_failed record failed]
      exact coherent.get?_settleByItself onFile disable apart failure

/-- **Commands that are given up leave a path as it is that none of them is about.** -/
theorem get?_giveUpAll {records : List TransactionRecord} (coherent : engine.Coherent)
    (onFile : engine.ledger.OnFile records)
    (apart : ∀ record ∈ records, record.context ≠ .dataPath path) (failure : Failure) :
    (engine.giveUpAll records failure).1.paths.get? path = engine.paths.get? path := by
  refine (kept_giveUpAll
    (fun next _ => next.Coherent ∧ next.paths.get? path = engine.paths.get? path) [] onFile
    ⟨coherent, rfl⟩ ?_).2
  rintro _ _ record member onFile ⟨coherent, same⟩
  refine ⟨coherent.giveUp onFile failure, Eq.trans ?_ same⟩
  exact coherent.get?_giveUp onFile (apart record member) failure

end Coherent

end Engine

end NanHost
