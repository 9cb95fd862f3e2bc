import NanHost.Proofs.Engine.Events

/-!
# Accounts — every command that a caller asked for is reported once

While a command that a caller asked for is on file, a completion is *owed* for it. A reaction *pays*
what it reports. This module shows that every reaction keeps account: under each number, what it
reports together with what is owed after it is what was owed before.

## What is proved

- `conclude_pays`: the end of a command pays for that command, and for nothing else but the commands
  that it tears down, each of which leaves the ledger as it is paid for.
- `handle_pays`, `expireTransactions_pays`, `shutdown_pays`: so every reaction keeps account.
- Commands of the engine's own are owed nothing (`Ledger.owed`), and so are never reported.
-/

namespace NanHost

/-- Whether a report ends commands: it answers one, or the interface has gone down. -/
def FirmwareEvent.endsCommands : FirmwareEvent → Bool
  | commandCompleted .. | interfaceDown _ => true
  | _ => false

/-- The completions among what was told. -/
def completions (notices : List Notification) : List Completion :=
  notices.filterMap (·.completion?)

/-- The kinds of the completions that are reported under a number, in order. -/
def reportedFor (txn : TransactionId) (reports : List Completion) : List CommandKind :=
  (reports.filter (·.id = txn)).map (·.kind)

/-- The kinds of the completions that a caller is owed under a number: one at most. -/
def Ledger.owed (ledger : Ledger) (txn : TransactionId) : List CommandKind :=
  match ledger.get? txn with
  | some record => if record.origin = .caller then [record.kind] else []
  | none => []

/-- A reaction pays what it reports, and owes the rest. -/
def Reaction.Pays (reaction : Reaction) (ledger : Ledger) : Prop :=
  ∀ txn, reportedFor txn (completions reaction.2) ++ reaction.1.ledger.owed txn = ledger.owed txn

/-- Nothing of what was told is a completion. -/
def Silent (notices : List Notification) : Prop :=
  ∀ notice ∈ notices, notice.completion? = none

variable {txn : TransactionId}

theorem completions_append (first second : List Notification) :
    completions (first ++ second) = completions first ++ completions second :=
  List.filterMap_append

theorem completions_cons (notice : Notification) (rest : List Notification) :
    completions (notice :: rest) = notice.completion?.toList ++ completions rest := by
  cases reported : notice.completion? <;> simp [completions, reported]

theorem Silent.completions_eq {notices : List Notification} (silent : Silent notices) :
    completions notices = [] :=
  List.filterMap_eq_nil_iff.mpr silent

theorem Silent.map {α : Type} {tell : α → Notification}
    (silent : ∀ item, (tell item).completion? = none) (items : List α) :
    Silent (items.map tell) := by
  intro notice member
  obtain ⟨item, _, rfl⟩ := List.mem_map.mp member
  exact silent item

theorem reportedFor_append (txn : TransactionId) (first second : List Completion) :
    reportedFor txn (first ++ second) = reportedFor txn first ++ reportedFor txn second := by
  rw [reportedFor, List.filter_append, List.map_append]
  rfl

namespace Ledger

variable {ledger : Ledger} {record : TransactionRecord} {id : TransactionId}

theorem owed_of_none (absent : ledger.get? txn = none) : ledger.owed txn = [] := by
  rw [owed, absent]

theorem owed_of_caller (onFile : ledger.get? txn = some record) (origin : record.origin = .caller) :
    ledger.owed txn = [record.kind] := by
  simp only [owed, onFile, origin, if_true]

theorem owed_of_engine (onFile : ledger.get? txn = some record) (origin : record.origin = .engine) :
    ledger.owed txn = [] := by
  simp only [owed, onFile, origin, reduceCtorEq, if_false]

theorem owed_rollback (ledger : Ledger) (id txn : TransactionId) :
    (ledger.rollback id).owed txn = if txn = id then [] else ledger.owed txn := by
  by_cases same : txn = id <;> simp [owed, same]

/-- A record that is filed is owed a completion if a caller asked for its command. -/
theorem owed_file (fresh : ledger.get? record.id = none) (txn : TransactionId) :
    (ledger.file record).owed txn = ledger.owed txn ++
      if txn = record.id ∧ record.origin = .caller then [record.kind] else [] := by
  by_cases same : txn = record.id
  · subst same
    rw [owed_of_none fresh]
    cases origin : record.origin <;> simp [owed, origin]
  · simp [owed, same]

theorem owed_congr {other : Ledger} (same : other.pending = ledger.pending) :
    other.owed = ledger.owed := by
  unfold owed get?
  rw [same]

end Ledger

namespace Reaction.Pays

variable {ledger : Ledger}

/-- Two reactions one after the other keep account if each does. -/
theorem append {first second : Reaction} (paid : first.Pays ledger)
    (paid' : second.Pays first.1.ledger) : Reaction.Pays (second.1, first.2 ++ second.2) ledger := by
  intro txn
  rw [completions_append, reportedFor_append, List.append_assoc, paid' txn]
  exact paid txn

/-- A reaction that reports nothing and lets no command leave keeps account. -/
theorem of_silent {reaction : Reaction} (silent : Silent reaction.2)
    (same : reaction.1.ledger = ledger) : reaction.Pays ledger := by
  intro txn
  rw [silent.completions_eq, same]
  rfl

end Reaction.Pays

namespace Engine

variable {engine : Engine} {record : TransactionRecord} {id : TransactionId}

/-! ## What is told beside completions -/

theorem onPathConfirmed_silent (engine : Engine) (path : DataPathId) (accepted : Bool)
    (peerInterface : MacAddress) (appInfo : ByteArray) (status : FirmwareStatus) :
    Silent (engine.onPathConfirmed path accepted peerInterface appInfo status).2 := by
  unfold onPathConfirmed
  dsimp only
  split <;> simp [Silent, Notification.completion?]

theorem onPathTerminated_silent (engine : Engine) (path : DataPathId) (status : FirmwareStatus) :
    Silent (engine.onPathTerminated path status).2 := by
  unfold onPathTerminated
  dsimp only
  split <;> simp [Silent, Notification.completion?]

theorem replay_silent (engine : Engine) (path : DataPathId) (event : HeldEvent) :
    Silent (engine.replay path event).2 := by
  cases event with
  | confirmed accepted peerInterface appInfo status =>
    exact engine.onPathConfirmed_silent path accepted peerInterface appInfo status
  | terminated status => exact engine.onPathTerminated_silent path status

theorem replayHeld_silent (engine : Engine) (path : DataPathId) :
    Silent (engine.replayHeld path).2 := by
  refine sweep_keeps (fun _ told => Silent told) ?_ _ _ [] (by simp [Silent])
  intro engine told event silent notice member
  rcases List.mem_append.mp member with before | now
  · exact silent notice before
  · exact engine.replay_silent path event notice now

/-- The only thing that a settlement may tell beside is the end of a path. -/
theorem settleByItself_silent (engine : Engine) (record : TransactionRecord) (outcome : Outcome) :
    Silent (engine.settleByItself record outcome).notices := by
  have respond (path : DataPathId) :
      Silent (engine.settleRespond record.id path outcome).notices := by
    unfold settleRespond
    dsimp only
    split <;> simp [Silent, Notification.completion?]
  unfold settleByItself
  split
  next => unfold settleCapabilities; split <;> simp [Silent]
  next => unfold settleConfigure; split <;> simp [Silent]
  all_goals first | exact respond _ | simp [Silent, settleStart, settleUpdate, settleMessage,
    settleStop, settleCreate, settleDelete, settleInitiate, settleEnd]

/-! ## Conclusions -/

/-- Announcing a command adds the one completion that is owed for it. -/
theorem announce_pays {ledger : Ledger} {settlement : Settlement}
    (onFile : ledger.get? record.id = some record) (origin : record.origin = .caller)
    (paid : Reaction.Pays (settlement.engine, settlement.notices) (ledger.rollback record.id)) :
    (announce record settlement).Pays ledger := by
  intro txn
  have tail : ∃ replayed, Silent replayed ∧ (announce record settlement).2 = settlement.notices ++
      .completed ⟨record.id, record.kind, settlement.result⟩ :: replayed := by
    unfold announce
    refine ⟨_, ?_, rfl⟩
    split
    · exact replayHeld_silent _ _
    · simp [Silent, quiet]
  obtain ⟨replayed, silent, told⟩ := tail
  have own : reportedFor txn (completions
      (.completed ⟨record.id, record.kind, settlement.result⟩ :: replayed)) =
        if txn = record.id then [record.kind] else [] := by
    have reported : completions (.completed ⟨record.id, record.kind, settlement.result⟩ :: replayed) =
        [⟨record.id, record.kind, settlement.result⟩] :=
      congrArg (List.cons _) silent.completions_eq
    rw [reported]
    by_cases same : txn = record.id
    · simp [reportedFor, same]
    · simp [reportedFor, same, Ne.symm same]
  have before := paid txn
  rw [Ledger.owed_rollback] at before
  rw [ledger_announce, told, completions_append, reportedFor_append, own]
  by_cases same : txn = record.id
  · rw [if_pos same] at before ⊢
    obtain ⟨nothing, none⟩ := List.append_eq_nil_iff.mp before
    rw [nothing, none, same, Ledger.owed_of_caller onFile origin]
    rfl
  · rw [if_neg same] at before ⊢
    rw [List.append_nil]
    exact before

/-- A command of the engine's own is owed nothing, and reported to nobody. -/
theorem strikeOff_pays {ledger : Ledger} (onFile : ledger.get? record.id = some record)
    (origin : record.origin = .engine) (rest : engine.ledger = ledger.rollback record.id) :
    (engine.strikeOff record).Pays ledger := by
  intro txn
  have quiet : (engine.strikeOff record).2 = [] := by
    unfold strikeOff
    split <;> rfl
  rw [quiet, ledger_strikeOff, rest, Ledger.owed_rollback]
  by_cases same : txn = record.id
  · rw [if_pos same, same, Ledger.owed_of_engine onFile origin]
    rfl
  · rw [if_neg same]
    rfl

/-- The end of a command pays for it, provided that what a disabling tears down is paid for. -/
theorem conclude_pays_of_settleDisable (onFile : engine.ledger.get? record.id = some record)
    (outcome : Outcome)
    (disabled : record.kind = .disable →
      Reaction.Pays
        (((engine.upon (engine.ledger.rollback record.id)).settleDisable outcome).engine,
          ((engine.upon (engine.ledger.rollback record.id)).settleDisable outcome).notices)
        (engine.ledger.rollback record.id)) :
    ((engine.upon (engine.ledger.rollback record.id)).conclude record outcome).Pays
      engine.ledger := by
  cases origin : record.origin with
  | engine =>
    rw [conclude_engine origin]
    exact strikeOff_pays onFile origin rfl
  | caller =>
    rw [conclude_caller origin]
    refine announce_pays onFile origin ?_
    by_cases disable : record.kind = .disable
    · rw [settle_disable disable]
      exact disabled disable
    · rw [settle_eq_settleByItself disable]
      exact .of_silent (settleByItself_silent _ _ _) (ledger_settleByItself _ _ _)

/-! ## Batches -/

theorem giveUp_pays (onFile : engine.ledger.get? record.id = some record) (failure : Failure) :
    (engine.giveUp record failure).Pays engine.ledger := by
  apply conclude_pays_of_settleDisable onFile _
  intro disable
  rw [settleDisable_failed]
  exact .of_silent (by simp [Silent]) rfl

/-- **A batch that is given up is paid for**, each command as it leaves. -/
theorem giveUpAll_pays {records : List TransactionRecord} (onFile : engine.ledger.OnFile records)
    (failure : Failure) : (engine.giveUpAll records failure).Pays engine.ledger := by
  refine kept_giveUpAll (fun next told => Reaction.Pays (next, told) engine.ledger) []
    onFile (.of_silent (by simp [Silent]) rfl) ?_
  exact fun _ onFile paid => paid.append (giveUp_pays onFile failure)

/-- **A teardown is paid for.** What it ends beside commands is no completion. -/
theorem teardown_pays (coherent : engine.Coherent) (reason : TerminationReason) :
    (engine.teardown reason).Pays engine.ledger := by
  rw [teardown_eq engine coherent.filed coherent.notDisable]
  have abandoned : engine.abandonSessionsAndPaths.Pays engine.ledger :=
    giveUpAll_pays (coherent.filed.onFile_filter _) .aborted
  have sessions : Silent (engine.abandonSessionsAndPaths.1.sessions.terminateAll.1.map
      fun entry => .sessionTerminated entry.1 entry.2 reason) := .map (fun _ => rfl) _
  have paths : Silent (engine.abandonSessionsAndPaths.1.paths.terminateAll.1.map
      fun path => .dataPathTerminated path reason) := .map (fun _ => rfl) _
  intro txn
  dsimp only
  rw [completions_append, completions_append, sessions.completions_eq, paths.completions_eq,
    List.append_nil, List.append_nil]
  exact abandoned txn

/-- **The end of a command pays for it**, and for what it tears down. -/
theorem conclude_pays (coherent : engine.Coherent)
    (onFile : engine.ledger.get? record.id = some record) (outcome : Outcome) :
    ((engine.upon (engine.ledger.rollback record.id)).conclude record outcome).Pays
      engine.ledger := by
  apply conclude_pays_of_settleDisable onFile outcome
  intro disable
  have left := coherent.completeDisable onFile disable outcome.isOk
  unfold Engine.settleDisable
  split
  next interface completed =>
    have next : (engine.interface.completeDisable outcome.isOk).2 = interface :=
      congrArg Prod.snd completed
    exact teardown_pays (next ▸ left) .interfaceDisabled
  next interface completed => exact .of_silent (by simp [Silent]) rfl

/-! ## Reports, deadlines and shutdown -/

theorem onCompleted_pays (coherent : engine.Coherent) (id : TransactionId)
    (outcome : Except FirmwareStatus AnswerPayload) :
    (engine.onCompleted id outcome).Pays engine.ledger := by
  cases onFile : engine.ledger.get? id with
  | none =>
    rw [onCompleted_of_absent onFile]
    exact .of_silent (by simp [Silent, quiet]) rfl
  | some record =>
    obtain rfl := coherent.filed.own onFile
    rw [onCompleted_of_onFile onFile]
    exact conclude_pays coherent onFile (outcome.mapError .firmware)

/-- What the interface going down supersedes is paid for. -/
theorem onInterfaceDown_pays (coherent : engine.Coherent) (status : FirmwareStatus) :
    (engine.onInterfaceDown status).Pays engine.ledger := by
  by_cases down : engine.interface.phase = .disabled
  · rw [coherent.onInterfaceDown_of_down down]
    exact .of_silent (by simp [Silent, quiet]) rfl
  · rw [coherent.onInterfaceDown_eq down]
    have superseded : Reaction.Pays (engine.grounded,
        (engine.ledger.records.filter (·.isSuperseded)).map (·.failed .aborted)) engine.ledger := by
      have onFile : ({ engine with interface := .down } : Engine).ledger.OnFile
          (engine.ledger.records.filter (·.isSuperseded)) := coherent.filed.onFile_filter _
      rw [← coherent.giveUpAll_superseded]
      exact giveUpAll_pays onFile .aborted
    have torn := superseded.append (teardown_pays coherent.grounded .interfaceDown)
    have last : Silent [Notification.interfaceDown status] := by
      simp [Silent, Notification.completion?]
    intro txn
    rw [completions_append, last.completions_eq, List.append_nil]
    exact torn txn

/-- **A report that ends no command** tells no completion, and leaves the ledger alone. -/
theorem handle_silent (engine : Engine) (now : Timestamp) {event : FirmwareEvent}
    (ends : event.endsCommands = false) :
    Silent (engine.handle now event).2 ∧ (engine.handle now event).1.ledger = engine.ledger := by
  cases event with
  | commandCompleted | interfaceDown => cases ends
  | sessionMatched session peer address serviceSpecificInfo matchFilter =>
    refine ⟨?_, rfl⟩
    simp only [handle, onMatched]
    split <;> simp [Silent, Notification.completion?]
  | messageReceived session peer address payload =>
    refine ⟨?_, rfl⟩
    simp only [handle, onMessage]
    split <;> simp [Silent, Notification.completion?]
  | sessionTerminated session status =>
    refine ⟨?_, rfl⟩
    simp only [handle, onSessionTerminated]
    split <;> simp [Silent, Notification.completion?]
  | dataPathRequested path peer address appInfo =>
    simp only [handle, onPathRequested]
    split
    · refine ⟨?_, rfl⟩
      dsimp only
      split <;> simp [Silent, Notification.completion?]
    · exact ⟨by simp [Silent, quiet], rfl⟩
  | dataPathConfirmed path accepted peerInterface appInfo status =>
    exact ⟨engine.onPathConfirmed_silent path accepted peerInterface appInfo status, rfl⟩
  | dataPathTerminated path status => exact ⟨engine.onPathTerminated_silent path status, rfl⟩
  | identityChanged address =>
    refine ⟨?_, rfl⟩
    simp only [handle]
    split <;> simp [Silent, Notification.completion?]

/-- **A report of the firmware keeps account.** -/
theorem handle_pays (coherent : engine.Coherent) (now : Timestamp) (event : FirmwareEvent) :
    (engine.handle now event).Pays engine.ledger := by
  by_cases ends : event.endsCommands = true
  · cases event with
    | commandCompleted id outcome => exact onCompleted_pays coherent id outcome
    | interfaceDown status => exact onInterfaceDown_pays coherent status
    | _ => cases ends
  · rw [Bool.not_eq_true] at ends
    obtain ⟨silent, same⟩ := engine.handle_silent now ends
    exact .of_silent silent same

theorem expireTransactions_pays (coherent : engine.Coherent) (now : Timestamp) :
    (engine.expireTransactions now).2.Pays engine.ledger := by
  rw [expireTransactions_eq coherent.filed]
  exact giveUpAll_pays (coherent.filed.onFile_filter _) .timeout

/-- **A shutdown pays for everything.** -/
theorem shutdown_pays (coherent : engine.Coherent) : engine.shutdown.Pays engine.ledger := by
  rw [shutdown_eq coherent.filed]
  exact giveUpAll_pays coherent.filed.onFile_records .aborted

/-- After a shutdown nothing is on file. -/
theorem get?_shutdown (coherent : engine.Coherent) (id : TransactionId) :
    engine.shutdown.1.ledger.get? id = none := by
  rw [shutdown_eq coherent.filed, ledger_giveUpAll, Ledger.get?_foldl_rollback]
  split
  next => rfl
  next absent =>
    refine Option.eq_none_iff_forall_ne_some.mpr fun record onFile => absent ?_
    exact List.mem_map.mpr
      ⟨record, engine.ledger.mem_records.mpr ⟨id, onFile⟩, coherent.filed.own onFile⟩

end Engine

end NanHost
