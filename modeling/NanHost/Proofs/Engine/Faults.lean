import NanHost.Proofs.Engine.Account

/-!
# Faults — an answer is found at fault only on its own account

A completion may say that the firmware's answer could not be used: it did not bring what the command
was to bring, or it brought a number that is zero or taken. Such a completion is told of the command
that was answered, and of no other. What ends without an answer, by a deadline, a shutdown or the
fall of the interface, is never reported so.

## What is proved

- `Coherent.faultless_onCompleted`: if the answer brings what the command on file is to bring
  (`Engine.Usable`), no completion that is told says that an answer could not be used.
- `Coherent.faultless_expireTransactions` and `Coherent.faultless_shutdown`: deadlines and shutdowns
  tell of none.
-/

namespace NanHost

/-- Whether a failure is that an answer could not be used. -/
def Failure.isFault : Failure → Bool
  | invalidAnswer _ => true
  | _ => false

/-- Whether a result is that an answer could not be used. -/
def isFaulty {α : Type} : Except Failure α → Bool
  | .error failure => failure.isFault
  | .ok _ => false

theorem isFaulty_map {α β : Type} (result : Except Failure α) (f : α → β) :
    isFaulty (result.map f) = isFaulty result := by
  cases result <;> rfl

/-- No completion among the notices says that an answer could not be used. -/
def Faultless (notices : List Notification) : Prop :=
  ∀ completion ∈ completions notices, isFaulty completion.result = false

namespace Faultless

variable {notices notices' : List Notification}

theorem of_silent (silent : Silent notices) : Faultless notices := by
  rw [Faultless, silent.completions_eq]
  exact fun _ => nofun

theorem nil : Faultless [] := fun _ member => absurd member List.not_mem_nil

theorem append (first : Faultless notices) (second : Faultless notices') :
    Faultless (notices ++ notices') := by
  intro completion member
  rw [completions_append, List.mem_append] at member
  rcases member with before | now
  · exact first completion before
  · exact second completion now

end Faultless

namespace Engine

variable {engine : Engine} {record : TransactionRecord}

/-- **What an answer has to bring** for the command on file: the report that was asked for, or a
number that is not zero and not taken. -/
structure Answers (engine : Engine) (record : TransactionRecord) (payload : AnswerPayload) :
    Prop where
  report : record.kind = .capabilities → ∃ report, payload = .capabilities report
  session : ∀ role, record.context = .newSession role →
    ∃ id : SessionId, payload = .sessionId id ∧ id.isAssigned = true ∧ engine.sessions.get? id = none
  path : record.context = .newDataPath →
    ∃ id : DataPathId, payload = .pathId id ∧ id.isAssigned = true ∧ engine.paths.get? id = none

/-- Whether an outcome can be used: the command failed, or its answer brings what it has to. -/
def Usable (engine : Engine) (record : TransactionRecord) : Outcome → Prop
  | .error failure => failure.isFault = false
  | .ok payload => engine.Answers record payload

/-- A usable outcome of a start does not end it with a fault. -/
theorem faultless_settleStart {role : SessionRole} {outcome : Outcome}
    (usable : engine.Usable record outcome) (about : record.context = .newSession role) :
    isFaulty (engine.settleStart record.id outcome).result = false := by
  unfold settleStart
  rw [isFaulty_map]
  unfold SessionRegistry.resolveNew
  split
  · rfl
  · cases outcome with
    | error failure => exact usable
    | ok payload =>
      obtain ⟨id, rfl, assigned, free⟩ := usable.session role about
      have absent : engine.sessions.sessions.contains id = false :=
        Std.ExtTreeMap.contains_eq_isSome_getElem?.trans (congrArg Option.isSome free)
      simp [Outcome.sessionId, assigned, absent, isFaulty]

/-- A usable outcome of an initiation does not end it with a fault. -/
theorem faultless_settleInitiate {outcome : Outcome} (usable : engine.Usable record outcome)
    (about : record.context = .newDataPath) :
    isFaulty (engine.settleInitiate record.id outcome).result = false := by
  unfold settleInitiate
  rw [isFaulty_map]
  unfold DataPathTable.resolveInitiate DataPathTable.enterInitiated
  split
  · rfl
  · cases outcome with
    | error failure => exact usable
    | ok payload =>
      obtain ⟨id, rfl, assigned, free⟩ := usable.path about
      have absent : engine.paths.paths.contains id = false :=
        (DataPathTable.contains_paths engine.paths id).trans (congrArg Option.isSome free)
      simp [Outcome.pathId, assigned, absent, isFaulty]

/-- No outcome of an update is a fault, unless it was one before. -/
theorem faultless_settleUpdate {outcome : Outcome} (usable : engine.Usable record outcome)
    (session : SessionId) :
    isFaulty (engine.settleUpdate record.id session outcome).result = false := by
  unfold settleUpdate
  rw [isFaulty_map]
  unfold SessionRegistry.resolveUpdate
  split
  · rfl
  · dsimp only
    split
    · cases outcome with
      | error failure => exact usable
      | ok payload => rfl
    · rfl

/-- Nor is any outcome of an answer to a peer. -/
theorem faultless_settleRespond {outcome : Outcome} (usable : engine.Usable record outcome)
    (path : DataPathId) :
    isFaulty (engine.settleRespond record.id path outcome).result = false := by
  unfold settleRespond
  rw [isFaulty_map]
  unfold DataPathTable.resolveRespond
  split
  · rfl
  · cases outcome with
    | error failure => cases failure <;> first | rfl | exact usable
    | ok payload =>
      dsimp only [Outcome.plain]
      split <;> rfl

/-- What is achieved by an outcome that can be used is no fault. -/
theorem faultless_achieving {outcome : Outcome} (usable : engine.Usable record outcome)
    (detail : CompletionDetail) : isFaulty (outcome.achieving detail) = false := by
  cases outcome with
  | ok payload => rfl
  | error failure => exact usable

/-- **A command whose outcome can be used does not end with a fault.** -/
theorem faultless_settleByItself (commission : record.Commissioned)
    (notDisable : record.kind ≠ .disable) {outcome : Outcome}
    (usable : engine.Usable record outcome) :
    isFaulty (engine.settleByItself record outcome).result = false := by
  unfold TransactionRecord.Commissioned at commission
  generalize kind : record.kind = kind', about : record.context = context,
    origin : record.origin = origin' at commission
  cases commission with
  | capabilities =>
    rw [settleByItself_capabilities kind]
    cases outcome with
    | error failure => exact usable
    | ok payload =>
      obtain ⟨report, rfl⟩ := usable.report kind
      rfl
  | configure =>
    rw [settleByItself_configure kind]
    unfold settleConfigure
    split
    · exact faultless_achieving usable _
    · rfl
  | disable => exact absurd kind notDisable
  | start role =>
    rw [settleByItself_start kind about]
    exact faultless_settleStart usable about
  | update role session =>
    rw [settleByItself_update kind about]
    exact faultless_settleUpdate usable session
  | message session =>
    rw [settleByItself_message kind about]
    exact faultless_achieving usable _
  | stop role session =>
    rw [settleByItself_stop kind about]
    exact faultless_achieving usable _
  | create name =>
    rw [settleByItself_create kind about]
    exact faultless_achieving usable _
  | delete name =>
    rw [settleByItself_delete kind about]
    exact faultless_achieving usable _
  | initiate =>
    rw [settleByItself_initiate kind about]
    exact faultless_settleInitiate usable about
  | respond path origin =>
    rw [settleByItself_respond kind about]
    exact faultless_settleRespond usable path
  | close path =>
    rw [settleByItself_close kind about]
    exact faultless_achieving usable _

/-! ## Commands that end -/

theorem faultless_announce {settlement : Settlement} (before : Faultless settlement.notices)
    (result : isFaulty settlement.result = false) : Faultless (announce record settlement).2 := by
  unfold announce
  refine before.append fun completion member => ?_
  rw [completions_cons, List.mem_append] at member
  rcases member with own | replayed
  · cases List.mem_singleton.mp own
    exact result
  · split at replayed
    · rw [(replayHeld_silent _ _).completions_eq] at replayed
      cases replayed
    · cases replayed

/-- The end of a command tells of no fault if its outcome can be used, provided that this is so if it
disables the interface. -/
theorem faultless_conclude_of_settleDisable (commission : record.Commissioned) {outcome : Outcome}
    (usable : engine.Usable record outcome)
    (disabled : record.kind = .disable → Faultless (engine.settleDisable outcome).notices) :
    Faultless (engine.conclude record outcome).2 := by
  cases origin : record.origin with
  | engine =>
    rw [conclude_engine origin]
    unfold strikeOff
    split <;> exact .of_silent fun _ => nofun
  | caller =>
    rw [conclude_caller origin]
    by_cases disable : record.kind = .disable
    · rw [settle_disable disable]
      refine faultless_announce (disabled disable) ?_
      unfold settleDisable
      split
      · rfl
      · cases outcome with
        | ok payload => rfl
        | error failure => exact usable
    · rw [settle_eq_settleByItself disable]
      exact faultless_announce (.of_silent (settleByItself_silent _ _ _))
        (faultless_settleByItself commission disable usable)

/-- Commands that are given up are told of no fault. -/
theorem faultless_giveUpAll {records : List TransactionRecord} (coherent : engine.Coherent)
    (onFile : engine.ledger.OnFile records) {failure : Failure} (plain : failure.isFault = false) :
    Faultless (engine.giveUpAll records failure).2 := by
  refine (kept_giveUpAll (fun next told => next.Coherent ∧ Faultless told) [] onFile
    ⟨coherent, .of_silent fun _ => nofun⟩ ?_).2
  rintro next told record _ onFile ⟨coherent, before⟩
  refine ⟨coherent.giveUp onFile failure, before.append ?_⟩
  refine faultless_conclude_of_settleDisable (coherent.commissioned onFile) plain fun _ => ?_
  rw [settleDisable_failed]
  exact .of_silent fun _ => nofun

namespace Coherent

theorem faultless_teardown (coherent : engine.Coherent) (reason : TerminationReason) :
    Faultless (engine.teardown reason).2 := by
  rw [teardown_eq engine coherent.filed coherent.notDisable]
  have abandoned : Faultless engine.abandonSessionsAndPaths.2 :=
    faultless_giveUpAll coherent (coherent.filed.onFile_filter _) rfl
  exact (abandoned.append (.of_silent (.map (fun _ => rfl) _))).append
    (.of_silent (.map (fun _ => rfl) _))

/-- **A command whose outcome can be used tells of no fault**, of its own or of another. -/
theorem faultless_conclude (coherent : engine.Coherent)
    (onFile : engine.ledger.get? record.id = some record) {outcome : Outcome}
    (usable : (engine.upon (engine.ledger.rollback record.id)).Usable record outcome) :
    Faultless ((engine.upon (engine.ledger.rollback record.id)).conclude record outcome).2 := by
  refine faultless_conclude_of_settleDisable (coherent.commissioned onFile) usable fun disable => ?_
  have left := coherent.completeDisable onFile disable outcome.isOk
  unfold Engine.settleDisable
  split
  next interface completed =>
    have next : (engine.interface.completeDisable outcome.isOk).2 = interface :=
      congrArg Prod.snd completed
    exact faultless_teardown (next ▸ left) .interfaceDisabled
  next interface completed => exact .of_silent fun _ => nofun

/-- **An answer that brings what it has to is told without a fault.** One that says that the command
has failed is not looked at any further. -/
theorem faultless_onCompleted (coherent : engine.Coherent) (id : TransactionId)
    (outcome : Except FirmwareStatus AnswerPayload)
    (answers : ∀ record payload, engine.ledger.get? id = some record → outcome = .ok payload →
      engine.Answers record payload) :
    Faultless (engine.onCompleted id outcome).2 := by
  cases onFile : engine.ledger.get? id with
  | none =>
    rw [onCompleted_of_absent onFile]
    exact .of_silent fun _ => nofun
  | some record =>
    obtain rfl := coherent.filed.own onFile
    rw [onCompleted_of_onFile onFile]
    refine coherent.faultless_conclude onFile ?_
    cases outcome with
    | error status => rfl
    | ok payload =>
      have answers := answers record payload onFile rfl
      exact ⟨answers.report, answers.session, answers.path⟩

/-- **Deadlines tell of no fault.** -/
theorem faultless_expireTransactions (coherent : engine.Coherent) (now : Timestamp) :
    Faultless (engine.expireTransactions now).2.2 := by
  rw [expireTransactions_eq coherent.filed]
  exact faultless_giveUpAll coherent (coherent.filed.onFile_filter _) rfl

/-- **Nor do shutdowns.** -/
theorem faultless_shutdown (coherent : engine.Coherent) : Faultless engine.shutdown.2 := by
  rw [shutdown_eq coherent.filed]
  exact faultless_giveUpAll coherent coherent.filed.onFile_records rfl

end Coherent

end Engine

end NanHost
