import NanHost.Proofs.Engine.Coherence

/-!
# Conclusion — a command that ends leaves a coherent engine

A record leaves the ledger and is concluded, with whatever outcome. Of the twelve forms in which
commands are issued, each is settled by its own table (`Coherent.settleByItself`), and only a
disabling that went well reaches into other tables, by a teardown.

## What is proved

- `Coherent.conclude`: concluding a record that was on file, however its command ended, leaves the
  engine coherent.
- `Coherent.giveUpAll`: so does giving up a batch of records.
- `Coherent.teardown`: so does a teardown, after which nothing about sessions and data paths is left.
-/

namespace NanHost

namespace Engine

variable {engine : Engine} {record : TransactionRecord} {id : TransactionId}

namespace Coherent

/-! ## Events on data paths -/

theorem onPathConfirmed (coherent : engine.Coherent) (path : DataPathId) (accepted : Bool)
    (peerInterface : MacAddress) (appInfo : ByteArray) (status : FirmwareStatus) :
    (engine.onPathConfirmed path accepted peerInterface appInfo status).1.Coherent :=
  coherent.touchTable .paths
    (DataPathTable.Agrees.onConfirmed (coherent.agrees .paths) path accepted peerInterface appInfo
      status)

theorem onPathTerminated (coherent : engine.Coherent) (path : DataPathId)
    (status : FirmwareStatus) : (engine.onPathTerminated path status).1.Coherent :=
  coherent.touchTable .paths
    (DataPathTable.Agrees.onTerminated (coherent.agrees .paths) path status)

theorem replay (coherent : engine.Coherent) (path : DataPathId) (event : HeldEvent) :
    (engine.replay path event).1.Coherent := by
  cases event with
  | confirmed accepted peerInterface appInfo status =>
    exact coherent.onPathConfirmed path accepted peerInterface appInfo status
  | terminated status => exact coherent.onPathTerminated path status

theorem replayHeld (coherent : engine.Coherent) (path : DataPathId) :
    (engine.replayHeld path).1.Coherent := by
  have agrees : engine.paths.Agrees (engine.ledger.docket .paths) := coherent.agrees .paths
  exact sweep_keeps (fun engine _ => engine.Coherent)
    (fun event coherent => coherent.replay path event) _ _ []
    (coherent.touchTable .paths (agrees.reheld _))

/-! ## Settling -/

/-- **Each form of command is settled by its own table.** -/
theorem settleByItself (coherent : engine.Coherent)
    (onFile : engine.ledger.get? id = some record) (notDisable : record.kind ≠ .disable)
    (outcome : Outcome) :
    ((engine.upon (engine.ledger.rollback id)).settleByItself record outcome).engine.Coherent := by
  obtain rfl : record.id = id := coherent.filed.own onFile
  have commission : Commission record.kind record.context record.origin :=
    coherent.commissioned onFile
  have out {subject : Subject} (about : record.context.subject = subject) :
      engine.ledger.docket subject record.id = some record :=
    Ledger.docket_eq_some.mpr ⟨onFile, about⟩
  have radio : engine.interface.Agrees _ := coherent.agrees .interface
  have dataInterfaces : engine.dataInterfaces.Agrees _ := coherent.agrees .dataInterfaces
  have sessions : engine.sessions.Agrees _ := coherent.agrees .sessions
  have paths : engine.paths.Agrees _ := coherent.agrees .paths
  generalize kind : record.kind = kind', about : record.context = context,
    origin : record.origin = origin' at commission
  cases commission with
  | capabilities =>
    rw [settleByItself_capabilities kind]
    have left : (engine.upon (engine.ledger.rollback record.id)).Coherent :=
      coherent.leaveTable .interface onFile (by rw [about]; rfl)
        (radio.strikeQuery (out (by rw [about]; rfl)) kind)
    unfold settleCapabilities
    split
    · exact left.touch rfl left.agrees
    · exact left
    · exact left
  | configure =>
    rw [settleByItself_configure kind, engine_settleConfigure]
    exact coherent.leaveTable .interface onFile (by rw [about]; rfl)
      (radio.completeEnable (out (by rw [about]; rfl)) kind outcome.isOk)
  | disable => exact absurd kind notDisable
  | start role =>
    rw [settleByItself_start kind about]
    exact coherent.leaveTable .sessions onFile (by rw [about]; rfl)
      (sessions.resolveNew (out (by rw [about]; rfl)) about outcome.sessionId)
  | update role session =>
    rw [settleByItself_update kind about]
    exact coherent.leaveTable .sessions onFile (by rw [about]; rfl)
      (sessions.resolveUpdate (out (by rw [about]; rfl)) about kind outcome.plain)
  | message session =>
    rw [settleByItself_message kind about]
    exact coherent.leaveTable .sessions onFile (by rw [about]; rfl)
      (sessions.detach (out (by rw [about]; rfl)) about kind)
  | stop role session =>
    rw [settleByItself_stop kind about]
    exact coherent.leaveTable .sessions onFile (by rw [about]; rfl)
      (sessions.resolveStop (out (by rw [about]; rfl)) about kind)
  | create name =>
    rw [settleByItself_create kind about]
    exact coherent.leaveTable .dataInterfaces onFile (by rw [about]; rfl)
      (dataInterfaces.resolveCreate (out (by rw [about]; rfl)) about kind outcome.isOk)
  | delete name =>
    rw [settleByItself_delete kind about]
    exact coherent.leaveTable .dataInterfaces onFile (by rw [about]; rfl)
      (dataInterfaces.resolveDelete (out (by rw [about]; rfl)) about kind outcome.isOk)
  | initiate =>
    rw [settleByItself_initiate kind about]
    exact coherent.leaveTable .paths onFile (by rw [about]; rfl)
      (paths.resolveInitiate (out (by rw [about]; rfl)) about outcome.pathId)
  | respond path origin =>
    rw [settleByItself_respond kind about]
    exact coherent.leaveTable .paths onFile (by rw [about]; rfl)
      (paths.resolveRespond (out (by rw [about]; rfl)) about kind outcome.plain)
  | close path =>
    rw [settleByItself_close kind about]
    exact coherent.leaveTable .paths onFile (by rw [about]; rfl)
      (paths.resolveEnd (out (by rw [about]; rfl)) about)

/-- A command of the engine's own is an answer to a peer, and is struck off its path. -/
theorem strikeOff (coherent : engine.Coherent) (onFile : engine.ledger.get? id = some record)
    (origin : record.origin = .engine) :
    ((engine.upon (engine.ledger.rollback id)).strikeOff record).1.Coherent := by
  obtain rfl : record.id = id := coherent.filed.own onFile
  have commission : Commission record.kind record.context record.origin :=
    coherent.commissioned onFile
  have paths : engine.paths.Agrees _ := coherent.agrees .paths
  generalize kind : record.kind = kind', about : record.context = context,
    origin' : record.origin = issuer at commission
  cases commission with
  | respond path =>
    have out : engine.ledger.docket .paths record.id = some record :=
      Ledger.docket_eq_some.mpr ⟨onFile, by rw [about]; rfl⟩
    simp only [Engine.strikeOff, about]
    exact coherent.leaveTable .paths onFile (by rw [about]; rfl) (paths.detach out about kind)
  | _ => exact absurd (origin.symm.trans origin') (by decide)

/-- Announcing the end of a command replays events at most. -/
theorem announce {settlement : Settlement} (coherent : settlement.engine.Coherent)
    (record : TransactionRecord) : (Engine.announce record settlement).1.Coherent := by
  unfold Engine.announce
  split
  · exact coherent.replayHeld _
  · exact coherent

/-- A command that ends leaves a coherent engine, provided that it does so if it disables the
interface. -/
theorem conclude_of_settleDisable (coherent : engine.Coherent)
    (onFile : engine.ledger.get? id = some record) (outcome : Outcome)
    (disabled : record.kind = .disable →
      ((engine.upon (engine.ledger.rollback id)).settleDisable outcome).engine.Coherent) :
    ((engine.upon (engine.ledger.rollback id)).conclude record outcome).1.Coherent := by
  cases origin : record.origin with
  | engine =>
    rw [conclude_engine origin]
    exact coherent.strikeOff onFile origin
  | caller =>
    rw [conclude_caller origin]
    refine announce ?_ record
    by_cases disable : record.kind = .disable
    · rw [settle_disable disable]
      exact disabled disable
    · rw [settle_eq_settleByItself disable]
      exact coherent.settleByItself onFile disable outcome

/-- The interface has taken on how its disabling ended. -/
theorem completeDisable (coherent : engine.Coherent)
    (onFile : engine.ledger.get? id = some record) (disable : record.kind = .disable)
    (success : Bool) :
    { engine with
      ledger := engine.ledger.rollback id
      interface := (engine.interface.completeDisable success).2 }.Coherent := by
  have about : record.context = .interface :=
    (coherent.commissioned onFile).interface_iff.mpr (.inr (.inr disable))
  have interface : engine.interface.Agrees _ := coherent.agrees .interface
  exact coherent.leaveTable .interface onFile (by rw [about]; rfl)
    (interface.completeDisable (Ledger.docket_eq_some.mpr ⟨onFile, by rw [about]; rfl⟩) disable
      success)

/-- A start is settled by the registry. -/
theorem settleByItself_newSession (coherent : engine.Coherent)
    (onFile : engine.ledger.get? record.id = some record) {role : SessionRole}
    (start : record.context = .newSession role) (other : Engine) (outcome : Outcome) :
    other.settleByItself record outcome = other.settleStart record.id outcome := by
  have commission : Commission record.kind record.context record.origin :=
    coherent.commissioned onFile
  generalize kind : record.kind = kind', context : record.context = context',
    origin : record.origin = origin' at commission
  rw [context] at start
  subst start
  cases commission
  exact settleByItself_start kind context outcome

/-- An initiation is settled by the table of paths. -/
theorem settleByItself_newDataPath (coherent : engine.Coherent)
    (onFile : engine.ledger.get? record.id = some record) (initiate : record.context = .newDataPath)
    (other : Engine) (outcome : Outcome) :
    other.settleByItself record outcome = other.settleInitiate record.id outcome := by
  have commission : Commission record.kind record.context record.origin :=
    coherent.commissioned onFile
  generalize kind : record.kind = kind', context : record.context = context',
    origin : record.origin = origin' at commission
  rw [context] at initiate
  subst initiate
  cases commission
  exact settleByItself_initiate kind context outcome

/-! ## Giving up -/

/-- A command that is given up leaves a coherent engine. -/
theorem giveUp (coherent : engine.Coherent)
    (onFile : engine.ledger.get? record.id = some record) (failure : Failure) :
    (engine.giveUp record failure).1.Coherent := by
  apply coherent.conclude_of_settleDisable onFile _
  intro disable
  rw [settleDisable_failed]
  exact coherent.completeDisable onFile disable false

/-- **A batch that is given up leaves a coherent engine.** -/
theorem giveUpAll {records : List TransactionRecord} (coherent : engine.Coherent)
    (onFile : engine.ledger.OnFile records) (failure : Failure) :
    (engine.giveUpAll records failure).1.Coherent := by
  refine kept_giveUpAll (fun next _ => next.Coherent) [] onFile coherent ?_
  exact fun _ onFile coherent => coherent.giveUp onFile failure

/-! ## Teardowns -/

/-- The commands about sessions and paths leave the interface up. -/
theorem notDisable (coherent : engine.Coherent) (onFile : engine.ledger.get? id = some record)
    (about : record.context.isSessionOrPath = true) : record.kind ≠ .disable := by
  intro disable
  have interface := (coherent.commissioned onFile).interface_iff.mpr (.inr (.inr disable))
  rw [interface] at about
  cases about

/-- What a teardown gives up first leaves a coherent engine. -/
theorem abandonSessionsAndPaths (coherent : engine.Coherent) :
    engine.abandonSessionsAndPaths.1.Coherent :=
  coherent.giveUpAll (coherent.filed.onFile_filter _) .aborted

end Coherent

/-- A batch that is given up leaves the ledger. -/
theorem ledger_giveUpAll (records : List TransactionRecord) (failure : Failure) :
    (engine.giveUpAll records failure).1.ledger =
      (records.map (·.id)).foldl Ledger.rollback engine.ledger := by
  unfold giveUpAll
  induction records generalizing engine with
  | nil => rfl
  | cons record rest ih =>
    rw [sweep_cons, ih, ledger_giveUp]
    rfl

theorem ledger_abandonSessionsAndPaths (filed : engine.ledger.WellFiled) :
    engine.abandonSessionsAndPaths.1.ledger =
      (engine.ledger.drainWhere (·.context.isSessionOrPath)).2 := by
  rw [abandonSessionsAndPaths, ledger_giveUpAll, filed.drainWhere_snd_eq, Ledger.map_id_drainWhere]

/-- After the commands about sessions and data paths were given up, none is on file. -/
theorem docket_abandonSessionsAndPaths (filed : engine.ledger.WellFiled) {subject : Subject}
    (torn : subject = .sessions ∨ subject = .paths) (txn : TransactionId) :
    engine.abandonSessionsAndPaths.1.ledger.docket subject txn = none := by
  rw [ledger_abandonSessionsAndPaths filed]
  apply Option.eq_none_iff_forall_ne_some.mpr
  intro record there
  obtain ⟨onFile, about⟩ := Ledger.docket_eq_some.mp there
  rw [Ledger.get?_drainWhere, Option.filter_eq_some_iff] at onFile
  have torn' := (PendingContext.isSessionOrPath_iff record.context).mpr (about ▸ torn)
  simp [torn'] at onFile

namespace Coherent

/-- **A teardown leaves a coherent engine.** -/
theorem teardown (coherent : engine.Coherent) (reason : TerminationReason) :
    (engine.teardown reason).1.Coherent := by
  rw [teardown_eq engine coherent.filed coherent.notDisable]
  have settled := coherent.abandonSessionsAndPaths
  have sessions : SessionRegistry.empty.Agrees _ :=
    .empty (docket_abandonSessionsAndPaths coherent.filed (.inl rfl))
  have paths : (DataPathTable.new engine.abandonSessionsAndPaths.1.paths.graceMs).Agrees _ :=
    .new _ (docket_abandonSessionsAndPaths coherent.filed (.inr rfl))
  exact (settled.touchTable .sessions sessions).touchTable .paths paths

/-! ## Conclusions -/

/-- **A command that ends leaves a coherent engine.** A disabling that went well tears down what
depends on the interface. -/
theorem conclude (coherent : engine.Coherent) (onFile : engine.ledger.get? id = some record)
    (outcome : Outcome) :
    ((engine.upon (engine.ledger.rollback id)).conclude record outcome).1.Coherent := by
  apply coherent.conclude_of_settleDisable onFile outcome
  intro disable
  have left := coherent.completeDisable onFile disable outcome.isOk
  unfold Engine.settleDisable
  split
  next interface completed =>
    have next : (engine.interface.completeDisable outcome.isOk).2 = interface :=
      congrArg Prod.snd completed
    exact (next ▸ left).teardown .interfaceDisabled
  next interface completed =>
    have next : (engine.interface.completeDisable outcome.isOk).2 = interface :=
      congrArg Prod.snd completed
    exact next ▸ left

end Coherent

end Engine

end NanHost
