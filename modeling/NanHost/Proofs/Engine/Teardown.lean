import NanHost.Proofs.Agreement.Rosters
import NanHost.Proofs.Engine.Events

/-!
# Teardowns — what is reported when the interface goes down, and what is left

A teardown concludes many commands, each of which may remove the session or the path it was about,
and only then looks which sessions and paths are left to be reported. This module gives it in closed
form, in terms of the state before it.

## What is proved

- `Coherent.giveUp_aborted`: a command about a session or a path that is given up is reported as
  aborted, and nothing else is; no other table is touched, and the active sessions and the open paths
  are what they were (`Abates`).
- `Coherent.teardown_exact`: so a teardown reports the commands in the order in which they were
  accepted, then the sessions that were active, then the paths that were open, each once; it leaves
  no session, no path and no command about either.
- `Coherent.onCompleted_disable` and `Coherent.onInterfaceDown_exact`: the two ways in which the
  interface goes down, whole.
-/

namespace NanHost

namespace Engine

variable {engine next : Engine} {record : TransactionRecord} {id : TransactionId}

/-! ## What giving up a command leaves alone -/

/-- Only commands about sessions and paths have ended: the active sessions and the open paths are as
they were, and so is all that is not about either. -/
structure Abates (before after : Engine) : Prop where
  frame : after = { before with
    ledger := after.ledger, sessions := after.sessions, paths := after.paths }
  graceMs : after.paths.graceMs = before.paths.graceMs
  active : ∀ id, after.sessions.activeAt id = before.sessions.activeAt id
  open' : ∀ id, after.paths.openAt id = before.paths.openAt id

namespace Abates

theorem refl (engine : Engine) : engine.Abates engine := ⟨rfl, rfl, fun _ => rfl, fun _ => rfl⟩

theorem trans {first second third : Engine} (before : first.Abates second)
    (after : second.Abates third) : first.Abates third where
  frame := by
    rw [after.frame, before.frame]
  graceMs := after.graceMs.trans before.graceMs
  active id := (after.active id).trans (before.active id)
  open' id := (after.open' id).trans (before.open' id)

theorem sessions (ledger : Ledger) {registry : SessionRegistry}
    (active : ∀ id, registry.activeAt id = engine.sessions.activeAt id) :
    engine.Abates { engine with ledger := ledger, sessions := registry } :=
  ⟨rfl, rfl, active, fun _ => rfl⟩

theorem paths (ledger : Ledger) {table : DataPathTable}
    (graceMs : table.graceMs = engine.paths.graceMs)
    (open' : ∀ id, table.openAt id = engine.paths.openAt id) :
    engine.Abates { engine with ledger := ledger, paths := table } :=
  ⟨rfl, graceMs, fun _ => rfl, open'⟩

end Abates

/-! ## Commands that are given up -/

/-- An answer that is given up leaves its path as it is, so there is nothing to tell beside. -/
theorem settleRespond_aborted {path : DataPathId} {entry : DataPath}
    (found : engine.paths.get? path = some entry) (txn : TransactionId) :
    engine.settleRespond txn path (.error .aborted) =
      ⟨.error .aborted,
        { engine with paths := (engine.paths.put path (entry.detach txn)).purge path }, []⟩ := by
  have aborted := DataPathTable.resolveRespond_aborted found txn
  have isLive (up : entry.isConfirmed = true) :=
    aborted ▸ DataPathTable.isLive_resolveRespond found up txn
  unfold settleRespond
  simp only [Outcome.plain, aborted, found]
  cases up : entry.isConfirmed with
  | true => simp [isLive up, up, Except.map]
  | false => simp [up, Except.map]

namespace Coherent

/-- **A caller's command about a session or a path settles as aborted**, and tells nothing beside. -/
theorem settleByItself_aborted (coherent : engine.Coherent)
    (onFile : engine.ledger.get? record.id = some record)
    (about : record.context.isSessionOrPath = true) :
    ∃ settled, (engine.upon (engine.ledger.rollback record.id)).settleByItself record
        (.error .aborted) = settled ∧
      settled.result = .error .aborted ∧ settled.notices = [] ∧ engine.Abates settled.engine := by
  have commission : Commission record.kind record.context record.origin :=
    coherent.commissioned onFile
  have out {subject : Subject} (about : record.context.subject = subject) :
      engine.ledger.docket subject record.id = some record :=
    Ledger.docket_eq_some.mpr ⟨onFile, about⟩
  have sessions : engine.sessions.Agrees _ := coherent.agrees .sessions
  have paths : engine.paths.Agrees _ := coherent.agrees .paths
  generalize kind : record.kind = kind', context : record.context = context',
    origin : record.origin = origin' at commission
  refine ⟨_, rfl, ?_⟩
  cases commission with
  | capabilities | configure | disable | create | delete => rw [context] at about; cases about
  | start role =>
    rw [settleByItself_start kind context]
    refine ⟨?_, rfl, .sessions _ (SessionRegistry.activeAt_resolveNew record.id .aborted)⟩
    simp only [settleStart, SessionRegistry.resolveNew]
    split <;> rfl
  | update role session =>
    rw [settleByItself_update kind context]
    obtain ⟨entry, found, _⟩ := sessions.session_of_out (out (by rw [context]; rfl)) context
    refine ⟨?_, rfl, .sessions _ (SessionRegistry.activeAt_resolveUpdate found record.id .aborted)⟩
    have refused : (engine.sessions.resolveUpdate session record.id (.error .aborted)).1 =
        .error .aborted := by
      unfold SessionRegistry.resolveUpdate
      rw [found]
      dsimp only
      split <;> rfl
    show Except.map _ (engine.sessions.resolveUpdate session record.id (.error .aborted)).1 = _
    rw [refused]
    rfl
  | message session =>
    rw [settleByItself_message kind context]
    obtain ⟨entry, found, _⟩ := sessions.session_of_out (out (by rw [context]; rfl)) context
    exact ⟨rfl, rfl, .sessions _ (SessionRegistry.activeAt_detach found record.id)⟩
  | stop role session =>
    rw [settleByItself_stop kind context]
    obtain ⟨entry, found, local', _⟩ := sessions.session_of_out (out (by rw [context]; rfl)) context
    have stopping := local'.stopping (out (by rw [context]; rfl)) context kind
    exact ⟨rfl, rfl, .sessions _ (SessionRegistry.activeAt_resolveStop found stopping record.id)⟩
  | initiate =>
    rw [settleByItself_initiate kind context]
    refine ⟨?_, rfl, .paths _ (DataPathTable.resolveInitiate_failed record.id .aborted).2
      (DataPathTable.openAt_resolveInitiate record.id .aborted)⟩
    simp only [settleInitiate, DataPathTable.resolveInitiate]
    split <;> rfl
  | respond path origin =>
    rw [settleByItself_respond kind context]
    obtain ⟨entry, found, _⟩ := paths.path_of_out (out (by rw [context]; rfl)) context
    have found : (engine.upon (engine.ledger.rollback record.id)).paths.get? path = some entry :=
      found
    rw [settleRespond_aborted found]
    refine ⟨rfl, rfl, .paths _ ?_ ?_⟩
    · exact DataPathTable.graceMs_purge _ _
    · refine DataPathTable.openAt_put_purge found ?_
      rfl
  | close path =>
    rw [settleByItself_close kind context]
    obtain ⟨entry, found, local'⟩ := paths.path_of_out (out (by rw [context]; rfl)) context
    have ending := local'.ending (out (by rw [context]; rfl)) context kind
    refine ⟨rfl, rfl, .paths _ ?_ (DataPathTable.openAt_resolveEnd found ending record.id)⟩
    exact DataPathTable.graceMs_purge _ _

/-- A command of the engine's own is struck off its path, which stays as it is. -/
theorem strikeOff_abates (coherent : engine.Coherent)
    (onFile : engine.ledger.get? record.id = some record) :
    engine.Abates ((engine.upon (engine.ledger.rollback record.id)).strikeOff record).1 := by
  unfold Engine.strikeOff
  cases context : record.context with
  | dataPath path =>
    have paths : engine.paths.Agrees _ := coherent.agrees .paths
    obtain ⟨entry, found, _⟩ :=
      paths.path_of_out (Ledger.docket_eq_some.mpr ⟨onFile, by rw [context]; rfl⟩) context
    refine .paths _ ?_ (DataPathTable.openAt_detach found record.id)
    exact DataPathTable.graceMs_purge _ _
  | _ => exact ⟨rfl, rfl, fun _ => rfl, fun _ => rfl⟩

/-- **A command about a session or a path that is given up** is reported, if a caller asked for it,
and nothing else is. -/
theorem giveUp_aborted (coherent : engine.Coherent)
    (onFile : engine.ledger.get? record.id = some record)
    (about : record.context.isSessionOrPath = true) :
    engine.Abates (engine.giveUp record .aborted).1 ∧
      (engine.giveUp record .aborted).2 =
        if record.origin = .caller then [record.failed .aborted] else [] := by
  unfold Engine.giveUp
  cases origin : record.origin with
  | engine =>
    rw [conclude_engine origin]
    refine ⟨coherent.strikeOff_abates onFile, ?_⟩
    unfold Engine.strikeOff
    split <;> rfl
  | caller =>
    obtain ⟨settled, same, result, notices, abates⟩ := coherent.settleByItself_aborted onFile about
    rw [conclude_caller origin, settle_eq_settleByItself (coherent.notDisable onFile about), same,
      announce_of_ne record fun path => by simp [result]]
    refine ⟨abates, ?_⟩
    rw [notices, result]
    rfl

/-- So are those of a batch, in the order given. -/
theorem giveUpAll_aborted {records : List TransactionRecord} (coherent : engine.Coherent)
    (onFile : engine.ledger.OnFile records)
    (about : ∀ record ∈ records, record.context.isSessionOrPath = true) :
    engine.Abates (engine.giveUpAll records .aborted).1 ∧
      (engine.giveUpAll records .aborted).2 =
        (records.filter (·.origin = .caller)).map (·.failed .aborted) := by
  unfold Engine.giveUpAll
  induction records generalizing engine with
  | nil => exact ⟨.refl engine, rfl⟩
  | cons record rest ih =>
    obtain ⟨abates, told⟩ := coherent.giveUp_aborted onFile.head (about record (by simp))
    have onFile' : (engine.giveUp record .aborted).1.ledger.OnFile rest := by
      rw [ledger_giveUp]
      exact onFile.tail
    obtain ⟨abates', told'⟩ := ih (coherent.giveUp onFile.head .aborted) onFile'
      fun other member => about other (List.mem_cons_of_mem _ member)
    rw [sweep_cons]
    refine ⟨abates.trans abates', ?_⟩
    rw [told, told']
    cases origin : record.origin <;> simp [origin]

end Coherent

/-! ## Teardowns -/

/-- What a teardown reports, read off the state before it. -/
def cascade (engine : Engine) (reason : TerminationReason) : List Notification :=
  (engine.ledger.records.filter fun record =>
    record.context.isSessionOrPath ∧ record.origin = .caller).map (·.failed .aborted) ++
  (engine.sessions.roster (·.isActive)).map
    (fun entry => .sessionTerminated entry.1 entry.2 reason) ++
  (engine.paths.roster (·.isOpen)).map (fun path => .dataPathTerminated path reason)

/-- The engine with those commands alone that satisfy a condition, without sessions and without
paths. -/
def cleared (engine : Engine) (condition : TransactionRecord → Bool) : Engine :=
  { engine with
    ledger := engine.ledger.keep condition
    sessions := .empty
    paths := .new engine.paths.graceMs }

/-- The engine with its interface down, with those commands alone that satisfy a condition. -/
def fallen (engine : Engine) (condition : TransactionRecord → Bool) : Engine :=
  { engine.cleared condition with interface := .down }

namespace Coherent

/-- Once nothing is out about sessions, a session that is live is active. -/
theorem active_of_idle (coherent : engine.Coherent)
    (idle : ∀ txn, engine.ledger.docket .sessions txn = none) {session : SessionId}
    {entry : Session} (found : engine.sessions.get? session = some entry) :
    entry.isLive = entry.isActive := by
  have sessions : engine.sessions.Agrees _ := coherent.agrees .sessions
  have notStopping : entry.state ≠ .terminating := by
    intro terminating
    obtain ⟨txn, record, out, _⟩ := (sessions.session found).stop_out terminating
    simp [idle] at out
  cases state : entry.state <;> simp_all [Session.isLive, Session.isActive]

/-- Once nothing is out about paths, a path that is live is open. -/
theorem open_of_idle (coherent : engine.Coherent)
    (idle : ∀ txn, engine.ledger.docket .paths txn = none) {path : DataPathId}
    {entry : DataPath} (found : engine.paths.get? path = some entry) :
    entry.isLive = entry.isOpen := by
  have paths : engine.paths.Agrees _ := coherent.agrees .paths
  cases isLive : entry.isLive with
  | false => simp [DataPath.isOpen, isLive]
  | true =>
    have notEnding : entry.endPending = false := by
      apply Bool.eq_false_iff.mpr
      intro ending
      have live : entry.state ≠ .terminated := by simpa [DataPath.isLive] using isLive
      obtain ⟨txn, record, out, _⟩ := (paths.path found).end_out live ending
      simp [idle] at out
    simp [DataPath.isOpen, isLive, notEnding]

/-- What a teardown gives up first is reported in the order in which it was accepted. -/
theorem abandonSessionsAndPaths_aborted (coherent : engine.Coherent) :
    engine.Abates engine.abandonSessionsAndPaths.1 ∧
      engine.abandonSessionsAndPaths.2 = (engine.ledger.records.filter fun record =>
        record.context.isSessionOrPath ∧ record.origin = .caller).map (·.failed .aborted) := by
  have onFile := coherent.filed.onFile_filter (·.context.isSessionOrPath)
  obtain ⟨abates, told⟩ := coherent.giveUpAll_aborted onFile fun record member =>
    (List.mem_filter.mp member).2
  refine ⟨abates, told.trans ?_⟩
  rw [List.filter_filter]
  simp only [Bool.decide_and, Bool.and_comm, Bool.decide_eq_true]

/-- The sessions that a teardown finds live are those that were active. -/
theorem roster_sessions (coherent : engine.Coherent) :
    engine.abandonSessionsAndPaths.1.sessions.roster (·.isLive) =
      engine.sessions.roster (·.isActive) := by
  have abates := coherent.abandonSessionsAndPaths_aborted.1
  have settled := coherent.abandonSessionsAndPaths
  have idle := docket_abandonSessionsAndPaths coherent.filed (.inl rfl)
  have before : engine.sessions.Agrees _ := coherent.agrees .sessions
  have after : engine.abandonSessionsAndPaths.1.sessions.Agrees _ := settled.agrees .sessions
  apply SessionRegistry.roster_congr before after
  intro session
  refine Eq.trans ?_ (abates.active session)
  apply Option.bind_congr
  intro entry found
  rw [settled.active_of_idle idle found]

/-- The paths that a teardown finds live are those that were open. -/
theorem roster_paths (coherent : engine.Coherent) :
    engine.abandonSessionsAndPaths.1.paths.roster (·.isLive) =
      engine.paths.roster (·.isOpen) := by
  have abates := coherent.abandonSessionsAndPaths_aborted.1
  have settled := coherent.abandonSessionsAndPaths
  have idle := docket_abandonSessionsAndPaths coherent.filed (.inr rfl)
  have before : engine.paths.Agrees _ := coherent.agrees .paths
  have after : engine.abandonSessionsAndPaths.1.paths.Agrees _ := settled.agrees .paths
  apply DataPathTable.roster_congr before after
  intro path
  refine Eq.trans ?_ (abates.open' path)
  unfold DataPathTable.openAt
  cases found : engine.abandonSessionsAndPaths.1.paths.get? path with
  | none => rfl
  | some entry => simp [settled.open_of_idle idle found]

/-- **A teardown in closed form.** -/
theorem teardown_exact (coherent : engine.Coherent) (reason : TerminationReason) :
    engine.teardown reason =
      (engine.cleared (!·.context.isSessionOrPath), engine.cascade reason) := by
  obtain ⟨abates, told⟩ := coherent.abandonSessionsAndPaths_aborted
  have ledger := ledger_abandonSessionsAndPaths coherent.filed
  rw [Ledger.drainWhere_snd_eq_keep] at ledger
  rw [teardown_eq engine coherent.filed coherent.notDisable]
  refine Prod.ext ?_ ?_
  · show { engine.abandonSessionsAndPaths.1 with
      sessions := .empty
      paths := .new engine.abandonSessionsAndPaths.1.paths.graceMs } = engine.cleared _
    rw [abates.graceMs, abates.frame, ledger]
    rfl
  · show engine.abandonSessionsAndPaths.2 ++
        (engine.abandonSessionsAndPaths.1.sessions.roster (·.isLive)).map _ ++
          (engine.abandonSessionsAndPaths.1.paths.roster (·.isLive)).map _ = _
    rw [told, coherent.roster_sessions, coherent.roster_paths]
    rfl

end Coherent

/-! ## The interface goes down -/

/-- A teardown reports what it would report if commands about anything else were not on file, and
whatever the stage of the interface. -/
theorem cascade_keep {condition : TransactionRecord → Bool} (interface : Interface)
    (stays : ∀ record ∈ engine.ledger.records, record.context.isSessionOrPath = true →
      condition record = true) (reason : TerminationReason) :
    { engine with ledger := engine.ledger.keep condition, interface := interface }.cascade reason =
      engine.cascade reason := by
  unfold cascade
  rw [Ledger.records_keep, List.filter_filter]
  refine congrArg (fun leaving => List.map _ leaving ++ _ ++ _)
    (List.filter_congr fun record member => ?_)
  by_cases about : record.context.isSessionOrPath = true
  · simp [stays record member about]
  · simp [about]

namespace Coherent

/-- A disabling on file is what the interface awaits, so that its success takes the interface
down. -/
theorem completeDisable_true (coherent : engine.Coherent)
    (onFile : engine.ledger.get? id = some record) (disable : record.kind = .disable) :
    engine.interface.completeDisable true = (true, .down) := by
  have interface : engine.interface.Agrees _ := coherent.agrees .interface
  have phase : engine.interface.phase = .disabling := by
    have awaited := coherent.awaited_of_onFile onFile (.inr disable)
    rw [disable] at awaited
    cases phase : engine.interface.phase <;> simp_all [InterfacePhase.awaited]
  have staged := interface.staged_iff
  simp_all [Interface.completeDisable, Interface.down]

/-- A disabling that went well settles as a teardown. -/
theorem settleDisable_exact (coherent : engine.Coherent)
    (onFile : engine.ledger.get? record.id = some record) (disable : record.kind = .disable)
    (payload : AnswerPayload) :
    (engine.upon (engine.ledger.rollback record.id)).settleDisable (.ok payload) =
      ⟨.ok .disabled,
        engine.fallen fun other => other.id ≠ record.id && !other.context.isSessionOrPath,
        engine.cascade .interfaceDisabled⟩ := by
  have stays : ∀ other ∈ engine.ledger.records, other.context.isSessionOrPath = true →
      decide (other.id ≠ record.id) = true := by
    intro other member about
    apply decide_eq_true
    intro same
    have there := coherent.filed.onFile_records.found other member
    rw [same, onFile] at there
    exact coherent.notDisable onFile (Option.some.inj there ▸ about) disable
  let rest : Engine :=
    { engine with ledger := engine.ledger.keep (·.id ≠ record.id), interface := .down }
  have down := coherent.completeDisable_true onFile disable
  have settled : (engine.upon (engine.ledger.rollback record.id)).settleDisable (.ok payload) =
      ⟨.ok .disabled, (rest.teardown .interfaceDisabled).1,
        (rest.teardown .interfaceDisabled).2⟩ := by
    rw [coherent.filed.rollback_eq_keep]
    exact settleDisable_down down
  have left : rest.Coherent := by
    have left := coherent.completeDisable onFile disable true
    rwa [down, coherent.filed.rollback_eq_keep] at left
  rw [settled, left.teardown_exact, cascade_keep .down stays]
  refine congrArg (Settlement.mk _ · _) ?_
  show { engine with
    ledger := (engine.ledger.keep _).keep _
    interface := .down
    sessions := .empty
    paths := .new engine.paths.graceMs } = engine.fallen _
  rw [Ledger.keep_keep]
  rfl

/-- **A disabling that went well**, in closed form. -/
theorem onCompleted_disable (coherent : engine.Coherent)
    (onFile : engine.ledger.get? id = some record) (disable : record.kind = .disable)
    (payload : AnswerPayload) :
    engine.onCompleted id (.ok payload) =
      (engine.fallen fun other => other.id ≠ id && !other.context.isSessionOrPath,
        engine.cascade .interfaceDisabled ++ [.completed ⟨id, .disable, .ok .disabled⟩]) := by
  obtain rfl := coherent.filed.own onFile
  have about : record.context = .interface :=
    (coherent.commissioned onFile).interface_iff.mpr (.inr (.inr disable))
  have origin : record.origin = .caller :=
    (coherent.commissioned onFile).caller_of_ne fun path => by simp [about]
  rw [onCompleted_of_onFile onFile]
  show (engine.upon (engine.ledger.rollback record.id)).conclude record (.ok payload) = _
  rw [conclude_caller origin, settle_disable disable, coherent.settleDisable_exact onFile disable,
    announce_of_ne record fun path => by simp]
  rw [disable]

/-- The interface going down leaves the commands about sessions and paths. -/
theorem grounded_eq (engine : Engine) :
    engine.grounded =
      { engine with ledger := engine.ledger.keep (!·.isSuperseded), interface := .down } := by
  rw [Engine.grounded, Ledger.drainWhere_snd_eq_keep]

/-- **The interface going down by itself**, in closed form. -/
theorem onInterfaceDown_exact (coherent : engine.Coherent)
    (up : engine.interface.phase ≠ .disabled) (status : FirmwareStatus) :
    engine.onInterfaceDown status =
      (engine.fallen fun other => !other.isSuperseded && !other.context.isSessionOrPath,
        (engine.ledger.records.filter (·.isSuperseded)).map (·.failed .aborted) ++
          engine.cascade .interfaceDown ++ [.interfaceDown status]) := by
  have stays : ∀ other ∈ engine.ledger.records, other.context.isSessionOrPath = true →
      (!other.isSuperseded) = true := by
    intro other member about
    have onFile := coherent.filed.onFile_records.found other member
    cases superseded : other.isSuperseded with
    | false => rfl
    | true =>
      rw [(coherent.superseded onFile superseded).1] at about
      cases about
  have grounded := coherent.grounded
  rw [coherent.onInterfaceDown_eq up, grounded.teardown_exact, grounded_eq, cascade_keep _ stays]
  refine Prod.ext ?_ rfl
  show { engine with
    ledger := (engine.ledger.keep _).keep _
    interface := .down
    sessions := .empty
    paths := .new engine.paths.graceMs } = engine.fallen _
  rw [Ledger.keep_keep]
  rfl

end Coherent

end Engine

end NanHost
