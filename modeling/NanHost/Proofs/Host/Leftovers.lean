import NanHost.Proofs.Engine.Tidiness
import NanHost.Proofs.Host.PathReports
import NanHost.Proofs.Host.SessionReports

/-!
# Leftovers — nothing half done outlives the commands that it waits for

A terminated session or path is kept so that its number cannot be taken for that of a newer one while a
command about it is unanswered. An event that came ahead of its path is kept as long as an initiation
may claim it. All of it has to go in the end, and nothing of it may be there while the interface is
down.

## What is proved

- `run_noLeftovers`: what is terminated waits for a command on file, and what is held back for an
  initiation. So once no command is on file every session is active, every path is live and no end of
  it is under way, nothing is being started, and every interface is at rest (`Engine.AtRest`). A
  shutdown leaves no command on file, and neither do deadlines that have all come.
- `run_bareWhileDown`: in every state in which the interface is down there is nothing in the tables of
  sessions and paths and no command about either on file; and the configurations are those of the stage
  of the interface.
-/

namespace NanHost

/-- **No move leaves a path on record that nothing is left to keep for.** -/
theorem DataPath.Move.busy {id : DataPathId} {now : Timestamp} {path next : DataPath}
    {effects : List Effect} (move : Move id now path effects (some next)) : next.isDone = false := by
  have attached {txn : TransactionId} {entry : DataPath} (there : txn ∈ entry.inFlight) :
      entry.isDone = false := by
    rw [Bool.eq_false_iff, ne_eq, isDone_iff]
    exact fun done => done.2 txn there
  generalize result : some next = entry at move
  cases move with
  | answered txn request known about awaits =>
    obtain rfl := Option.some.inj result
    have there : txn ∈ (path.attach txn).inFlight := mem_attach.mpr (.inl rfl)
    unfold DataPath.answered
    split
    · exact attached there
    · exact attached there
  | endAsked txn =>
    obtain rfl := Option.some.inj result
    have there : txn ∈ (path.attach txn).inFlight := mem_attach.mpr (.inl rfl)
    exact attached there
  | confirmed =>
    obtain rfl := Option.some.inj result
    simp [isDone, DataPath.confirmed]
  | refused txn =>
    obtain rfl := Option.some.inj result
    exact attached (mem_attach.mpr (.inl rfl))
  | rejected | ended | struck | failed | endSettled | lapsed =>
    obtain ⟨rfl, busy⟩ := kept_eq_some.mp result.symm
    exact busy
  | fell => cases result

/-- A ledger is empty if nothing is on file under any number. -/
theorem Ledger.isEmpty_iff {ledger : Ledger} :
    ledger.isEmpty = true ↔ ∀ txn, ledger.get? txn = none := by
  unfold isEmpty get?
  rw [Std.ExtTreeMap.isEmpty_iff]
  constructor
  · rintro empty txn
    rw [empty, Std.ExtTreeMap.getElem?_empty]
  · intro absent
    ext txn : 1
    rw [absent, Std.ExtTreeMap.getElem?_empty]

namespace Engine

/-- Nothing is under way. -/
structure AtRest (engine : Engine) : Prop where
  session : ∀ id session, engine.sessions.get? id = some session →
    session.state = .active ∧ session.pendingUpdate = none
  starting : engine.sessions.starting = ∅
  path : ∀ id path, engine.paths.get? id = some path →
    path.isLive = true ∧ path.endPending = false
  initiating : engine.paths.initiating = ∅
  held : engine.paths.held = ∅
  dataInterface : ∀ name state, engine.dataInterfaces.state? name = some state → state = .ready
  interface : engine.interface.phase = .enabled ∨ engine.interface.phase = .disabled

namespace Coherent

variable {engine : Engine}

/-- What is terminated and not done with waits for a command on file. -/
theorem session_waits (coherent : engine.Coherent) {id : SessionId} {session : Session}
    (found : engine.sessions.get? id = some session) (busy : session.isDone = false)
    (gone : session.state = .terminated) :
    ∃ txn record, engine.ledger.get? txn = some record ∧ record.context = .session id := by
  have sessions : engine.sessions.Agrees _ := coherent.agrees .sessions
  by_contra none
  have done : session.isDone = true := by
    refine Session.isDone_iff.mpr ⟨gone, fun txn member => none ?_⟩
    obtain ⟨record, out, about⟩ := (sessions.session found).inFlight_iff.mp member
    exact ⟨txn, record, (Ledger.docket_eq_some.mp out).1, about⟩
  simp [busy] at done

theorem path_waits (coherent : engine.Coherent) {id : DataPathId} {path : DataPath}
    (found : engine.paths.get? id = some path) (busy : path.isDone = false)
    (gone : path.state = .terminated) :
    ∃ txn record, engine.ledger.get? txn = some record ∧ record.context = .dataPath id := by
  have paths : engine.paths.Agrees _ := coherent.agrees .paths
  by_contra none
  have done : path.isDone = true := by
    refine DataPath.isDone_iff.mpr ⟨gone, fun txn member => none ?_⟩
    obtain ⟨record, out, about⟩ := (paths.path found).inFlight_iff.mp member
    exact ⟨txn, record, (Ledger.docket_eq_some.mp out).1, about⟩
  simp [busy] at done

/-- Unless a start is on file, none is under way. -/
theorem starting_eq_empty (coherent : engine.Coherent)
    (idle : ∀ txn record, engine.ledger.get? txn = some record →
      ∀ role, record.context ≠ .newSession role) : engine.sessions.starting = ∅ := by
  have sessions : engine.sessions.Agrees _ := coherent.agrees .sessions
  ext txn : 1
  rw [Std.ExtTreeMap.getElem?_empty, Option.eq_none_iff_forall_ne_some]
  intro config there
  obtain ⟨record, out, about⟩ := sessions.out_of_starting there
  exact idle txn record (Ledger.docket_eq_some.mp out).1 _ about

/-- Unless an initiation is on file, none is under way. -/
theorem initiating_eq_empty (coherent : engine.Coherent)
    (idle : ∀ txn record, engine.ledger.get? txn = some record → record.context ≠ .newDataPath) :
    engine.paths.initiating = ∅ := by
  have paths : engine.paths.Agrees _ := coherent.agrees .paths
  ext txn : 1
  rw [Std.ExtTreeMap.getElem?_empty, Option.eq_none_iff_forall_ne_some]
  intro request there
  obtain ⟨record, out, about⟩ := paths.out_of_initiating there
  exact idle txn record (Ledger.docket_eq_some.mp out).1 about

/-- **Once no command is on file nothing is under way.** -/
theorem atRest (coherent : engine.Coherent) (tidy : engine.Tidy)
    (busySession : ∀ id session, engine.sessions.get? id = some session → session.isDone = false)
    (busyPath : ∀ id path, engine.paths.get? id = some path → path.isDone = false)
    (idle : ∀ txn, engine.ledger.get? txn = none) : engine.AtRest := by
  have nothing {txn : TransactionId} {record : TransactionRecord}
      (onFile : engine.ledger.get? txn = some record) : False := by
    rw [idle] at onFile
    cases onFile
  have notOut {subject : Subject} {txn : TransactionId} {record : TransactionRecord}
      (out : engine.ledger.docket subject txn = some record) : False :=
    nothing (Ledger.docket_eq_some.mp out).1
  have interface : engine.interface.Agrees _ := coherent.agrees .interface
  have dataInterfaces : engine.dataInterfaces.Agrees _ := coherent.agrees .dataInterfaces
  have sessions : engine.sessions.Agrees _ := coherent.agrees .sessions
  have paths : engine.paths.Agrees _ := coherent.agrees .paths
  have initiating := coherent.initiating_eq_empty fun _ _ onFile => (nothing onFile).elim
  constructor
  case session =>
    intro id session found
    have local' := sessions.session found
    constructor
    · cases stage : session.state with
      | active => rfl
      | terminating =>
        obtain ⟨_, _, out, _⟩ := local'.stop_out stage
        exact (notOut out).elim
      | terminated =>
        obtain ⟨_, _, onFile, _⟩ := coherent.session_waits found (busySession id session found) stage
        exact (nothing onFile).elim
    · refine Option.eq_none_iff_forall_ne_some.mpr fun update pending => ?_
      obtain ⟨_, _, out, _⟩ := local'.update_out pending
      exact notOut out
  case starting => exact coherent.starting_eq_empty fun _ _ onFile => (nothing onFile).elim
  case path =>
    intro id path found
    have live : path.state ≠ .terminated := by
      intro gone
      obtain ⟨_, _, onFile, _⟩ := coherent.path_waits found (busyPath id path found) gone
      exact nothing onFile
    refine ⟨by simpa [DataPath.isLive] using live, Bool.eq_false_iff.mpr fun ending => ?_⟩
    obtain ⟨_, _, out, _⟩ := (paths.path found).end_out live ending
    exact notOut out
  case initiating => exact initiating
  case held => exact tidy.held initiating
  case dataInterface =>
    intro name state found
    cases awaited : state.awaited with
    | none => cases state <;> simp_all [DataInterfaceState.awaited]
    | some command =>
      obtain ⟨_, out, _⟩ := dataInterfaces.awaited_iff.mp
        (show (engine.dataInterfaces.state? name).bind (·.awaited) = some (command.1, command.2) by
          rw [found]
          exact awaited)
      exact (notOut out).elim
  case interface =>
    cases awaited : engine.interface.phase.awaited with
    | none => cases phase : engine.interface.phase <;> simp_all [InterfacePhase.awaited]
    | some kind =>
      obtain ⟨_, _, out, _⟩ := interface.out_of_awaited awaited
      exact (notOut out).elim

end Coherent

end Engine

namespace Host

variable {σ : Type} [Transport σ] {host : Host σ}

/-! ## Reachable states -/

theorem refuseOverdue_tidy (filed : host.engine.ledger.WellFiled) (tidy : host.engine.Tidy)
    (path : DataPathId) : (host.refuseOverdue path).engine.Tidy := by
  have fate := refuseOverdue_refusal filed path
  generalize host.refuseOverdue path = next at fate
  cases fate with
  | full noRoom => exact tidy.steady (.purge _ path)
  | taken transport opens sent => exact (tidy.steady (.update _ path _)).upon _
  | refused transport error opens sent => exact (tidy.steady (.purge _ path)).upon _

theorem expireResponses_tidy (coherent : host.engine.Coherent) (tidy : host.engine.Tidy) :
    host.expireResponses.2.engine.Tidy :=
  (expireResponses_keeps (·.engine.Tidy) coherent (tidy.steady (.expireResponses _ host.now))
    fun _ path coherent tidy => refuseOverdue_tidy coherent.filed tidy path).2

omit [Transport σ] in
theorem expireTransactions_tidy (coherent : host.engine.Coherent) (tidy : host.engine.Tidy) :
    host.expireTransactions.2.engine.Tidy := by
  have given := tidy.expireTransactions coherent host.now
  simpa only [expireTransactions, engine_react] using given

/-- Whatever is done to a host leaves a tidy engine. -/
theorem step_tidy (coherent : host.engine.Coherent) (tidy : host.engine.Tidy) (act : Act σ) :
    (host.step act).engine.Tidy := by
  cases act with
  | submit request =>
    have fate := submit_submission coherent.filed request
    show (host.submit request).2.engine.Tidy
    generalize host.submit request = outcome at fate
    cases fate with
    | unfit | full => exact tidy
    | taken dispatch transport admitted opens sent => exact tidy.stage admitted _ _
    | refused => exact tidy.upon _
  | handle event =>
    show (host.react _).engine.Tidy
    rw [engine_react]
    exact tidy.handle coherent host.now event
  | expireTransactions => exact expireTransactions_tidy coherent tidy
  | expireResponses => exact expireResponses_tidy coherent tidy
  | tick =>
    exact expireResponses_tidy (expireTransactions_coherent coherent)
      (expireTransactions_tidy coherent tidy)
  | shutdown =>
    show (host.react _).engine.Tidy
    rw [engine_react]
    exact tidy.shutdown coherent
  | advance | replaceTransport => exact tidy

/-- **Every state a host is found in is tidy.** -/
theorem Reachable.tidy (reachable : Reachable host) : host.engine.Tidy := by
  induction reachable with
  | new config transport now => exact Engine.Tidy.new config
  | step act before ih => exact step_tidy before.coherent ih act

/-- A path that is on record is so for a reason, in every state. -/
theorem Reachable.busy_path (reachable : Reachable host) {id : DataPathId} {path : DataPath}
    (found : host.engine.paths.get? id = some path) : path.isDone = false := by
  refine (pathSlot σ id).always (·.isDone = false) ?_ (fun moved _ => moved.busy) reachable found
  rintro _ _ _ _ ⟨_, _, entered⟩
  cases entered with
  | numbered | requested => simp [DataPath.isDone, DataPath.initiated, DataPath.requestedByPeer]

/-- So is a session at the end of a run. -/
theorem Reachable.busy_session (reachable : Reachable host) {id : SessionId}
    (vacant : host.engine.holds (.session id) = false) {acts : List (Act σ)} {session : Session}
    (found : (host.run acts).engine.sessions.get? id = some session) : session.isDone = false := by
  obtain ⟨before, span, _, lifetime, found'⟩ :=
    (sessionSlot σ id).lifetime_of_found reachable vacant found
  have account : Session.Account id ((sessionSlot σ id).get? _) _ :=
    (reachable.run before).sessionAccount lifetime
  rw [found'] at account
  exact account.busy

/-! ## Runs -/

/-- Nothing half done outlives the commands that it waits for. -/
structure NoLeftovers (start : Host σ) : Prop where
  /-- A session is active, or a stop of it is on file, or it is terminated and some command about it is
  on file. -/
  session : ∀ acts id session, (start.run acts).engine.sessions.get? id = some session →
    session.state = .active ∨
    (session.state = .terminating ∧ ∃ txn record,
      (start.run acts).engine.ledger.get? txn = some record ∧ record.context = .session id ∧
        record.kind = session.role.stopKind) ∨
    (session.state = .terminated ∧ ∃ txn record,
      (start.run acts).engine.ledger.get? txn = some record ∧ record.context = .session id)
  /-- So is some command about a path that is terminated. -/
  path : ∀ acts id path, (start.run acts).engine.paths.get? id = some path →
    path.state = .terminated → ∃ txn record,
      (start.run acts).engine.ledger.get? txn = some record ∧ record.context = .dataPath id
  /-- If no initiation is under way no event is held back. -/
  held : ∀ acts, (start.run acts).engine.paths.initiating = ∅ → (start.run acts).engine.paths.held = ∅
  /-- An initiation is under way only while its command is on file. -/
  initiating : ∀ acts txn request, (start.run acts).engine.paths.initiating[txn]? = some request →
    ∃ record, (start.run acts).engine.ledger.get? txn = some record ∧ record.context = .newDataPath
  /-- Once no command is on file nothing is under way. -/
  atRest : ∀ acts, (start.run acts).engine.ledger.isEmpty = true → (start.run acts).engine.AtRest
  /-- After a shutdown no command is on file. -/
  shutdown : ∀ acts, ((start.run acts).step .shutdown).engine.ledger.isEmpty = true
  /-- Nor is any after deadlines that have all come. -/
  expired : ∀ acts,
    (∀ txn record, (start.run acts).engine.ledger.get? txn = some record →
      record.deadline ≤ (start.run acts).now) →
    ((start.run acts).step .expireTransactions).engine.ledger.isEmpty = true

/-- **Nothing half done outlives the commands that it waits for**, in any run. -/
theorem run_noLeftovers (config : EngineConfig) (transport : σ) (now : Timestamp) :
    (Host.new config transport now).NoLeftovers := by
  have reachable := Reachable.new config transport now
  have vacant (place : Place) : (Host.new config transport now).engine.holds place = false :=
    Engine.holds_new config place
  generalize Host.new config transport now = start at reachable vacant
  have coherent (acts : List (Act σ)) := (reachable.run acts).coherent
  constructor
  case session =>
    intro acts id session found
    have sessions : (start.run acts).engine.sessions.Agrees _ := (coherent acts).agrees .sessions
    cases stage : session.state with
    | active => exact .inl rfl
    | terminating =>
      obtain ⟨txn, record, out, rest⟩ := (sessions.session found).stop_out stage
      exact .inr (.inl ⟨rfl, txn, record, (Ledger.docket_eq_some.mp out).1, rest⟩)
    | terminated =>
      have busy := reachable.busy_session (vacant (.session id)) found
      exact .inr (.inr ⟨rfl, (coherent acts).session_waits found busy stage⟩)
  case path =>
    intro acts id path found gone
    exact (coherent acts).path_waits found ((reachable.run acts).busy_path found) gone
  case held => exact fun acts => (reachable.run acts).tidy.held
  case initiating =>
    intro acts txn request there
    have paths : (start.run acts).engine.paths.Agrees _ := (coherent acts).agrees .paths
    obtain ⟨record, out, about⟩ := paths.out_of_initiating there
    exact ⟨record, (Ledger.docket_eq_some.mp out).1, about⟩
  case atRest =>
    intro acts empty
    refine (coherent acts).atRest (reachable.run acts).tidy ?_ ?_ (Ledger.isEmpty_iff.mp empty)
    · exact fun id session found => reachable.busy_session (vacant (.session id)) found
    · exact fun id path found => (reachable.run acts).busy_path found
  case shutdown =>
    intro acts
    refine Ledger.isEmpty_iff.mpr fun txn => ?_
    show ((start.run acts).react _).engine.ledger.get? txn = none
    rw [engine_react]
    exact Engine.get?_shutdown (coherent acts) txn
  case expired =>
    intro acts overdue
    refine Ledger.isEmpty_iff.mpr fun txn => ?_
    show ((start.run acts).react ((start.run acts).engine.expireTransactions
      (start.run acts).now).2).engine.ledger.get? txn = none
    rw [engine_react, Engine.expireTransactions_eq (coherent acts).filed,
      (coherent acts).giveUpAll_keeps, Ledger.get?_keep, Option.filter_eq_none_iff]
    intro record onFile
    simpa using overdue txn record onFile

/-- Nothing lives while the interface is down. -/
structure BareWhileDown (start : Host σ) : Prop where
  /-- There is no session and no start under way, no path and no initiation under way, and no event is
  held back. -/
  bare : ∀ acts,
    (start.run acts).engine.interface.phase = .disabled ∨
      (start.run acts).engine.interface.phase = .enabling →
    (start.run acts).engine.sessions.sessions = ∅ ∧ (start.run acts).engine.sessions.starting = ∅ ∧
      (start.run acts).engine.paths.paths = ∅ ∧ (start.run acts).engine.paths.initiating = ∅ ∧
      (start.run acts).engine.paths.held = ∅
  /-- No command about a session or a path is on file. -/
  idle : ∀ acts,
    (start.run acts).engine.interface.phase = .disabled ∨
      (start.run acts).engine.interface.phase = .enabling →
    ∀ txn record, (start.run acts).engine.ledger.get? txn = some record →
      record.context.isSessionOrPath = false
  /-- A configuration is in force just while the interface is up. -/
  applied : ∀ acts, (start.run acts).engine.interface.applied.isSome = true ↔
    (start.run acts).engine.interface.phase = .enabled ∨
      (start.run acts).engine.interface.phase = .reconfiguring ∨
      (start.run acts).engine.interface.phase = .disabling
  /-- One is on its way just while the answer to a configuration is awaited. -/
  staged : ∀ acts, (start.run acts).engine.interface.staged.isSome = true ↔
    (start.run acts).engine.interface.phase = .enabling ∨
      (start.run acts).engine.interface.phase = .reconfiguring

/-- **Nothing lives while the interface is down**, in any run. -/
theorem run_bareWhileDown (config : EngineConfig) (transport : σ) (now : Timestamp) :
    (Host.new config transport now).BareWhileDown := by
  have reachable := Reachable.new config transport now
  generalize Host.new config transport now = start at reachable
  have down {acts : List (Act σ)}
      (phase : (start.run acts).engine.interface.phase = .disabled ∨
        (start.run acts).engine.interface.phase = .enabling) :
      (start.run acts).engine.interface.phase.isDown = true := by
    rcases phase with phase | phase <;> rw [phase] <;> rfl
  constructor
  case bare =>
    intro acts phase
    obtain ⟨sessions, paths⟩ := (reachable.run acts).tidy.down (down phase)
    rw [sessions, paths]
    exact ⟨rfl, rfl, rfl, rfl, rfl⟩
  case idle =>
    intro acts phase txn record onFile
    refine Bool.eq_false_iff.mpr fun about => ?_
    have up := (reachable.run acts).tidy.up (reachable.run acts).coherent onFile about
    rw [down phase] at up
    cases up
  case applied =>
    intro acts
    have interface : (start.run acts).engine.interface.Agrees _ :=
      (reachable.run acts).coherent.agrees .interface
    exact interface.applied_iff
  case staged =>
    intro acts
    have interface : (start.run acts).engine.interface.Agrees _ :=
      (reachable.run acts).coherent.agrees .interface
    exact interface.staged_iff

end Host

end NanHost
