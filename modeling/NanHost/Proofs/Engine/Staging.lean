import NanHost.Proofs.Engine.Admission
import NanHost.Proofs.Engine.Courses

/-!
# Staging — what an accepted request makes of every session and every path

A request that was accepted has handed one command over, and moves the entry that it is about, if
there is one. Each check that it has passed says what it found of that entry.

## What is proved

- `courses_stage`: with its command, an accepted request is a course of every entry.
- `isSome_stage`: it removes no session.
- `answered_stage`: it leaves every answer that is out on record with its path.
-/

namespace NanHost

/-! ## Checks -/

/-- An answer is for a path whose request by the peer is open. -/
theorem DataPathTable.awaits_of_checkRespond {table : DataPathTable} {request : RespondRequest}
    {capabilities : Option Capabilities} (passed : table.checkRespond request capabilities = .ok ()) :
    ∃ path, table.get? request.pathId = some path ∧ path.awaitsAnswer = true := by
  unfold checkRespond at passed
  obtain ⟨path, live, rest⟩ := bind_eq_ok.mp passed
  rw [check_bind_eq_ok, require_eq_ok_iff] at rest
  exact ⟨path, (live_eq_ok.mp live).1, rest.1⟩

/-- An end is for a path that is up or asked for by a peer, and whose end was not asked for. -/
theorem DataPathTable.open_of_checkEnd {table : DataPathTable} {id : DataPathId}
    (passed : table.checkEnd id = .ok ()) :
    ∃ path, table.get? id = some path ∧
      (path.state = .confirmed ∨ path.state = .awaitingLocalResponse) ∧ path.endPending = false := by
  unfold checkEnd at passed
  obtain ⟨path, live, rest⟩ := bind_eq_ok.mp passed
  rw [require_eq_ok_iff] at rest
  exact ⟨path, (live_eq_ok.mp live).1, rest.1, by simpa using rest.2⟩

/-- A session that a command was sent about is not done. -/
theorem Session.busy_attach (session : Session) (txn : TransactionId)
    (pendingUpdate : Option (TransactionId × DiscoveryConfig)) :
    Session.isDone { session.attach txn with pendingUpdate := pendingUpdate } = false := by
  rw [Bool.eq_false_iff, ne_eq, Session.isDone_iff]
  exact fun done => done.2 txn (Session.mem_attach.mpr (.inl rfl))

namespace Engine

variable {engine : Engine} {record : TransactionRecord} {dispatch : Dispatch} {now : Timestamp}

/-- A stop is for a session that is active. -/
theorem active_of_vetStop {id : SessionId} {role : SessionRole} {command : Command}
    (admitted : engine.vetStop id role command = .ok dispatch) :
    ∃ session, engine.sessions.get? id = some session ∧ session.state = .active := by
  simp only [vetStop, check_bind_eq_ok, SessionRegistry.checkStop_eq_ok] at admitted
  obtain ⟨_, ⟨session, found, live, _, notStopping⟩, _⟩ := admitted
  exact ⟨session, found, Session.active_of_live live notStopping⟩

theorem awaits_of_vetRespond {request : RespondRequest}
    (admitted : engine.vetRespond request = .ok dispatch) :
    ∃ path, engine.paths.get? request.pathId = some path ∧ path.awaitsAnswer = true := by
  simp only [vetRespond, check_bind_eq_ok] at admitted
  obtain ⟨_, _, passed, _⟩ := admitted
  exact DataPathTable.awaits_of_checkRespond passed

theorem vetEnd_ok {id : DataPathId} (admitted : engine.vet (.endDataPath id) = .ok dispatch) :
    dispatch = ⟨.endDataPath id, .dataPath id⟩ ∧
      ∃ path, engine.paths.get? id = some path ∧
        (path.state = .confirmed ∨ path.state = .awaitingLocalResponse) ∧
          path.endPending = false := by
  obtain ⟨_, rest⟩ := check_bind_eq_ok.mp admitted
  obtain ⟨passed, handed⟩ := check_bind_eq_ok.mp rest
  exact ⟨(pure_eq_ok.mp handed).symm, DataPathTable.open_of_checkEnd passed⟩

/-! ## What is staged -/

/-- A command that concerns no entry, and moves none. -/
theorem courses_issued {move : SessionId → Session → List Effect → Option Session → Prop}
    {next : Engine} {txn : TransactionId} {command : Command} (silent : command.place? = none)
    (sessions : next.sessions.sessions = engine.sessions.sessions)
    (paths : next.paths.paths = engine.paths.paths)
    (graceMs : next.paths.graceMs = engine.paths.graceMs) :
    engine.Courses move now [.issued txn command] next := by
  refine .still (fun place effect member => ?_) sessions paths graceMs
  obtain rfl := List.mem_singleton.mp member
  rw [Effect.place?, silent]
  exact Option.some_ne_none place |>.symm

/-- A start enters no session yet; an update is noted with its session. -/
theorem courses_stageDiscovery {id : SessionId} {config : DiscoveryConfig}
    (admitted : engine.vetDiscovery id config = .ok dispatch) (txn : TransactionId)
    (ledger : Ledger) :
    engine.Courses Session.Move now [.issued txn dispatch.command]
      ((engine.upon ledger).stageDiscovery txn id config) := by
  obtain ⟨command, about⟩ := vetDiscovery_ok admitted
  have silent : dispatch.command.place? = none := by
    rw [command]
    cases config <;> rfl
  unfold stageDiscovery
  rcases about with ⟨assigned, _⟩ | ⟨assigned, _, session, found, _⟩
  · rw [if_neg (by simp [assigned])]
    exact courses_issued silent rfl rfl rfl
  · have stage : ({ session.attach txn with pendingUpdate := some (txn, config) } : Session).state =
        session.state := rfl
    have updated : engine.Courses enduring now [] _ :=
      .use_session found stage (Session.busy_attach session txn _) ledger
    have begun : (engine.upon ledger).sessions.beginUpdate id txn config = _ :=
      SessionRegistry.update_eq_put found _
    rw [if_pos assigned, begun]
    exact updated.of_enduring.append (courses_issued silent rfl rfl rfl)

theorem courses_stageStop {id : SessionId} {role : SessionRole} {command : Command}
    (about : command = .stopPublish id ∨ command = .stopSubscribe id)
    (admitted : engine.vetStop id role command = .ok dispatch) (txn : TransactionId)
    (ledger : Ledger) :
    engine.Courses Session.Move now [.issued txn dispatch.command]
      { engine with ledger := ledger, sessions := engine.sessions.beginStop id txn } := by
  obtain ⟨session, found, active⟩ := active_of_vetStop admitted
  obtain ⟨rfl, _⟩ := vetStop_ok admitted
  have asked : Session.Move id session _ _ := .stopAsked txn command about active
  rw [SessionRegistry.beginStop, SessionRegistry.update_eq_put found]
  exact .put_session found asked asked.place ledger

/-- **With its command, an accepted request is a course of every entry.** -/
theorem courses_stage {request : Request} (admitted : engine.vet request = .ok dispatch)
    (txn : TransactionId) (ledger : Ledger) :
    engine.Courses Session.Move now [.issued txn dispatch.command]
      ((engine.upon ledger).stage txn request) := by
  cases request with
  | getCapabilities =>
    obtain rfl := pure_eq_ok.mp admitted
    exact courses_issued rfl rfl rfl rfl
  | enable request =>
    obtain ⟨initial, _, rest⟩ := bind_eq_ok.mp admitted
    rw [check_bind_eq_ok, pure_eq_ok] at rest
    obtain ⟨_, rfl⟩ := rest
    exact courses_issued rfl rfl rfl rfl
  | disable =>
    obtain ⟨_, handed⟩ := check_bind_eq_ok.mp admitted
    obtain rfl := pure_eq_ok.mp handed
    exact courses_issued rfl rfl rfl rfl
  | publish id config => exact courses_stageDiscovery admitted txn ledger
  | subscribe id config => exact courses_stageDiscovery admitted txn ledger
  | sendMessage id peer payload =>
    obtain ⟨⟨address, rfl⟩, session, found⟩ := vetMessage_ok admitted
    have stage : (session.attach txn).state = session.state := rfl
    have sent : engine.Courses enduring now [] _ :=
      .use_session found stage (Session.busy_attach session txn _) ledger
    have begun : (engine.upon ledger).sessions.attach id txn = _ :=
      SessionRegistry.update_eq_put found _
    rw [Engine.stage, begun]
    exact sent.of_enduring.append (courses_issued rfl rfl rfl rfl)
  | stopPublish id => exact courses_stageStop (.inl rfl) admitted txn ledger
  | stopSubscribe id => exact courses_stageStop (.inr rfl) admitted txn ledger
  | createInterface name =>
    obtain ⟨rfl, _⟩ := vetCreate_ok admitted
    exact courses_issued rfl rfl rfl rfl
  | deleteInterface name =>
    obtain ⟨rfl, _⟩ := vetDelete_ok admitted
    exact courses_issued rfl rfl rfl rfl
  | initiateDataPath request =>
    obtain rfl := vetInitiate_ok admitted
    exact courses_issued rfl rfl rfl rfl
  | respondDataPath request =>
    obtain ⟨path, found, awaits⟩ := awaits_of_vetRespond admitted
    obtain ⟨rfl, _⟩ := vetRespond_ok admitted
    have begun : (engine.upon ledger).paths.beginRespond txn request = _ :=
      DataPathTable.update_eq_put found _
    rw [Engine.stage, begun]
    exact .put_path found (.answered txn request _ rfl awaits) ledger
  | endDataPath id =>
    obtain ⟨rfl, path, found, stage, notAsked⟩ := vetEnd_ok admitted
    have begun : (engine.upon ledger).paths.beginEnd id txn = _ :=
      DataPathTable.update_eq_put found _
    rw [Engine.stage, begun]
    exact .put_path found (.endAsked txn stage notAsked) ledger

/-- **An accepted request removes no session.** -/
theorem isSome_stage (engine : Engine) (txn : TransactionId) (request : Request) (id : SessionId) :
    ((engine.stage txn request).sessions.get? id).isSome = (engine.sessions.get? id).isSome := by
  have updated (other : SessionId) (change : Session → Session) :
      ((engine.sessions.update other change).get? id).isSome =
        (engine.sessions.get? id).isSome := by
    unfold SessionRegistry.get? SessionRegistry.update
    rw [Tables.getElem?_modify]
    split
    next here => rw [Option.isSome_map, here]
    next => rfl
  have discovery (other : SessionId) (config : DiscoveryConfig) :
      ((engine.stageDiscovery txn other config).sessions.get? id).isSome =
        (engine.sessions.get? id).isSome := by
    unfold stageDiscovery
    split
    · exact updated _ _
    · rfl
  cases request with
  | publish | subscribe => exact discovery _ _
  | sendMessage | stopPublish | stopSubscribe => exact updated _ _
  | _ => rfl

/-- **An answer that is accepted is on record with its path**, and those that were are still. -/
theorem answered_stage (coherent : engine.Coherent) (answered : engine.Answered)
    {request : Request} (admitted : engine.vet request = .ok dispatch)
    (opens : engine.ledger.Opens record dispatch .caller) :
    ((engine.upon (engine.ledger.file record)).stage record.id request).Answered := by
  have ledger : ((engine.upon (engine.ledger.file record)).stage record.id request).ledger =
      engine.ledger.file record := by
    cases request <;> rfl
  have courses : engine.Courses Session.Move record.issuedAt _ _ :=
    courses_stage admitted record.id (engine.ledger.file record)
  intro txn other id last onFile kind about origin here
  rw [ledger, Ledger.get?_file] at onFile
  split at onFile
  next =>
    obtain rfl := Option.some.inj onFile
    have answers : request.kind = .respondDataPath := by
      rw [← kind_of_vet admitted, ← opens.kind, kind]
    cases request with
    | respondDataPath request =>
      obtain ⟨path, found, awaits⟩ := awaits_of_vetRespond admitted
      obtain ⟨rfl, _⟩ := vetRespond_ok admitted
      have same : request.pathId = id := PendingContext.dataPath.inj (opens.context.symm.trans about)
      have begun : (engine.upon (engine.ledger.file record)).paths.beginRespond record.id request =
          _ := DataPathTable.update_eq_put found _
      rw [Engine.stage, begun, DataPathTable.get?_put, if_pos same.symm] at here
      obtain rfl := Option.some.inj here
      unfold DataPath.answered
      split <;> rfl
    | _ => cases answers
  next =>
    have paths : engine.paths.Agrees _ := coherent.agrees .paths
    obtain ⟨path, found, _⟩ := paths.path_of_out
      (Ledger.docket_eq_some.mpr ⟨onFile, by rw [about]; rfl⟩) about
    obtain ⟨accepted, given⟩ :=
      Option.isSome_iff_exists.mp (answered _ _ _ _ onFile kind about origin found)
    rw [(courses.follows found here).answer accepted given]
    rfl

end Engine

end NanHost
