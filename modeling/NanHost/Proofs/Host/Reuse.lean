import NanHost.Proofs.Host.Lifetime

/-!
# Reuse — a number that is used again inherits no command

The firmware uses the numbers of sessions and paths again. A command that was sent about one session
must not end up with another that has got the same number since, however late its answer is. What
stands between them is that an entry is kept, terminated or not, as long as a command about it is on
file, and that no entry comes into being where there is one.

## What is proved

`run_oneLifetime`: while a command about a session or a path is on file, from the step that files it to
the step that takes it off, one and the same lifetime of the entry goes on. An entry comes into being
only under a number that no command on file is about. An answer of the firmware that gives a number
that is taken is reported as invalid, a request of a peer under such a number is ignored, and the
entries stay as they are.

The step lemma is `Reachable.holds_of_filed`: where a command is on file after a step, the entry that
it is about was there before.
-/

namespace NanHost

/-- The entry that a command on file is about. A start or an initiation is about none yet. -/
def PendingContext.place? : PendingContext → Option Place
  | session id => some (.session id)
  | dataPath id => some (.path id)
  | _ => none

/-! ## Beginnings are told by nothing else -/

/-- No move of a session tells of a beginning. -/
theorem Session.Move.opens? {id : SessionId} {session : Session} {effects : List Effect}
    {entry : Option Session} (move : Move id session effects entry) :
    ∀ effect ∈ effects, effect.opens? = none := by
  cases move with
  | endures => simp
  | stopAsked => simp [Effect.opens?]
  | ended | fell => split <;> simp [Effect.opens?, Notification.opens?]

/-- Nor does any move of a path. -/
theorem DataPath.Move.opens? {id : DataPathId} {now : Timestamp} {path : DataPath}
    {effects : List Effect} {entry : Option DataPath} (move : Move id now path effects entry) :
    ∀ effect ∈ effects, effect.opens? = none := by
  cases move with
  | ended | failed | fell => split <;> simp [Effect.opens?, Notification.opens?]
  | _ => simp [Effect.opens?, Notification.opens?]

/-- So none comes out about an entry that is there. -/
theorem Course.opens? {α : Type} {place : Place} {move : α → List Effect → Option α → Prop}
    {entry next : Option α} {effects : List Effect}
    (moves : ∀ {entry effects next}, move entry effects next →
      ∀ effect ∈ effects, effect.opens? = none)
    (course : Course place move entry effects next) :
    ∀ effect ∈ effects, effect.opens? ≠ some place := by
  have kept := course.keeps (fun _ log => ∀ effect ∈ log, effect.opens? ≠ some place) ?_ ?_ []
    (by simp)
  · simpa using kept
  · intro entry log effects quiet before effect member
    rcases List.mem_append.mp member with earlier | now
    · exact before effect earlier
    · exact fun opens => quiet effect now (Effect.place?_of_opens? opens)
  · intro entry log effects next moved before effect member
    rcases List.mem_append.mp member with earlier | now
    · exact before effect earlier
    · simp [moves moved effect now]

namespace Host

variable {σ : Type} [Transport σ] {host : Host σ}

/-- A slot of which no move tells of a beginning, and into which a report of the firmware alone brings
an entry. -/
structure Slot.Lawful {α : Type} (slot : Slot σ α) : Prop where
  moves : ∀ {now entry effects next}, slot.move now entry effects next →
    ∀ effect ∈ effects, effect.opens? = none
  enters : ∀ {host act effects entry}, slot.enters host act effects entry →
    ∃ event, act = .handle event

theorem sessionSlot_lawful (id : SessionId) : (sessionSlot σ id).Lawful where
  moves moved := moved.opens?
  enters := fun ⟨event, same, _⟩ => ⟨event, same⟩

theorem pathSlot_lawful (id : DataPathId) : (pathSlot σ id).Lawful where
  moves moved := moved.opens?
  enters := fun ⟨event, same, _⟩ => ⟨event, same⟩

/-- The beginning of an entry is told where there was none, and by a report of the firmware. -/
theorem Slot.Lawful.opened {α : Type} {slot : Slot σ α} (lawful : slot.Lawful)
    (reachable : Reachable host) {act : Act σ} {effect : Effect} (member : effect ∈ host.emitted [act])
    (opens : effect.opens? = some slot.place) :
    host.engine.holds slot.place = false ∧ ∃ event, act = .handle event := by
  have passage := slot.passage reachable act
  generalize found : slot.get? host = entry, host.emitted [act] = effects at passage member
  cases passage with
  | course course => exact absurd opens (course.opens? lawful.moves effect member)
  | enter entered course => exact ⟨slot.get?_eq_none_iff.mp found, lawful.enters entered⟩

/-- **An entry comes into being where there was none, and by a report of the firmware.** -/
theorem Reachable.opened (reachable : Reachable host) {act : Act σ} {place : Place} {effect : Effect}
    (member : effect ∈ host.emitted [act]) (opens : effect.opens? = some place) :
    host.engine.holds place = false ∧ ∃ event, act = .handle event := by
  cases place with
  | session id => exact (sessionSlot_lawful id).opened reachable member opens
  | path id => exact (pathSlot_lawful id).opened reachable member opens

/-- An entry that is there is so because a lifetime of it has begun. -/
theorem Reachable.lifetime_of_holds (reachable : Reachable host) {place : Place}
    (vacant : host.engine.holds place = false) {acts : List (Act σ)}
    (there : (host.run acts).engine.holds place = true) :
    ∃ before span, acts = before ++ span ∧ (host.run before).Lifetime place span := by
  cases place with
  | session id => exact (sessionSlot σ id).lifetime_of_holds reachable vacant there
  | path id => exact (pathSlot σ id).lifetime_of_holds reachable vacant there

/-- In a step after which there is an entry that was not there before, its beginning is told. -/
theorem Reachable.opens_of_vacant (reachable : Reachable host) {act : Act σ} {place : Place}
    (vacant : host.engine.holds place = false)
    (there : (host.step act).engine.holds place = true) :
    ∃ effect ∈ host.emitted [act], effect.opens? = some place := by
  have stays (absent : (host.step act).engine.holds place = false) : False := by
    rw [there] at absent
    cases absent
  cases place with
  | session id =>
    exact ((sessionSlot σ id).vacant_step reachable vacant act).resolve_right fun still =>
      stays still.1
  | path id =>
    exact ((pathSlot σ id).vacant_step reachable vacant act).resolve_right fun still =>
      stays still.1

end Host

/-! ## Commands on file -/

variable {record : TransactionRecord} {txn : TransactionId} {place : Place}

/-- The entry that a command on file is about is there. -/
theorem Engine.Coherent.holds {engine : Engine} (coherent : engine.Coherent)
    (onFile : engine.ledger.get? txn = some record) (about : record.context.place? = some place) :
    engine.holds place = true := by
  have sessions : engine.sessions.Agrees _ := coherent.agrees .sessions
  have paths : engine.paths.Agrees _ := coherent.agrees .paths
  cases context : record.context with
  | session id =>
    rw [context] at about
    obtain rfl := Option.some.inj about
    obtain ⟨session, found⟩ := sessions.present
      (Ledger.docket_eq_some.mpr ⟨onFile, by rw [context]; rfl⟩) context
    exact Option.isSome_of_eq_some found
  | dataPath id =>
    rw [context] at about
    obtain rfl := Option.some.inj about
    obtain ⟨path, found⟩ := paths.present
      (Ledger.docket_eq_some.mpr ⟨onFile, by rw [context]; rfl⟩) context
    exact Option.isSome_of_eq_some found
  | _ =>
    rw [context] at about
    cases about

namespace Host

variable {σ : Type} [Transport σ] {host : Host σ} {span : List (Act σ)} {act : Act σ}

/-- **Where a command is on file after a step, the entry that it is about was there before.** The step
may have filed it, but then it was no report of the firmware. -/
theorem Reachable.holds_of_filed (reachable : Reachable host)
    (onFile : (host.step act).engine.ledger.get? txn = some record)
    (about : record.context.place? = some place) : host.engine.holds place = true := by
  have there := (reachable.step act).coherent.holds onFile about
  by_contra vacant
  rw [Bool.not_eq_true] at vacant
  obtain ⟨effect, member, opens⟩ := reachable.opens_of_vacant vacant there
  obtain ⟨_, event, rfl⟩ := reachable.opened member opens
  obtain ⟨condition, keeps⟩ := reachable.coherent.handle_keeps host.now event
  have before : host.engine.ledger.get? txn = some record := by
    have onFile : (host.react _).engine.ledger.get? txn = some record := onFile
    rw [engine_react, keeps, Ledger.get?_keep, Option.filter_eq_some_iff] at onFile
    exact onFile.1
  have held := reachable.coherent.holds before about
  rw [vacant] at held
  cases held

/-- A span of a run that begins with a step after which a command is on file, such as the one that
files it, and goes on as long as it is on file: its last step may take it off. -/
inductive Outstanding (host : Host σ) (record : TransactionRecord) : List (Act σ) → Prop
  | filed (act : Act σ) (onFile : (host.step act).engine.ledger.get? record.id = some record) :
    Outstanding host record [act]
  | onFile {span : List (Act σ)} (outstanding : Outstanding host record span)
    (onFile : (host.run span).engine.ledger.get? record.id = some record) (act : Act σ) :
    Outstanding host record (span ++ [act])

/-- The entry that the command is about is there before each of the steps. -/
theorem Outstanding.holds (outstanding : host.Outstanding record span) (reachable : Reachable host)
    (about : record.context.place? = some place) : host.engine.holds place = true := by
  induction outstanding with
  | filed act onFile => exact reachable.holds_of_filed onFile about
  | onFile _ _ _ ih => exact ih

/-- **A lifetime of the entry goes on while the command is outstanding.** -/
theorem Outstanding.lifetime (outstanding : host.Outstanding record span) {first : Host σ}
    {life : List (Act σ)} (same : host = first.run life) (reachable : Reachable host)
    (lifetime : first.Lifetime place life) (about : record.context.place? = some place) :
    first.Lifetime place (life ++ span) := by
  have before := outstanding.holds reachable about
  subst same
  induction outstanding with
  | filed act => exact lifetime.extend before act
  | onFile outstanding onFile act ih =>
    rw [← List.append_assoc]
    refine ih.extend ?_ act
    rw [run_append]
    exact (reachable.run _).coherent.holds onFile about

/-- No beginning of the entry is told meanwhile. -/
theorem Outstanding.silent (outstanding : host.Outstanding record span) (reachable : Reachable host)
    (about : record.context.place? = some place) :
    ∀ effect ∈ host.emitted span, effect.opens? ≠ some place := by
  have taken {start : Host σ} (reachable : Reachable start) (held : start.engine.holds place = true)
      (act : Act σ) : ∀ effect ∈ start.emitted [act], effect.opens? ≠ some place := by
    intro effect member opens
    rw [(reachable.opened member opens).1] at held
    cases held
  induction outstanding with
  | filed act onFile => exact taken reachable (reachable.holds_of_filed onFile about) act
  | onFile outstanding onFile act ih =>
    rw [reachable.emitted_append]
    intro effect member
    rcases List.mem_append.mp member with earlier | now
    · exact ih effect earlier
    · exact taken (reachable.run _) ((reachable.run _).coherent.holds onFile about) act effect now

end Host

/-! ## Numbers that are taken -/

/-- A start cannot be entered under a number that is taken. -/
theorem SessionRegistry.resolveNew_taken {registry : SessionRegistry} {config : DiscoveryConfig}
    {id : SessionId} (found : registry.starting[txn]? = some config) (assigned : id.isAssigned = true)
    (taken : (registry.get? id).isSome = true) :
    registry.resolveNew txn (.ok id) = (.error (.invalidAnswer .duplicateSessionId),
      { registry with starting := registry.starting.erase txn }) := by
  have there : registry.sessions.contains id = true :=
    Std.ExtTreeMap.contains_eq_isSome_getElem?.trans taken
  simp [resolveNew, found, assigned, there]

/-- Nor can an initiation. -/
theorem DataPathTable.resolveInitiate_taken {table : DataPathTable} {request : InitiateRequest}
    {id : DataPathId} (found : table.initiating[txn]? = some request) (assigned : id.isAssigned = true)
    (taken : (table.get? id).isSome = true) :
    table.resolveInitiate txn (.ok id) = (.error (.invalidAnswer .duplicatePathId),
      { table with initiating := table.initiating.erase txn }.closing none) := by
  have there : table.paths.contains id = true := (contains_paths table id).trans taken
  rw [resolveInitiate_of_found found]
  simp [enterInitiated, assigned, there, Except.toOption]

namespace Engine.Coherent

variable {engine : Engine}

/-- **A start that is answered by a number that is taken is reported as failed**, and all sessions stay
as they are. -/
theorem onCompleted_takenSession (coherent : engine.Coherent)
    (onFile : engine.ledger.get? txn = some record) {role : SessionRole}
    (start : record.context = .newSession role) {id : SessionId}
    (taken : engine.holds (.session id) = true) :
    engine.onCompleted txn (.ok (.sessionId id)) =
      ({ engine with
          ledger := engine.ledger.rollback txn
          sessions := { engine.sessions with starting := engine.sessions.starting.erase txn } },
        [.completed ⟨txn, record.kind, .error (.invalidAnswer .duplicateSessionId)⟩]) := by
  obtain rfl : record.id = txn := coherent.filed.own onFile
  have sessions : engine.sessions.Agrees _ := coherent.agrees .sessions
  obtain ⟨config, found, _⟩ := sessions.starting_of_out
    (Ledger.docket_eq_some.mpr ⟨onFile, by rw [start]; rfl⟩) start
  obtain ⟨session, there⟩ := Option.isSome_iff_exists.mp taken
  have resolved := SessionRegistry.resolveNew_taken found (sessions.assigned there) taken
  have settled : (engine.upon (engine.ledger.rollback record.id)).settleStart record.id
      (.ok (.sessionId id)) = ⟨.error (.invalidAnswer .duplicateSessionId),
        { engine with
          ledger := engine.ledger.rollback record.id
          sessions := { engine.sessions with starting := engine.sessions.starting.erase record.id } },
        []⟩ := by
    have resolved : (engine.upon (engine.ledger.rollback record.id)).sessions.resolveNew record.id
      (.ok id) = _ := resolved
    simp only [settleStart, Outcome.sessionId, resolved]
    rfl
  rw [coherent.onCompleted_beginning onFile (by rw [start]; rfl) (by simp [start]),
    coherent.settleByItself_newSession onFile start]
  show Engine.announce record (Engine.settleStart _ record.id (.ok (.sessionId id))) = _
  rw [settled]
  rfl

/-- **So is an initiation**, and all paths stay as they are. -/
theorem onCompleted_takenPath (coherent : engine.Coherent)
    (onFile : engine.ledger.get? txn = some record) (start : record.context = .newDataPath)
    {id : DataPathId} (taken : engine.holds (.path id) = true) :
    engine.onCompleted txn (.ok (.pathId id)) =
      ({ engine with
          ledger := engine.ledger.rollback txn
          paths := { engine.paths with
            initiating := engine.paths.initiating.erase txn }.closing none },
        [.completed ⟨txn, record.kind, .error (.invalidAnswer .duplicatePathId)⟩]) := by
  obtain rfl : record.id = txn := coherent.filed.own onFile
  have paths : engine.paths.Agrees _ := coherent.agrees .paths
  obtain ⟨request, found⟩ := paths.initiating_of_out
    (Ledger.docket_eq_some.mpr ⟨onFile, by rw [start]; rfl⟩) start
  obtain ⟨path, there⟩ := Option.isSome_iff_exists.mp taken
  have resolved := DataPathTable.resolveInitiate_taken found (paths.assigned there) taken
  have settled : (engine.upon (engine.ledger.rollback record.id)).settleInitiate record.id
      (.ok (.pathId id)) = ⟨.error (.invalidAnswer .duplicatePathId),
        { engine with
          ledger := engine.ledger.rollback record.id
          paths := { engine.paths with
            initiating := engine.paths.initiating.erase record.id }.closing none },
        []⟩ := by
    have resolved : (engine.upon (engine.ledger.rollback record.id)).paths.resolveInitiate record.id
      (.ok id) = _ := resolved
    simp only [settleInitiate, Outcome.pathId, resolved]
    rfl
  rw [coherent.onCompleted_beginning onFile (by rw [start]; rfl) (by simp [start]),
    coherent.settleByItself_newDataPath onFile start]
  show Engine.announce record (Engine.settleInitiate _ record.id (.ok (.pathId id))) = _
  rw [settled]
  rfl

end Engine.Coherent

/-- The request of a peer under a number that is taken is ignored. -/
theorem Engine.onPathRequested_taken {engine : Engine} {id : DataPathId}
    (taken : engine.holds (.path id) = true) (peer : PeerId) (address : MacAddress)
    (appInfo : ByteArray) (now : Timestamp) :
    engine.onPathRequested id peer address appInfo now = engine.quiet := by
  have there : engine.paths.paths.contains id = true :=
    (DataPathTable.contains_paths engine.paths id).trans taken
  unfold onPathRequested DataPathTable.onRequest
  simp [there, quiet]

namespace Host

variable {σ : Type} [Transport σ] {host : Host σ}

/-- What comes out when a report of the firmware is handled is what the caller is told. -/
theorem emitted_handle (host : Host σ) (event : FirmwareEvent) :
    host.emitted [.handle event] = (host.engine.handle host.now event).2.map .told :=
  emitted_react rfl

/-- A number that is used again inherits no command. -/
structure OneLifetime (start : Host σ) : Prop where
  /-- The entry that a command on file is about is there. -/
  there : ∀ acts txn record place, (start.run acts).engine.ledger.get? txn = some record →
    record.context.place? = some place → (start.run acts).engine.holds place = true
  /-- From the step that files a command about an entry to the step that takes it off, one lifetime of
  the entry goes on, which had begun before, and no other begins. -/
  within : ∀ acts span record place, (start.run acts).Outstanding record span →
    record.context.place? = some place →
    ∃ before life, acts = before ++ life ∧ (start.run before).Lifetime place life ∧
      (start.run before).Lifetime place (life ++ span) ∧
      ∀ effect ∈ (start.run acts).emitted span, effect.opens? ≠ some place
  /-- An entry comes into being only where there is none, and no command on file is about it. -/
  created : ∀ acts act place,
    (start.run acts).engine.holds place = false ∧
        ((start.run acts).step act).engine.holds place = true ∨
      (∃ effect ∈ (start.run acts).emitted [act], effect.opens? = some place) →
    (start.run acts).engine.holds place = false ∧
      ∀ txn record, (start.run acts).engine.ledger.get? txn = some record →
        record.context.place? ≠ some place
  /-- A start that is answered by a number that is taken is reported as failed, and no entry changes. -/
  takenSession : ∀ acts txn record role id,
    (start.run acts).engine.ledger.get? txn = some record → record.context = .newSession role →
    (start.run acts).engine.holds (.session id) = true →
    let act : Act σ := .handle (.commandCompleted txn (.ok (.sessionId id)))
    (start.run acts).emitted [act] =
        [.told (.completed ⟨txn, record.kind, .error (.invalidAnswer .duplicateSessionId)⟩)] ∧
      ((start.run acts).step act).engine.sessions.sessions = (start.run acts).engine.sessions.sessions ∧
      ((start.run acts).step act).engine.paths = (start.run acts).engine.paths
  /-- So is an initiation. -/
  takenPath : ∀ acts txn record id,
    (start.run acts).engine.ledger.get? txn = some record → record.context = .newDataPath →
    (start.run acts).engine.holds (.path id) = true →
    let act : Act σ := .handle (.commandCompleted txn (.ok (.pathId id)))
    (start.run acts).emitted [act] =
        [.told (.completed ⟨txn, record.kind, .error (.invalidAnswer .duplicatePathId)⟩)] ∧
      ((start.run acts).step act).engine.paths.paths = (start.run acts).engine.paths.paths ∧
      ((start.run acts).step act).engine.sessions = (start.run acts).engine.sessions
  /-- The request of a peer under a number that is taken is ignored. -/
  ignored : ∀ acts id peer address appInfo, (start.run acts).engine.holds (.path id) = true →
    (start.run acts).step (.handle (.dataPathRequested id peer address appInfo)) = start.run acts

/-- **A number that is used again inherits no command**, in any run. -/
theorem run_oneLifetime (config : EngineConfig) (transport : σ) (now : Timestamp) :
    (Host.new config transport now).OneLifetime := by
  have reachable := Reachable.new config transport now
  have vacant (place : Place) : (Host.new config transport now).engine.holds place = false :=
    Engine.holds_new config place
  generalize Host.new config transport now = start at reachable vacant
  constructor
  case there => exact fun acts _ _ _ => (reachable.run acts).coherent.holds
  case within =>
    intro acts span record place outstanding about
    have there := outstanding.holds (reachable.run acts) about
    obtain ⟨before, life, rfl, lifetime⟩ := reachable.lifetime_of_holds (vacant place) there
    refine ⟨before, life, rfl, lifetime, ?_, outstanding.silent (reachable.run _) about⟩
    exact outstanding.lifetime (run_append ..) (reachable.run _) lifetime about
  case created =>
    intro acts act place comes
    obtain ⟨effect, member, opens⟩ : ∃ effect ∈ (start.run acts).emitted [act],
        effect.opens? = some place := by
      rcases comes with ⟨free, there⟩ | told
      · exact (reachable.run acts).opens_of_vacant free there
      · exact told
    have free := ((reachable.run acts).opened member opens).1
    refine ⟨free, fun txn record onFile about => ?_⟩
    rw [(reachable.run acts).coherent.holds onFile about] at free
    cases free
  case takenSession =>
    intro acts txn record role id onFile about taken
    have reaction : (start.run acts).engine.handle (start.run acts).now
        (.commandCompleted txn (.ok (.sessionId id))) = _ :=
      (reachable.run acts).coherent.onCompleted_takenSession onFile about taken
    dsimp only
    rw [emitted_handle, step, handle, engine_react, reaction]
    exact ⟨rfl, rfl, rfl⟩
  case takenPath =>
    intro acts txn record id onFile about taken
    have reaction : (start.run acts).engine.handle (start.run acts).now
        (.commandCompleted txn (.ok (.pathId id))) = _ :=
      (reachable.run acts).coherent.onCompleted_takenPath onFile about taken
    dsimp only
    rw [emitted_handle, step, handle, engine_react, reaction]
    refine ⟨rfl, ?_, rfl⟩
    dsimp only
    rw [DataPathTable.closing_eq]
  case ignored =>
    intro acts id peer address appInfo taken
    have reaction : (start.run acts).engine.handle (start.run acts).now
        (.dataPathRequested id peer address appInfo) = (start.run acts).engine.quiet :=
      Engine.onPathRequested_taken taken peer address appInfo _
    rw [step, handle, reaction, react_eq]
    simp [Engine.quiet]

/-- A session that the firmware has ended stays on record until the answer to its stop is in. The
firmware gives its number to a new session too soon, and the start fails. -/
example :
    let host := (Host.new .standard Recorder.new ⟨0⟩).run
      [.submit (.enable .standard), .handle (.commandCompleted ⟨1⟩ (.ok .empty)),
        .submit (.publish ⟨0⟩ (.named "printer")),
        .handle (.commandCompleted ⟨2⟩ (.ok (.sessionId ⟨9⟩))), .submit (.stopPublish ⟨9⟩),
        .handle (.sessionTerminated ⟨9⟩ ⟨0⟩), .submit (.publish ⟨0⟩ (.named "scanner"))]
    host.emitted [.handle (.commandCompleted ⟨4⟩ (.ok (.sessionId ⟨9⟩)))] =
      [.told (.completed ⟨⟨4⟩, .publish, .error (.invalidAnswer .duplicateSessionId)⟩)] := by
  decide +kernel

end Host

end NanHost
