import NanHost.Proofs.Engine.Courses

/-!
# Passages — what a report of the firmware makes of every session and every path

A report can bring entries into being, move them, and take them all down at once.

## What is proved

- `Coherent.courses_cascade`: when the interface goes down every entry falls with it. It is reported
  once if it was open to the caller, and not at all otherwise.
- `Coherent.passages_handle`: a report of the firmware is a passage of every entry.
- `Coherent.passages_enduring`: if it ends no session and does not take the interface down, a session
  that is active stays so.
-/

namespace NanHost

/-! ## Lists of reports -/

section

variable {α : Type} {items : List α} {tell : α → Effect} {key : α → Place}

/-- Reports about other entries. -/
theorem Quiet.map {place : Place} (tells : ∀ item, (tell item).place? = some (key item))
    (absent : place ∉ items.map key) : Quiet place (items.map tell) := by
  intro effect member about
  obtain ⟨item, there, rfl⟩ := List.mem_map.mp member
  rw [tells] at about
  exact absent (List.mem_map.mpr ⟨item, there, Option.some.inj about⟩)

/-- A report among reports about different entries is the only one about its own. -/
theorem exists_split (tells : ∀ item, (tell item).place? = some (key item))
    (distinct : (items.map key).Nodup) {item : α} (member : item ∈ items) :
    ∃ before after, items.map tell = before ++ tell item :: after ∧ Quiet (key item) before ∧
      Quiet (key item) after := by
  obtain ⟨first, last, rfl⟩ := List.append_of_mem member
  simp only [List.map_append, List.map_cons] at distinct ⊢
  obtain ⟨_, distinct, apart⟩ := List.nodup_append.mp distinct
  refine ⟨_, _, rfl, .map tells fun there => ?_, .map tells fun there => ?_⟩
  · exact apart _ there _ (List.mem_cons_self ..) rfl
  · exact (List.nodup_cons.mp distinct).1 there

/-- **An entry falls**, and is reported in a list of reports about different entries if it is in the
list. -/
theorem Course.falls {β : Type} {move : β → List Effect → Option β → Prop} {entry : Option β}
    {place : Place} (tells : ∀ item, (tell item).place? = some (key item))
    (distinct : (items.map key).Nodup)
    (listed : ∀ fallen, entry = some fallen →
      (∃ item ∈ items, key item = place ∧ move fallen [tell item] none) ∨
        place ∉ items.map key ∧ move fallen [] none)
    (absent : entry = none → place ∉ items.map key) :
    Course place move entry (items.map tell) none := by
  cases entry with
  | none => exact .still (.map tells (absent rfl))
  | some fallen =>
    rcases listed fallen rfl with ⟨item, member, rfl, fell⟩ | ⟨unlisted, fell⟩
    · obtain ⟨before, after, split, quiet, quiet'⟩ := exists_split tells distinct member
      rw [split]
      exact (Course.still quiet).append ((Course.move fell).append (.still quiet'))
    · exact (Course.move fell).append (.still (.map tells unlisted))

end

/-! ## Rosters -/

theorem SessionRegistry.mem_roster {registry : SessionRegistry} {docket : Docket}
    (agrees : registry.Agrees docket) {condition : Session → Bool} {id : SessionId}
    {role : SessionRole} :
    (id, role) ∈ registry.roster condition ↔
      ∃ session, registry.get? id = some session ∧ condition session = true ∧
        session.role = role := by
  simp only [roster, List.mem_map, List.mem_filter, mem_toList, Prod.mk.injEq]
  constructor
  · rintro ⟨session, ⟨⟨number, found⟩, meant⟩, rfl, rfl⟩
    exact ⟨session, by rw [(agrees.session found).own, found], meant, rfl⟩
  · rintro ⟨session, found, meant, rfl⟩
    exact ⟨session, ⟨⟨id, found⟩, meant⟩, (agrees.session found).own, rfl⟩

theorem DataPathTable.mem_roster {table : DataPathTable} {docket : Docket}
    (agrees : table.Agrees docket) {condition : DataPath → Bool} {id : DataPathId} :
    id ∈ table.roster condition ↔
      ∃ path, table.get? id = some path ∧ condition path = true := by
  simp only [roster, List.mem_map, List.mem_filter, mem_toList]
  constructor
  · rintro ⟨path, ⟨⟨number, found⟩, meant⟩, rfl⟩
    exact ⟨path, by rw [(agrees.path found).own, found], meant⟩
  · rintro ⟨path, found, meant⟩
    exact ⟨path, ⟨⟨id, found⟩, meant⟩, (agrees.path found).own⟩

namespace Engine

variable {engine next : Engine} {record : TransactionRecord} {now : Timestamp}

/-! ## Teardowns -/

/-- What comes first in a cascade are completions, and concerns no entry. -/
theorem quiet_failed (records : List TransactionRecord) (failure : Failure) (place : Place) :
    Quiet place ((records.map (·.failed failure)).map .told) := by
  intro effect member
  obtain ⟨_, there, rfl⟩ := List.mem_map.mp member
  obtain ⟨record, _, rfl⟩ := List.mem_map.mp there
  exact Option.some_ne_none place |>.symm

/-- So no session is listed twice. -/
theorem nodup_sessions (coherent : engine.Coherent) (condition : Session → Bool) :
    ((engine.sessions.roster condition).map fun entry => Place.session entry.1).Nodup := by
  have sessions : engine.sessions.Agrees _ := coherent.agrees .sessions
  refine List.pairwise_map.mpr ((SessionRegistry.roster_ascending sessions condition).imp ?_)
  intro first second before same
  rw [Place.session.inj same, Std.ReflOrd.compare_self] at before
  cases before

/-- Nor is any path. -/
theorem nodup_paths (coherent : engine.Coherent) (condition : DataPath → Bool) :
    ((engine.paths.roster condition).map Place.path).Nodup := by
  have paths : engine.paths.Agrees _ := coherent.agrees .paths
  refine List.pairwise_map.mpr ((DataPathTable.roster_ascending paths condition).imp ?_)
  intro first second before same
  rw [Place.path.inj same, Std.ReflOrd.compare_self] at before
  cases before

namespace Coherent

/-- Every session falls with the interface, and is reported if it is active. -/
theorem session_falls (coherent : engine.Coherent) (reason : TerminationReason) (id : SessionId) :
    Course (.session id) (Session.Move id) (engine.sessions.get? id)
      ((engine.sessions.roster (·.isActive)).map fun entry =>
        .told (.sessionTerminated entry.1 entry.2 reason)) none := by
  have sessions : engine.sessions.Agrees _ := coherent.agrees .sessions
  have listed : Place.session id ∈ (engine.sessions.roster (·.isActive)).map
      (fun entry => Place.session entry.1) → ∃ session, engine.sessions.get? id = some session ∧
        session.isActive = true := by
    intro member
    obtain ⟨⟨number, role⟩, there, same⟩ := List.mem_map.mp member
    obtain rfl : number = id := Place.session.inj same
    obtain ⟨session, found, active, _⟩ := (SessionRegistry.mem_roster sessions).mp there
    exact ⟨session, found, active⟩
  refine Course.falls (fun _ => rfl) (nodup_sessions coherent _) (fun session found => ?_)
    fun none' member => ?_
  · have fell : Session.Move id session _ none := .fell reason
    cases active : session.isActive with
    | true =>
      rw [active, if_pos rfl] at fell
      exact .inl ⟨(id, session.role),
        (SessionRegistry.mem_roster sessions).mpr ⟨session, found, active, rfl⟩, rfl, fell⟩
    | false =>
      rw [active, if_neg Bool.false_ne_true] at fell
      refine .inr ⟨fun member => ?_, fell⟩
      obtain ⟨other, found', active'⟩ := listed member
      rw [Option.some.inj (found'.symm.trans found), active] at active'
      cases active'
  · obtain ⟨session, found, _⟩ := listed member
    rw [none'] at found
    cases found

/-- Every path falls with the interface, and is reported if it is open. -/
theorem path_falls (coherent : engine.Coherent) (reason : TerminationReason) (id : DataPathId) :
    Course (.path id) (DataPath.Move id now) (engine.paths.get? id)
      ((engine.paths.roster (·.isOpen)).map fun path =>
        .told (.dataPathTerminated path reason)) none := by
  have paths : engine.paths.Agrees _ := coherent.agrees .paths
  have listed : Place.path id ∈ (engine.paths.roster (·.isOpen)).map Place.path →
      ∃ path, engine.paths.get? id = some path ∧ path.isOpen = true := by
    intro member
    obtain ⟨number, there, same⟩ := List.mem_map.mp member
    obtain rfl : number = id := Place.path.inj same
    exact (DataPathTable.mem_roster paths).mp there
  refine Course.falls (fun _ => rfl) (nodup_paths coherent _) (fun path found => ?_)
    fun none' member => ?_
  · have fell : DataPath.Move id now path _ none := .fell reason
    cases open' : path.isOpen with
    | true =>
      rw [open', if_pos rfl] at fell
      exact .inl ⟨id, (DataPathTable.mem_roster paths).mpr ⟨path, found, open'⟩, rfl, fell⟩
    | false =>
      rw [open', if_neg Bool.false_ne_true] at fell
      refine .inr ⟨fun member => ?_, fell⟩
      obtain ⟨other, found', opened⟩ := listed member
      rw [Option.some.inj (found'.symm.trans found), open'] at opened
      cases opened
  · obtain ⟨path, found, _⟩ := listed member
    rw [none'] at found
    cases found

/-- **Every entry falls with the interface**, whatever else is told before and after that concerns
none. -/
theorem courses_cascade (coherent : engine.Coherent) (reason : TerminationReason)
    {before after : List Notification} (quiet : ∀ place, Quiet place (before.map .told))
    (quiet' : ∀ place, Quiet place (after.map .told)) (condition : TransactionRecord → Bool) :
    engine.Courses Session.Move now ((before ++ engine.cascade reason ++ after).map .told)
      (engine.fallen condition) := by
  have told : (engine.cascade reason).map Effect.told =
      ((engine.ledger.records.filter fun record =>
        record.context.isSessionOrPath ∧ record.origin = .caller).map (·.failed .aborted)).map
          .told ++
      (engine.sessions.roster (·.isActive)).map
        (fun entry => .told (.sessionTerminated entry.1 entry.2 reason)) ++
      (engine.paths.roster (·.isOpen)).map fun path => .told (.dataPathTerminated path reason) := by
    unfold cascade
    simp only [List.map_append, List.map_map]
    rfl
  have sessions (id : DataPathId) : Quiet (.path id) ((engine.sessions.roster (·.isActive)).map
      fun entry => .told (.sessionTerminated entry.1 entry.2 reason)) := by
    have tells (entry : SessionId × SessionRole) :
        (Effect.told (.sessionTerminated entry.1 entry.2 reason)).place? =
          some (.session entry.1) := rfl
    exact .map tells (by simp)
  have paths (id : SessionId) : Quiet (.session id) ((engine.paths.roster (·.isOpen)).map
      fun path => .told (.dataPathTerminated path reason)) := by
    have tells (path : DataPathId) :
        (Effect.told (.dataPathTerminated path reason)).place? = some (.path path) := rfl
    exact .map tells (by simp)
  rw [List.map_append, List.map_append, told]
  refine ⟨fun id => ?_, fun id => ?_, rfl⟩
  · exact (Course.still (quiet _)).append
      (((Course.still (quiet_failed _ _ _)).append (coherent.session_falls reason id)).append
        (.still (paths id))) |>.append (.still (quiet' _))
  · exact (Course.still (quiet _)).append
      ((Course.still ((quiet_failed _ _ _).append (sessions id))).append
        (coherent.path_falls reason id)) |>.append (.still (quiet' _))

end Coherent

/-! ## Reports -/

/-- What a report makes of all entries of both tables, given how sessions can move. -/
structure Passages (engine : Engine)
    (move : SessionId → Session → List Effect → Option Session → Prop) (now : Timestamp)
    (event : FirmwareEvent) (effects : List Effect) (next : Engine) : Prop where
  session : ∀ id, Passage (.session id) (Session.Entry id event) (move id)
    (engine.sessions.get? id) effects (next.sessions.get? id)
  path : ∀ id, Passage (.path id) (DataPath.Entry id now engine.paths.graceMs event)
    (DataPath.Move id now) (engine.paths.get? id) effects (next.paths.get? id)
  graceMs : next.paths.graceMs = engine.paths.graceMs

namespace Passages

variable {move : SessionId → Session → List Effect → Option Session → Prop} {event : FirmwareEvent}
  {effects : List Effect}

theorem of_courses (courses : engine.Courses move now effects next) :
    engine.Passages move now event effects next where
  session id := .course (courses.session id)
  path id := .course (courses.path id)
  graceMs := courses.graceMs

/-- Passages in which nobody ends a session are passages. -/
theorem of_enduring (passages : engine.Passages enduring now event effects next) :
    engine.Passages Session.Move now event effects next where
  session id := (passages.session id).mono Session.Move.of_enduring
  path := passages.path
  graceMs := passages.graceMs

theorem append {effects' : List Effect} {last : Engine}
    (passages : engine.Passages move now event effects next)
    (courses : next.Courses move now effects' last) :
    engine.Passages move now event (effects ++ effects') last where
  session id := (passages.session id).append (courses.session id)
  path id := (passages.path id).append (courses.path id)
  graceMs := courses.graceMs.trans passages.graceMs

/-- A session comes into being. -/
theorem enter_session {id : SessionId} {session : Session}
    (free : engine.sessions.get? id = none) (entered : Session.Entry id event effects session)
    (sessions : ∀ other, next.sessions.get? other =
      if other = id then some session else engine.sessions.get? other)
    (paths : next.paths = engine.paths) : engine.Passages move now event effects next where
  session other := by
    rw [sessions]
    by_cases here : other = id
    · have entry : Passage (.session id) (Session.Entry id event) (move id) none (effects ++ [])
          (some session) := .enter entered (.still (.nil _))
      rw [List.append_nil] at entry
      rw [if_pos here, here, free]
      exact entry
    · rw [if_neg here]
      exact .course (.still (.of_place (by simpa using here) entered.place))
  path other := by
    rw [paths]
    exact .course (.still (.of_place (by simp) entered.place))
  graceMs := by rw [paths]

/-- A path comes into being. -/
theorem enter_path {id : DataPathId} {path : DataPath} (free : engine.paths.get? id = none)
    (entered : DataPath.Entry id now engine.paths.graceMs event effects path)
    (paths : ∀ other, next.paths.get? other =
      if other = id then some path else engine.paths.get? other)
    (graceMs : next.paths.graceMs = engine.paths.graceMs)
    (sessions : next.sessions = engine.sessions) :
    engine.Passages move now event effects next where
  session other := by
    rw [sessions]
    exact .course (.still (.of_place (by simp) entered.place))
  path other := by
    rw [paths]
    by_cases here : other = id
    · have entry : Passage (.path id) (DataPath.Entry id now engine.paths.graceMs event)
          (DataPath.Move id now) none (effects ++ []) (some path) :=
        .enter entered (.still (.nil _))
      rw [List.append_nil] at entry
      rw [if_pos here, here, free]
      exact entry
    · rw [if_neg here]
      exact .course (.still (.of_place (by simpa using here) entered.place))
  graceMs := graceMs

end Passages

/-- Whether a report takes the interface down. -/
def TakesDown (engine : Engine) : FirmwareEvent → Prop
  | .commandCompleted txn (.ok _) =>
    ∃ record, engine.ledger.get? txn = some record ∧ record.kind = .disable
  | .interfaceDown _ => engine.interface.phase ≠ .disabled
  | _ => False

namespace Coherent

/-- **The answer to a command** moves entries that are there, or one comes into being. -/
theorem passages_onCompleted (coherent : engine.Coherent) (answered : engine.Answered)
    (txn : TransactionId) (outcome : Except FirmwareStatus AnswerPayload)
    (up : ¬engine.TakesDown (.commandCompleted txn outcome)) :
    engine.Passages enduring now (.commandCompleted txn outcome)
      ((engine.onCompleted txn outcome).2.map .told) (engine.onCompleted txn outcome).1 := by
  cases onFile : engine.ledger.get? txn with
  | none =>
    rw [onCompleted_of_absent onFile]
    exact .of_courses (.still (fun place => .nil place) rfl rfl rfl)
  | some record =>
    obtain rfl := coherent.filed.own onFile
    rw [onCompleted_of_onFile onFile]
    cases origin : record.origin with
    | engine =>
      rw [conclude_engine origin]
      exact .of_courses (coherent.courses_strikeOff onFile)
    | caller =>
      rw [conclude_caller origin]
      by_cases disable : record.kind = .disable
      · cases outcome with
        | ok payload => exact absurd ⟨record, onFile, disable⟩ up
        | error status =>
          refine .of_courses ?_
          rw [settle_disable disable]
          show engine.Courses enduring now
            ((Engine.announce record (settleDisable _ (.error (.firmware status)))).2.map .told)
            (Engine.announce record (settleDisable _ (.error (.firmware status)))).1
          rw [settleDisable_failed]
          refine courses_announce ?_ (isPlain_error _) record
          exact .still (fun place => .nil place) rfl rfl rfl
      · rw [settle_eq_settleByItself disable]
        have settled : engine.Settled now _ _ :=
          coherent.settled answered onFile origin disable (outcome.mapError .firmware)
        have payload {answer : AnswerPayload} (given : outcome.mapError Failure.firmware = .ok answer) :
            outcome = .ok answer := by
          cases outcome with
          | ok payload => exact congrArg _ (Except.ok.inj given)
          | error status => cases given
        generalize Engine.settleByItself _ _ _ = settlement at settled
        cases settled with
        | plain courses plain => exact .of_courses (courses_announce courses plain record)
        | started id config given free entered paths =>
          obtain rfl := payload given
          rw [announce_of_ne record (by simp)]
          exact .enter_session free (.started record.id record.kind config) entered paths
        | initiated id request given free entered sessions graceMs =>
          obtain rfl := payload given
          have numbered : engine.Passages enduring now _ _ _ :=
            .enter_path free (.numbered record.id record.kind request) entered graceMs sessions
          exact numbered.append (courses_replayHeld _ id)

theorem passages_onPathRequested (engine : Engine) (path : DataPathId) (peer : PeerId)
    (address : MacAddress) (appInfo : ByteArray) :
    engine.Passages enduring now (.dataPathRequested path peer address appInfo)
      ((engine.onPathRequested path peer address appInfo now).2.map .told)
      (engine.onPathRequested path peer address appInfo now).1 := by
  have still : engine.Passages enduring now (.dataPathRequested path peer address appInfo) []
      engine := .of_courses (.still (fun place => .nil place) rfl rfl rfl)
  unfold Engine.onPathRequested
  split
  · rcases engine.paths.onRequest_cases path peer address appInfo now with
      ignored | ⟨free, noted⟩
    · rw [ignored]
      exact still
    · rw [noted]
      exact .enter_path free (.requested peer address appInfo)
        (fun other => DataPathTable.get?_put _ path other _) rfl rfl
  · exact still

/-- What a session is told of its peers ends it not. -/
theorem courses_sight (engine : Engine) (id : SessionId) (learn : Session → PeerRecord)
    {notice : Notification} (silent : notice.place? = none) :
    engine.Courses enduring now ((engine.sight id learn notice).2.map .told)
      (engine.sight id learn notice).1 := by
  unfold Engine.sight
  rcases engine.sessions.sight_cases id learn with ⟨ignored, _⟩ | ⟨session, found, active, noted⟩
  · rw [ignored]
    exact .still (fun place => .nil place) rfl rfl rfl
  · rw [noted]
    have stage : session.state = .active := by simpa [Session.isActive] using active
    have sameStage : (session.sight (learn session)).state = session.state := rfl
    have met : engine.Courses enduring now []
        { engine with sessions := engine.sessions.put id (session.sight (learn session)) } :=
      .use_session found sameStage (by simp [Session.isDone, sameStage, stage]) engine.ledger
    refine met.append (.still (fun place effect member => ?_) rfl rfl rfl)
    obtain rfl := List.mem_singleton.mp member
    rw [Effect.place?, silent]
    exact Option.some_ne_none place |>.symm

/-- The firmware ends a session. -/
theorem courses_onSessionTerminated (engine : Engine) (id : SessionId) (status : FirmwareStatus) :
    engine.Courses Session.Move now ((engine.onSessionTerminated id status).2.map .told)
      (engine.onSessionTerminated id status).1 := by
  unfold Engine.onSessionTerminated SessionRegistry.onTerminated
  cases found : engine.sessions.get? id with
  | none => exact .still (fun place => .nil place) rfl rfl rfl
  | some session =>
    dsimp only
    cases stage : session.state with
    | terminated => exact .still (fun place => .nil place) rfl rfl rfl
    | active | terminating =>
      have ended : Session.Move id session _
          (Session.kept { session with state := .terminated, peers := ∅ }) :=
        .ended status (by simp [Session.isLive, stage])
      simp only [Session.isActive, stage, decide_true, decide_false, reduceCtorEq, if_true,
        Bool.false_eq_true, if_false] at ended
      exact .purge_session found ended ended.place engine.ledger

/-- **A report that ends no session and does not take the interface down** is a passage of every
entry in which no session is ended. -/
theorem passages_enduring (coherent : engine.Coherent) (answered : engine.Answered)
    (event : FirmwareEvent) (spares : ∀ id status, event ≠ .sessionTerminated id status)
    (up : ¬engine.TakesDown event) :
    engine.Passages enduring now event ((engine.handle now event).2.map .told)
      (engine.handle now event).1 := by
  have still {effects : List Effect} (quiet : ∀ place, Quiet place effects) :
      engine.Passages enduring now event effects engine :=
    .of_courses (.still quiet rfl rfl rfl)
  cases event with
  | commandCompleted id outcome => exact coherent.passages_onCompleted answered id outcome up
  | sessionMatched id peer address serviceSpecificInfo matchFilter =>
    simp only [Engine.handle, onMatched_eq]
    exact .of_courses (courses_sight engine id _ rfl)
  | messageReceived id peer address payload =>
    simp only [Engine.handle, onMessage_eq]
    exact .of_courses (courses_sight engine id _ rfl)
  | sessionTerminated id status => exact absurd rfl (spares id status)
  | dataPathRequested path peer address appInfo =>
    exact passages_onPathRequested engine path peer address appInfo
  | dataPathConfirmed path accepted peerInterface appInfo status =>
    exact .of_courses
      (engine.courses_onPathConfirmed path accepted peerInterface appInfo status)
  | dataPathTerminated path status => exact .of_courses (engine.courses_onPathTerminated path status)
  | identityChanged address =>
    simp only [Engine.handle]
    split
    · refine still fun place effect member => ?_
      obtain rfl := List.mem_singleton.mp member
      exact Option.some_ne_none place |>.symm
    · exact still fun place => .nil place
  | interfaceDown status =>
    have down : engine.interface.phase = .disabled := by simpa [TakesDown] using up
    have nothing : engine.handle now (.interfaceDown status) = engine.quiet :=
      coherent.onInterfaceDown_of_down down status
    rw [nothing]
    exact still fun place => .nil place

/-- A report that takes the interface down is a course of every entry. -/
theorem courses_takesDown (coherent : engine.Coherent) (event : FirmwareEvent)
    (down : engine.TakesDown event) :
    engine.Courses Session.Move now ((engine.handle now event).2.map .told)
      (engine.handle now event).1 := by
  cases event with
  | commandCompleted txn outcome =>
    cases outcome with
    | error status => cases down
    | ok payload =>
      obtain ⟨record, onFile, disable⟩ := down
      show engine.Courses Session.Move now ((engine.onCompleted txn (.ok payload)).2.map .told)
        (engine.onCompleted txn (.ok payload)).1
      have first : ∀ place, Quiet place (([] : List Notification).map .told) := fun place => .nil place
      rw [coherent.onCompleted_disable onFile disable payload, ← List.nil_append (engine.cascade _)]
      refine coherent.courses_cascade _ first (fun place effect member => ?_) _
      obtain rfl := List.mem_singleton.mp member
      exact Option.some_ne_none place |>.symm
  | interfaceDown status =>
    show engine.Courses Session.Move now ((engine.onInterfaceDown status).2.map .told)
      (engine.onInterfaceDown status).1
    rw [coherent.onInterfaceDown_exact down]
    refine coherent.courses_cascade _ (quiet_failed _ _) (fun place effect member => ?_) _
    obtain rfl := List.mem_singleton.mp member
    exact Option.some_ne_none place |>.symm
  | _ => cases down

/-- **A report of the firmware is a passage of every entry.** -/
theorem passages_handle (coherent : engine.Coherent) (answered : engine.Answered)
    (event : FirmwareEvent) :
    engine.Passages Session.Move now event ((engine.handle now event).2.map .told)
      (engine.handle now event).1 := by
  by_cases down : engine.TakesDown event
  · exact .of_courses (coherent.courses_takesDown event down)
  · by_cases ends : ∃ id status, event = .sessionTerminated id status
    · obtain ⟨id, status, rfl⟩ := ends
      exact .of_courses (courses_onSessionTerminated engine id status)
    · have spares : ∀ id status, event ≠ .sessionTerminated id status :=
        fun id status same => ends ⟨id, status, same⟩
      exact (coherent.passages_enduring answered event spares down).of_enduring

end Coherent

end Engine

end NanHost
