import NanHost.Proofs.Engine.Passages
import NanHost.Proofs.Engine.Staging
import NanHost.Proofs.Host.Account

/-!
# Courses of a step — what one thing done to a host makes of every session and every path

A step of a host is a report of the firmware, or a request, or the end of some commands, or the
refusal of peers that have waited too long. Seen from the number of a session or a path it is a
passage of what is kept under that number, with all that has come out in it (`Host.emitted`). Only a
report of the firmware can bring an entry into being.

## What is proved

- `passages_step`: every step is a passage of every entry.
- `moves_step`: a step that is neither a request nor a report of the firmware ends no session that is
  active.
- `nothingNew_step`: a step that accepts no request leaves callers nothing on file but what they had.
- `Reachable.answered`: so, in every state, an answer that is out is on record with its path.
-/

namespace NanHost

/-- Whether a step is neither a request nor a report of the firmware. -/
def Act.isOwn {σ : Type} : Act σ → Bool
  | submit _ | handle _ => false
  | _ => true

namespace Host

variable {σ : Type}

/-! ## Moves -/

/-- What a step that brings no entry into being makes of a host, given how sessions can move, and
what comes out of it. -/
structure Moves (host : Host σ)
    (move : SessionId → Session → List Effect → Option Session → Prop) (effects : List Effect)
    (next : Host σ) : Prop where
  out : next.effects.toList = host.effects.toList ++ effects
  courses : host.engine.Courses move host.now effects next.engine

namespace Moves

variable {host next last : Host σ}
  {move : SessionId → Session → List Effect → Option Session → Prop} {effects effects' : List Effect}

/-- Nothing becomes of any entry. -/
theorem still (effects : next.effects = host.effects) (engine : next.engine = host.engine) :
    host.Moves move [] next where
  out := by rw [effects, List.append_nil]
  courses := by
    rw [engine]
    exact .still (fun place => .nil place) rfl rfl rfl

theorem append (before : host.Moves move effects next) (after : next.Moves move effects' last)
    (now : next.now = host.now) : host.Moves move (effects ++ effects') last where
  out := by rw [after.out, before.out, List.append_assoc]
  courses := before.courses.append (now ▸ after.courses)

/-- Moves in which nobody ends a session are moves. -/
theorem of_enduring (moves : host.Moves Engine.enduring effects next) :
    host.Moves Session.Move effects next :=
  ⟨moves.out, moves.courses.of_enduring⟩

/-- A reaction of the engine. -/
theorem react {reaction : Reaction}
    (courses : host.engine.Courses move host.now (reaction.2.map .told) reaction.1) :
    host.Moves move (reaction.2.map .told) (host.react reaction) where
  out := effects_react host reaction
  courses := by
    rw [engine_react]
    exact courses

end Moves

/-! ## Deadlines and shutdowns -/

variable {host : Host σ}

theorem moves_expireTransactions (coherent : host.engine.Coherent)
    (answered : host.engine.Answered) :
    ∃ effects, host.Moves Engine.enduring effects host.expireTransactions.2 := by
  have courses : host.engine.Courses Engine.enduring host.now
      ((host.engine.expireTransactions host.now).2.2.map .told)
      (host.engine.expireTransactions host.now).2.1 := by
    rw [Engine.expireTransactions_eq coherent.filed]
    exact coherent.courses_giveUpAll answered (coherent.filed.onFile_filter _) .timeout
  exact ⟨_, .react courses⟩

theorem moves_shutdown (coherent : host.engine.Coherent) (answered : host.engine.Answered) :
    ∃ effects, host.Moves Engine.enduring effects host.shutdown := by
  refine ⟨_, .react ?_⟩
  rw [Engine.shutdown_eq coherent.filed]
  exact coherent.courses_giveUpAll answered coherent.filed.onFile_records .aborted

variable [Transport σ]

/-! ## Requests -/

/-- A request is a course of every entry, whatever comes of it. -/
theorem Submission.moves {request : Request} {outcome : Except Rejection TransactionId × Host σ}
    (fate : host.Submission request outcome) :
    ∃ effects, host.Moves Session.Move effects outcome.2 := by
  cases fate with
  | unfit | full => exact ⟨[], .still rfl rfl⟩
  | taken dispatch transport admitted opens sent =>
    exact ⟨_, Array.toList_push .., Engine.courses_stage admitted _ _⟩
  | refused dispatch transport error admitted opens sent =>
    refine ⟨_, Array.toList_push .., .still (fun place effect member => ?_) rfl rfl rfl⟩
    obtain rfl := List.mem_singleton.mp member
    exact Option.some_ne_none place |>.symm

/-! ## Peers that waited too long -/

variable {path : DataPathId}

variable (host) in
/-- What the refusal of a peer makes of a host, when the path is already down, and what comes out of
it. -/
structure Refuses (path : DataPathId) (effects : List Effect) (next : Host σ) : Prop where
  out : next.effects.toList = host.effects.toList ++ effects
  now : next.now = host.now
  sessions : next.engine.sessions = host.engine.sessions
  graceMs : next.engine.paths.graceMs = host.engine.paths.graceMs
  apart : ∀ place, place ≠ .path path → Quiet place effects
  falls : ∀ entry, entry.isOverdue host.now = true →
    host.engine.paths.get? path = some entry.terminated.withoutDeadline →
      Course (.path path) (DataPath.Move path host.now) (some entry) effects
        (next.engine.paths.get? path)

theorem Refusal.refuses {next : Host σ} (fate : host.Refusal path next) :
    ∃ effects, host.Refuses path effects next := by
  have purged {entry : DataPath}
      (here : host.engine.paths.get? path = some entry.terminated.withoutDeadline) :
      (host.engine.paths.purge path).get? path = entry.terminated.withoutDeadline.kept := by
    rw [DataPathTable.get?_purge, if_pos rfl, here]
    rfl
  have told {place : Place} (apart : place ≠ .path path) :
      Quiet place [.told (.dataPathTerminated path .responseTimeout)] :=
    .of_place apart (by simp [Effect.place?, Notification.place?])
  cases fate with
  | full noRoom =>
    refine ⟨_, Array.toList_push .., rfl, rfl, DataPathTable.graceMs_purge _ _,
      fun _ apart => told apart, fun entry overdue here => ?_⟩
    dsimp only
    rw [purged here]
    exact .move (.lapsed overdue)
  | taken transport opens sent =>
    have out : (host.effectsTold path).toList = _ := Array.toList_push ..
    refine ⟨[.told (.dataPathTerminated path .responseTimeout),
        .issued (host.recordFor (host.refusal path) .engine).id (host.refusal path).command],
      ?_, rfl, rfl, rfl, fun place apart => ?_, fun entry overdue here => ?_⟩
    · rw [Array.toList_push, out, List.append_assoc]
      rfl
    · refine .of_place apart ?_
      simp [Effect.place?, Notification.place?, Command.place?, refusal, RespondRequest.refusal]
    · dsimp only
      rw [DataPathTable.attach, DataPathTable.update_eq_put here, DataPathTable.get?_put, if_pos rfl]
      exact .move (.refused _ _ overdue)
  | refused transport error opens sent =>
    have out : (host.effectsTold path).toList = _ := Array.toList_push ..
    have dropped (place : Place) : Quiet place
        [.refused (host.recordFor (host.refusal path) .engine).id (host.refusal path).command
          error] := by
      simp [Quiet, Effect.place?]
    refine ⟨_, ?_, rfl, rfl, DataPathTable.graceMs_purge _ _,
      fun place apart => (told apart).append (dropped place), fun entry overdue here => ?_⟩
    · rw [Array.toList_push, out, List.append_assoc]
    · dsimp only
      rw [purged here]
      exact (Course.move (.lapsed overdue)).append (.still (dropped _))

/-- What is kept under a number once the deadlines have been looked at: a path that awaits its
refusal is down already, and any other entry is as it was. -/
def Relieved (now : Timestamp) (awaits : Prop) (entry here : Option DataPath) : Prop :=
  (awaits → ∃ path, entry = some path ∧ path.isOverdue now = true ∧
    here = some path.terminated.withoutDeadline) ∧ (¬awaits → here = entry)

/-- **Refusals of different paths**, one after the other, are a course of every path. -/
theorem course_refusals {overdue : List DataPathId} (coherent : host.engine.Coherent)
    (distinct : overdue.Nodup)
    (present : ∀ path ∈ overdue, ∃ entry, host.engine.paths.get? path = some entry) :
    ∃ effects, (overdue.foldl refuseOverdue host).effects.toList = host.effects.toList ++ effects ∧
      (overdue.foldl refuseOverdue host).now = host.now ∧
      (overdue.foldl refuseOverdue host).engine.sessions = host.engine.sessions ∧
      (overdue.foldl refuseOverdue host).engine.paths.graceMs = host.engine.paths.graceMs ∧
      (∀ id, Quiet (.session id) effects) ∧
      ∀ id entry, Relieved host.now (id ∈ overdue) entry (host.engine.paths.get? id) →
        Course (.path id) (DataPath.Move id host.now) entry effects
          ((overdue.foldl refuseOverdue host).engine.paths.get? id) := by
  induction overdue generalizing host with
  | nil =>
    refine ⟨[], (List.append_nil _).symm, rfl, rfl, rfl, fun _ => .nil _, fun id entry here => ?_⟩
    rw [← here.2 List.not_mem_nil]
    exact .still (.nil _)
  | cons path rest ih =>
    obtain ⟨apart, distinct⟩ := List.nodup_cons.mp distinct
    have others {other : DataPathId} (differs : other ≠ path) :
        (host.refuseOverdue path).engine.paths.get? other = host.engine.paths.get? other :=
      get?_refuseOverdue_of_ne coherent.filed differs
    have present' := present_refuseOverdue coherent.filed apart fun other member =>
      present other (List.mem_cons_of_mem _ member)
    obtain ⟨effects, refuses⟩ := (refuseOverdue_refusal coherent.filed path).refuses
    obtain ⟨effects', out, now, sessions, graceMs, quiet, courses⟩ :=
      ih (refuseOverdue_coherent coherent (present path (by simp))) distinct present'
    rw [refuses.now] at courses
    refine ⟨effects ++ effects', ?_, now.trans refuses.now, sessions.trans refuses.sessions,
      graceMs.trans refuses.graceMs,
      fun id => (refuses.apart _ (by simp)).append (quiet id), fun id entry here => ?_⟩
    · rw [List.foldl_cons, out, refuses.out, List.append_assoc]
    · by_cases same : id = path
      · subst same
        obtain ⟨entry, rfl, overdue, down⟩ := here.1 (List.mem_cons_self ..)
        exact (refuses.falls entry overdue down).append
          (courses id _ ⟨fun member => absurd member apart, fun _ => rfl⟩)
      · refine (Course.still (refuses.apart _ (by simpa using same))).append
          (courses id entry ?_)
        rw [others same]
        exact ⟨fun member => here.1 (List.mem_cons_of_mem _ member),
          fun absent => here.2 (by simp [same, absent])⟩

/-- **Looking after the peers** is a course of every entry, and ends no session. -/
theorem moves_expireResponses (coherent : host.engine.Coherent) :
    ∃ effects, host.Moves Engine.enduring effects host.expireResponses.2 := by
  have paths : host.engine.paths.Agrees _ := coherent.agrees .paths
  obtain ⟨distinct, present⟩ := paths.overdue host.now
  have relieved : host.relieved.engine.Coherent :=
    coherent.touchTable .paths (paths.expireResponses host.now)
  have overdue : (host.engine.paths.expireResponses host.now).1 =
      host.engine.paths.roster (·.isOverdue host.now) := rfl
  obtain ⟨effects, out, _, sessions, graceMs, quiet, courses⟩ :=
    course_refusals relieved distinct present
  refine ⟨effects, out, fun id => ?_, fun id => courses id _ ⟨fun member => ?_, fun absent => ?_⟩,
    graceMs⟩
  · have same : host.expireResponses.2.engine.sessions = host.engine.sessions := sessions
    rw [same]
    exact .still (quiet id)
  · rw [overdue, DataPathTable.mem_roster paths] at member
    obtain ⟨path, found, late⟩ := member
    refine ⟨path, found, late, ?_⟩
    show (host.engine.paths.expireResponses host.now).2.get? id = _
    rw [DataPathTable.get?_expireResponses, found, Option.map_some, if_pos late]
  · rw [overdue, DataPathTable.mem_roster paths] at absent
    show (host.engine.paths.expireResponses host.now).2.get? id = _
    rw [DataPathTable.get?_expireResponses]
    cases found : host.engine.paths.get? id with
    | none => rfl
    | some path => rw [Option.map_some, if_neg fun late => absent ⟨path, found, late⟩]

/-! ## What callers have on file -/

theorem nothingNew_refuseOverdue (filed : host.engine.ledger.WellFiled) (path : DataPathId) :
    host.engine.ledger.NothingNew (host.refuseOverdue path).engine.ledger := by
  have fate := refuseOverdue_refusal filed path
  generalize host.refuseOverdue path = next at fate
  cases fate with
  | full noRoom => exact .refl _
  | refused transport error opens sent =>
    exact .of_pending (Ledger.pending_rollback_file _ opens.fresh)
  | taken transport opens sent =>
    intro txn record onFile origin
    refine (Ledger.cases_file onFile).resolve_left ?_
    rintro ⟨_, rfl⟩
    rw [opens.origin] at origin
    cases origin

omit [Transport σ] in
theorem nothingNew_expireTransactions (coherent : host.engine.Coherent) :
    host.engine.ledger.NothingNew host.expireTransactions.2.engine.ledger := by
  have same : host.expireTransactions.2.engine = (host.engine.expireTransactions host.now).2.1 :=
    engine_react ..
  rw [same]
  exact .of_keeps (coherent.expireTransactions_keeps host.now)

theorem nothingNew_expireResponses (coherent : host.engine.Coherent) :
    host.engine.ledger.NothingNew host.expireResponses.2.engine.ledger :=
  (expireResponses_keeps (fun next => host.engine.ledger.NothingNew next.engine.ledger) coherent
    (.refl _) fun _ path coherent before =>
      before.trans (nothingNew_refuseOverdue coherent.filed path)).2

/-- **Unless a step accepts a request, callers have nothing on file after it but what was on file
before.** -/
theorem nothingNew_step (coherent : host.engine.Coherent) (act : Act σ)
    (nobody : host.acceptedAt act = []) :
    host.engine.ledger.NothingNew (host.step act).engine.ledger := by
  have reacted {reaction : Reaction}
      (keeps : ∃ condition, reaction.1.ledger = host.engine.ledger.keep condition) :
      host.engine.ledger.NothingNew (host.react reaction).engine.ledger := by
    rw [engine_react]
    exact .of_keeps keeps
  cases act with
  | submit request =>
    have fate := submit_submission coherent.filed request
    have nobody : acceptedBy request (host.submit request).1 = [] := nobody
    show host.engine.ledger.NothingNew (host.submit request).2.engine.ledger
    generalize host.submit request = outcome at fate nobody
    cases fate with
    | unfit | full => exact .refl _
    | taken => cases nobody
    | refused dispatch transport error admitted opens sent =>
      exact .of_pending (Ledger.pending_rollback_file _ opens.fresh)
  | handle event => exact reacted (coherent.handle_keeps host.now event)
  | expireTransactions => exact nothingNew_expireTransactions coherent
  | expireResponses => exact nothingNew_expireResponses coherent
  | tick =>
    exact (nothingNew_expireTransactions coherent).trans
      (nothingNew_expireResponses (expireTransactions_coherent coherent))
  | shutdown => exact reacted coherent.shutdown_keeps
  | advance | replaceTransport => exact .refl _

/-! ## Steps -/

/-- What one thing done to a host makes of all entries, and what comes out. -/
structure Passages (host : Host σ) (act : Act σ) (effects : List Effect) (next : Host σ) :
    Prop where
  out : next.effects.toList = host.effects.toList ++ effects
  session : ∀ id, Passage (.session id)
    (fun effects session => ∃ event, act = .handle event ∧ Session.Entry id event effects session)
    (Session.Move id) (host.engine.sessions.get? id) effects (next.engine.sessions.get? id)
  path : ∀ id, Passage (.path id)
    (fun effects path => ∃ event, act = .handle event ∧
      DataPath.Entry id host.now host.engine.paths.graceMs event effects path)
    (DataPath.Move id host.now) (host.engine.paths.get? id) effects (next.engine.paths.get? id)
  graceMs : next.engine.paths.graceMs = host.engine.paths.graceMs

omit [Transport σ] in
/-- A step that brings no entry into being. -/
theorem Moves.passages {next : Host σ} {effects : List Effect} (act : Act σ)
    (moves : host.Moves Session.Move effects next) : host.Passages act effects next where
  out := moves.out
  session id := .course (moves.courses.session id)
  path id := .course (moves.courses.path id)
  graceMs := moves.courses.graceMs

omit [Transport σ] in
/-- A report of the firmware. -/
theorem passages_handle (coherent : host.engine.Coherent) (answered : host.engine.Answered)
    (event : FirmwareEvent) :
    ∃ effects, host.Passages (.handle event) effects (host.handle event) := by
  have passages : host.engine.Passages Session.Move host.now event _ _ :=
    coherent.passages_handle answered event
  refine ⟨_, effects_react host _, fun id => ?_, fun id => ?_, ?_⟩
  · rw [handle, engine_react]
    exact (passages.session id).enters_mono fun entered => ⟨event, rfl, entered⟩
  · rw [handle, engine_react]
    exact (passages.path id).enters_mono fun entered => ⟨event, rfl, entered⟩
  · rw [handle, engine_react]
    exact passages.graceMs

/-- **No deadline and no shutdown ends a session that is active**: these steps are courses of every
entry in which no session is ended. -/
theorem moves_step (coherent : host.engine.Coherent) (answered : host.engine.Answered) (act : Act σ)
    (own : act.isOwn = true) :
    ∃ effects, host.Moves Engine.enduring effects (host.step act) := by
  cases act with
  | submit | handle => cases own
  | expireTransactions => exact moves_expireTransactions coherent answered
  | expireResponses => exact moves_expireResponses coherent
  | tick =>
    obtain ⟨_, first⟩ := moves_expireTransactions coherent answered
    obtain ⟨_, second⟩ := moves_expireResponses (expireTransactions_coherent coherent)
    exact ⟨_, first.append second (congrArg (·.now) (react_eq host _))⟩
  | shutdown => exact moves_shutdown coherent answered
  | advance | replaceTransport => exact ⟨[], .still rfl rfl⟩

/-- **Every step is a passage of every entry.** -/
theorem passages_step (coherent : host.engine.Coherent) (answered : host.engine.Answered)
    (act : Act σ) : ∃ effects, host.Passages act effects (host.step act) := by
  by_cases own : act.isOwn = true
  · obtain ⟨effects, moves⟩ := moves_step coherent answered act own
    exact ⟨effects, moves.of_enduring.passages act⟩
  · cases act with
    | submit request =>
      obtain ⟨effects, moves⟩ := (submit_submission coherent.filed request).moves
      exact ⟨effects, moves.passages _⟩
    | handle event => exact passages_handle coherent answered event
    | _ => exact absurd rfl own

/-- **Every step leaves the answers that are out on record with their paths.** -/
theorem answered_step (coherent : host.engine.Coherent) (answered : host.engine.Answered)
    (act : Act σ) : (host.step act).engine.Answered := by
  by_cases nobody : host.acceptedAt act = []
  · obtain ⟨effects, passages⟩ := passages_step coherent answered act
    refine answered.of_follows coherent (nothingNew_step coherent act nobody)
      fun {id path last} found here => ?_
    have passage := passages.path id
    rw [found, here] at passage
    exact DataPath.follows_of_course passage.of_some
  · cases act with
    | submit request =>
      have fate := submit_submission coherent.filed request
      have nobody : acceptedBy request (host.submit request).1 ≠ [] := nobody
      show (host.submit request).2.engine.Answered
      generalize host.submit request = outcome at fate nobody
      cases fate with
      | unfit | full | refused => exact absurd rfl nobody
      | taken dispatch transport admitted opens sent =>
        exact Engine.answered_stage coherent answered admitted opens
    | _ => exact absurd rfl nobody

/-! ## States in which a host is found -/

variable (reachable : Reachable host)

include reachable

theorem Reachable.answered : host.engine.Answered := by
  induction reachable with
  | new config transport now => exact Engine.answered_new config
  | step act reachable ih => exact answered_step reachable.coherent ih act

theorem Reachable.passages (act : Act σ) : ∃ effects, host.Passages act effects (host.step act) :=
  passages_step reachable.coherent reachable.answered act

end Host

end NanHost
