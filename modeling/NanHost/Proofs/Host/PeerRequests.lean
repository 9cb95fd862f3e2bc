import NanHost.Proofs.Host.Deadlines
import NanHost.Proofs.Host.PathReports

/-!
# Requests of peers — answered at most once, and given up at most once

The path of a peer waits for the caller. The caller may accept the peer, refuse it or ask for the end
of the path; the firmware may end it or answer commands late; the clock may run out, and then the host
refuses the peer by itself. The transport may refuse any of the commands that this takes.

## What is proved

`run_peerRequests`: in every lifetime of a path at most one answer to its peer is handed over, whoever
gives it. The caller is told at most once that the peer has waited too long: by the first step that
looks at the deadlines once the grace period is over, if the path is on record then, is not down, was
not answered and is not asked to end. After that nothing is told of the path, and nobody can answer the
peer or end the path, until a new path has the number.

An answer takes a path that waits for one, and afterwards it does not wait any more (`Move.awaits`);
what is told of a path that is down is nothing (`Move.spent`). The runs follow by induction.
-/

namespace NanHost

/-! ## Answers -/

/-- Whether an effect is that an answer to the peer of a path is handed over. -/
def Effect.answers (id : DataPathId) : Effect → Bool
  | issued _ (.respondDataPath request _) => request.pathId = id
  | _ => false

theorem Effect.place?_of_answers {effect : Effect} {id : DataPathId}
    (answers : effect.answers id = true) : effect.place? = some (.path id) := by
  unfold Effect.answers at answers
  split at answers
  next => simpa [place?, Command.place?] using answers
  next => cases answers

namespace DataPath

/-- How many answers to the peer of a path are handed over. -/
def answersIn (id : DataPathId) (log : List Effect) : Nat := log.countP (·.answers id)

variable {id : DataPathId} {log effects : List Effect} {path next : DataPath} {now : Timestamp}
  {entry : Option DataPath}

theorem answersIn_append (id : DataPathId) (log effects : List Effect) :
    answersIn id (log ++ effects) = answersIn id log + answersIn id effects := List.countP_append

theorem answersIn_of_quiet (quiet : Quiet (.path id) effects) : answersIn id effects = 0 :=
  List.countP_eq_zero.mpr fun effect member answers =>
    quiet effect member (Effect.place?_of_answers answers)

/-- An answer is handed over only with a move of a path that waits for it, and only one. -/
theorem Move.answersIn (move : Move id now path effects entry) (consistent : path.Consistent) :
    answersIn id effects = 0 ∨ answersIn id effects = 1 ∧ path.awaitsAnswer = true := by
  cases move with
  | answered txn request known about awaits =>
    exact .inr ⟨by simp [DataPath.answersIn, Effect.answers, about], awaits⟩
  | refused txn known overdue =>
    refine .inr ⟨?_, ?_⟩
    · simp [DataPath.answersIn, Effect.answers, RespondRequest.refusal]
    · obtain ⟨deadline, due, _⟩ := consistent.isOverdue_iff.mp overdue
      exact consistent.awaits.mpr (Option.isSome_of_eq_some due)
  | ended | failed | fell => split <;> exact .inl rfl
  | endAsked | confirmed | rejected | struck | endSettled | lapsed => exact .inl rfl

/-- What has been answered to the peer of a path: nothing as long as the path waits for an answer, and
no more than one answer ever. -/
structure AnsweredOnce (id : DataPathId) (entry : Option DataPath) (log : List Effect) : Prop where
  once : answersIn id log ≤ 1
  none : ∀ path, entry = some path → path.awaitsAnswer = true → answersIn id log = 0
  consistent : ∀ path, entry = some path → path.Consistent

/-- **Every move keeps it so.** -/
theorem AnsweredOnce.move (answered : AnsweredOnce id (some path) log)
    (move : Move id now path effects entry) : AnsweredOnce id entry (log ++ effects) where
  once := by
    rw [answersIn_append]
    rcases move.answersIn (answered.consistent path rfl) with nothing | ⟨one, awaits⟩
    · rw [nothing]
      exact answered.once
    · have before := answered.none path rfl awaits
      omega
  none next same awaits := by
    subst same
    obtain ⟨rfl, txn, rfl⟩ := move.awaits awaits
    rw [List.append_nil]
    exact answered.none path rfl awaits
  consistent next same := by
    subst same
    exact move.consistent (answered.consistent path rfl)

/-! ## After the peer has waited too long -/

/-- A path that is down stays down, and nothing is told of it. -/
theorem Move.spent (move : Move id now path effects entry) (down : path.state = .terminated) :
    reportsIn id effects = [] ∧ ∀ next, entry = some next → next.state = .terminated := by
  constructor
  · cases move with
    | answered | endAsked | struck | endSettled => rfl
    | confirmed _ _ confirmable | rejected _ confirmable => simp [isConfirmable, down] at confirmable
    | ended status live => simp [isLive, down] at live
    | failed => simp [isConfirmed, down, reportsIn]
    | lapsed overdue | refused _ _ overdue => simp [isOverdue, down] at overdue
    | fell => simp [isOpen, isLive, down, reportsIn]
  · rintro next rfl
    have stage := move.follows.stage
    rw [down] at stage
    rcases stage with same | same | ⟨_, live⟩
    · exact same
    · exact same
    · exact absurd rfl live

/-- No more than one thing is told of a path with a move. -/
theorem Move.length_reportsIn (move : Move id now path effects entry) :
    (reportsIn id effects).length ≤ 1 := by
  cases move with
  | confirmed | rejected | lapsed | refused =>
    simp [reportsIn, Effect.report?, Notification.report?]
  | ended | failed | fell => split <;> simp [reportsIn, Effect.report?, Notification.report?]
  | answered | endAsked | struck | endSettled => exact Nat.zero_le _

/-- A path whose peer has waited too long goes down, and nothing more is told of it. -/
theorem Move.spent_of_lapsed (move : Move id now path effects entry) {first last : List Effect}
    (split : effects = first ++ .lapsed id :: last) :
    reportsIn id last = [] ∧ ∀ next, entry = some next → next.state = .terminated := by
  have down : reportsIn id (.lapsed id :: last) = .down :: reportsIn id last := by
    simp [reportsIn, Effect.report?, Notification.report?]
  constructor
  · have one := move.length_reportsIn
    rw [split, reportsIn_append, down, List.length_append, List.length_cons] at one
    exact List.length_eq_zero_iff.mp (by omega)
  · have told : .lapsed id ∈ effects := by simp [split]
    clear split
    rintro next same
    cases move with
    | lapsed =>
      obtain ⟨rfl, _⟩ := kept_eq_some.mp same
      rfl
    | refused =>
      obtain rfl := Option.some.inj same
      rfl
    | fell => cases same
    | ended | failed => split at told <;> simp at told
    | answered | endAsked | confirmed | rejected | struck | endSettled => simp at told

/-- After the caller was told that the peer of a path has waited too long, the path is down or gone,
and nothing more is told of it, until a new path has the number. -/
def Spent (id : DataPathId) (entry : Option DataPath) (log : List Effect) : Prop :=
  ∀ first last, log = first ++ .lapsed id :: last →
    (∀ effect ∈ last, effect.opens? ≠ some (.path id)) →
      reportsIn id last = [] ∧ ∀ path, entry = some path → path.state = .terminated

/-- It stays so, whatever comes out, if nothing is told of a path that is down and if it is so of what
comes out by itself. -/
theorem Spent.append (spent : Spent id entry log) {left : Option DataPath}
    (after : (∀ path, entry = some path → path.state = .terminated) →
      (∀ effect ∈ effects, effect.opens? ≠ some (.path id)) →
        reportsIn id effects = [] ∧ ∀ path, left = some path → path.state = .terminated)
    (within : Spent id left effects) : Spent id left (log ++ effects) := by
  intro first last split fresh
  rcases List.append_eq_append_iff.mp split with ⟨middle, rfl, inside⟩ | ⟨middle, rfl, rest⟩
  · exact within middle last inside fresh
  · cases middle with
    | nil => exact within [] last rest.symm fresh
    | cons effect middle =>
      rw [List.cons_append] at rest
      obtain ⟨rfl, rfl⟩ := List.cons.inj rest
      obtain ⟨silent, down⟩ := spent first middle rfl fun effect member =>
        fresh effect (List.mem_append_left _ member)
      obtain ⟨silent', down'⟩ := after down fun effect member =>
        fresh effect (List.mem_append_right _ member)
      rw [reportsIn_append, silent, silent']
      exact ⟨rfl, down'⟩

/-- It is so if the caller is not told it at all. -/
theorem Spent.of_not_mem {left : Option DataPath} (untold : .lapsed id ∉ log) : Spent id left log := by
  rintro first last rfl
  exact absurd (by simp) untold

end DataPath

namespace Host

variable {σ : Type} [Transport σ] {host : Host σ}

/-- **After the caller was told that a peer has waited too long** it is told nothing more of the path,
and the path is down or gone, at the end of every run. -/
theorem Reachable.spent (reachable : Reachable host) {id : DataPathId} (acts : List (Act σ)) :
    DataPath.Spent id ((host.run acts).engine.paths.get? id) (host.emitted acts) := by
  refine (pathSlot σ id).keeps_run reachable (DataPath.Spent id) ?_ ?_ ?_ acts
    (.of_not_mem List.not_mem_nil)
  · rintro _ _ log effects path ⟨event, _, entered⟩ spent
    obtain ⟨effect, member, opens⟩ : ∃ effect ∈ effects, effect.opens? = some (.path id) := by
      cases entered <;> exact ⟨_, List.mem_singleton_self _, rfl⟩
    refine spent.append (fun _ fresh => absurd opens (fresh effect member)) (.of_not_mem ?_)
    cases entered <;> simp
  · intro entry log effects quiet spent
    refine spent.append (fun down _ => ⟨DataPath.reportsIn_of_quiet quiet, down⟩) (.of_not_mem ?_)
    exact fun told => quiet _ told rfl
  · intro now path log effects next moved spent
    refine spent.append (fun down _ => moved.spent (down path rfl)) ?_
    exact fun first last split _ => moved.spent_of_lapsed split

/-- No more than one answer to the peer of a path is handed over in a lifetime of it. -/
theorem Reachable.answeredOnce (reachable : Reachable host) {id : DataPathId} {span : List (Act σ)}
    (lifetime : host.Lifetime (.path id) span) :
    DataPath.answersIn id (host.emitted span) ≤ 1 := by
  refine ((pathSlot σ id).keeps reachable lifetime (DataPath.AnsweredOnce id) ?_ ?_
    fun moved answered => answered.move moved).once
  · rintro act effects path _ ⟨event, _, entered⟩
    have nothing : DataPath.answersIn id effects = 0 := by cases entered <;> rfl
    exact ⟨by omega, fun _ _ _ => nothing, fun _ same => Option.some.inj same ▸ entered.consistent⟩
  · intro entry log effects quiet answered
    have same : DataPath.answersIn id (log ++ effects) = DataPath.answersIn id log := by
      rw [DataPath.answersIn_append, DataPath.answersIn_of_quiet quiet, Nat.add_zero]
    exact ⟨same ▸ answered.once, same ▸ answered.none, answered.consistent⟩

/-- In a lifetime of a path the caller is told at most once that its peer has waited too long. -/
theorem Reachable.lapsedOnce (reachable : Reachable host) {id : DataPathId} {span : List (Act σ)}
    (lifetime : host.Lifetime (.path id) span) : (host.emitted span).count (.lapsed id) ≤ 1 := by
  have down : (DataPath.reportsIn id (host.emitted span)).count .down ≤ 1 :=
    (reachable.account lifetime).inOrder.count_le .down
  refine Nat.le_trans ?_ down
  rw [DataPath.reportsIn, List.count, List.count, List.countP_filterMap]
  refine List.countP_mono_left fun effect _ same => ?_
  obtain rfl := beq_iff_eq.mp same
  simp [Effect.report?, Notification.report?]

/-! ## The grace period -/

/-- A path whose lifetime has begun with the request of a peer is the peer's. -/
theorem Reachable.origin_peer (reachable : Reachable host) {id : DataPathId} {span : List (Act σ)}
    (lifetime : host.Lifetime (.path id) span) {peer : PeerId} {address : MacAddress}
    {appInfo : ByteArray}
    (head : span.head? = some (.handle (.dataPathRequested id peer address appInfo)))
    {path : DataPath} (found : (host.run span).engine.paths.get? id = some path) :
    path.origin = .peer := by
  refine (pathSlot σ id).keeps reachable lifetime
    (fun (entry : Option DataPath) _ => ∀ path, entry = some path → path.origin = .peer)
    ?_ (fun _ given => given) ?_ path found
  · rintro act effects path first ⟨event, rfl, entered⟩ _ same
    obtain rfl := Option.some.inj same
    obtain rfl := Act.handle.inj (Option.some.inj (head.symm.trans first))
    cases entered
    rfl
  · rintro now entry log effects next moved given path rfl
    exact moved.follows.origin.trans (given entry rfl)

/-- **The peer of a path has waited too long** just if the lifetime of the path has begun with its
request, the grace period is over since, and the path still waits. -/
theorem Reachable.overdue_iff (reachable : Reachable host) {id : DataPathId} {span : List (Act σ)}
    (lifetime : host.Lifetime (.path id) span) :
    (host.run span).Overdue id ↔ ∃ peer address appInfo path,
      span.head? = some (.handle (.dataPathRequested id peer address appInfo)) ∧
      (host.run span).engine.paths.get? id = some path ∧
      path.isLive = true ∧ path.response = none ∧ path.endPending = false ∧
      host.now.addMillis host.engine.paths.graceMs ≤ (host.run span).now := by
  constructor
  · rintro ⟨path, found, overdue⟩
    have attested := reachable.attested lifetime found
    obtain ⟨deadline, due, late⟩ := attested.consistent.isOverdue_iff.mp overdue
    obtain ⟨⟨peer, address, appInfo, head⟩, rfl⟩ := attested.due deadline due
    obtain ⟨waits, unanswered, notEnding⟩ :=
      attested.consistent.due.mp (Option.isSome_of_eq_some due)
    exact ⟨peer, address, appInfo, path, head, found, by simp [DataPath.isLive, waits], unanswered,
      notEnding, late⟩
  · rintro ⟨peer, address, appInfo, path, head, found, live, unanswered, notEnding, late⟩
    have attested := reachable.attested lifetime found
    have theirs := reachable.origin_peer lifetime head found
    have waits : path.state = .awaitingLocalResponse := by
      cases stage : path.state with
      | awaitingLocalResponse => rfl
      | requested => exact absurd stage (attested.consistent.peer theirs)
      | confirmed => exact absurd (attested.consistent.up theirs stage) (by simp [unanswered])
      | terminated => simp [DataPath.isLive, stage] at live
    obtain ⟨deadline, due⟩ := Option.isSome_iff_exists.mp
      (attested.consistent.due.mpr ⟨waits, unanswered, notEnding⟩)
    obtain ⟨_, rfl⟩ := attested.due deadline due
    exact ⟨path, found, attested.consistent.isOverdue_iff.mpr ⟨_, due, late⟩⟩

end Host

/-! ## Requests about a path that is gone -/

/-- The path that a request is to answer or to end. -/
def Request.concludes? : Request → Option DataPathId
  | respondDataPath request => some request.pathId
  | endDataPath id => some id
  | _ => none

/-- Whether a request that answers or ends a path makes sense by itself. -/
def Request.WellFormed : Request → Prop
  | respondDataPath request => request.validate = .ok ()
  | _ => True

/-- Nobody can answer or end a path that is down or gone. -/
theorem Engine.vet_concludes {engine : Engine} {id : DataPathId} {request : Request}
    (gone : ∀ path, engine.paths.get? id = some path → path.state = .terminated)
    (about : request.concludes? = some id) :
    ∃ rejection, engine.vet request = .error rejection ∧
      (request.WellFormed → engine.interface.phase = .enabled →
        rejection = .unknownDataPath id) := by
  have dead : engine.paths.live id = .error (.unknownDataPath id) := by
    unfold DataPathTable.live
    split
    next path found => rw [if_neg (by simp [DataPath.isLive, gone path found])]
    next => rfl
  have enabled (operation : CommandKind) (up : engine.interface.phase = .enabled) :
      engine.interface.requireEnabled operation = .ok () :=
    require_eq_ok_iff.mpr (decide_eq_true up)
  cases request with
  | respondDataPath request =>
    obtain rfl := Option.some.inj about
    have checked (known : Option Capabilities) :
        engine.paths.checkRespond request known = .error (.unknownDataPath request.pathId) := by
      rw [DataPathTable.checkRespond, dead]
      rfl
    obtain ⟨rejection, fails, why⟩ : ∃ rejection, engine.vetRespond request = .error rejection ∧
        (request.validate = .ok () ∧
          engine.interface.requireEnabled .respondDataPath = .ok () ∧ True →
            rejection = .unknownDataPath request.pathId) := by
      unfold Engine.vetRespond
      rw [checked]
      exact check_bind_fails _ (check_bind_fails _ ⟨_, rfl, fun _ => rfl⟩)
    exact ⟨rejection, fails, fun wellFormed up => why ⟨wellFormed, enabled _ up, trivial⟩⟩
  | endDataPath path =>
    obtain rfl := Option.some.inj about
    have checked : engine.paths.checkEnd path = .error (.unknownDataPath path) := by
      rw [DataPathTable.checkEnd, dead]
      rfl
    obtain ⟨rejection, fails, why⟩ : ∃ rejection, engine.vet (.endDataPath path) = .error rejection ∧
        (engine.interface.requireEnabled .endDataPath = .ok () ∧ True →
          rejection = .unknownDataPath path) := by
      unfold Engine.vet
      dsimp only
      rw [checked]
      exact check_bind_fails _ ⟨_, rfl, fun _ => rfl⟩
    exact ⟨rejection, fails, fun _ up => why ⟨enabled _ up, trivial⟩⟩
  | _ => cases about

namespace Host

variable {σ : Type} [Transport σ] {host : Host σ}

/-- A request that is found wanting is refused, and nothing happens. -/
theorem submit_unfit {request : Request} {rejection : Rejection}
    (unfit : host.engine.vet request = .error rejection) :
    host.submit request = (.error rejection, host) := by
  simp only [submit, unfit]

/-! ## Runs -/

/-- The requests of peers are answered at most once and given up at most once, in time. -/
structure PeerRequests (start : Host σ) (graceMs : UInt64) : Prop where
  /-- In a lifetime of a path at most one answer to its peer is handed over, be it the caller's
  acceptance, the caller's refusal or the host's own. -/
  answeredOnce : ∀ id before span, (start.run before).Lifetime (.path id) span →
    DataPath.answersIn id ((start.run before).emitted span) ≤ 1
  /-- In a lifetime of a path the caller is told at most once that its peer has waited too long. -/
  lapsedOnce : ∀ id before span, (start.run before).Lifetime (.path id) span →
    ((start.run before).emitted span).count (.lapsed id) ≤ 1
  /-- A step tells it just if it looks at the deadlines, the lifetime has begun with a peer's request
  that is at least the grace period old, and the path is not down, was not answered and is not asked to
  end. -/
  lapsed : ∀ id acts act, .lapsed id ∈ (start.run acts).emitted [act] ↔
    (act = .expireResponses ∨ act = .tick) ∧
      ∃ before span peer address appInfo path, acts = before ++ span ∧
        (start.run before).Lifetime (.path id) span ∧
        span.head? = some (.handle (.dataPathRequested id peer address appInfo)) ∧
        (start.run acts).engine.paths.get? id = some path ∧
        path.isLive = true ∧ path.response = none ∧ path.endPending = false ∧
        (start.run before).now.addMillis graceMs ≤ (start.run acts).now
  /-- After it was told, and until a new path has the number, nothing is told of the path, and all
  answers and ends of it are refused: as those of an unknown path, if they make sense and the interface
  is up. -/
  spent : ∀ id acts first last, start.emitted acts = first ++ .lapsed id :: last →
    (∀ effect ∈ last, effect.opens? ≠ some (.path id)) →
    DataPath.reportsIn id last = [] ∧
      ∀ request : Request, request.concludes? = some id → ∃ rejection,
        (start.run acts).submit request = (.error rejection, start.run acts) ∧
        (request.WellFormed → (start.run acts).engine.interface.phase = .enabled →
          rejection = .unknownDataPath id)

/-- **The requests of peers are answered at most once and given up at most once**, in any run. -/
theorem run_peerRequests (config : EngineConfig) (transport : σ) (now : Timestamp) :
    (Host.new config transport now).PeerRequests config.responseGraceMs := by
  have reachable := Reachable.new config transport now
  have graceMs : (Host.new config transport now).engine.paths.graceMs = config.responseGraceMs :=
    rfl
  have vacant (id : DataPathId) : (Host.new config transport now).engine.holds (.path id) = false :=
    Engine.holds_new config _
  generalize Host.new config transport now = start at reachable graceMs vacant
  constructor
  case answeredOnce => exact fun _ before _ lifetime => (reachable.run before).answeredOnce lifetime
  case lapsedOnce => exact fun _ before _ lifetime => (reachable.run before).lapsedOnce lifetime
  case lapsed =>
    intro id acts act
    rw [(reachable.run acts).lapsed_iff, and_congr_right_iff]
    intro _
    constructor
    · rintro ⟨path, found, overdue⟩
      obtain ⟨before, span, rfl, lifetime, _⟩ :=
        (pathSlot σ id).lifetime_of_found reachable (vacant id) found
      have late : (start.run (before ++ span)).Overdue id := ⟨path, found, overdue⟩
      rw [run_append] at late ⊢
      obtain ⟨peer, address, appInfo, path, rest⟩ :=
        ((reachable.run before).overdue_iff lifetime).mp late
      rw [reachable.graceMs_run, graceMs] at rest
      exact ⟨before, span, peer, address, appInfo, path, rfl, lifetime, rest⟩
    · rintro ⟨before, span, peer, address, appInfo, path, rfl, lifetime, rest⟩
      rw [run_append] at rest ⊢
      rw [← graceMs, ← reachable.graceMs_run before] at rest
      exact ((reachable.run before).overdue_iff lifetime).mpr ⟨peer, address, appInfo, path, rest⟩
  case spent =>
    intro id acts first last split fresh
    obtain ⟨silent, down⟩ := reachable.spent acts first last split fresh
    refine ⟨silent, fun request about => ?_⟩
    obtain ⟨rejection, unfit, why⟩ := Engine.vet_concludes down about
    exact ⟨rejection, submit_unfit unfit, why⟩

/-- Nobody answers a peer. The first look at the deadlines gives it up, and the host refuses it; the
second, and the firmware's confirmation, come too late. -/
example :
    let host := (Host.new .standard Recorder.new ⟨0⟩).run
      [.submit (.enable .standard), .handle (.commandCompleted ⟨1⟩ (.ok .empty)),
        .handle (.dataPathRequested ⟨5⟩ ⟨1⟩ .zero .empty),
        .advance EngineConfig.standard.responseGraceMs]
    host.emitted [.tick, .tick, .handle (.dataPathConfirmed ⟨5⟩ true .zero .empty ⟨0⟩)] =
      [.lapsed ⟨5⟩, .issued ⟨2⟩ (.respondDataPath (.refusal ⟨5⟩) none)] := by
  decide +kernel

end Host

end NanHost
