import NanHost.Proofs.Host.Closings

/-!
# Reports of sessions — a session is closed towards the caller exactly once

A caller who stops a session learns from the completion of the stop that it has ended. If it was not
the caller who stopped it, the caller is told so. Stops, updates, messages, reports of the firmware and
deadlines may meet at the same session in any order, and the entry of a session that has ended is kept
as long as a command about it is out.

## What is proved

`run_sessionReports`: every lifetime of a session that has ended was closed in one of the two ways, and
in one only. A session goes from its stage to no earlier one, and its entry is removed for one of three
causes (`Host.Removal`).

What the caller has been told, and what has been asked of the firmware, is an account of the session
(`Session.Account`). One lemma says that every move keeps it (`Session.Account.move`).
-/

namespace NanHost

/-! ## Reports -/

/-- Whether a notification tells that a session has ended by itself. -/
def Notification.endsSession (id : SessionId) : Notification → Bool
  | sessionTerminated session .. => session = id
  | _ => false

/-- Whether an effect tells that a session has ended by itself. -/
def Effect.endsSession (id : SessionId) : Effect → Bool
  | told notification => notification.endsSession id
  | _ => false

/-- What tells the end of a session concerns it. -/
theorem Effect.place?_of_endsSession {effect : Effect} {id : SessionId}
    (ends : effect.endsSession id = true) : effect.place? = some (.session id) := by
  cases effect with
  | told notification =>
    cases notification with
    | sessionTerminated session =>
      obtain rfl : session = id := of_decide_eq_true ends
      rfl
    | _ => cases ends
  | _ => cases ends

namespace Session

/-- How often the caller is told, by what comes out, that a session has ended by itself. -/
def endsIn (id : SessionId) (log : List Effect) : Nat := log.countP (·.endsSession id)

variable {id : SessionId} {log effects : List Effect} {session next : Session}

theorem endsIn_append (id : SessionId) (log effects : List Effect) :
    endsIn id (log ++ effects) = endsIn id log + endsIn id effects := List.countP_append

theorem endsIn_of_quiet (quiet : Quiet (.session id) effects) : endsIn id effects = 0 :=
  List.countP_eq_zero.mpr fun effect member ends =>
    quiet effect member (Effect.place?_of_endsSession ends)

/-! ## Accounts -/

/-- The state of the account of a session: how many stops were handed to the firmware, and how often
the caller was told that it has ended by itself. -/
def Tally (id : SessionId) (log : List Effect) (stops ends : Nat) : Prop :=
  (closingsIn (.session id) log).length = stops ∧ endsIn id log = ends

/-- The account of a session that is gone: it was closed in one of two ways. -/
def AccountClosed (id : SessionId) (log : List Effect) : Prop := Tally id log 0 1 ∨ Tally id log 1 0

/-- The account of a session that is on record. -/
structure AccountOpen (session : Session) (id : SessionId) (log : List Effect) : Prop where
  /-- There is something to keep it for. -/
  busy : session.isDone = false
  /-- Nobody has ended a session that is active. -/
  active : session.state = .active → Tally id log 0 0
  /-- A session is terminating once the caller has stopped it. -/
  terminating : session.state = .terminating → Tally id log 1 0
  /-- A session that is terminated is as good as gone. -/
  terminated : session.state = .terminated → AccountClosed id log

/-- The account of a session, if any. -/
def Account (id : SessionId) : Option Session → List Effect → Prop
  | some session, log => session.AccountOpen id log
  | none, log => AccountClosed id log

theorem Tally.append {stops ends stops' ends' : Nat} (tally : Tally id log stops ends)
    (more : Tally id effects stops' ends') :
    Tally id (log ++ effects) (stops + stops') (ends + ends') := by
  constructor
  · rw [closingsIn_append, List.length_append, tally.1, more.1]
  · rw [endsIn_append, tally.2, more.2]

theorem tally_of_quiet (quiet : Quiet (.session id) effects) : Tally id effects 0 0 :=
  ⟨by rw [closingsIn_of_quiet quiet]; rfl, endsIn_of_quiet quiet⟩

theorem AccountClosed.append (closed : AccountClosed id log) (silent : Tally id effects 0 0) :
    AccountClosed id (log ++ effects) :=
  closed.imp (·.append silent) (·.append silent)

namespace AccountOpen

variable (account : session.AccountOpen id log)

include account

theorem append (silent : Tally id effects 0 0) : session.AccountOpen id (log ++ effects) where
  busy := account.busy
  active stage := (account.active stage).append silent
  terminating stage := (account.terminating stage).append silent
  terminated stage := (account.terminated stage).append silent

/-- A session that nobody needs to be told of: somebody has ended it. -/
theorem settled (ended : session.state ≠ .active) : AccountClosed id log := by
  cases stage : session.state with
  | active => exact absurd stage ended
  | terminating => exact .inr (account.terminating stage)
  | terminated => exact account.terminated stage

/-- A session that ends by itself is reported if it was active. -/
theorem falls (role : SessionRole) (reason : TerminationReason) :
    AccountClosed id (log ++
      if session.isActive then [.told (.sessionTerminated id role reason)] else []) := by
  cases active : session.isActive with
  | true =>
    have told : Tally id [.told (.sessionTerminated id role reason)] 0 1 :=
      ⟨rfl, by simp [endsIn, Effect.endsSession, Notification.endsSession]⟩
    have stage : session.state = .active := by simpa [isActive] using active
    exact .inl ((account.active stage).append told)
  | false =>
    have stage : session.state ≠ .active := by simpa [isActive] using active
    simpa using account.settled stage

/-- A session of which other fields have changed, and what is left of it. -/
theorem kept (stage : next.state = session.state) : Account id next.kept log := by
  cases done : next.isDone with
  | true =>
    rw [kept_eq_none.mpr done]
    exact account.terminated (stage.symm.trans (isDone_iff.mp done).1)
  | false =>
    rw [kept_eq_some.mpr ⟨rfl, done⟩]
    exact ⟨done, stage ▸ account.active, stage ▸ account.terminating, stage ▸ account.terminated⟩

end AccountOpen

/-- What is left of a session that is down. -/
theorem AccountClosed.kept (closed : AccountClosed id log) (gone : next.state = .terminated) :
    Account id next.kept log := by
  cases done : next.isDone with
  | true =>
    rw [kept_eq_none.mpr done]
    exact closed
  | false =>
    rw [kept_eq_some.mpr ⟨rfl, done⟩]
    exact ⟨done, fun stage => by simp [gone] at stage, fun stage => by simp [gone] at stage,
      fun _ => closed⟩

/-- **Every move keeps the account of a session.** -/
theorem Account.move {entry : Option Session} (account : session.AccountOpen id log)
    (move : Move id session effects entry) : Account id entry (log ++ effects) := by
  cases move with
  | endures endures =>
    rw [List.append_nil]
    cases endures with
    | used next stage busy =>
      exact ⟨busy, stage ▸ account.active, stage ▸ account.terminating,
        stage ▸ account.terminated⟩
    | settled next stage => exact account.kept stage
    | stopped next stopping gone => exact (account.settled stopping).kept gone
  | stopAsked txn command about active =>
    have asked : Tally id [.issued txn command] 1 0 := by
      have closes : command.closes? = some (.session id) := by
        rcases about with rfl | rfl <;> rfl
      constructor
      · simp [closingsIn, Effect.closing?, closes]
      · rfl
    exact ⟨by simp [isDone], by simp, fun _ => (account.active active).append asked, by simp⟩
  | ended status live => exact (account.falls session.role (.firmware status)).kept rfl
  | fell reason => exact account.falls session.role reason

end Session

/-- A report that the firmware has ended a session removes it if no command about it is out, and leaves
all others as they are. -/
theorem Engine.get?_onSessionTerminated {engine : Engine} {id other : SessionId}
    {status : FirmwareStatus} {session : Session} (found : engine.sessions.get? id = some session)
    (gone : (engine.onSessionTerminated other status).1.sessions.get? id = none) :
    other = id ∧ session.inFlight = ∅ := by
  have removed (entry : Session)
      (gone : ((engine.sessions.put other entry).purge other).get? id = none) :
      other = id ∧ entry.inFlight = ∅ := by
    rw [SessionRegistry.get?_purge, SessionRegistry.get?_put, if_pos rfl,
      SessionRegistry.get?_put] at gone
    by_cases same : id = other
    · rw [if_pos same] at gone
      have done : entry.isDone = true := Session.kept_eq_none.mp gone
      exact ⟨same.symm, Std.ExtTreeSet.eq_empty_iff_forall_not_mem.mpr (Session.isDone_iff.mp done).2⟩
    · rw [if_neg same, if_neg same, found] at gone
      cases gone
  have unmoved (same : engine.sessions.get? id = none) : False := by
    rw [found] at same
    cases same
  unfold onSessionTerminated SessionRegistry.onTerminated at gone
  cases there : engine.sessions.get? other with
  | none =>
    rw [there] at gone
    exact (unmoved gone).elim
  | some entry =>
    rw [there] at gone
    dsimp only at gone
    cases stage : entry.state with
    | active | terminating =>
      rw [stage] at gone
      obtain ⟨rfl, idle⟩ := removed _ gone
      obtain rfl := Option.some.inj (found.symm.trans there)
      exact ⟨rfl, idle⟩
    | terminated =>
      rw [stage] at gone
      exact (unmoved gone).elim

/-! ## Runs -/

namespace Host

variable {σ : Type} [Transport σ] {host : Host σ}

/-- What the caller has been told of a session is accounted for at the end of every beginning of its
lifetime. -/
theorem Reachable.sessionAccount (reachable : Reachable host) {id : SessionId} {span : List (Act σ)}
    (lifetime : host.Lifetime (.session id) span) :
    Session.Account id ((host.run span).engine.sessions.get? id) (host.emitted span) := by
  refine (sessionSlot σ id).keeps reachable lifetime (Session.Account id) ?_ ?_
    fun moved account => Session.Account.move account moved
  · rintro act effects session _ ⟨event, rfl, ⟨txn, kind, config⟩⟩
    exact ⟨rfl, fun _ => ⟨rfl, rfl⟩, nofun, nofun⟩
  · intro entry log effects quiet account
    have silent := Session.tally_of_quiet quiet
    cases entry with
    | none => exact Session.AccountClosed.append account silent
    | some session => exact Session.AccountOpen.append account silent

/-- The causes for which the entry of a session is removed in a step. -/
inductive Removal (host : Host σ) (act : Act σ) (id : SessionId) (session : Session) : Prop
  /-- The last command about it ends, and it was terminated, or that command was to stop it. -/
  | settled (busy : ∃ txn, txn ∈ session.inFlight)
    (idle : ∀ txn record, (host.step act).engine.ledger.get? txn = some record →
      record.context ≠ .session id)
    (down : session.state = .terminated ∨ ∃ txn ∈ session.inFlight, ∃ record,
      host.engine.ledger.get? txn = some record ∧ record.closes? = some (.session id))
  /-- The firmware ends it while no command about it is out. -/
  | ended (status : FirmwareStatus) (report : act = .handle (.sessionTerminated id status))
    (idle : session.inFlight = ∅)
  /-- The interface goes down. -/
  | fell (event : FirmwareEvent) (report : act = .handle event)
    (down : host.engine.TakesDown event)

/-- While nobody ends a session, its entry is removed only with the last command about it. -/
theorem Reachable.removal_of_enduring (reachable : Reachable host) {act : Act σ} {id : SessionId}
    {session : Session} {effects : List Effect}
    (found : host.engine.sessions.get? id = some session) (busy : session.isDone = false)
    (gone : (host.step act).engine.sessions.get? id = none)
    (course : Course (.session id) Session.Enduring (some session) effects none) :
    host.Removal act id session := by
  have sessions : host.engine.sessions.Agrees _ := reachable.coherent.agrees .sessions
  have after : (host.step act).engine.sessions.Agrees _ :=
    (reachable.step act).coherent.agrees .sessions
  have idle : ∀ txn record, (host.step act).engine.ledger.get? txn = some record →
      record.context ≠ .session id := by
    intro txn record onFile about
    obtain ⟨_, there, _⟩ := after.session_of_out
      (Ledger.docket_eq_some.mpr ⟨onFile, by rw [about]; rfl⟩) about
    rw [gone] at there
    cases there
  have agrees := sessions.session found
  cases stage : session.state with
  | active =>
    obtain ⟨_, there, _⟩ := Session.active_of_enduring stage course
    cases there
  | terminating =>
    obtain ⟨txn, record, out, about, kind⟩ := agrees.stop_out stage
    have member := agrees.inFlight_iff.mpr ⟨record, out, about⟩
    have closes : record.closes? = some (.session id) := by
      refine TransactionRecord.closes?_session.mpr ⟨?_, about⟩
      rw [kind]
      cases session.role <;> simp [SessionRole.stopKind]
    exact .settled ⟨txn, member⟩ idle
      (.inr ⟨txn, member, record, (Ledger.docket_eq_some.mp out).1, closes⟩)
  | terminated =>
    have some' : ∃ txn, txn ∈ session.inFlight := by
      by_contra none'
      have done := Session.isDone_iff.mpr ⟨stage, fun txn member => none' ⟨txn, member⟩⟩
      rw [busy] at done
      cases done
    exact .settled some' idle (.inl stage)

/-- A request neither removes a session nor brings one into being. -/
theorem isSome_submit (filed : host.engine.ledger.WellFiled) (request : Request) (id : SessionId) :
    ((host.submit request).2.engine.sessions.get? id).isSome =
      (host.engine.sessions.get? id).isSome := by
  have fate := submit_submission filed request
  generalize host.submit request = outcome at fate
  cases fate with
  | unfit | full | refused => rfl
  | taken dispatch transport admitted opens sent => exact Engine.isSome_stage _ _ request id

/-- **The entry of a session is removed for one of three causes.** -/
theorem Reachable.removal (reachable : Reachable host) (act : Act σ) {id : SessionId}
    {session : Session} (found : host.engine.sessions.get? id = some session)
    (busy : session.isDone = false) (gone : (host.step act).engine.sessions.get? id = none) :
    host.Removal act id session := by
  have coherent := reachable.coherent
  by_cases own : act.isOwn = true
  · obtain ⟨effects, moves⟩ := moves_step coherent reachable.answered act own
    have course := moves.courses.session id
    rw [found, gone] at course
    exact reachable.removal_of_enduring found busy gone course
  · cases act with
    | submit request =>
      have kept := isSome_submit coherent.filed request id
      have gone : (host.submit request).2.engine.sessions.get? id = none := gone
      rw [gone, found] at kept
      cases kept
    | handle event =>
      by_cases down : host.engine.TakesDown event
      · exact .fell event rfl down
      have gone' : (host.engine.handle host.now event).1.sessions.get? id = none := by
        rw [← engine_react host]
        exact gone
      by_cases ends : ∃ other status, event = .sessionTerminated other status
      · obtain ⟨other, status, rfl⟩ := ends
        obtain ⟨rfl, idle⟩ := Engine.get?_onSessionTerminated found gone'
        exact .ended status rfl idle
      · have passages : host.engine.Passages Engine.enduring host.now event _ _ :=
          coherent.passages_enduring reachable.answered event
            (fun other status same => ends ⟨other, status, same⟩) down
        have passage := passages.session id
        rw [found, gone'] at passage
        exact reachable.removal_of_enduring found busy gone passage.of_some
    | _ => exact absurd rfl own

/-- Sessions are closed exactly once, go forward only, and are removed for a cause. -/
structure SessionReports (start : Host σ) : Prop where
  /-- Whenever a session is on record, a lifetime of it has begun. -/
  begun : ∀ id acts, (start.run acts).engine.holds (.session id) = true →
    ∃ before span, acts = before ++ span ∧ (start.run before).Lifetime (.session id) span
  /-- In a lifetime that has ended, no stop was accepted and the caller was told once that the session
  has ended; or one stop was accepted, its completion was reported once, and nothing else. -/
  once : ∀ id before span, (start.run before).Lifetime (.session id) span →
    ((start.run before).run span).engine.sessions.get? id = none →
      (start.run before).closings (.session id) span = [] ∧
          Session.endsIn id ((start.run before).emitted span) = 1 ∨
        ∃ txn, (start.run before).closings (.session id) span = [txn] ∧
          (start.run before).closed (.session id) span = [txn] ∧
          Session.endsIn id ((start.run before).emitted span) = 0
  /-- No step takes a session back to an earlier stage. -/
  forward : ∀ id acts act session next, (start.run acts).engine.sessions.get? id = some session →
    ((start.run acts).step act).engine.sessions.get? id = some next →
      session.state.mayBecome next.state
  /-- A step removes the entry of a session for one of three causes. -/
  removed : ∀ id acts act session, (start.run acts).engine.sessions.get? id = some session →
    ((start.run acts).step act).engine.sessions.get? id = none →
      (start.run acts).Removal act id session

/-- **Every session is closed towards the caller exactly once**, in any run. -/
theorem run_sessionReports (config : EngineConfig) (transport : σ) (now : Timestamp) :
    (Host.new config transport now).SessionReports := by
  have reachable := Reachable.new config transport now
  have vacant (id : SessionId) :
      (Host.new config transport now).engine.holds (.session id) = false := Engine.holds_new config _
  generalize Host.new config transport now = start at reachable vacant
  constructor
  case begun =>
    intro id acts there
    exact (sessionSlot σ id).lifetime_of_holds reachable (vacant id) there
  case once =>
    intro id before span lifetime gone
    have account := (reachable.run before).sessionAccount lifetime
    rw [gone] at account
    have vacated : ((start.run before).run span).engine.holds (.session id) = false := by
      rw [Engine.holds, gone]
      rfl
    have perm := (reachable.run before).closed_perm lifetime.vacant vacated
    have handed := (reachable.run before).closings_eq (.session id) span
    rcases account with ⟨stops, ends⟩ | ⟨stops, ends⟩
    · rw [← handed] at stops
      exact .inl ⟨List.length_eq_zero_iff.mp stops, ends⟩
    · rw [← handed] at stops
      obtain ⟨txn, one⟩ := List.length_eq_one_iff.mp stops
      rw [one] at perm
      exact .inr ⟨txn, one, List.perm_singleton.mp perm, ends⟩
  case forward =>
    intro id acts act session next found here
    have passage := ((reachable.run acts).passages_emitted act).session id
    rw [found, here] at passage
    exact Session.mayBecome_of_course passage.of_some
  case removed =>
    intro id acts act session found gone
    obtain ⟨before, span, _, lifetime, found'⟩ :=
      (sessionSlot σ id).lifetime_of_found reachable (vacant id) found
    have account : Session.Account id ((sessionSlot σ id).get? _) _ :=
      (reachable.run before).sessionAccount lifetime
    rw [found'] at account
    exact (reachable.run acts).removal act found account.busy gone

/-- A session that the firmware ends while a stop of the caller is out: the completion of the stop is
all that the caller is told, be it a failure. -/
example :
    let host := (Host.new .standard Recorder.new ⟨0⟩).run
      [.submit (.enable .standard), .handle (.commandCompleted ⟨1⟩ (.ok .empty)),
        .submit (.publish ⟨0⟩ (.named "printer"))]
    let span : List (Act Recorder) :=
      [.handle (.commandCompleted ⟨2⟩ (.ok (.sessionId ⟨9⟩))), .submit (.stopPublish ⟨9⟩),
        .handle (.sessionTerminated ⟨9⟩ ⟨0⟩), .handle (.commandCompleted ⟨3⟩ (.error ⟨4⟩))]
    host.closings (.session ⟨9⟩) span = [⟨3⟩] ∧ host.closed (.session ⟨9⟩) span = [⟨3⟩] ∧
      Session.endsIn ⟨9⟩ (host.emitted span) = 0 ∧
      (host.run span).engine.holds (.session ⟨9⟩) = false := by
  decide +kernel

end Host

end NanHost
