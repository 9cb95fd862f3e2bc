import NanHost.Proofs.Host.Closings

/-!
# Reports of paths — a path is not lost silently, and not reported twice

A path that is up can go down in many ways: the firmware ends it, the caller ends it, an answer fails,
the interface goes down. While the caller's own request to end it is under way, its end is reported by
the completion of that request; otherwise it is reported for itself.

## What is proved

`run_pathReports`: in every lifetime of a path the caller is told at most once that it is up and at
most once that it is down, in this order. If it was up and is gone, the caller was told that it is
down, or that a request to end it has ended. Outside the lifetimes of a path nothing is told of it.

What the caller has been told is an account of the path (`DataPath.Account`): which stage it is in says
what must have been told. One lemma says that every move keeps the account (`Account.move`).
-/

namespace NanHost

/-! ## Reports -/

/-- What the caller is told of a path by itself: that it is up, or that it is down. -/
inductive PathReport where
  | up
  | down
  deriving DecidableEq

/-- What a notification tells of a path. -/
def Notification.report? (id : DataPathId) : Notification → Option PathReport
  | dataPathConfirmed path .. => if path = id then some .up else none
  | dataPathTerminated path _ => if path = id then some .down else none
  | _ => none

/-- What an effect tells the caller of a path. -/
def Effect.report? (id : DataPathId) : Effect → Option PathReport
  | told notification => notification.report? id
  | _ => none

/-- What is told of a path concerns it. -/
theorem Effect.place?_of_report? {effect : Effect} {id : DataPathId} {report : PathReport}
    (reports : effect.report? id = some report) : effect.place? = some (.path id) := by
  cases effect with
  | told notification =>
    cases notification with
    | dataPathConfirmed path | dataPathTerminated path =>
      simp only [Effect.report?, Notification.report?] at reports
      split at reports
      next same => rw [← same]; rfl
      next => cases reports
    | _ => cases reports
  | _ => cases reports

namespace DataPath

/-- What the caller is told of a path by what comes out. -/
def reportsIn (id : DataPathId) (log : List Effect) : List PathReport :=
  log.filterMap (·.report? id)

variable {id : DataPathId} {log effects : List Effect} {path next : DataPath} {now : Timestamp}

theorem reportsIn_append (id : DataPathId) (log effects : List Effect) :
    reportsIn id (log ++ effects) = reportsIn id log ++ reportsIn id effects :=
  List.filterMap_append

theorem reportsIn_of_quiet (quiet : Quiet (.path id) effects) : reportsIn id effects = [] := by
  refine List.filterMap_eq_nil_iff.mpr fun effect member => ?_
  cases report : effect.report? id with
  | none => rfl
  | some report' => exact absurd (Effect.place?_of_report? report) (quiet effect member)

/-! ## Accounts -/

/-- What must have been told of a path that is gone. -/
structure AccountClosed (id : DataPathId) (log : List Effect) : Prop where
  /-- It was up once and down once, at most, and in this order. -/
  inOrder : (reportsIn id log).Sublist [.up, .down]
  /-- If it was up it was down, or its end was asked for. -/
  told : .up ∈ reportsIn id log → .down ∈ reportsIn id log ∨ closingsIn (.path id) log ≠ []

/-- What must have been told of a path that is on record. -/
structure AccountOpen (path : DataPath) (id : DataPathId) (log : List Effect) : Prop where
  /-- A path is marked as ending after its end was asked for. -/
  asked : path.endPending = true → closingsIn (.path id) log ≠ []
  /-- Nothing has been told of a path that is not up yet. -/
  pending : path.state = .requested ∨ path.state = .awaitingLocalResponse → reportsIn id log = []
  /-- Of a path that is up just this has been told. -/
  up : path.state = .confirmed → reportsIn id log = [.up]
  /-- A path that is down is as good as gone. -/
  down : path.state = .terminated → AccountClosed id log

/-- What must have been told of a path, if any. -/
def Account (id : DataPathId) : Option DataPath → List Effect → Prop
  | some path, log => path.AccountOpen id log
  | none, log => AccountClosed id log

theorem AccountClosed.append (closed : AccountClosed id log) (silent : reportsIn id effects = []) :
    AccountClosed id (log ++ effects) := by
  have same : reportsIn id (log ++ effects) = reportsIn id log := by
    rw [reportsIn_append, silent, List.append_nil]
  refine ⟨same ▸ closed.inOrder, fun up => ?_⟩
  rw [same] at up ⊢
  rcases closed.told up with down | asked
  · exact .inl down
  · refine .inr ?_
    rw [closingsIn_append]
    exact List.append_ne_nil_of_left_ne_nil asked _

namespace AccountOpen

variable (account : path.AccountOpen id log)

include account

/-- Nothing is told. -/
theorem append (silent : reportsIn id effects = []) : path.AccountOpen id (log ++ effects) := by
  have same : reportsIn id (log ++ effects) = reportsIn id log := by
    rw [reportsIn_append, silent, List.append_nil]
  constructor
  case asked =>
    intro ending
    rw [closingsIn_append]
    exact List.append_ne_nil_of_left_ne_nil (account.asked ending) _
  case pending => exact fun stage => same.trans (account.pending stage)
  case up => exact fun stage => same.trans (account.up stage)
  case down => exact fun stage => (account.down stage).append silent

/-- A path that goes down is told to be so if it was not before. -/
theorem falls (live : path.state ≠ .terminated) (reason : TerminationReason) :
    AccountClosed id (log ++ [.told (.dataPathTerminated id reason)]) := by
  have one : reportsIn id [.told (.dataPathTerminated id reason)] = [.down] := by
    simp [reportsIn, Effect.report?, Notification.report?]
  refine ⟨?_, fun _ => .inl ?_⟩
  · rw [reportsIn_append, one]
    cases stage : path.state with
    | requested => rw [account.pending (.inl stage)]; decide
    | awaitingLocalResponse => rw [account.pending (.inr stage)]; decide
    | confirmed => rw [account.up stage]; decide
    | terminated => exact absurd stage live
  · rw [reportsIn_append, one]
    exact List.mem_append_right _ (List.mem_singleton_self _)

theorem inOrder : (reportsIn id log).Sublist [.up, .down] := by
  cases stage : path.state with
  | requested | awaitingLocalResponse =>
    rw [account.pending (by simp [stage])]
    exact List.nil_sublist _
  | confirmed =>
    rw [account.up stage]
    decide
  | terminated => exact (account.down stage).inOrder

/-- A path that was not up, or whose end was asked for, goes down without a report. -/
theorem fades (unreported : path.state = .confirmed → closingsIn (.path id) log ≠ []) :
    AccountClosed id log := by
  refine ⟨account.inOrder, fun up => ?_⟩
  cases stage : path.state with
  | requested | awaitingLocalResponse =>
    have silent : reportsIn id log = [] := account.pending (by simp [stage])
    simp [silent] at up
  | confirmed => exact .inr (unreported stage)
  | terminated => exact (account.down stage).told up

/-- A path of which other fields have changed. -/
theorem congr (stage : next.state = path.state) (ending : next.endPending = path.endPending) :
    next.AccountOpen id log :=
  ⟨ending ▸ account.asked, stage ▸ account.pending, stage ▸ account.up, stage ▸ account.down⟩

end AccountOpen

/-- A path that is down. -/
theorem AccountOpen.of_closed (closed : AccountClosed id log) (gone : next.state = .terminated)
    (asked : next.endPending = true → closingsIn (.path id) log ≠ []) : next.AccountOpen id log where
  asked := asked
  pending stage := by simp [gone] at stage
  up stage := by simp [gone] at stage
  down _ := closed

/-- What is left on record of a path, if anything. -/
theorem AccountOpen.kept (account : next.AccountOpen id log) : Account id next.kept log := by
  cases done : next.isDone with
  | true =>
    rw [kept_eq_none.mpr done]
    exact account.down (isDone_iff.mp done).1
  | false =>
    rw [kept_eq_some.mpr ⟨rfl, done⟩]
    exact account

theorem Account.inOrder {entry : Option DataPath} (account : Account id entry log) :
    (reportsIn id log).Sublist [.up, .down] := by
  cases entry with
  | none => exact AccountClosed.inOrder account
  | some path => exact AccountOpen.inOrder account

/-- **Every move keeps the account of a path.** -/
theorem Account.move {entry : Option DataPath} (account : path.AccountOpen id log)
    (move : Move id now path effects entry) : Account id entry (log ++ effects) := by
  have asked (more : List Effect) (ending : path.endPending = true) :
      closingsIn (.path id) (log ++ more) ≠ [] := by
    rw [closingsIn_append]
    exact List.append_ne_nil_of_left_ne_nil (account.asked ending) _
  have silent (txn : TransactionId) (command : Command) :
      reportsIn id [.issued txn command] = [] := rfl
  cases move with
  | answered txn request known about awaits =>
    have waits : path.state = .awaitingLocalResponse := by simp_all [awaitsAnswer]
    have account := account.append (silent txn (.respondDataPath request known))
    show AccountOpen _ id _
    unfold DataPath.answered
    split
    · exact account.congr rfl rfl
    · exact .of_closed (account.fades (by simp [waits])) rfl account.asked
  | endAsked txn stage notAsked =>
    have account := account.append (silent txn (.endDataPath id))
    refine ⟨fun _ => ?_, account.pending, account.up, account.down⟩
    have one : closingsIn (.path id) [.issued txn (.endDataPath id)] = [txn] := by
      simp [closingsIn, Effect.closing?, Command.closes?]
    rw [closingsIn_append, one]
    simp
  | confirmed peerInterface appInfo confirmable =>
    have pending : path.state = .requested ∨ path.state = .awaitingLocalResponse := by
      cases stage : path.state <;> simp_all [isConfirmable]
    refine ⟨asked _, by simp [DataPath.confirmed], fun _ => ?_, by simp [DataPath.confirmed]⟩
    rw [reportsIn_append, account.pending pending]
    simp [reportsIn, Effect.report?, Notification.report?]
  | rejected status confirmable =>
    have live : path.state ≠ .terminated := by
      intro stage
      simp [isConfirmable, stage] at confirmable
    exact AccountOpen.kept (.of_closed (account.falls live _) rfl (asked _))
  | ended status live =>
    have live : path.state ≠ .terminated := by simpa [isLive] using live
    refine AccountOpen.kept (.of_closed ?_ rfl (asked _))
    cases ending : path.endPending with
    | true =>
      have closed := account.fades fun _ => account.asked ending
      simpa using closed
    | false => exact account.falls live _
  | struck txn =>
    rw [List.append_nil]
    exact AccountOpen.kept (account.congr rfl rfl)
  | failed txn given =>
    refine AccountOpen.kept (.of_closed ?_ rfl (asked _))
    cases up : path.isConfirmed with
    | true =>
      have live : path.state ≠ .terminated := by simp_all [isConfirmed]
      exact account.falls live _
    | false =>
      have closed := account.fades (by simp_all [isConfirmed])
      simpa using closed
  | endSettled txn ends =>
    rw [List.append_nil]
    refine AccountOpen.kept (.of_closed ?_ rfl (by simp))
    rcases ends with ending | gone
    · exact account.fades fun _ => account.asked ending
    · exact account.down gone
  | lapsed overdue =>
    have live : path.state ≠ .terminated := by simp_all [isOverdue]
    exact AccountOpen.kept (.of_closed (account.falls live _) rfl (asked _))
  | refused txn known overdue =>
    have live : path.state ≠ .terminated := by simp_all [isOverdue]
    have closed := (account.falls live .responseTimeout).append
      (silent txn (.respondDataPath (.refusal id) known))
    rw [List.append_assoc] at closed
    exact .of_closed closed rfl (asked _)
  | fell reason =>
    show AccountClosed id _
    cases open' : path.isOpen with
    | true =>
      have live : path.state ≠ .terminated := by simp_all [isOpen, isLive]
      exact account.falls live reason
    | false =>
      have closed : AccountClosed id log := by
        by_cases gone : path.state = .terminated
        · exact account.down gone
        · have ending : path.endPending = true := by simp_all [isOpen, isLive]
          exact account.fades fun _ => account.asked ending
      simpa using closed

end DataPath

/-! ## Runs -/

namespace Host

variable {σ : Type} [Transport σ] {host : Host σ}

/-- What the caller has been told of a path is accounted for at the end of every beginning of its
lifetime. -/
theorem Reachable.account (reachable : Reachable host) {id : DataPathId} {span : List (Act σ)}
    (lifetime : host.Lifetime (.path id) span) :
    DataPath.Account id ((host.run span).engine.paths.get? id) (host.emitted span) := by
  refine (pathSlot σ id).keeps reachable lifetime (DataPath.Account id) ?_ ?_ fun moved account =>
    DataPath.Account.move account moved
  · rintro act effects path _ ⟨event, rfl, entered⟩
    cases entered with
    | numbered | requested => exact ⟨nofun, fun _ => rfl, nofun, nofun⟩
  · intro entry log effects quiet account
    have silent := DataPath.reportsIn_of_quiet quiet
    cases entry with
    | none => exact DataPath.AccountClosed.append account silent
    | some path => exact DataPath.AccountOpen.append account silent

/-- Paths are reported in their lifetimes, and are neither reported twice nor lost silently. -/
structure PathReports (start : Host σ) : Prop where
  /-- Whenever a path is on record, a lifetime of it has begun. -/
  begun : ∀ id acts, (start.run acts).engine.holds (.path id) = true →
    ∃ before span, acts = before ++ span ∧ (start.run before).Lifetime (.path id) span
  /-- In a lifetime of a path the caller is told at most once that it is up, and then at most once that
  it is down. -/
  inOrder : ∀ id before span, (start.run before).Lifetime (.path id) span →
    (DataPath.reportsIn id ((start.run before).emitted span)).Sublist [.up, .down]
  /-- By the end of a lifetime in which it was up, the caller was told that it is down, or that a
  request to end it has ended. -/
  closed : ∀ id before span, (start.run before).Lifetime (.path id) span →
    ((start.run before).run span).engine.paths.get? id = none →
      .up ∈ DataPath.reportsIn id ((start.run before).emitted span) →
        .down ∈ DataPath.reportsIn id ((start.run before).emitted span) ∨
          (start.run before).closed (.path id) span ≠ []
  /-- What the caller is told of a path, it is told in a lifetime of it. -/
  inside : ∀ id acts act report, ∀ effect ∈ (start.run acts).emitted [act],
    effect.report? id = some report → ∃ before span, acts ++ [act] = before ++ span ∧
      (start.run before).Lifetime (.path id) span

/-- **No path is lost silently, and none is reported twice**, in any run. -/
theorem run_pathReports (config : EngineConfig) (transport : σ) (now : Timestamp) :
    (Host.new config transport now).PathReports := by
  have reachable := Reachable.new config transport now
  have vacant (id : DataPathId) : (Host.new config transport now).engine.holds (.path id) = false :=
    Engine.holds_new config _
  generalize Host.new config transport now = start at reachable vacant
  constructor
  case begun =>
    intro id acts there
    exact (pathSlot σ id).lifetime_of_holds reachable (vacant id) there
  case inOrder =>
    intro id before span lifetime
    exact ((reachable.run before).account lifetime).inOrder
  case closed =>
    intro id before span lifetime gone up
    have account := (reachable.run before).account lifetime
    rw [gone] at account
    refine (account.told up).imp_right fun asked => ?_
    have vacated : ((start.run before).run span).engine.holds (.path id) = false := by
      rw [Engine.holds, gone]
      rfl
    have accepted : (start.run before).closings (.path id) span = _ :=
      (reachable.run before).closings_eq _ span
    have perm := (reachable.run before).closed_perm lifetime.vacant vacated
    intro nothing
    rw [nothing, List.nil_perm] at perm
    exact asked (accepted.symm.trans perm)
  case inside =>
    intro id acts act report effect member reports
    exact (pathSlot σ id).lifetime_of_effect reachable (vacant id) member
      (Effect.place?_of_report? reports)

/-- A path that is up when the caller asks for its end. The firmware ends it first, which is not
reported; that the request has ended is. -/
example :
    let request : InitiateRequest :=
      ⟨⟨0⟩, .zero, .available, none, "nan0", .empty, .unsecured⟩
    let host := (Host.new .standard Recorder.new ⟨0⟩).run
      [.submit (.enable .standard), .handle (.commandCompleted ⟨1⟩ (.ok .empty)),
        .submit (.createInterface "nan0"), .handle (.commandCompleted ⟨2⟩ (.ok .empty)),
        .submit (.initiateDataPath request)]
    let span : List (Act Recorder) :=
      [.handle (.commandCompleted ⟨3⟩ (.ok (.pathId ⟨5⟩))),
        .handle (.dataPathConfirmed ⟨5⟩ true .zero .empty ⟨0⟩), .submit (.endDataPath ⟨5⟩),
        .handle (.dataPathTerminated ⟨5⟩ ⟨0⟩), .handle (.commandCompleted ⟨4⟩ (.ok .empty))]
    DataPath.reportsIn ⟨5⟩ (host.emitted span) = [.up] ∧
      host.closed (.path ⟨5⟩) span = [⟨4⟩] ∧
      (host.run span).engine.holds (.path ⟨5⟩) = false := by
  decide +kernel

end Host

end NanHost
