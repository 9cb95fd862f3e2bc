import NanHost.Proofs.Host.Lifetime

/-!
# Records of paths — no path of a peer comes up unless it was accepted

The caller, the firmware and the clock all change the record of a path, each at its own time. The
fields of the record depend on each other: who has asked for the path, how far it is, what was answered
and until when an answer is due.

## What is proved

`run_pathRecords`: after any run the record of every path is consistent (`DataPath.Consistent`). If it
says that a peer was accepted, an acceptance was handed to the firmware since the path came into being;
if it says that an answer is due, it is due at the end of the grace period that began when the peer's
request was handled. And no step takes a path back to an earlier stage.

One lemma says that every move of a path leaves its record consistent (`DataPath.Move.consistent`).
-/

namespace NanHost

namespace DataPath

/-- The fields of a path's record go together. -/
structure Consistent (path : DataPath) : Prop where
  /-- A path asked for from here needs no answer, and has its interface from the beginning. -/
  here : path.origin = .here →
    path.state ≠ .awaitingLocalResponse ∧ path.response = none ∧ path.responseDeadline = none ∧
      path.interfaceName.isSome = true
  /-- A path asked for by a peer does not wait for the peer. -/
  peer : path.origin = .peer → path.state ≠ .requested
  /-- It is up only if it was accepted. -/
  up : path.origin = .peer → path.state = .confirmed → path.response = some true
  /-- A path that was accepted has its interface from the acceptance. -/
  accepted : path.response = some true → path.interfaceName.isSome = true
  /-- A path that was refused is down, and has none. -/
  refused : path.response = some false → path.state = .terminated ∧ path.interfaceName = none
  /-- An answer is due as long as none was given and no end was asked for. -/
  due : path.responseDeadline.isSome = true ↔
    path.state = .awaitingLocalResponse ∧ path.response = none ∧ path.endPending = false
  /-- The peer's end of a path that is up is known. -/
  reached : path.state = .confirmed → path.peerInterface.isSome = true

namespace Consistent

variable {path next : DataPath}

/-- A path that has gone down, and that nothing is due of. -/
theorem down (consistent : path.Consistent) (origin : next.origin = path.origin)
    (response : next.response = path.response)
    (interfaceName : next.interfaceName = path.interfaceName)
    (gone : next.state = .terminated) (nothingDue : next.responseDeadline = none) :
    next.Consistent where
  here local' := by
    obtain ⟨_, unanswered, _, name⟩ := consistent.here (origin ▸ local')
    refine ⟨by simp [gone], response.trans unanswered, nothingDue, ?_⟩
    rw [interfaceName]
    exact name
  peer _ := by simp [gone]
  up _ confirmed := by simp [gone] at confirmed
  accepted given := by
    rw [interfaceName]
    exact consistent.accepted (response ▸ given)
  refused given := ⟨gone, interfaceName.trans (consistent.refused (response ▸ given)).2⟩
  due := by simp [gone, nothingDue]
  reached confirmed := by simp [gone] at confirmed

/-- Nothing is due of a path that is not waiting for an answer. -/
theorem nothing_due (consistent : path.Consistent)
    (settled : path.state = .awaitingLocalResponse → path.response.isSome = true ∨
      path.endPending = true) : path.responseDeadline = none := by
  refine Option.not_isSome_iff_eq_none.mp fun due => ?_
  obtain ⟨waits, unanswered, notEnding⟩ := consistent.due.mp due
  rcases settled waits with given | ending
  · simp [unanswered] at given
  · simp [notEnding] at ending

end Consistent

theorem Entry.consistent {id : DataPathId} {now : Timestamp} {graceMs : UInt64}
    {event : FirmwareEvent} {effects : List Effect} {path : DataPath}
    (entry : Entry id now graceMs event effects path) : path.Consistent := by
  cases entry with
  | numbered txn kind request => constructor <;> simp [initiated]
  | requested peer address appInfo => constructor <;> simp [requestedByPeer]

variable {id : DataPathId} {now : Timestamp} {path next : DataPath} {effects : List Effect}

/-- **Every move leaves the record of a path consistent.** -/
theorem Move.consistent (move : Move id now path effects (some next))
    (consistent : path.Consistent) : next.Consistent := by
  generalize result : some next = entry at move
  cases move with
  | answered txn request known about awaits =>
    obtain rfl := Option.some.inj result
    have waits : path.state = .awaitingLocalResponse := by simp_all [awaitsAnswer]
    have theirs : path.origin ≠ .here := fun ours => (consistent.here ours).1 waits
    unfold DataPath.answered
    split
    next accepts =>
      constructor <;> simp [attach, waits, theirs, accepts]
    next refuses =>
      constructor <;> simp [attach, theirs, refuses]
  | endAsked txn stage notAsked =>
    obtain rfl := Option.some.inj result
    exact {
      here := fun ours => by
        obtain ⟨notWaiting, unanswered, _, name⟩ := consistent.here ours
        exact ⟨notWaiting, unanswered, rfl, name⟩
      peer := consistent.peer
      up := consistent.up
      accepted := consistent.accepted
      refused := consistent.refused
      due := by simp [withoutDeadline]
      reached := consistent.reached }
  | confirmed peerInterface appInfo confirmable =>
    obtain rfl := Option.some.inj result
    have answered : path.state = .awaitingLocalResponse → path.response = some true := by
      intro waits
      simpa [isConfirmable, waits] using confirmable
    have nothingDue : path.responseDeadline = none :=
      consistent.nothing_due fun waits => .inl (by simp [answered waits])
    exact {
      here := fun ours => ⟨by simp [DataPath.confirmed], (consistent.here ours).2⟩
      peer := by simp [DataPath.confirmed]
      up := fun theirs _ => by
        have notOurs := consistent.peer theirs
        cases stage : path.state with
        | requested => exact absurd stage notOurs
        | awaitingLocalResponse => exact answered stage
        | confirmed | terminated => simp [isConfirmable, stage] at confirmable
      accepted := consistent.accepted
      refused := fun given => by
        have down := (consistent.refused given).1
        simp [isConfirmable, down] at confirmable
      due := by simp [DataPath.confirmed, nothingDue]
      reached := by simp [DataPath.confirmed] }
  | rejected status confirmable =>
    obtain ⟨rfl, _⟩ := kept_eq_some.mp result.symm
    refine consistent.down rfl rfl rfl rfl (consistent.nothing_due fun waits => .inl ?_)
    simp only [isConfirmable, waits, decide_eq_true_eq] at confirmable
    rw [confirmable]
    rfl
  | ended status live =>
    obtain ⟨rfl, _⟩ := kept_eq_some.mp result.symm
    exact consistent.down rfl rfl rfl rfl rfl
  | struck txn =>
    obtain ⟨rfl, _⟩ := kept_eq_some.mp result.symm
    exact ⟨consistent.here, consistent.peer, consistent.up, consistent.accepted,
      consistent.refused, consistent.due, consistent.reached⟩
  | failed txn given =>
    obtain ⟨rfl, _⟩ := kept_eq_some.mp result.symm
    exact consistent.down rfl rfl rfl rfl (consistent.nothing_due fun _ => .inl given)
  | endSettled txn asked =>
    obtain ⟨rfl, _⟩ := kept_eq_some.mp result.symm
    refine consistent.down rfl rfl rfl rfl (consistent.nothing_due fun waits => .inr ?_)
    exact asked.resolve_right (by simp [waits])
  | lapsed overdue =>
    obtain ⟨rfl, _⟩ := kept_eq_some.mp result.symm
    exact consistent.down rfl rfl rfl rfl rfl
  | refused txn known overdue =>
    obtain rfl := Option.some.inj result
    exact consistent.down rfl rfl rfl rfl rfl
  | fell reason => cases result

/-- An acceptance of the peer that asked for a path is among what has come out. -/
def AcceptedIn (id : DataPathId) (log : List Effect) : Prop :=
  ∃ txn request known, Effect.issued txn (.respondDataPath request known) ∈ log ∧
    request.pathId = id ∧ request.accept = true

/-- A path whose record says that the peer was accepted said so before, or the acceptance was handed
over with the move. -/
theorem Move.acceptedIn (move : Move id now path effects (some next))
    (accepted : next.response = some true) :
    path.response = some true ∨ AcceptedIn id effects := by
  generalize result : some next = entry at move
  cases move with
  | answered txn request known about awaits =>
    obtain rfl := Option.some.inj result
    refine .inr ⟨txn, request, known, List.mem_singleton_self _, about, ?_⟩
    unfold DataPath.answered at accepted
    split at accepted
    · exact Option.some.inj accepted
    · exact Option.some.inj accepted
  | endAsked | confirmed | refused =>
    obtain rfl := Option.some.inj result
    exact .inl accepted
  | rejected | ended | struck | failed | endSettled | lapsed =>
    obtain ⟨rfl, _⟩ := kept_eq_some.mp result.symm
    exact .inl accepted
  | fell => cases result

/-- No move puts the time off until which an answer is due. -/
theorem Move.due (move : Move id now path effects (some next)) {deadline : Timestamp}
    (due : next.responseDeadline = some deadline) : path.responseDeadline = some deadline := by
  generalize result : some next = entry at move
  cases move with
  | answered txn request known about awaits =>
    obtain rfl := Option.some.inj result
    unfold DataPath.answered at due
    split at due <;> cases due
  | endAsked | refused =>
    obtain rfl := Option.some.inj result
    cases due
  | confirmed =>
    obtain rfl := Option.some.inj result
    exact due
  | ended | lapsed =>
    obtain ⟨rfl, _⟩ := kept_eq_some.mp result.symm
    cases due
  | rejected | struck | failed | endSettled =>
    obtain ⟨rfl, _⟩ := kept_eq_some.mp result.symm
    exact due
  | fell => cases result

/-- What the record of a path says of the past is so: of the answers that were handed over since it
came into being, and of the time until which an answer is due. -/
structure Attested (id : DataPathId) (dueAt : Timestamp → Prop) (path : DataPath)
    (log : List Effect) : Prop where
  consistent : path.Consistent
  acceptedIn : path.response = some true → AcceptedIn id log
  due : ∀ deadline, path.responseDeadline = some deadline → dueAt deadline

/-- Every move keeps it so. -/
theorem Attested.move {dueAt : Timestamp → Prop} {log : List Effect}
    (attested : path.Attested id dueAt log) (move : Move id now path effects (some next)) :
    next.Attested id dueAt (log ++ effects) where
  consistent := move.consistent attested.consistent
  acceptedIn accepted := by
    rcases move.acceptedIn accepted with before | ⟨txn, request, known, member, rest⟩
    · obtain ⟨txn, request, known, member, rest⟩ := attested.acceptedIn before
      exact ⟨txn, request, known, List.mem_append_left _ member, rest⟩
    · exact ⟨txn, request, known, List.mem_append_right _ member, rest⟩
  due deadline due := attested.due deadline (move.due due)

end DataPath

namespace Host

variable {σ : Type} [Transport σ] {host : Host σ}

/-- **Peers are given the time that was configured**, in every state. -/
theorem Reachable.graceMs_run (reachable : Reachable host) (acts : List (Act σ)) :
    (host.run acts).engine.paths.graceMs = host.engine.paths.graceMs := by
  induction acts generalizing host with
  | nil => rfl
  | cons act rest ih =>
    exact (ih (reachable.step act)).trans (reachable.passages_emitted act).graceMs

/-- What the record of a path says is so at the end of every beginning of its lifetime. -/
theorem Reachable.attested (reachable : Reachable host) {id : DataPathId} {span : List (Act σ)}
    (lifetime : host.Lifetime (.path id) span) {path : DataPath}
    (found : (host.run span).engine.paths.get? id = some path) :
    path.Attested id
      (fun deadline =>
        (∃ peer address appInfo,
          span.head? = some (.handle (.dataPathRequested id peer address appInfo))) ∧
        deadline = host.now.addMillis host.engine.paths.graceMs)
      (host.emitted span) := by
  refine (pathSlot σ id).keeps reachable lifetime
    (fun (entry : Option DataPath) log => ∀ path, entry = some path → path.Attested id _ log)
    ?_ ?_ ?_ path found
  · rintro act effects path head ⟨event, rfl, entered⟩ _ same
    obtain rfl := Option.some.inj same
    refine ⟨entered.consistent, ?_, ?_⟩
    · intro accepted
      cases entered <;> cases accepted
    · intro deadline due
      cases entered with
      | numbered => cases due
      | requested peer address appInfo =>
        exact ⟨⟨peer, address, appInfo, head⟩, (Option.some.inj due).symm⟩
  · intro entry log effects _ given path here
    obtain ⟨consistent, acceptedIn, due⟩ := given path here
    refine ⟨consistent, fun accepted => ?_, due⟩
    obtain ⟨txn, request, known, member, rest⟩ := acceptedIn accepted
    exact ⟨txn, request, known, List.mem_append_left _ member, rest⟩
  · rintro now entry log effects next moved given path rfl
    exact (given entry rfl).move moved

/-- The records of all paths at the end of a run are consistent, and say of the past what was. -/
structure PathRecords (start : Host σ) (graceMs : UInt64) (acts : List (Act σ)) : Prop where
  /-- Every path is kept under its own number, which is not zero. -/
  own : ∀ id path, (start.run acts).engine.paths.get? id = some path →
    path.id = id ∧ id.raw ≠ 0
  /-- The fields of its record go together. -/
  consistent : ∀ id path, (start.run acts).engine.paths.get? id = some path → path.Consistent
  /-- A lifetime of it has begun. If the record says that the peer was accepted, an acceptance was
  handed over since. If it says that an answer is due, the lifetime has begun with the peer's request,
  and the answer is due when the grace period is over. -/
  begun : ∀ id path, (start.run acts).engine.paths.get? id = some path →
    ∃ before span, acts = before ++ span ∧ (start.run before).Lifetime (.path id) span ∧
      (path.response = some true →
        DataPath.AcceptedIn id ((start.run before).emitted span)) ∧
      ∀ deadline, path.responseDeadline = some deadline →
        (∃ peer address appInfo,
          span.head? = some (.handle (.dataPathRequested id peer address appInfo))) ∧
        deadline = (start.run before).now.addMillis graceMs
  /-- The next step takes no path back to an earlier stage. -/
  forward : ∀ act id path next, (start.run acts).engine.paths.get? id = some path →
    ((start.run acts).step act).engine.paths.get? id = some next →
      path.state.mayBecome next.state

/-- **The record of every path is consistent after any run, and no path of a peer comes up unless it
was accepted.** -/
theorem run_pathRecords (config : EngineConfig) (transport : σ) (now : Timestamp)
    (acts : List (Act σ)) :
    (Host.new config transport now).PathRecords config.responseGraceMs acts := by
  have reachable := Reachable.new config transport now
  have graceMs : (Host.new config transport now).engine.paths.graceMs = config.responseGraceMs :=
    rfl
  have vacant (id : DataPathId) : (Host.new config transport now).engine.holds (.path id) = false :=
    Engine.holds_new config _
  generalize Host.new config transport now = start at reachable graceMs vacant
  have paths : (start.run acts).engine.paths.Agrees _ := (reachable.run acts).coherent.agrees .paths
  constructor
  case own =>
    intro id path found
    exact ⟨(paths.path found).own, by simpa [DataPathId.isAssigned] using paths.assigned found⟩
  case consistent =>
    intro id path found
    obtain ⟨before, _, _, lifetime, found⟩ :=
      (pathSlot σ id).lifetime_of_found reachable (vacant id) found
    exact ((reachable.run before).attested lifetime found).consistent
  case begun =>
    intro id path found
    obtain ⟨before, span, split, lifetime, found⟩ :=
      (pathSlot σ id).lifetime_of_found reachable (vacant id) found
    have attested := (reachable.run before).attested lifetime found
    refine ⟨before, span, split, lifetime, attested.acceptedIn, fun deadline due => ?_⟩
    rw [← graceMs, ← reachable.graceMs_run before]
    exact attested.due deadline due
  case forward =>
    intro act id path next found here
    have passage := ((reachable.run acts).passages_emitted act).path id
    rw [found, here] at passage
    exact (DataPath.follows_of_course passage.of_some).stage

end Host

end NanHost
