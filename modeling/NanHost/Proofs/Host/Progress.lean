import NanHost.Proofs.Engine.Changes
import NanHost.Proofs.Host.Lifetime
import NanHost.Proofs.Host.Refusal

/-!
# Progress — what a step of a host amounts to

A step takes a request, or is told of something that the firmware grants, of a peer or of a path; or
nobody asks for anything and nothing is granted, and a sequence of changes is all that happens.

## What is proved

`Reachable.progress`: there is nothing else that a step can be. The cases say in full what becomes of
the engine and what the caller is told, so that what a run keeps is looked for in five places: in the
requests that are taken (`Engine.stage`), in the three things that can be granted
(`Engine.Granted`), in what a session sees of a peer (`Engine.sight`), in what a report makes of a
path (`Engine.replay`), and in the changes (`Engine.Change`).
-/

namespace NanHost

/-- The report that a path was confirmed or has ended, and the path that it is about. -/
def FirmwareEvent.pathReport? : FirmwareEvent → Option (DataPathId × HeldEvent)
  | dataPathConfirmed id accepted peerInterface appInfo status =>
    some (id, .confirmed accepted peerInterface appInfo status)
  | dataPathTerminated id status => some (id, .terminated status)
  | _ => none

namespace Host

variable {σ : Type} [Transport σ] {host : Host σ}

/-! ## What the caller is told -/

/-- What the caller is told while a number of things are done to a host. -/
def told (host : Host σ) (acts : List (Act σ)) : List Notification :=
  (host.emitted acts).filterMap (·.notification?)

theorem mem_told {notice : Notification} {acts : List (Act σ)} :
    notice ∈ host.told acts ↔ .told notice ∈ host.emitted acts := by
  unfold told
  rw [List.mem_filterMap]
  constructor
  · rintro ⟨effect, member, same⟩
    cases effect with
    | told notification =>
      obtain rfl := Option.some.inj same
      exact member
    | _ => cases same
  · exact fun member => ⟨_, member, rfl⟩

/-- What a reaction of the engine tells. -/
theorem told_react {act : Act σ} {reaction : Reaction}
    (same : host.step act = host.react reaction) : host.told [act] = reaction.2 := by
  unfold told
  rw [emitted_react same, List.filterMap_map]
  exact List.filterMap_some

theorem Reachable.told_append (reachable : Reachable host) (first second : List (Act σ)) :
    host.told (first ++ second) = host.told first ++ (host.run first).told second := by
  unfold told
  rw [reachable.emitted_append, List.filterMap_append]

theorem Reachable.told_of_notifications (reachable : Reachable host) {acts : List (Act σ)}
    {notices : List Notification}
    (told : (host.run acts).notifications.toList = host.notifications.toList ++ notices) :
    host.told acts = notices := by
  unfold notifications at told
  rw [Array.toList_filterMap, Array.toList_filterMap, reachable.effects_run,
    List.filterMap_append] at told
  exact List.append_cancel_left told

omit [Transport σ] in
theorem notifications_react (host : Host σ) (reaction : Reaction) :
    (host.react reaction).notifications.toList = host.notifications.toList ++ reaction.2 := by
  have told : (reaction.2.map Effect.told).filterMap (·.notification?) = reaction.2 := by
    rw [List.filterMap_map]
    exact List.filterMap_some
  unfold notifications
  rw [Array.toList_filterMap, effects_react, List.filterMap_append, told, Array.toList_filterMap]

/-! ## Steps without requests and grants -/

/-- A host has undergone changes, and the caller was told of them. -/
structure Undergoes (host : Host σ) (notices : List Notification) (next : Host σ) : Prop where
  engine : host.engine.Changes notices next.engine
  told : next.notifications.toList = host.notifications.toList ++ notices

namespace Undergoes

variable {next last : Host σ} {notices notices' : List Notification}

omit [Transport σ] in
/-- Neither the engine nor the record has changed. -/
theorem still (engine : next.engine = host.engine) (effects : next.effects = host.effects) :
    host.Undergoes [] next := by
  refine ⟨?_, ?_⟩
  · rw [engine]
    exact .nil _
  · rw [notifications, effects, List.append_nil, notifications]

omit [Transport σ] in
theorem append (before : host.Undergoes notices next) (after : next.Undergoes notices' last) :
    host.Undergoes (notices ++ notices') last :=
  ⟨before.engine.append after.engine, by rw [after.told, before.told, List.append_assoc]⟩

omit [Transport σ] in
theorem react {reaction : Reaction} (changes : host.engine.Changes reaction.2 reaction.1) :
    host.Undergoes reaction.2 (host.react reaction) :=
  ⟨by rw [engine_react]; exact changes, notifications_react host reaction⟩

end Undergoes

omit [Transport σ] in
theorem undergoes_expireTransactions (host : Host σ) :
    ∃ notices, host.Undergoes notices host.expireTransactions.2 :=
  ⟨_, .react (host.engine.expireTransactions_changes host.now)⟩

/-- The refusal of a peer that waited too long is a sequence of changes. -/
theorem undergoes_refuseOverdue (filed : host.engine.ledger.WellFiled) (path : DataPathId) :
    ∃ notices, host.Undergoes notices (host.refuseOverdue path) := by
  have aside (ledger : Ledger) {table : DataPathTable} (change : host.engine.paths.Change table) :
      host.engine.Changes [.dataPathTerminated path .responseTimeout]
        { host.engine with ledger := ledger, paths := table } :=
    .after (.aside ledger host.engine.interface)
      (.after (.paths change) (.of_change (.told _ rfl)))
  have fate := refuseOverdue_refusal filed path
  refine ⟨[.dataPathTerminated path .responseTimeout], ?_, ?_⟩
  · generalize host.refuseOverdue path = next at fate
    cases fate with
    | full noRoom => exact aside host.engine.ledger (.forgotten path)
    | taken transport opens sent => exact aside _ (.refused path _)
    | refused transport error opens sent => exact aside _ (.forgotten path)
  · have listed {effects : List Effect} (silent : effects.filterMap (·.notification?) = [])
        {next : Host σ}
        (out : next.effects.toList = (host.effectsTold path).toList ++ effects) :
        next.notifications.toList =
          host.notifications.toList ++ [.dataPathTerminated path .responseTimeout] := by
      unfold notifications
      rw [Array.toList_filterMap, Array.toList_filterMap, out, effectsTold, Array.toList_push,
        List.filterMap_append, List.filterMap_append, silent, List.append_nil]
      rfl
    generalize host.refuseOverdue path = next at fate
    cases fate with
    | full noRoom => exact listed rfl (List.append_nil _).symm
    | taken | refused => exact listed rfl (Array.toList_push ..)

theorem undergoes_expireResponses (coherent : host.engine.Coherent) :
    ∃ notices, host.Undergoes notices host.expireResponses.2 := by
  refine (expireResponses_keeps (fun next => ∃ notices, host.Undergoes notices next) coherent
    ⟨[], .of_paths (.lapsed host.now), (List.append_nil _).symm⟩ ?_).2
  rintro next path coherent ⟨_, before⟩
  obtain ⟨_, after⟩ := undergoes_refuseOverdue coherent.filed path
  exact ⟨_, before.append after⟩

/-! ## Steps -/

/-- **What a step of a host amounts to**: what becomes of the engine, and what the caller is told. -/
inductive Progress (host : Host σ) : Act σ → List Notification → Engine → Prop
  /-- A request is taken. -/
  | taken (request : Request) (dispatch : Dispatch) (record : TransactionRecord)
    (admitted : host.engine.vet request = .ok dispatch)
    (opens : host.engine.ledger.Opens record dispatch .caller)
    (accepted : host.acceptedAt (.submit request) = [(request, record.id)]) :
    Progress host (.submit request) []
      ((host.engine.upon (host.engine.ledger.file record)).stage record.id request)
  /-- The firmware grants something. -/
  | granted (txn : TransactionId) (outcome : Except FirmwareStatus AnswerPayload)
    (reaction : Reaction) (granted : host.engine.Granted txn outcome reaction) :
    Progress host (.handle (.commandCompleted txn outcome)) reaction.2 reaction.1
  /-- A session meets a peer, if it is active. -/
  | sighted (event : FirmwareEvent) (id : SessionId) (learn : Session → PeerRecord)
    (notice : Notification) (plain : notice.grants = false)
    (reaction : host.engine.handle host.now event = host.engine.sight id learn notice) :
    Progress host (.handle event) (host.engine.sight id learn notice).2
      (host.engine.sight id learn notice).1
  /-- It is reported that a path was confirmed or has ended. -/
  | reported (event : FirmwareEvent) (id : DataPathId) (report : HeldEvent)
    (about : event.pathReport? = some (id, report)) :
    Progress host (.handle event) (host.engine.replay id report).2
      (host.engine.replay id report).1
  /-- No request is taken and nothing is granted. -/
  | changed (act : Act σ) {notices : List Notification} {next : Engine}
    (nobody : host.acceptedAt act = []) (changes : host.engine.Changes notices next) :
    Progress host act notices next

/-- A step that undergoes changes. -/
theorem Undergoes.progress {act : Act σ} {notices : List Notification}
    (undergoes : host.Undergoes notices (host.step act)) (reachable : Reachable host)
    (nobody : host.acceptedAt act = []) :
    host.Progress act (host.told [act]) (host.step act).engine := by
  have told : host.told [act] = notices := reachable.told_of_notifications undergoes.told
  rw [told]
  exact .changed act nobody undergoes.engine

/-- A request is taken, or nothing happens. -/
theorem Reachable.progress_submit (reachable : Reachable host) (request : Request) :
    host.Progress (.submit request) (host.told [.submit request])
      (host.submit request).2.engine := by
  have fate := submit_submission reachable.coherent.filed request
  have silent {notices : List Notification} (told : (host.submit request).2.notifications.toList =
      host.notifications.toList ++ notices) : host.told [.submit request] = notices :=
    reachable.told_of_notifications told
  have accepted : host.acceptedAt (.submit request) = acceptedBy request (host.submit request).1 :=
    rfl
  generalize host.submit request = outcome at fate silent accepted
  cases fate with
  | unfit | full =>
    rw [silent (List.append_nil _).symm]
    exact .changed _ accepted (.nil _)
  | taken dispatch transport admitted opens sent =>
    rw [silent ((congrArg Array.toList (notifications_push rfl rfl)).trans
      (List.append_nil _).symm)]
    exact .taken request dispatch _ admitted opens accepted
  | refused dispatch transport error admitted opens sent =>
    rw [silent ((congrArg Array.toList (notifications_push rfl rfl)).trans
      (List.append_nil _).symm)]
    exact .changed _ accepted (.aside _ _ _)

/-- A report of the firmware. -/
theorem Reachable.progress_handle (reachable : Reachable host) (event : FirmwareEvent) :
    host.Progress (.handle event) (host.told [.handle event]) (host.handle event).engine := by
  have coherent := reachable.coherent
  have told : host.told [.handle event] = (host.engine.handle host.now event).2 :=
    reachable.told_of_notifications (notifications_react host _)
  rw [told, handle, engine_react]
  cases event with
  | commandCompleted txn outcome =>
    rcases coherent.onCompleted_granted txn outcome with changes | granted
    · exact .changed _ rfl changes
    · exact .granted txn outcome _ granted
  | sessionMatched id peer address serviceSpecificInfo matchFilter =>
    have same := host.engine.onMatched_eq id peer address serviceSpecificInfo matchFilter host.now
    simp only [Engine.handle, same]
    exact .sighted _ id _ _ rfl same
  | messageReceived id peer address payload =>
    have same := host.engine.onMessage_eq id peer address payload host.now
    simp only [Engine.handle, same]
    exact .sighted _ id _ _ rfl same
  | sessionTerminated id status =>
    exact .changed _ rfl (host.engine.onSessionTerminated_changes id status)
  | dataPathRequested path peer address appInfo =>
    exact .changed _ rfl
      (host.engine.onPathRequested_changes path peer address appInfo host.now)
  | dataPathConfirmed path accepted peerInterface appInfo status =>
    exact .reported _ path (.confirmed accepted peerInterface appInfo status) rfl
  | dataPathTerminated path status => exact .reported _ path (.terminated status) rfl
  | identityChanged address => exact .changed _ rfl (.tells_if _ rfl _)
  | interfaceDown status => exact .changed _ rfl (host.engine.onInterfaceDown_changes status)

/-- **A step takes a request, is told of something, or is a sequence of changes.** -/
theorem Reachable.progress (reachable : Reachable host) (act : Act σ) :
    host.Progress act (host.told [act]) (host.step act).engine := by
  have coherent := reachable.coherent
  cases act with
  | submit request => exact reachable.progress_submit request
  | handle event => exact reachable.progress_handle event
  | expireTransactions =>
    obtain ⟨_, undergoes⟩ := host.undergoes_expireTransactions
    exact undergoes.progress reachable rfl
  | expireResponses =>
    obtain ⟨_, undergoes⟩ := undergoes_expireResponses coherent
    exact undergoes.progress reachable rfl
  | tick =>
    obtain ⟨_, first⟩ := host.undergoes_expireTransactions
    obtain ⟨_, second⟩ := undergoes_expireResponses (expireTransactions_coherent coherent)
    have undergoes : host.Undergoes _ (host.step .tick) := first.append second
    exact undergoes.progress reachable rfl
  | shutdown =>
    have undergoes : host.Undergoes _ (host.step .shutdown) := .react host.engine.shutdown_changes
    exact undergoes.progress reachable rfl
  | advance | replaceTransport =>
    refine Undergoes.progress (Undergoes.still ?_ ?_) reachable rfl
    all_goals rfl

end Host

end NanHost
