import NanHost.Proofs.Engine.Retention
import NanHost.Proofs.Host.Progress

/-!
# Limits — no more sessions and interfaces than the firmware carries

Whether there is room for one more is decided when a request comes in; the session or the interface
that it asks for comes much later, with the answer, if at all. In between other requests come in. So
what is counted has to include what is under way, and nothing that leaves the count may come back.

A count grows only with a request that claims one more, by one, and only if there was room
(`Counted`). An answer to a start moves it from those under way to those that are live, and the count
stays as it was.

## What is proved

- `Reachable.counted`: so it is with the sessions of each role and with the data interfaces, in every
  step.
- `Reachable.snapshot_step`: what is known of the firmware is the last report that it gave.
- `run_limits`: once a report is there before anything is claimed, and as long as later reports give
  the same limits, the limits are kept in every state.
-/

namespace NanHost

/-! ## How many sessions there are -/

namespace SessionRegistry

variable {registry next : SessionRegistry} {ended : List TransactionId} {id : SessionId}
  {session entry : Session} {txn : TransactionId} {config : DiscoveryConfig}

/-- How many sessions of a role are live or being started, by the two tables. -/
theorem liveCount_eq (registry : SessionRegistry) (role : SessionRole) :
    registry.liveCount role =
      registry.sessions.toList.countP (fun row => row.2.role = role && row.2.isLive) +
        registry.starting.toList.countP (fun row => row.2.role = role) := by
  rw [liveCount, toList, List.countP_map]
  rfl

/-- Where every live session was live before, and every start was under way, there are no more. -/
theorem liveCount_le
    (sessions : ∀ {id later}, next.get? id = some later → ∃ earlier, registry.get? id = some earlier ∧
      later.role = earlier.role ∧ (later.isLive = true → earlier.isLive = true))
    (starting : ∀ {txn : TransactionId} {config}, next.starting[txn]? = some config →
      registry.starting[txn]? = some config) (role : SessionRole) :
    next.liveCount role ≤ registry.liveCount role := by
  let counts (session : Session) : Bool := session.role = role && session.isLive
  let starts (config : DiscoveryConfig) : Bool := config.role = role
  have live : next.sessions.toList.countP (counts ·.2) ≤
      registry.sessions.toList.countP (counts ·.2) := by
    refine Tables.countP_le counts counts fun found counted => ?_
    obtain ⟨earlier, there, role, live⟩ := sessions found
    simp only [counts, Bool.and_eq_true, decide_eq_true_eq] at counted
    refine ⟨earlier, there, ?_⟩
    simp only [counts, Bool.and_eq_true, decide_eq_true_eq]
    exact ⟨role ▸ counted.1, live counted.2⟩
  have underWay : next.starting.toList.countP (starts ·.2) ≤
      registry.starting.toList.countP (starts ·.2) :=
    Tables.countP_le starts starts fun found same => ⟨_, starting found, same⟩
  rw [liveCount_eq, liveCount_eq]
  exact Nat.add_le_add live underWay

theorem Retains.liveCount_le (retains : registry.Retains ended next) (role : SessionRole) :
    next.liveCount role ≤ registry.liveCount role := by
  refine SessionRegistry.liveCount_le (fun found => ?_) retains.starting role
  obtain ⟨earlier, there, retained⟩ := retains.session found
  exact ⟨earlier, there, retained.role, retained.live⟩

/-- A session that is changed is counted as before. -/
theorem liveCount_put_le (found : registry.get? id = some session)
    (sameRole : entry.role = session.role) (live : entry.isLive = true → session.isLive = true)
    (role : SessionRole) : (registry.put id entry).liveCount role ≤ registry.liveCount role := by
  have starting {txn : TransactionId} {config : DiscoveryConfig}
      (there : (registry.put id entry).starting[txn]? = some config) :
      registry.starting[txn]? = some config := there
  refine liveCount_le (fun {other later} there => ?_) starting role
  rw [get?_put] at there
  split at there
  next here =>
    obtain rfl := Option.some.inj there
    exact ⟨session, here ▸ found, sameRole, live⟩
  next => exact ⟨later, there, rfl, fun live => live⟩

/-- A start under way is one more of its role. -/
theorem liveCount_beginNew (absent : registry.starting[txn]? = none) (role : SessionRole) :
    (registry.beginNew txn config).liveCount role =
      registry.liveCount role + if config.role = role then 1 else 0 := by
  have counted := Tables.countP_insert absent config fun config => config.role = role
  rw [liveCount_eq, liveCount_eq]
  simp only [beginNew, decide_eq_true_eq] at counted ⊢
  omega

/-- A start that is agreed on is a session of its role instead. -/
theorem liveCount_started (underWay : registry.starting[txn]? = some config)
    (free : registry.get? id = none) (role : SessionRole) :
    ({ registry with starting := registry.starting.erase txn }.put id
      (.started id config)).liveCount role = registry.liveCount role := by
  have absent : registry.sessions[id]? = none := free
  have entered := Tables.countP_insert absent (.started id config) fun session =>
    session.role = role && session.isLive
  have struck := Tables.countP_erase underWay fun config => config.role = role
  have counted : (decide ((Session.started id config).role = role) &&
      (Session.started id config).isLive) = decide (config.role = role) := Bool.and_true _
  rw [liveCount_eq, liveCount_eq]
  simp only [counted, put, decide_eq_true_eq] at entered struck ⊢
  omega

end SessionRegistry

/-! ## How many data interfaces there are -/

/-- An answer adds no interface. -/
theorem DataInterfaceTable.Change.size_le {table next : DataInterfaceTable}
    (change : table.Change next) : next.size ≤ table.size := by
  have replaced {name : String} {old : DataInterfaceState} (found : table.state? name = some old)
      (new : DataInterfaceState) : (table.interfaces.insert name new).size ≤ table.size := by
    have there : table.interfaces.contains name = true := by
      rw [Std.ExtTreeMap.contains_eq_isSome_getElem?]
      exact Option.isSome_of_eq_some found
    rw [Std.ExtTreeMap.size_insert, if_pos there]
    exact Nat.le_refl _
  have removed (name : String) : (table.interfaces.erase name).size ≤ table.size :=
    Std.ExtTreeMap.size_erase_le
  cases change with
  | creationEnded name success =>
    unfold resolveCreate
    split
    next found =>
      split
      · exact replaced found _
      · exact removed name
    next => exact Nat.le_refl _
  | deletionEnded name success =>
    unfold resolveDelete
    split
    next found =>
      split
      · exact removed name
      · exact replaced found _
    next => exact Nat.le_refl _

theorem Engine.Changes.size_le {engine next : Engine} {notices : List Notification}
    (changes : engine.Changes notices next) :
    next.dataInterfaces.size ≤ engine.dataInterfaces.size := by
  induction changes with
  | nil => exact Nat.le_refl _
  | @cons first second third _ _ change rest ih =>
    refine Nat.le_trans ih ?_
    cases change with
    | dataInterfaces change => exact change.size_le
    | replayed id =>
      obtain ⟨paths, same⟩ := first.replayHeld_frame id
      exact Nat.le_of_eq (by rw [same])
    | aside | told | sessions | updateFailed | paths => exact Nat.le_refl _

/-! ## Claims -/

/-- Whether a request claims one more of what the firmware carries few of: a session, or a data
interface. -/
def Request.claims : Request → Bool
  | publish id _ | subscribe id _ => !id.isAssigned
  | createInterface _ => true
  | _ => false

/-- A count that grows only with a claim, by one, and only if the limit, where there is one, leaves
room. -/
inductive Counted (claimed : Prop) (limit : Option Nat) (before after : Nat) : Prop
  | kept (fewer : after ≤ before)
  | grown (claimed : claimed) (one : after ≤ before + 1)
    (room : ∀ most, limit = some most → before < most)

namespace Counted

variable {claimed : Prop} {limit : Option Nat} {before after most : Nat}

/-- So a limit is kept. -/
theorem within (counted : Counted claimed limit before after) (known : limit = some most)
    (within : before ≤ most) : after ≤ most := by
  cases counted with
  | kept fewer => exact Nat.le_trans fewer within
  | grown _ one room => exact Nat.le_trans one (room most known)

/-- And nothing comes of nothing. -/
theorem zero (counted : Counted claimed limit before after) (unclaimed : ¬claimed)
    (zero : before = 0) : after = 0 := by
  cases counted with
  | kept fewer => exact Nat.le_zero.mp (zero ▸ fewer)
  | grown claimed => exact absurd claimed unclaimed

end Counted

namespace Engine

variable {engine : Engine} {txn : TransactionId}

/-- A request that is taken makes one session more of a role, if it claims one and there is room. -/
theorem Staged.counted {request : Request} {context : PendingContext} {next : SessionRegistry}
    (staged : engine.Staged txn request context next)
    (absent : engine.sessions.starting[txn]? = none) (role : SessionRole) :
    Counted (request.claims = true)
      (engine.capabilities.snapshot.map fun known => (known.maxSessions role).toNat)
      (engine.sessions.liveCount role) (next.liveCount role) := by
  cases staged with
  | started id config asks unnumbered about room =>
    have claims : request.claims = true := by
      cases request with
      | publish | subscribe =>
        obtain ⟨rfl, _⟩ := Prod.mk.inj (Option.some.inj asks)
        simp [Request.claims, SessionId.isAssigned, unnumbered]
      | _ => cases asks
    rw [SessionRegistry.liveCount_beginNew absent]
    by_cases own : config.role = role
    · subst own
      rw [if_pos rfl]
      refine .grown claims (Nat.le_refl _) fun most limit => ?_
      obtain ⟨known, reported, rfl⟩ := Option.map_eq_some_iff.mp limit
      exact room known reported
    · rw [if_neg own]
      exact .kept (Nat.le_refl _)
  | updated id config session asks about found idle =>
    refine .kept (SessionRegistry.liveCount_put_le found ?_ ?_ role)
    · rfl
    · exact fun live => live
  | other nothing retains => exact .kept (retains.liveCount_le role)

/-- What the firmware grants makes none more: a session takes the place of its start. -/
theorem Granted.liveCount_le {outcome : Except FirmwareStatus AnswerPayload} {reaction : Reaction}
    (granted : engine.Granted txn outcome reaction) (role : SessionRole) :
    reaction.1.sessions.liveCount role ≤ engine.sessions.liveCount role := by
  cases granted with
  | surveyed report => exact Nat.le_refl _
  | started id config record onFile about underWay assigned free =>
    exact Nat.le_of_eq (SessionRegistry.liveCount_started underWay free role)
  | updated id session record payload onFile about kind found active =>
    refine SessionRegistry.liveCount_put_le found ?_ ?_ role
    · rw [Session.dropUpdate_eq]
      rfl
    · intro _
      simp [Session.isLive, active]

end Engine

/-- The reports on what the firmware can do, among what the caller is told. -/
def surveys (notices : List Notification) : List Capabilities :=
  (completions notices).filterMap fun completion =>
    match completion.result with
    | .ok (.capabilities report) => some report
    | _ => none

theorem surveys_append (first second : List Notification) :
    surveys (first ++ second) = surveys first ++ surveys second := by
  rw [surveys, completions_append, List.filterMap_append]
  rfl

/-- Where nothing is granted, nothing is reported of what the firmware can do. -/
theorem surveys_of_plain {notices : List Notification}
    (plain : ∀ notice ∈ notices, notice.grants = false) : surveys notices = [] := by
  refine List.filterMap_eq_nil_iff.mpr fun completion member => ?_
  obtain ⟨notice, listed, same⟩ := List.mem_filterMap.mp member
  have plain := plain notice listed
  cases notice with
  | completed completion =>
    obtain rfl := Option.some.inj same
    obtain ⟨txn, kind, result⟩ := completion
    cases result with
    | error failure => rfl
    | ok detail =>
      cases detail with
      | capabilities => cases plain
      | _ => rfl
  | _ => cases same

namespace Host

variable {σ : Type} [Transport σ] {host : Host σ}

/-- Whether a step accepts a request of a sort. -/
def Takes (host : Host σ) (sort : Request → Bool) (act : Act σ) : Prop :=
  ∃ accepted ∈ host.acceptedAt act, sort accepted.1 = true

/-- **What is known of the firmware is its last report.** -/
theorem Reachable.snapshot_step (reachable : Reachable host) (act : Act σ) :
    (host.step act).engine.capabilities.snapshot =
      (surveys (host.told [act])).getLast?.or host.engine.capabilities.snapshot := by
  have progress := reachable.progress act
  have silent {notices : List Notification} (plain : ∀ notice ∈ notices, notice.grants = false) :
      (surveys notices).getLast?.or host.engine.capabilities.snapshot =
        host.engine.capabilities.snapshot := by
    rw [surveys_of_plain plain]
    rfl
  generalize host.told [act] = notices at progress
  generalize (host.step act).engine = next at progress
  cases progress with
  | taken request dispatch record =>
    rw [silent (by simp)]
    cases request <;> rfl
  | granted txn outcome reaction granted =>
    cases granted <;> rfl
  | sighted event id learn notice plain =>
    exact (silent (host.engine.sight_plain plain id learn)).symm
  | reported event id report about =>
    rw [silent (Engine.replay_silent _ _ _).plain]
    cases report <;> rfl
  | changed act nobody changes => rw [silent changes.plain, changes.capabilities]

/-- What all reports agree on, once there is one, is known from then on. -/
theorem Reachable.cached_step (reachable : Reachable host) {agrees : Capabilities → Prop}
    (cached : ∃ report, host.engine.capabilities.snapshot = some report ∧ agrees report)
    {act : Act σ} (steady : ∀ report ∈ surveys (host.told [act]), agrees report) :
    ∃ report, (host.step act).engine.capabilities.snapshot = some report ∧ agrees report := by
  obtain ⟨report, reported, agreed⟩ := cached
  rw [reachable.snapshot_step act, reported]
  cases last : (surveys (host.told [act])).getLast? with
  | none => exact ⟨report, rfl, agreed⟩
  | some newer => exact ⟨newer, rfl, steady newer (List.mem_of_getLast? last)⟩

/-- The request that a step takes is of a sort or not. -/
theorem takes_iff_of_taken {act : Act σ} {request : Request} {txn : TransactionId}
    (taken : host.acceptedAt act = [(request, txn)]) {sort : Request → Bool} :
    host.Takes sort act ↔ sort request = true := by
  simp [Takes, taken]

/-- **The sessions of a role grow in number only with a claim, and if there is room.** -/
theorem Reachable.counted_sessions (reachable : Reachable host) (act : Act σ) (role : SessionRole) :
    Counted (host.Takes Request.claims act)
      (host.engine.capabilities.snapshot.map fun known => (known.maxSessions role).toNat)
      (host.engine.sessions.liveCount role) ((host.step act).engine.sessions.liveCount role) := by
  have progress := reachable.progress act
  generalize host.told [act] = notices at progress
  generalize (host.step act).engine = next at progress
  cases progress with
  | taken request dispatch record admitted opens taken =>
    have staged := Engine.staged admitted (host.engine.ledger.file record) record.id
    have absent : host.engine.sessions.starting[record.id]? = none := by
      cases underWay : host.engine.sessions.starting[record.id]? with
      | none => rfl
      | some other => exact absurd rfl (reachable.coherent.apart_of_starting opens.fresh underWay)
    simpa only [takes_iff_of_taken taken] using staged.counted absent role
  | granted txn outcome reaction granted => exact .kept (granted.liveCount_le role)
  | sighted event id learn notice plain reaction =>
    have retains : host.engine.sessions.Retains [] _ :=
      host.engine.sessions.sight_retains id learn
    exact .kept (retains.liveCount_le role)
  | reported event id report about =>
    refine .kept (Nat.le_of_eq ?_)
    cases report <;> rfl
  | changed act nobody changes => exact .kept (changes.retains.liveCount_le role)

/-- **So do the data interfaces.** -/
theorem Reachable.counted_interfaces (reachable : Reachable host) (act : Act σ) :
    Counted (host.Takes Request.claims act)
      (host.engine.capabilities.snapshot.map (·.maxDataInterfaces.toNat))
      host.engine.dataInterfaces.size (host.step act).engine.dataInterfaces.size := by
  have progress := reachable.progress act
  generalize host.told [act] = notices at progress
  generalize (host.step act).engine = next at progress
  cases progress with
  | taken request dispatch record admitted opens taken =>
    cases request with
    | createInterface name =>
      have admits := Engine.admits_of_vetCreate admitted
      refine .grown ((takes_iff_of_taken taken).mpr rfl) Std.ExtTreeMap.size_insert_le fun most limit => ?_
      obtain ⟨known, reported, rfl⟩ := Option.map_eq_some_iff.mp limit
      exact admits.room known reported
    | deleteInterface name => exact .kept (Nat.le_of_eq Std.ExtTreeMap.size_modify)
    | _ => exact .kept (Nat.le_refl _)
  | granted txn outcome reaction granted => cases granted <;> exact .kept (Nat.le_refl _)
  | sighted => exact .kept (Nat.le_refl _)
  | reported event id report => cases report <;> exact .kept (Nat.le_refl _)
  | changed act nobody changes => exact .kept changes.size_le

end Host

/-! ## Runs -/

/-- A report that gives the same limits on sessions and data interfaces as another. -/
structure Capabilities.SameLimits (report known : Capabilities) : Prop where
  publishes : report.maxPublishes = known.maxPublishes
  subscribes : report.maxSubscribes = known.maxSubscribes
  dataInterfaces : report.maxDataInterfaces = known.maxDataInterfaces

theorem Capabilities.SameLimits.sessions {report known : Capabilities}
    (same : report.SameLimits known) (role : SessionRole) :
    report.maxSessions role = known.maxSessions role := by
  cases role with
  | publisher => exact same.publishes
  | subscriber => exact same.subscribes

/-- No more sessions of either role are live or being started, and no more data interfaces are there
at whatever stage, than the firmware carries. -/
structure Engine.Within (engine : Engine) (known : Capabilities) : Prop where
  sessions : ∀ role, engine.sessions.liveCount role ≤ (known.maxSessions role).toNat
  dataInterfaces : engine.dataInterfaces.size ≤ known.maxDataInterfaces.toNat

namespace Host

variable {σ : Type} [Transport σ] {host : Host σ} {known : Capabilities}

/-- Where nothing is claimed, nothing comes into being. -/
theorem Reachable.zero_run (reachable : Reachable host)
    (sessions : ∀ role, host.engine.sessions.liveCount role = 0)
    (interfaces : host.engine.dataInterfaces.size = 0) {acts : List (Act σ)}
    (unclaimed : ∀ accepted ∈ host.accepted acts, accepted.1.claims = false) :
    (∀ role, (host.run acts).engine.sessions.liveCount role = 0) ∧
      (host.run acts).engine.dataInterfaces.size = 0 := by
  induction acts generalizing host with
  | nil => exact ⟨sessions, interfaces⟩
  | cons act rest ih =>
    have nothing : ¬host.Takes Request.claims act := by
      rintro ⟨accepted, member, claims⟩
      rw [unclaimed accepted (List.mem_append_left _ member)] at claims
      cases claims
    exact ih (reachable.step act)
      (fun role => (reachable.counted_sessions act role).zero nothing (sessions role))
      ((reachable.counted_interfaces act).zero nothing interfaces)
      fun accepted member => unclaimed accepted (List.mem_append_right _ member)

/-- What all reports agree on, once there is one, is known in every state. -/
theorem Reachable.cached_run (reachable : Reachable host) {agrees : Capabilities → Prop}
    (cached : ∃ report, host.engine.capabilities.snapshot = some report ∧ agrees report)
    {acts : List (Act σ)} (steady : ∀ report ∈ surveys (host.told acts), agrees report) :
    ∃ report, (host.run acts).engine.capabilities.snapshot = some report ∧ agrees report := by
  induction acts generalizing host with
  | nil => exact cached
  | cons act rest ih =>
    have told : host.told (act :: rest) = host.told [act] ++ (host.step act).told rest :=
      reachable.told_append [act] rest
    rw [told, surveys_append] at steady
    refine ih (reachable.step act) (reachable.cached_step cached ?_) ?_
    · intro report member
      exact steady report (List.mem_append_left _ member)
    · intro report member
      exact steady report (List.mem_append_right _ member)

/-- **A limit that every step keeps is kept**, as long as the reports give the same. -/
theorem Reachable.kept_within (reachable : Reachable host) (limit : Capabilities → Nat)
    (count : Host σ → Nat) {acts : List (Act σ)} (within : count host ≤ limit known)
    (cached : ∃ report, host.engine.capabilities.snapshot = some report ∧
      limit report = limit known)
    (steady : ∀ report ∈ surveys (host.told acts), limit report = limit known)
    (steps : ∀ before act after, acts = before ++ act :: after →
      (host.run before).engine.capabilities.snapshot.map limit = some (limit known) →
      count (host.run before) ≤ limit known → count ((host.run before).step act) ≤ limit known) :
    count (host.run acts) ≤ limit known := by
  induction acts using List.reverseRecOn with
  | nil => exact within
  | append_singleton before act ih =>
    have earlier : ∀ report ∈ surveys (host.told before), limit report = limit known := by
      intro report member
      refine steady report ?_
      rw [reachable.told_append, surveys_append]
      exact List.mem_append_left _ member
    obtain ⟨report, reported, same⟩ := reachable.cached_run cached earlier
    have within := ih earlier fun first act after split =>
      steps first act (after ++ [_]) (by rw [split, List.append_assoc, List.cons_append])
    rw [run_append]
    exact steps before act [] rfl (by rw [reported, Option.map_some, same]) within

/-- **Limits that are kept stay kept**, as long as the reports give the same. -/
theorem Reachable.within_run (reachable : Reachable host) (within : host.engine.Within known)
    (cached : ∃ report, host.engine.capabilities.snapshot = some report ∧ report.SameLimits known)
    {acts : List (Act σ)} (steady : ∀ report ∈ surveys (host.told acts), report.SameLimits known) :
    (host.run acts).engine.Within known := by
  obtain ⟨report, reported, same⟩ := cached
  constructor
  case sessions =>
    intro role
    refine reachable.kept_within (fun known => (known.maxSessions role).toNat)
      (·.engine.sessions.liveCount role) (within.sessions role) ⟨report, reported, ?_⟩ ?_ ?_
    · exact congrArg UInt32.toNat (same.sessions role)
    · intro report member
      exact congrArg UInt32.toNat ((steady report member).sessions role)
    · intro before act _ _ limit
      exact ((reachable.run before).counted_sessions act role).within limit
  case dataInterfaces =>
    refine reachable.kept_within (·.maxDataInterfaces.toNat) (·.engine.dataInterfaces.size)
      within.dataInterfaces ⟨report, reported, ?_⟩ ?_ ?_
    · exact congrArg UInt32.toNat same.dataInterfaces
    · intro report member
      exact congrArg UInt32.toNat (steady report member).dataInterfaces
    · intro before act _ _ limit
      exact ((reachable.run before).counted_interfaces act).within limit

/-- **The limits of the firmware are never exceeded**: if a report is there before anything is
claimed, and all later reports give the same limits, they are kept in every state of the run. -/
theorem run_limits (config : EngineConfig) (transport : σ) (now : Timestamp)
    (prior rest : List (Act σ))
    (cached : ((Host.new config transport now).run prior).engine.capabilities.snapshot = some known)
    (unclaimed : ∀ accepted ∈ (Host.new config transport now).accepted prior,
      accepted.1.claims = false)
    (steady : ∀ report ∈ surveys (((Host.new config transport now).run prior).told rest),
      report.SameLimits known) :
    ∀ before after, prior ++ rest = before ++ after →
      ((Host.new config transport now).run before).engine.Within known := by
  have fresh : Reachable (Host.new config transport now) := .new config transport now
  have empty (before : List (Act σ))
      (unclaimed : ∀ accepted ∈ (Host.new config transport now).accepted before,
        accepted.1.claims = false) :
      ((Host.new config transport now).run before).engine.Within known := by
    obtain ⟨sessions, interfaces⟩ := fresh.zero_run (fun role => rfl) rfl unclaimed
    exact ⟨fun role => by rw [sessions role]; exact Nat.zero_le _,
      by rw [interfaces]; exact Nat.zero_le _⟩
  intro before after split
  rcases List.append_eq_append_iff.mp split with ⟨since, rfl, rfl⟩ | ⟨_, rfl, rfl⟩
  · rw [run_append]
    refine (fresh.run prior).within_run (empty prior unclaimed) ⟨known, cached, rfl, rfl, rfl⟩
      fun report member => steady report ?_
    rw [(fresh.run prior).told_append, surveys_append]
    exact List.mem_append_left _ member
  · refine empty before fun accepted member => unclaimed accepted ?_
    rw [accepted_append]
    exact List.mem_append_left _ member

/-- A report of a chip that carries one service. -/
def oneService : Capabilities := { Capabilities.standard with maxPublishes := 1 }

/-- A run that asks for it. -/
def askingFirst : List (Act Recorder) :=
  [.submit .getCapabilities, .handle (.commandCompleted ⟨1⟩ (.ok (.capabilities oneService)))]

/-- A run that tries to publish two services, the second while the first is being started. -/
def publishingTwo : List (Act Recorder) :=
  [.submit (.enable .standard), .handle (.commandCompleted ⟨2⟩ (.ok .empty)),
    .submit (.publish ⟨0⟩ (.named "first")), .submit (.publish ⟨0⟩ (.named "second")),
    .handle (.commandCompleted ⟨3⟩ (.ok (.sessionId ⟨7⟩)))]

/-- The second is refused, and the limit is reached and kept. -/
theorem run_limits_oneService :
    let start := Host.new .standard Recorder.new ⟨0⟩
    ((start.run askingFirst).engine.capabilities.snapshot = some oneService ∧
      (∀ accepted ∈ start.accepted askingFirst, accepted.1.claims = false) ∧
      ∀ report ∈ surveys ((start.run askingFirst).told publishingTwo),
        report.SameLimits oneService) ∧
    (start.run (askingFirst ++ publishingTwo)).engine.sessions.liveCount .publisher = 1 ∧
    ∀ before after, askingFirst ++ publishingTwo = before ++ after →
      (start.run before).engine.Within oneService := by
  intro start
  have cached : (start.run askingFirst).engine.capabilities.snapshot = some oneService := by
    decide +kernel
  have unclaimed : ∀ accepted ∈ start.accepted askingFirst, accepted.1.claims = false := by
    decide +kernel
  have silent : surveys ((start.run askingFirst).told publishingTwo) = [] := by decide +kernel
  have steady : ∀ report ∈ surveys ((start.run askingFirst).told publishingTwo),
      report.SameLimits oneService := by simp [silent]
  exact ⟨⟨cached, unclaimed, steady⟩, by decide +kernel,
    run_limits .standard Recorder.new ⟨0⟩ askingFirst publishingTwo cached unclaimed steady⟩

end Host

end NanHost
