import NanHost.Proofs.Ledger.Docket
import NanHost.Session.Registry

/-!
# Sessions — the registry agrees with the commands that are out

A session lists the commands about it that are unanswered, remembers the update under way, and is
terminating while a stop is out; a start under way is entered under its command. All of this
repeats what the ledger knows, and `SessionRegistry.Agrees` says that it repeats it faithfully: the
registry against the docket of the commands about sessions.

The agreement is stated of one session first (`Session.Agrees`), since an operation changes one
session and leaves the others alone; `Agrees.put` is the only place that goes through the table.

## What is proved

Every operation of the registry comes with the change of the docket that goes with it, and keeps
the agreement. Of a session, there are two lemmas: `Session.Agrees.settle` when one command less is
out about it, and `Session.Agrees.engage` when one more is. The two reports that tell a session of a
peer are one operation, `SessionRegistry.sight`.
-/

namespace NanHost

/-! ## One session -/

namespace Session

variable {session next : Session} {id : SessionId} {docket : Docket} {record : TransactionRecord}
  {txn : TransactionId}

/-- The session after it learnt something of a peer, in place of what it knew. -/
def sight (session : Session) (record : PeerRecord) : Session :=
  { session with peers := session.peers.insert record.peer record }

/-- What a session learns from a message: what a match told of the peer before is kept. -/
def heard (session : Session) (peer : PeerId) (address : MacAddress) (now : Timestamp) :
    PeerRecord :=
  let known := session.peers[peer]?
  ⟨peer, address, (known.map (·.serviceSpecificInfo)).getD .empty,
    (known.map (·.matchFilter)).getD .empty, now⟩

theorem recordMessage_eq (session : Session) (peer : PeerId) (address : MacAddress)
    (now : Timestamp) :
    session.recordMessage peer address now = session.sight (session.heard peer address now) := by
  unfold recordMessage sight heard
  dsimp only

/-- A session that is live and is not being stopped is active. -/
theorem active_of_live (live : session.isLive = true) (notStopping : session.state ≠ .terminating) :
    session.state = .active := by
  cases stage : session.state with
  | active => rfl
  | terminating => exact absurd stage notStopping
  | terminated => simp [isLive, stage] at live

theorem mem_attach {other : TransactionId} :
    other ∈ (session.attach txn).inFlight ↔ other = txn ∨ other ∈ session.inFlight :=
  Tables.mem_insert_iff

theorem mem_detach {other : TransactionId} :
    other ∈ (session.detach txn).inFlight ↔ other ≠ txn ∧ other ∈ session.inFlight :=
  Tables.mem_erase_iff

/-- A session is done when it is terminated and no command is out about it. -/
theorem isDone_iff :
    session.isDone = true ↔ session.state = .terminated ∧ ∀ txn, txn ∉ session.inFlight := by
  simp only [isDone, Bool.and_eq_true, decide_eq_true_eq, Std.ExtTreeSet.isEmpty_iff,
    Std.ExtTreeSet.eq_empty_iff_forall_not_mem]

/-- Forgetting an update touches nothing else. -/
theorem dropUpdate_eq (session : Session) (txn : TransactionId) :
    session.dropUpdate txn =
      { session with pendingUpdate := (session.dropUpdate txn).pendingUpdate } := by
  unfold dropUpdate
  split
  · split <;> rfl
  · rfl

/-- An update under way after the command `txn` has ended was under way before, and another command
carries it. -/
theorem pendingUpdate_dropUpdate {u : TransactionId × DiscoveryConfig}
    (pending : (session.dropUpdate txn).pendingUpdate = some u) :
    u.1 ≠ txn ∧ session.pendingUpdate = some u := by
  unfold dropUpdate at pending
  split at pending
  next carrier config before =>
    split at pending
    next => cases pending
    next differs =>
      obtain rfl := Option.some.inj (before.symm.trans pending)
      exact ⟨differs, before⟩
  next none => simp [none] at pending

/-- The session of a number repeats what is out about it. -/
structure Agrees (session : Session) (id : SessionId) (docket : Docket) : Prop where
  own : session.id = id
  role : session.config.role = session.role
  inFlight_iff : ∀ {txn}, txn ∈ session.inFlight ↔
    ∃ record, docket txn = some record ∧ record.context = .session id
  update_out : ∀ {txn config}, session.pendingUpdate = some (txn, config) →
    config.role = session.role ∧ ∃ record, docket txn = some record ∧
      record.context = .session id ∧ record.kind = session.role.startKind
  stop_out : session.state = .terminating → ∃ txn record, docket txn = some record ∧
    record.context = .session id ∧ record.kind = session.role.stopKind
  stopping : ∀ {txn record role}, docket txn = some record → record.context = .session id →
    record.kind = SessionRole.stopKind role → session.state ≠ .active

namespace Agrees

/-- Commands about anything else play no part. -/
theorem congr {after : Docket} (agrees : session.Agrees id docket)
    (same : Docket.SameAbout (.session id) docket after) : session.Agrees id after where
  own := agrees.own
  role := agrees.role
  inFlight_iff := by
    intro txn
    rw [agrees.inFlight_iff]
    constructor <;> rintro ⟨record, out, about⟩
    · exact ⟨record, (same about).mpr out, about⟩
    · exact ⟨record, (same about).mp out, about⟩
  update_out pending := by
    obtain ⟨role, record, out, about, kind⟩ := agrees.update_out pending
    exact ⟨role, record, (same about).mpr out, about, kind⟩
  stop_out terminating := by
    obtain ⟨txn, record, out, about, kind⟩ := agrees.stop_out terminating
    exact ⟨txn, record, (same about).mpr out, about, kind⟩
  stopping out about := agrees.stopping ((same about).mp out) about

/-- A session that has just been numbered, under a number that nothing is out about. -/
theorem started (id : SessionId) (config : DiscoveryConfig)
    (idle : ∀ {txn record}, docket txn = some record → record.context ≠ .session id) :
    (Session.started id config).Agrees id docket where
  own := rfl
  role := rfl
  inFlight_iff := by
    intro txn
    refine ⟨fun member => absurd member (by simp [Session.started]), ?_⟩
    rintro ⟨record, out, about⟩
    exact absurd about (idle out)
  update_out pending := by cases pending
  stop_out terminating := by cases terminating
  stopping out about := absurd about (idle out)

/-- **One command less is out about the session.** It is struck off the list; the update under way
is not the one of this command any more; and if the command was a stop, the session is
terminated. -/
theorem settle (agrees : session.Agrees id docket) (out : docket txn = some record)
    (sameId : next.id = session.id)
    (sameRole : next.role = session.role) (config : next.config.role = session.role)
    (inFlight : ∀ {other}, other ∈ next.inFlight ↔ other ≠ txn ∧ other ∈ session.inFlight)
    (update : ∀ {u}, next.pendingUpdate = some u → u.1 ≠ txn ∧ session.pendingUpdate = some u)
    (state : next.state = .terminated ∨
      next.state = session.state ∧ ∀ role : SessionRole, record.kind ≠ role.stopKind) :
    next.Agrees id (docket.strike txn) where
  own := sameId.trans agrees.own
  role := config.trans sameRole.symm
  inFlight_iff := by
    intro other
    simp only [inFlight, agrees.inFlight_iff, Docket.strike_eq_some, and_assoc, exists_and_left]
  update_out pending := by
    obtain ⟨differs, before⟩ := update pending
    obtain ⟨role, carrier, out', rest⟩ := agrees.update_out before
    rw [sameRole]
    exact ⟨role, carrier, Docket.strike_eq_some.mpr ⟨differs, out'⟩, rest⟩
  stop_out terminating := by
    rcases state with gone | ⟨same, notStop⟩
    · rw [gone] at terminating
      cases terminating
    · obtain ⟨number, stop, out', about', kind⟩ := agrees.stop_out (same ▸ terminating)
      have differs : number ≠ txn := by
        rintro rfl
        obtain rfl := Option.some.inj (out.symm.trans out')
        exact notStop _ kind
      rw [sameRole]
      exact ⟨number, stop, Docket.strike_eq_some.mpr ⟨differs, out'⟩, about', kind⟩
  stopping out' about' kind active := by
    rcases state with gone | ⟨same, _⟩
    · rw [gone] at active
      cases active
    · exact agrees.stopping (Docket.strike_eq_some.mp out').2 about' kind (same ▸ active)

/-- **One command more is out about the session.** It is put on the list; it may carry an update of
the session's role; and it is a stop of the session's role if and only if the session is terminating
now. -/
theorem engage (agrees : session.Agrees id docket) (fresh : docket record.id = none)
    (about : record.context = .session id) (sameId : next.id = session.id)
    (sameRole : next.role = session.role) (config : next.config = session.config)
    (inFlight : ∀ {other}, other ∈ next.inFlight ↔ other = record.id ∨ other ∈ session.inFlight)
    (update : ∀ {u}, next.pendingUpdate = some u → session.pendingUpdate = some u ∨
      u.1 = record.id ∧ u.2.role = session.role ∧ record.kind = session.role.startKind)
    (state : next.state = .terminating ∧ record.kind = session.role.stopKind ∨
      next.state = session.state ∧ ∀ role : SessionRole, record.kind ≠ role.stopKind) :
    next.Agrees id (docket.enter record) where
  own := sameId.trans agrees.own
  role := by rw [config, sameRole, agrees.role]
  inFlight_iff := by
    intro other
    simp only [inFlight, agrees.inFlight_iff, Docket.enter_eq_some fresh]
    constructor
    · rintro (rfl | ⟨entry, out, about'⟩)
      · exact ⟨record, .inl ⟨rfl, rfl⟩, about⟩
      · exact ⟨entry, .inr out, about'⟩
    · rintro ⟨entry, ⟨same, _⟩ | out, about'⟩
      · exact .inl same
      · exact .inr ⟨entry, out, about'⟩
  update_out pending := by
    rw [sameRole]
    rcases update pending with before | ⟨rfl, role, kind⟩
    · obtain ⟨role, carrier, out', rest⟩ := agrees.update_out before
      exact ⟨role, carrier, (Docket.enter_eq_some fresh).mpr (.inr out'), rest⟩
    · exact ⟨role, record, (Docket.enter_eq_some fresh).mpr (.inl ⟨rfl, rfl⟩), about, kind⟩
  stop_out terminating := by
    rw [sameRole]
    rcases state with ⟨_, kind⟩ | ⟨same, _⟩
    · exact ⟨record.id, record, (Docket.enter_eq_some fresh).mpr (.inl ⟨rfl, rfl⟩), about, kind⟩
    · obtain ⟨number, stop, out', rest⟩ := agrees.stop_out (same ▸ terminating)
      exact ⟨number, stop, (Docket.enter_eq_some fresh).mpr (.inr out'), rest⟩
  stopping out' about' kind active := by
    rcases state with ⟨ending, _⟩ | ⟨same, notStop⟩
    · rw [ending] at active
      cases active
    · rcases (Docket.enter_eq_some fresh).mp out' with ⟨_, rfl⟩ | before
      · exact notStop _ kind
      · exact agrees.stopping before about' kind (same ▸ active)

/-- A session takes on no configuration of the other role. -/
theorem role_adoptUpdate (agrees : session.Agrees id docket) (txn : TransactionId) :
    (session.adoptUpdate txn).config.role = session.role := by
  unfold adoptUpdate
  split
  next carrier config pending =>
    split
    · exact (agrees.update_out pending).1
    · exact agrees.role
  next => exact agrees.role

/-- A session that the firmware has ended: what is out about it is as it was. -/
theorem ended (agrees : session.Agrees id docket) (peers : Std.ExtTreeMap PeerId PeerRecord) :
    { session with state := .terminated, peers := peers }.Agrees id docket where
  own := agrees.own
  role := agrees.role
  inFlight_iff := agrees.inFlight_iff
  update_out := agrees.update_out
  stop_out terminating := by cases terminating
  stopping _ _ _ active := by cases active

/-- Which peers a session has met plays no part. -/
theorem met (agrees : session.Agrees id docket) (peers : Std.ExtTreeMap PeerId PeerRecord) :
    { session with peers := peers }.Agrees id docket :=
  ⟨agrees.own, agrees.role, agrees.inFlight_iff, agrees.update_out, agrees.stop_out,
    agrees.stopping⟩

end Agrees

end Session

/-! ## The registry -/

namespace SessionRegistry

variable {registry : SessionRegistry} {docket : Docket} {record : TransactionRecord}
  {id : SessionId} {session next : Session} {txn : TransactionId}

@[simp] theorem get?_put (registry : SessionRegistry) (id other : SessionId) (session : Session) :
    (registry.put id session).get? other =
      if other = id then some session else registry.get? other :=
  Tables.getElem?_insert registry.sessions id other session

theorem get?_update (registry : SessionRegistry) (id other : SessionId)
    (change : Session → Session) :
    (registry.update id change).get? other =
      if other = id then (registry.get? id).map change else registry.get? other :=
  Tables.getElem?_modify registry.sessions id other change

/-- The sessions that are listed are those that are on record. -/
theorem mem_toList {entry : Session} :
    entry ∈ registry.toList ↔ ∃ id, registry.get? id = some entry := by
  simp only [toList, get?, List.mem_map, Prod.exists, exists_eq_right,
    Std.ExtTreeMap.mem_toList_iff_getElem?_eq_some]

/-- Changing a session that is there is putting the changed one in its place. -/
theorem update_eq_put (found : registry.get? id = some session) (change : Session → Session) :
    registry.update id change = registry.put id (change session) := by
  rw [update, put, Tables.modify_eq_insert found]

theorem purge_eq (registry : SessionRegistry) (id : SessionId) :
    registry.purge id =
      { registry with sessions := Tables.clear registry.sessions id (·.isDone) } := by
  unfold purge get? Tables.clear
  cases registry.sessions[id]? with
  | none => rfl
  | some session => cases done : session.isDone <;> simp [done]

/-- What a purge leaves was there before, and what it takes was done. -/
theorem get?_purge (registry : SessionRegistry) (id other : SessionId) :
    (registry.purge id).get? other =
      if other = id then (registry.get? id).filter (!·.isDone) else registry.get? other := by
  rw [purge_eq]
  exact Tables.getElem?_clear registry.sessions id other (·.isDone)

/-- What is on record under a number after a new state was put there, and perhaps purged, is that
state. -/
theorem eq_of_get?_put_purge {left : Session}
    (found : ((registry.put id session).purge id).get? id = some left) : left = session := by
  rw [get?_purge, if_pos rfl, get?_put, if_pos rfl, Option.filter_eq_some_iff] at found
  exact (Option.some.inj found.1).symm

@[simp] theorem starting_purge (registry : SessionRegistry) (id : SessionId) :
    (registry.purge id).starting = registry.starting := by
  rw [purge_eq]

/-! ### Sightings -/

/-- Enters what an active session has learnt of a peer, and tells whether there is such a
session. -/
def sight (registry : SessionRegistry) (id : SessionId) (learn : Session → PeerRecord) :
    Bool × SessionRegistry :=
  match registry.get? id with
  | some entry => if entry.isActive then (true, registry.put id (entry.sight (learn entry)))
    else (false, registry)
  | none => (false, registry)

/-- A match and a message are both sightings. They differ in what is learnt. -/
theorem onMatch_eq (registry : SessionRegistry) (id : SessionId) (peer : PeerId)
    (address : MacAddress) (serviceSpecificInfo matchFilter : ByteArray) (now : Timestamp) :
    registry.onMatch id peer address serviceSpecificInfo matchFilter now =
      registry.sight id fun _ => ⟨peer, address, serviceSpecificInfo, matchFilter, now⟩ := rfl

theorem onMessage_eq (registry : SessionRegistry) (id : SessionId) (peer : PeerId)
    (address : MacAddress) (now : Timestamp) :
    registry.onMessage id peer address now = registry.sight id (·.heard peer address now) := by
  unfold onMessage sight
  cases registry.get? id with
  | none => rfl
  | some entry =>
    dsimp only
    rw [Session.recordMessage_eq]

/-- A sighting changes what an active session knows of its peers, and nothing else. -/
theorem sight_cases (registry : SessionRegistry) (id : SessionId) (learn : Session → PeerRecord) :
    (registry.sight id learn = (false, registry) ∧
      ∀ session, registry.get? id = some session → session.isActive = false) ∨
    ∃ session, registry.get? id = some session ∧ session.isActive = true ∧
      registry.sight id learn = (true, registry.put id (session.sight (learn session))) := by
  cases found : registry.get? id with
  | none => exact .inl ⟨by simp only [sight, found], by simp⟩
  | some session =>
    cases active : session.isActive with
    | false =>
      refine .inl ⟨by simp [sight, found, active], fun other there => ?_⟩
      obtain rfl := Option.some.inj there
      exact active
    | true => exact .inr ⟨session, rfl, active, by simp [sight, found, active]⟩

/-! ### Agreement -/

/-- The registry repeats what is out about sessions, no more and no less. -/
structure Agrees (registry : SessionRegistry) (docket : Docket) : Prop where
  session : ∀ {id session}, registry.get? id = some session → session.Agrees id docket
  assigned : ∀ {id session}, registry.get? id = some session → id.isAssigned = true
  present : ∀ {txn record id}, docket txn = some record → record.context = .session id →
    ∃ session, registry.get? id = some session
  out_of_starting : ∀ {txn config}, registry.starting[txn]? = some config →
    ∃ record, docket txn = some record ∧ record.context = .newSession config.role
  starting_of_out : ∀ {txn record role}, docket txn = some record →
    record.context = .newSession role →
    ∃ config, registry.starting[txn]? = some config ∧ config.role = role

namespace Agrees

/-- A registry with nothing in it agrees if nothing is out. -/
theorem empty (idle : ∀ txn, docket txn = none) : SessionRegistry.empty.Agrees docket where
  session found := by simp [SessionRegistry.empty, get?] at found
  assigned found := by simp [SessionRegistry.empty, get?] at found
  present out := by simp [idle] at out
  out_of_starting found := by simp [SessionRegistry.empty] at found
  starting_of_out out := by simp [idle] at out

/-- **One session is put in its place**: only the commands about that session may be others. -/
theorem put {after : Docket} (agrees : registry.Agrees docket) (assigned : id.isAssigned = true)
    (local' : next.Agrees id after)
    (same : ∀ context, context ≠ .session id → Docket.SameAbout context docket after) :
    (registry.put id next).Agrees after := by
  refine ⟨fun {other entry} there => ?_, fun {other entry} there => ?_,
    fun {number record other} out about => ?_, fun there => ?_, fun out about => ?_⟩
  · rw [get?_put] at there
    split at there
    next here =>
      obtain rfl := Option.some.inj there
      exact here ▸ local'
    next elsewhere =>
      refine (agrees.session there).congr (same _ ?_)
      simpa using elsewhere
  · rw [get?_put] at there
    split at there
    next here => exact here ▸ assigned
    next => exact agrees.assigned there
  · rw [get?_put]
    split
    next => exact ⟨next, rfl⟩
    next elsewhere =>
      refine agrees.present ((same _ ?_ about).mp out) about
      simpa using elsewhere
  · obtain ⟨record, out, about⟩ := agrees.out_of_starting there
    exact ⟨record, (same _ (by simp) about).mpr out, about⟩
  · exact agrees.starting_of_out ((same _ (by simp) about).mp out) about

/-- Forgetting a session that is done keeps the agreement: no command is out about it. -/
theorem purge (agrees : registry.Agrees docket) (id : SessionId) :
    (registry.purge id).Agrees docket := by
  have kept {other entry} (there : (registry.purge id).get? other = some entry) :
      registry.get? other = some entry := by
    rw [get?_purge] at there
    split at there
    next same => exact same ▸ (Option.filter_eq_some_iff.mp there).1
    next => exact there
  refine ⟨fun there => agrees.session (kept there), fun there => agrees.assigned (kept there),
    fun {number record other} out about => ?_, fun there => ?_, fun out about => ?_⟩
  · obtain ⟨entry, there⟩ := agrees.present out about
    have busy : entry.isDone = false := by
      rw [Bool.eq_false_iff, ne_eq, Session.isDone_iff]
      exact fun done => done.2 number ((agrees.session there).inFlight_iff.mpr ⟨record, out, about⟩)
    rw [get?_purge]
    split
    next here =>
      subst here
      exact ⟨entry, by rw [there, Option.filter_some_pos (by simp [busy])]⟩
    next => exact ⟨entry, there⟩
  · exact agrees.out_of_starting (starting_purge registry id ▸ there)
  · rw [starting_purge]
    exact agrees.starting_of_out out about

/-- The session that a command is about. -/
theorem session_of_out (agrees : registry.Agrees docket) (out : docket txn = some record)
    (about : record.context = .session id) :
    ∃ session, registry.get? id = some session ∧ session.Agrees id docket ∧
      id.isAssigned = true := by
  obtain ⟨session, found⟩ := agrees.present out about
  exact ⟨session, found, agrees.session found, agrees.assigned found⟩

/-! ### Starts -/

theorem beginNew (agrees : registry.Agrees docket) {config : DiscoveryConfig}
    (fresh : docket record.id = none) (about : record.context = .newSession config.role) :
    (registry.beginNew record.id config).Agrees (docket.enter record) where
  session there := (agrees.session there).congr (Docket.sameAbout_enter fresh (by simp [about]))
  assigned there := agrees.assigned there
  present out about' := by
    rcases (Docket.enter_eq_some fresh).mp out with ⟨_, rfl⟩ | before
    · rw [about] at about'
      cases about'
    · exact agrees.present before about'
  out_of_starting {number entry} there := by
    simp only [SessionRegistry.beginNew, Tables.getElem?_insert] at there
    split at there
    next same =>
      obtain rfl := Option.some.inj there
      exact ⟨record, (Docket.enter_eq_some fresh).mpr (.inl ⟨same, rfl⟩), about⟩
    next =>
      obtain ⟨other, out, about'⟩ := agrees.out_of_starting there
      exact ⟨other, (Docket.enter_eq_some fresh).mpr (.inr out), about'⟩
  starting_of_out {number other role} out about' := by
    simp only [SessionRegistry.beginNew, Tables.getElem?_insert]
    rcases (Docket.enter_eq_some fresh).mp out with ⟨same, rfl⟩ | before
    · rw [if_pos same]
      exact ⟨config, rfl, PendingContext.newSession.inj (about.symm.trans about')⟩
    · have differs : number ≠ record.id := fun same => by simp [same, fresh] at before
      rw [if_neg differs]
      exact agrees.starting_of_out before about'

/-- The start is struck off, and nothing else. -/
theorem strike_starting (agrees : registry.Agrees docket) {role : SessionRole}
    (out : docket txn = some record) (about : record.context = .newSession role) :
    { registry with starting := registry.starting.erase txn }.Agrees (docket.strike txn) where
  session there := (agrees.session there).congr (Docket.sameAbout_strike out (by simp [about]))
  assigned there := agrees.assigned there
  present out' about' := agrees.present (Docket.strike_eq_some.mp out').2 about'
  out_of_starting {number entry} there := by
    rw [Tables.getElem?_erase] at there
    split at there
    next => cases there
    next differs =>
      obtain ⟨other, out', about'⟩ := agrees.out_of_starting there
      exact ⟨other, Docket.strike_eq_some.mpr ⟨differs, out'⟩, about'⟩
  starting_of_out {number other role'} out' about' := by
    obtain ⟨differs, before⟩ := Docket.strike_eq_some.mp out'
    simp only [Tables.getElem?_erase, if_neg differs]
    exact agrees.starting_of_out before about'

theorem resolveNew (agrees : registry.Agrees docket) {role : SessionRole}
    (out : docket txn = some record) (about : record.context = .newSession role)
    (assigned : Except Failure SessionId) :
    (registry.resolveNew txn assigned).2.Agrees (docket.strike txn) := by
  have rest := agrees.strike_starting out about
  obtain ⟨config, found, _⟩ := agrees.starting_of_out out about
  unfold SessionRegistry.resolveNew
  rw [found]
  cases assigned with
  | error failure => exact rest
  | ok number =>
    simp only
    split
    next => exact rest
    next isAssigned =>
      split
      next => exact rest
      next free =>
        refine rest.put (by simpa using isAssigned) (.started number config fun out' about' => ?_)
          fun context _ => Docket.SameAbout.refl context _
        obtain ⟨entry, there⟩ := rest.present out' about'
        exact free (Std.ExtTreeMap.contains_eq_isSome_getElem?.trans (Option.isSome_of_eq_some there))

/-! ### Commands about a session -/

/-- The registry after one session took on one command more. -/
theorem engage (agrees : registry.Agrees docket) (found : registry.get? id = some session)
    (fresh : docket record.id = none) (about : record.context = .session id)
    (local' : next.Agrees id (docket.enter record)) :
    (registry.put id next).Agrees (docket.enter record) :=
  agrees.put (agrees.assigned found) local' fun _ other =>
    Docket.sameAbout_enter fresh (about ▸ other.symm)

/-- The registry after one session took on that a command about it has ended. -/
theorem settle (agrees : registry.Agrees docket) (found : registry.get? id = some session)
    (out : docket txn = some record) (about : record.context = .session id)
    (local' : next.Agrees id (docket.strike txn)) :
    ((registry.put id next).purge id).Agrees (docket.strike txn) :=
  (agrees.put (agrees.assigned found) local' fun _ other =>
    Docket.sameAbout_strike out (about ▸ other.symm)).purge id

theorem beginUpdate (agrees : registry.Agrees docket) (found : registry.get? id = some session)
    (fresh : docket record.id = none) (about : record.context = .session id)
    {config : DiscoveryConfig} (role : config.role = session.role)
    (kind : record.kind = config.role.startKind) :
    (registry.beginUpdate id record.id config).Agrees (docket.enter record) := by
  rw [SessionRegistry.beginUpdate, update_eq_put found]
  refine agrees.engage found fresh about ((agrees.session found).engage fresh about rfl rfl rfl
    Session.mem_attach (fun pending => .inr ?_) (.inr ⟨rfl, fun other same => ?_⟩))
  · obtain rfl := Option.some.inj pending
    exact ⟨rfl, role, role ▸ kind⟩
  · rw [kind] at same
    cases other <;> cases config <;> cases same

theorem attach (agrees : registry.Agrees docket) (found : registry.get? id = some session)
    (fresh : docket record.id = none) (about : record.context = .session id)
    (kind : record.kind = .sendMessage) :
    (registry.attach id record.id).Agrees (docket.enter record) := by
  rw [SessionRegistry.attach, update_eq_put found]
  refine agrees.engage found fresh about ((agrees.session found).engage fresh about rfl rfl rfl
    Session.mem_attach .inl (.inr ⟨rfl, fun other same => ?_⟩))
  rw [kind] at same
  cases other <;> cases same

theorem beginStop (agrees : registry.Agrees docket) (found : registry.get? id = some session)
    (fresh : docket record.id = none) (about : record.context = .session id)
    (kind : record.kind = session.role.stopKind) :
    (registry.beginStop id record.id).Agrees (docket.enter record) := by
  rw [SessionRegistry.beginStop, update_eq_put found]
  exact agrees.engage found fresh about ((agrees.session found).engage fresh about rfl rfl rfl
    Session.mem_attach .inl (.inl ⟨rfl, kind⟩))

/-- An update under way that another command carries stays under way. -/
theorem update_ne (agrees : registry.Agrees docket) (found : registry.get? id = some session)
    (out : docket txn = some record)
    (kind : record.kind ≠ session.role.startKind) {u : TransactionId × DiscoveryConfig}
    (pending : session.pendingUpdate = some u) :
    u.1 ≠ txn ∧ session.pendingUpdate = some u := by
  refine ⟨fun same => ?_, pending⟩
  obtain ⟨_, carrier, out', _, kind'⟩ := (agrees.session found).update_out pending
  rw [same, out] at out'
  exact kind (Option.some.inj out' ▸ kind')

theorem detach (agrees : registry.Agrees docket) (out : docket txn = some record)
    (about : record.context = .session id) (kind : record.kind = .sendMessage) :
    (registry.detach id txn).2.Agrees (docket.strike txn) := by
  obtain ⟨session, found, local', _⟩ := agrees.session_of_out out about
  rw [SessionRegistry.detach, update_eq_put found]
  refine agrees.settle found out about (local'.settle out rfl rfl local'.role Session.mem_detach
    (agrees.update_ne found out ?_) (.inr ⟨rfl, fun role same => ?_⟩))
  · rw [kind]
    cases session.role <;> simp [SessionRole.startKind]
  · rw [kind] at same
    cases role <;> cases same

theorem resolveStop (agrees : registry.Agrees docket) (out : docket txn = some record)
    (about : record.context = .session id) {role : SessionRole}
    (kind : record.kind = role.stopKind) :
    (registry.resolveStop id txn).2.Agrees (docket.strike txn) := by
  obtain ⟨session, found, local', _⟩ := agrees.session_of_out out about
  rw [SessionRegistry.resolveStop, update_eq_put found]
  refine agrees.settle found out about (local'.settle out rfl rfl local'.role Session.mem_detach
    (agrees.update_ne found out ?_) (.inl rfl))
  rw [kind]
  cases session.role <;> cases role <;> simp [SessionRole.startKind, SessionRole.stopKind]

theorem resolveUpdate (agrees : registry.Agrees docket) (out : docket txn = some record)
    (about : record.context = .session id) {role : SessionRole}
    (kind : record.kind = role.startKind) (outcome : Except Failure Unit) :
    (registry.resolveUpdate id txn outcome).2.Agrees (docket.strike txn) := by
  obtain ⟨session, found, local', _⟩ := agrees.session_of_out out about
  have notStop : ∀ other : SessionRole, record.kind ≠ other.stopKind := by
    intro other same
    rw [kind] at same
    cases role <;> cases other <;> cases same
  have settled {config : DiscoveryConfig} (sameRole : config.role = session.role) :
      { (session.detach txn).dropUpdate txn with config := config }.Agrees id
        (docket.strike txn) := by
    refine local'.settle out ?_ ?_ sameRole ?_ Session.pendingUpdate_dropUpdate (.inr ⟨?_, notStop⟩)
    · rw [Session.dropUpdate_eq]
      rfl
    · rw [Session.dropUpdate_eq]
      rfl
    · rw [Session.dropUpdate_eq]
      exact Session.mem_detach
    · rw [Session.dropUpdate_eq]
      rfl
  have dropped : ((session.detach txn).dropUpdate txn).Agrees id (docket.strike txn) := by
    have kept := settled local'.role
    rw [Session.dropUpdate_eq] at kept ⊢
    exact kept
  unfold SessionRegistry.resolveUpdate
  rw [found]
  simp only
  split
  · cases outcome with
    | ok => exact agrees.settle found out about (settled (local'.role_adoptUpdate txn))
    | error failure => exact agrees.settle found out about dropped
  · exact agrees.settle found out about dropped

/-! ### Reports of the firmware -/

theorem sight (agrees : registry.Agrees docket) (id : SessionId) (learn : Session → PeerRecord) :
    (registry.sight id learn).2.Agrees docket := by
  rcases registry.sight_cases id learn with ⟨ignored, _⟩ | ⟨entry, found, _, noted⟩
  · rw [ignored]
    exact agrees
  · rw [noted]
    exact agrees.put (agrees.assigned found) ((agrees.session found).met _) fun context _ =>
      Docket.SameAbout.refl context _

theorem onTerminated (agrees : registry.Agrees docket) (id : SessionId) :
    (registry.onTerminated id).2.Agrees docket := by
  unfold SessionRegistry.onTerminated
  split
  next => exact agrees
  next entry found =>
    have ended := (agrees.put (agrees.assigned found) ((agrees.session found).ended ∅)
      fun context _ => Docket.SameAbout.refl context _).purge id
    simp only
    split
    · exact ended
    · exact ended
    · exact agrees

end Agrees

end SessionRegistry

end NanHost
