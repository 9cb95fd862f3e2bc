import NanHost.Proofs.Host.Handovers
import NanHost.Proofs.Host.PeerRequests
import NanHost.Proofs.Host.Progress

/-!
# Sightings — a session knows the peers that it has met since it came into being, where it met them
last

A session hears of peers by matches and by messages, and keeps for each the address of the last. Its
number is used again for later sessions, and other sessions meet the same peers. What a session
knows is what it has heard in its own lifetime while it was active, and nothing else.

## What is proved

- `Reachable.known`: all through its lifetime an active session knows a peer at the address of its
  last sighting, and knows no peer that was not sighted.
- `run_sightings`: so a message that is accepted goes to the address of the last sighting; a message
  to a peer that was not sighted is refused, and leaves no trace; and a peer can be asked for a data
  path if and only if a session that is active has sighted it.

A step adds one sighting at most (`Meets`, `Reachable.meets`). Everything that happens to a session
but its beginning and a sighting leaves what it knows (`SessionRegistry.Recalls`).
-/

namespace NanHost

/-! ## Sightings -/

/-- At which address each session meets each peer, if it does. -/
abbrev Sighting := SessionId → PeerId → Option MacAddress

namespace Sighting

variable {id other : SessionId} {peer who : PeerId} {address : MacAddress}

/-- Nobody meets anybody. -/
def nothing : Sighting := fun _ _ => none

/-- One session meets one peer. -/
def of (id : SessionId) (peer : PeerId) (address : MacAddress) : Sighting := fun other who =>
  if other = id ∧ who = peer then some address else none

theorem of_self : of id peer address id peer = some address := if_pos ⟨rfl, rfl⟩

theorem of_other_session (apart : other ≠ id) : of id peer address other who = none :=
  if_neg fun same => apart same.1

theorem of_other_peer (apart : who ≠ peer) : of id peer address other who = none :=
  if_neg fun same => apart same.2

end Sighting

/-- Who meets whom by a report of the firmware. -/
def FirmwareEvent.sighting : FirmwareEvent → Sighting
  | sessionMatched session peer address _ _ => .of session peer address
  | messageReceived session peer address _ => .of session peer address
  | _ => .nothing

/-- Who meets whom in a step. -/
def Act.sighting {σ : Type} : Act σ → Sighting
  | handle event => event.sighting
  | _ => .nothing

/-- Whether there is a session under the number, and it is active. -/
def Engine.hasActive (engine : Engine) (id : SessionId) : Bool :=
  (engine.sessions.get? id).any (·.isActive)

theorem Engine.hasActive_iff {engine : Engine} {id : SessionId} :
    engine.hasActive id = true ↔
      ∃ session, engine.sessions.get? id = some session ∧ session.state = .active := by
  simp only [hasActive, Option.any_eq_true, Session.isActive, decide_eq_true_eq]

/-- The addresses at which a session meets a peer in a run, in order: those of the reports that find
it active. -/
def Host.sightings {σ : Type} [Transport σ] (host : Host σ) (id : SessionId) (peer : PeerId) :
    List (Act σ) → List MacAddress
  | [] => []
  | act :: rest =>
    (if host.engine.hasActive id then (act.sighting id peer).toList else []) ++
      (host.step act).sightings id peer rest

/-! ## What a session knows after a step -/

/-- Where a session knows a peer to be. -/
def Session.whereabouts (session : Session) (peer : PeerId) : Option MacAddress :=
  (session.peers[peer]?).map (·.address)

namespace SessionRegistry

variable {registry next : SessionRegistry} {id : SessionId} {session : Session}

/-- Each active session is new and knows nobody, or it was active before and knows what it knew
before and what it has sighted. -/
def Meets (registry next : SessionRegistry) (sighting : Sighting) : Prop :=
  ∀ id session, next.get? id = some session → session.state = .active →
    (registry.get? id = none ∧ session.peers = ∅) ∨
    ∃ earlier, registry.get? id = some earlier ∧ earlier.state = .active ∧
      ∀ peer, session.whereabouts peer = (sighting id peer).or (earlier.whereabouts peer)

namespace Meets

theorem of_recalls (recalls : registry.Recalls next) : registry.Meets next .nothing := by
  intro id session found active
  obtain ⟨earlier, there, active, peers⟩ := recalls id session found active
  refine .inr ⟨earlier, there, active, fun peer => ?_⟩
  rw [Sighting.nothing, Option.none_or, Session.whereabouts, Session.whereabouts, peers]

/-- **An active session sights a peer**, and knows it from then on by the address of the
sighting. -/
theorem put (found : registry.get? id = some session) (active : session.state = .active)
    (peer : PeerId) (sighted : PeerRecord) :
    registry.Meets
      (registry.put id { session with peers := session.peers.insert peer sighted })
      (.of id peer sighted.address) := by
  intro other next there active'
  rw [get?_put] at there
  split at there
  next here =>
    obtain rfl := Option.some.inj there
    refine .inr ⟨session, here ▸ found, active, fun who => ?_⟩
    rw [Session.whereabouts, Tables.getElem?_insert]
    by_cases same : who = peer
    · rw [if_pos same, here, same, Sighting.of_self]
      rfl
    · rw [if_neg same, Sighting.of_other_peer same, Option.none_or]
      rfl
  next apart =>
    refine .inr ⟨next, there, active', fun who => ?_⟩
    rw [Sighting.of_other_session apart, Option.none_or]

/-- A sighting that finds no active session is passed over. -/
theorem ignored (inactive : ∀ session, registry.get? id = some session → session.state ≠ .active)
    (peer : PeerId) (address : MacAddress) : registry.Meets registry (.of id peer address) := by
  intro other session found active
  refine .inr ⟨session, found, active, fun who => ?_⟩
  have apart : other ≠ id := fun same => inactive session (same ▸ found) active
  rw [Sighting.of_other_session apart, Option.none_or]

/-- **A session that is active learns what it sees**, and no other does. -/
theorem sight (registry : SessionRegistry) (id : SessionId) {learn : Session → PeerRecord}
    {peer : PeerId} {address : MacAddress}
    (of : ∀ session, (learn session).peer = peer ∧ (learn session).address = address) :
    registry.Meets (registry.sight id learn).2 (.of id peer address) := by
  rcases registry.sight_cases id learn with
    ⟨passedOver, inactive⟩ | ⟨session, found, active, noted⟩
  · rw [passedOver]
    refine ignored (fun session found active => ?_) peer address
    have isActive := inactive session found
    simp [Session.isActive, active] at isActive
  · rw [noted]
    obtain ⟨rfl, rfl⟩ := of session
    exact put found (by simpa [Session.isActive] using active) _ (learn session)

/-- A session that has just come into being knows nobody. -/
theorem started (free : registry.get? id = none) (config : DiscoveryConfig)
    (starting : Std.ExtTreeMap TransactionId DiscoveryConfig) :
    registry.Meets ({ registry with starting := starting }.put id (.started id config)) .nothing := by
  intro other session found active
  rw [get?_put] at found
  split at found
  next here =>
    obtain rfl := Option.some.inj found
    exact .inl ⟨here ▸ free, rfl⟩
  next => exact of_recalls (.refl registry) other session found active

end Meets

end SessionRegistry

namespace Engine

variable {engine : Engine} {dispatch : Dispatch}

/-- A request has no session meet a peer. -/
theorem recalls_stage (engine : Engine) (txn : TransactionId) (request : Request) :
    engine.sessions.Recalls (engine.stage txn request).sessions := by
  have discovery (id : SessionId) (config : DiscoveryConfig) :
      engine.sessions.Recalls (engine.stageDiscovery txn id config).sessions := by
    unfold stageDiscovery
    split
    · exact .beginUpdate _ id txn config
    · exact .of_sessions rfl
  cases request with
  | publish id config => exact discovery id (.publish config)
  | subscribe id config => exact discovery id (.subscribe config)
  | sendMessage id => exact .attach _ id txn
  | stopPublish id | stopSubscribe id => exact .beginStop _ id txn
  | _ => exact .refl _

/-- Nor has anything that the firmware grants by its answer to a command. -/
theorem Granted.meets {txn : TransactionId} {outcome : Except FirmwareStatus AnswerPayload}
    {reaction : Reaction} (granted : engine.Granted txn outcome reaction) :
    engine.sessions.Meets reaction.1.sessions .nothing := by
  cases granted with
  | surveyed => exact .of_recalls (.refl _)
  | started id config record onFile about underWay assigned free => exact .started free config _
  | updated id session record payload onFile about kind found active =>
    refine .of_recalls (.put found fun _ => ⟨active, ?_⟩)
    rw [Session.dropUpdate_eq]
    rfl

/-- **A report of the firmware adds what it is a sighting of**, and nothing else. -/
theorem meets_handle (coherent : engine.Coherent) (now : Timestamp) (event : FirmwareEvent) :
    engine.sessions.Meets (engine.handle now event).1.sessions event.sighting := by
  cases event with
  | commandCompleted txn outcome =>
    rcases coherent.onCompleted_granted txn outcome with changes | granted
    · exact .of_recalls changes.recedes.sessions
    · exact granted.meets
  | sessionMatched session peer address serviceSpecificInfo matchFilter =>
    simp only [handle, onMatched_eq]
    exact .sight _ session fun _ => ⟨rfl, rfl⟩
  | messageReceived session peer address payload =>
    simp only [handle, onMessage_eq]
    exact .sight _ session fun _ => ⟨rfl, rfl⟩
  | sessionTerminated session status =>
    exact .of_recalls (engine.onSessionTerminated_changes session status).recedes.sessions
  | dataPathRequested path peer address appInfo =>
    exact .of_recalls (engine.onPathRequested_changes path peer address appInfo now).recedes.sessions
  | dataPathConfirmed | dataPathTerminated | identityChanged => exact .of_recalls (.refl _)
  | interfaceDown status =>
    exact .of_recalls (engine.onInterfaceDown_changes status).recedes.sessions

end Engine

namespace Host

variable {σ : Type} [Transport σ] {host : Host σ} {id : SessionId} {peer : PeerId}

/-- Without a report of the firmware no session meets a peer. -/
theorem Reachable.recalls (reachable : Reachable host) {act : Act σ}
    (silent : ∀ event, act ≠ .handle event) :
    host.engine.sessions.Recalls (host.step act).engine.sessions := by
  have progress := reachable.progress act
  generalize host.told [act] = notices, (host.step act).engine = next at progress
  cases progress with
  | taken request dispatch record =>
    exact Engine.recalls_stage (host.engine.upon _) record.id request
  | granted | sighted | reported => exact absurd rfl (silent _)
  | changed act nobody changes => exact changes.recedes.sessions

/-- **A step adds what it is a sighting of**, and nothing else. -/
theorem Reachable.meets (reachable : Reachable host) (act : Act σ) :
    host.engine.sessions.Meets (host.step act).engine.sessions act.sighting := by
  cases act with
  | handle event =>
    show host.engine.sessions.Meets (host.react _).engine.sessions _
    rw [engine_react]
    exact Engine.meets_handle reachable.coherent host.now event
  | submit | advance | expireTransactions | expireResponses | tick | replaceTransport | shutdown =>
    exact .of_recalls (reachable.recalls fun _ same => nomatch same)

/-! ## What a session knows in its lifetime -/

theorem sightings_append (host : Host σ) (first second : List (Act σ)) :
    host.sightings id peer (first ++ second) =
      host.sightings id peer first ++ (host.run first).sightings id peer second := by
  induction first generalizing host with
  | nil => rfl
  | cons act rest ih =>
    have later := ih (host.step act)
    rw [List.cons_append, sightings, sightings, later, List.append_assoc]
    rfl

/-- **An active session knows a peer at the address of its last sighting**, all through its
lifetime; and it knows no peer that was not sighted. -/
theorem Reachable.known (reachable : Reachable host) {span : List (Act σ)}
    (lifetime : host.Lifetime (.session id) span) {session : Session}
    (found : (host.run span).engine.sessions.get? id = some session)
    (active : session.state = .active) (peer : PeerId) :
    session.whereabouts peer = (host.sightings id peer span).getLast? := by
  induction span using List.reverseRecOn generalizing session with
  | nil => exact absurd rfl lifetime.ne_nil
  | append_singleton span act ih =>
    rw [run_append] at found
    have met := (reachable.run span).meets act id session found active
    rw [sightings_append]
    by_cases first : span = []
    · -- The session comes into being: whatever the step is a sighting of is not for it.
      subst first
      have vacant : host.engine.sessions.get? id = none :=
        Option.not_isSome_iff_eq_none.mp (Bool.eq_false_iff.mp lifetime.vacant)
      have inactive : (host.run []).engine.hasActive id = false := by
        show (host.engine.sessions.get? id).any _ = false
        rw [vacant]
        rfl
      rcases met with ⟨_, nobody⟩ | ⟨earlier, there, _⟩
      · rw [Session.whereabouts, nobody]
        simp [sightings, inactive]
      · exact absurd (vacant.symm.trans there) (by simp)
    · obtain ⟨before, there⟩ := lifetime.init first
      rcases met with ⟨vacant, _⟩ | ⟨earlier, was, active, knows⟩
      · simp [Engine.holds, vacant] at there
      · have hasActive : (host.run span).engine.hasActive id = true :=
          Engine.hasActive_iff.mpr ⟨earlier, was, active⟩
        have last : ((host.run span).sightings id peer [act]).getLast? = act.sighting id peer := by
          simp only [sightings, hasActive, if_true, List.append_nil]
          cases act.sighting id peer <;> rfl
        rw [knows, ih before was active, List.getLast?_append, last]

/-- A run ends in one lifetime of an entry at most. -/
theorem Lifetime.unique {place : Place} {before before' span span' : List (Act σ)}
    (lifetime : (host.run before).Lifetime place span)
    (lifetime' : (host.run before').Lifetime place span')
    (same : before ++ span = before' ++ span') : before = before' ∧ span = span' := by
  -- Of two that differ the later would begin while the entry of the earlier is there.
  have impossible {first middle last : List (Act σ)}
      (early : (host.run first).Lifetime place (middle ++ last))
      (late : (host.run (first ++ middle)).Lifetime place last) : middle = [] := by
    by_contra some'
    have there := early.present middle last rfl some' late.ne_nil
    rw [← run_append, late.vacant] at there
    cases there
  rcases List.append_eq_append_iff.mp same with ⟨middle, rfl, rfl⟩ | ⟨middle, rfl, rfl⟩
  · obtain rfl := impossible lifetime lifetime'
    simp
  · obtain rfl := impossible lifetime' lifetime
    simp

/-- An active session has sighted a peer in its lifetime if and only if it knows the peer. -/
theorem Reachable.sighted_iff (reachable : Reachable host) {span : List (Act σ)}
    (lifetime : host.Lifetime (.session id) span) {session : Session}
    (found : (host.run span).engine.sessions.get? id = some session)
    (active : session.state = .active) (peer : PeerId) :
    host.sightings id peer span ≠ [] ↔ (session.peers[peer]?).isSome = true := by
  have known := reachable.known lifetime found active peer
  have same : (session.peers[peer]?).isSome = (session.whereabouts peer).isSome :=
    Option.isSome_map.symm
  rw [same, known, Option.isSome_iff_ne_none, ne_eq, ne_eq, List.getLast?_eq_none_iff]

end Host

/-! ## Requests about peers -/

namespace Engine

variable {engine : Engine}

/-- **A peer that is to be asked for a path is unknown if and only if no active session knows it**,
as far as nothing else is wrong before that is looked at. -/
theorem vetInitiate_unknownPeer {request : InitiateRequest} (valid : request.validate = .ok ())
    (associated : request.peerId.raw ≠ 0) (up : engine.interface.phase = .enabled) :
    engine.vetInitiate request = .error (.unknownPeer request.peerId) ↔
      ¬∃ id session, engine.sessions.get? id = some session ∧ session.state = .active ∧
        (session.peers[request.peerId]?).isSome = true := by
  have enabled : engine.interface.requireEnabled .initiateDataPath = .ok () :=
    Interface.requireEnabled_eq_ok.mpr up
  have met : (request.isOutOfBand = true ∨ engine.sessions.knowsPeer request.peerId = true) ↔
      engine.sessions.knowsPeer request.peerId = true := by
    simp [InitiateRequest.isOutOfBand, PeerId.isAssociated, associated]
  rw [← SessionRegistry.knowsPeer_iff, vetInitiate, valid, enabled]
  by_cases knows : engine.sessions.knowsPeer request.peerId = true
  · refine iff_of_false ?_ (not_not_intro knows)
    refine check_bind_ne (by simp) (check_bind_ne (by simp) (check_bind_ne ?_ ?_))
    · simp [knows]
    · refine check_bind_ne ?_ (check_bind_ne ?_ (check_bind_ne ?_ ?_))
      · simp [DataInterfaceTable.requireReady]
      · unfold DataPathSecurity.checkSupported
        split
        · simp
        · split <;> simp
      · unfold DataPathTable.checkInitiate checkAppInfo
        cases engine.capabilities.snapshot with
        | none =>
          intro refused
          cases refused
        | some known => exact check_bind_ne (by simp) (by simp)
      · intro refused
        cases refused
  · refine iff_of_true ?_ knows
    have stranger : require (request.isOutOfBand = true ∨
        engine.sessions.knowsPeer request.peerId = true) (.unknownPeer request.peerId) =
          .error (.unknownPeer request.peerId) :=
      require_eq_error_iff.mpr ⟨fun known => knows (met.mp known), rfl⟩
    rw [stranger]
    rfl

/-- A message to a peer that an active session does not know is refused on that account. -/
theorem vetMessage_unknownPeer {id : SessionId} {peer : PeerId} {session : Session}
    (up : engine.interface.phase = .enabled) (found : engine.sessions.get? id = some session)
    (active : session.state = .active) (stranger : session.peers[peer]? = none)
    (payload : ByteArray) : engine.vetMessage id peer payload = .error (.unknownPeer peer) := by
  have enabled : engine.interface.requireEnabled .sendMessage = .ok () :=
    Interface.requireEnabled_eq_ok.mpr up
  have unmet : engine.sessions.checkMessage id peer payload.size.toUInt64
      engine.capabilities.snapshot = .error (.unknownPeer peer) := by
    simp [SessionRegistry.checkMessage, found, Session.isActive, active, stranger]
  rw [vetMessage, enabled, unmet]
  rfl

end Engine

namespace Host

variable {σ : Type} [Transport σ] {host : Host σ}

/-- A request is refused on account of a peer only if it is found wanting so. -/
theorem submit_unknownPeer (filed : host.engine.ledger.WellFiled) {request : Request}
    {peer : PeerId} :
    (host.submit request).1 = .error (.unknownPeer peer) ↔
      host.engine.vet request = .error (.unknownPeer peer) := by
  constructor
  · have fate := submit_submission filed request
    generalize host.submit request = outcome at fate
    intro refused
    cases fate with
    | unfit rejection vetted =>
      exact vetted.trans (congrArg Except.error (Except.error.inj refused))
    | full | taken | refused => cases refused
  · intro unfit
    rw [submit_unfit unfit]

/-- **A message that is accepted goes to a peer that the session knows**, at the address that it
knows. -/
theorem submit_message (filed : host.engine.ledger.WellFiled) {id : SessionId} {peer : PeerId}
    {payload : ByteArray} {txn : TransactionId}
    (accepted : (host.submit (.sendMessage id peer payload)).1 = .ok txn) :
    ∃ session address, host.engine.sessions.get? id = some session ∧ session.state = .active ∧
      session.whereabouts peer = some address ∧
      host.emitted [.submit (.sendMessage id peer payload)] =
        [.issued txn (.sendMessage id peer address payload)] := by
  have fate := submit_submission filed (.sendMessage id peer payload)
  have emitted {effects : List Effect}
      (out : (host.submit (.sendMessage id peer payload)).2.effects.toList =
        host.effects.toList ++ effects) :
      host.emitted [.submit (.sendMessage id peer payload)] = effects := emitted_of_out out
  generalize host.submit (.sendMessage id peer payload) = outcome at fate accepted emitted
  cases fate with
  | unfit | full | refused => cases accepted
  | taken dispatch transport admitted opens sent =>
    obtain rfl := Except.ok.inj accepted
    obtain ⟨address, command, admits⟩ := Engine.admits_of_vetMessage admitted
    obtain ⟨session, known, found, active, met, rfl⟩ := admits.met
    refine ⟨session, known.address, found, active, ?_, ?_⟩
    · rw [Session.whereabouts, met]
      rfl
    · rw [← command]
      exact emitted (Array.toList_push ..)

/-! ## Runs -/

/-- Messages go to peers that the session has sighted since it came into being, where it sighted
them last; and only peers that were sighted are asked for paths. -/
structure SightedPeers (start : Host σ) : Prop where
  /-- While a session is active it is in one lifetime, which began with one step of the run. -/
  current : ∀ acts id, (start.run acts).engine.hasActive id = true →
    ∃ before span, acts = before ++ span ∧ (start.run before).Lifetime (.session id) span ∧
      ∀ before' span', acts = before' ++ span' →
        (start.run before').Lifetime (.session id) span' → before' = before ∧ span' = span
  /-- In its lifetime it knows each peer at the address of the last sighting, and no other peers. -/
  known : ∀ before span id session peer, (start.run before).Lifetime (.session id) span →
    ((start.run before).run span).engine.sessions.get? id = some session →
      session.state = .active →
        session.whereabouts peer = ((start.run before).sightings id peer span).getLast?
  /-- A message that is accepted goes to the address of the last sighting. -/
  accepted : ∀ acts id peer payload txn,
    ((start.run acts).submit (.sendMessage id peer payload)).1 = .ok txn →
      ∃ before span address, acts = before ++ span ∧
        (start.run before).Lifetime (.session id) span ∧
        ((start.run before).sightings id peer span).getLast? = some address ∧
        (start.run acts).emitted [.submit (.sendMessage id peer payload)] =
          [.issued txn (.sendMessage id peer address payload)]
  /-- A message to a peer that was not sighted is refused, and nothing happens. -/
  refused : ∀ before span id peer payload, (start.run before).Lifetime (.session id) span →
    (start.run before).sightings id peer span = [] →
      ((start.run before).run span).engine.interface.phase = .enabled →
        ((start.run before).run span).engine.hasActive id = true →
          ((start.run before).run span).submit (.sendMessage id peer payload) =
            (.error (.unknownPeer peer), (start.run before).run span)
  /-- A peer can be asked for a path, as far as it is concerned, if and only if a session that is
  active has sighted it in its lifetime. -/
  asked : ∀ acts (request : InitiateRequest), request.validate = .ok () →
    request.peerId.raw ≠ 0 → (start.run acts).engine.interface.phase = .enabled →
      (((start.run acts).submit (.initiateDataPath request)).1 =
          .error (.unknownPeer request.peerId) ↔
        ¬∃ id before span, (start.run acts).engine.hasActive id = true ∧ acts = before ++ span ∧
          (start.run before).Lifetime (.session id) span ∧
          (start.run before).sightings id request.peerId span ≠ [])

/-- **A session deals with the peers that it has sighted**, where it sighted them last, in any
run. -/
theorem run_sightings (config : EngineConfig) (transport : σ) (now : Timestamp) :
    (Host.new config transport now).SightedPeers := by
  have reachable := Reachable.new config transport now
  have vacant (id : SessionId) :
      (Host.new config transport now).engine.holds (.session id) = false :=
    Engine.holds_new config _
  generalize Host.new config transport now = start at reachable vacant
  have lifetime {acts : List (Act σ)} {id : SessionId} {session : Session}
      (found : (start.run acts).engine.sessions.get? id = some session) :
      ∃ before span, acts = before ++ span ∧ (start.run before).Lifetime (.session id) span ∧
        ((start.run before).run span).engine.sessions.get? id = some session :=
    (sessionSlot σ id).lifetime_of_found reachable (vacant id) found
  constructor
  case current =>
    intro acts id hasActive
    obtain ⟨session, found, _⟩ := Engine.hasActive_iff.mp hasActive
    obtain ⟨before, span, rfl, lives, _⟩ := lifetime found
    exact ⟨before, span, rfl, lives, fun _ _ same lives' => lives'.unique lives same.symm⟩
  case known =>
    intro before span id session peer lives found active
    exact (reachable.run before).known lives found active peer
  case accepted =>
    intro acts id peer payload txn accepted
    obtain ⟨session, address, found, active, known, emitted⟩ :=
      submit_message (reachable.run acts).coherent.filed accepted
    obtain ⟨before, span, rfl, lives, found⟩ := lifetime found
    refine ⟨before, span, address, rfl, lives, ?_, emitted⟩
    rw [← (reachable.run before).known lives found active]
    exact known
  case refused =>
    intro before span id peer payload lives unsighted up hasActive
    obtain ⟨session, found, active⟩ := Engine.hasActive_iff.mp hasActive
    have stranger : session.peers[peer]? = none := by
      refine Option.not_isSome_iff_eq_none.mp fun knows => ?_
      exact ((reachable.run before).sighted_iff lives found active peer).mpr knows unsighted
    exact submit_unfit (Engine.vetMessage_unknownPeer up found active stranger payload)
  case asked =>
    intro acts request valid associated up
    rw [submit_unknownPeer (reachable.run acts).coherent.filed]
    refine (Engine.vetInitiate_unknownPeer valid associated up).trans (not_congr ?_)
    constructor
    · rintro ⟨id, session, found, active, knows⟩
      obtain ⟨before, span, rfl, lives, found'⟩ := lifetime found
      exact ⟨id, before, span, Engine.hasActive_iff.mpr ⟨session, found, active⟩, rfl, lives,
        ((reachable.run before).sighted_iff lives found' active _).mpr knows⟩
    · rintro ⟨id, before, span, hasActive, rfl, lives, sighted⟩
      obtain ⟨session, found, active⟩ := Engine.hasActive_iff.mp hasActive
      refine ⟨id, session, found, active, ?_⟩
      rw [run_append] at found
      exact ((reachable.run before).sighted_iff lives found active _).mp sighted

end Host

end NanHost
