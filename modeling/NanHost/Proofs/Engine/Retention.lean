import NanHost.Proofs.Engine.Account
import NanHost.Proofs.Engine.Admissible
import NanHost.Proofs.Engine.Changes

/-!
# Retention — what no change does to a session

Changes end sessions, and they end the commands about sessions. They give a session no other role
and no other configuration, they bring none into being and none back to life, and they start
nothing. An update that is under way they drop only as they report that it has ended.

## What is proved

- `Changes.retains`: every session there is after a sequence of changes was there before, with the
  same role and configuration, and what is not under way any more was reported.
- `Changes.capabilities`: what is known of the firmware stays as it was.
- `sight_retains` and `staged`: so it is with what a session learns of a peer, and with requests,
  but for the start or the update that a request enters.
-/

namespace NanHost

/-- The numbers under which commands are reported to have ended. -/
def ended (notices : List Notification) : List TransactionId := (completions notices).map (·.id)

/-- Where no command is reported to have ended, nothing is granted. -/
theorem Silent.plain {notices : List Notification} (silent : Silent notices) :
    ∀ notice ∈ notices, notice.grants = false := by
  intro notice member
  have silent := silent notice member
  cases notice with
  | completed => cases silent
  | _ => rfl

/-! ## One session -/

/-- A session and what changes may leave of it, if they report that the given commands have
ended. -/
structure Session.Retained (ended : List TransactionId) (earlier later : Session) : Prop where
  role : later.role = earlier.role
  config : later.config = earlier.config
  live : later.isLive = true → earlier.isLive = true
  update : ∀ {update}, later.pendingUpdate = some update → earlier.pendingUpdate = some update
  dropped : ∀ {update}, earlier.pendingUpdate = some update →
    later.pendingUpdate = some update ∨ update.1 ∈ ended

namespace Session.Retained

variable {ended ended' : List TransactionId} {first second third : Session}

theorem refl (session : Session) : session.Retained ended session :=
  ⟨rfl, rfl, fun live => live, fun pending => pending, .inl⟩

theorem trans (before : first.Retained ended second) (after : second.Retained ended' third) :
    first.Retained (ended ++ ended') third where
  role := after.role.trans before.role
  config := after.config.trans before.config
  live there := before.live (after.live there)
  update pending := before.update (after.update pending)
  dropped pending := by
    rcases before.dropped pending with still | reported
    · exact (after.dropped still).imp_right (List.mem_append_right _)
    · exact .inr (List.mem_append_left _ reported)

/-- An update that has failed is dropped as its end is reported. -/
theorem dropUpdate (session : Session) {txn : TransactionId} (reported : txn ∈ ended) :
    session.Retained ended ((session.detach txn).dropUpdate txn) := by
  have dropped {update : TransactionId × DiscoveryConfig}
      (pending : session.pendingUpdate = some update) :
      ((session.detach txn).dropUpdate txn).pendingUpdate = some update ∨ update.1 ∈ ended := by
    unfold Session.dropUpdate
    simp only [Session.detach, pending]
    split
    next same => exact .inr (same ▸ reported)
    next => exact .inl rfl
  refine ⟨?_, ?_, ?_, fun pending => (pendingUpdate_dropUpdate pending).2, dropped⟩
  all_goals rw [dropUpdate_eq]
  · rfl
  · rfl
  · exact fun live => live

end Session.Retained

/-! ## The registry -/

namespace SessionRegistry

variable {registry next last : SessionRegistry} {ended ended' : List TransactionId}
  {id : SessionId} {session entry : Session}

/-- A registry and what changes may leave of it. -/
structure Retains (registry : SessionRegistry) (ended : List TransactionId)
    (next : SessionRegistry) : Prop where
  session : ∀ {id later}, next.get? id = some later →
    ∃ earlier, registry.get? id = some earlier ∧ earlier.Retained ended later
  starting : ∀ {txn : TransactionId} {config}, next.starting[txn]? = some config →
    registry.starting[txn]? = some config

namespace Retains

theorem of_sessions (same : next.sessions = registry.sessions)
    (starting : ∀ {txn : TransactionId} {config}, next.starting[txn]? = some config →
      registry.starting[txn]? = some config) : registry.Retains ended next := by
  refine ⟨fun {id later} found => ⟨later, ?_, .refl later⟩, starting⟩
  rw [get?, ← same]
  exact found

theorem refl (registry : SessionRegistry) : registry.Retains ended registry :=
  of_sessions rfl fun found => found

theorem trans (before : registry.Retains ended next) (after : next.Retains ended' last) :
    registry.Retains (ended ++ ended') last := by
  refine ⟨fun found => ?_, fun found => before.starting (after.starting found)⟩
  obtain ⟨middle, there, second⟩ := after.session found
  obtain ⟨earlier, there, first⟩ := before.session there
  exact ⟨earlier, there, first.trans second⟩

theorem empty (registry : SessionRegistry) : registry.Retains ended .empty where
  session found := by simp [SessionRegistry.empty, get?] at found
  starting found := by simp [SessionRegistry.empty] at found

/-- A session is put in its place. -/
theorem put (found : registry.get? id = some session) (retained : session.Retained ended entry) :
    registry.Retains ended (registry.put id entry) := by
  refine ⟨fun {other later} there => ?_, fun there => there⟩
  rw [get?_put] at there
  split at there
  next here =>
    obtain rfl := Option.some.inj there
    exact ⟨session, here ▸ found, retained⟩
  next => exact ⟨later, there, .refl later⟩

theorem purge (registry : SessionRegistry) (id : SessionId) :
    registry.Retains ended (registry.purge id) := by
  refine ⟨fun {other later} there => ⟨later, ?_, .refl later⟩, fun there => ?_⟩
  · rw [get?_purge] at there
    split at there
    next here => exact here ▸ (Option.filter_eq_some_iff.mp there).1
    next => exact there
  · rw [starting_purge] at there
    exact there

theorem put_purge (found : registry.get? id = some session)
    (retained : session.Retained ended entry) :
    registry.Retains ended ((registry.put id entry).purge id) := by
  have purged : (registry.put id entry).Retains [] _ := purge _ id
  have both := (put found retained).trans purged
  rwa [List.append_nil] at both

/-- A session is changed, if there is one. -/
theorem update (registry : SessionRegistry) (id : SessionId) {change : Session → Session}
    (retained : ∀ session : Session, session.Retained ended (change session)) :
    registry.Retains ended (registry.update id change) := by
  cases found : registry.get? id with
  | some session =>
    rw [update_eq_put found]
    exact put found (retained session)
  | none =>
    have absent : registry.sessions[id]? = none := found
    have same : registry.sessions.modify id change = registry.sessions := by
      ext other : 1
      rw [Tables.getElem?_modify]
      split
      next here => rw [here, absent, Option.map_none]
      next => rfl
    exact of_sessions same fun found => found

theorem update_purge (registry : SessionRegistry) (id : SessionId) {change : Session → Session}
    (retained : ∀ session : Session, session.Retained ended (change session)) :
    registry.Retains ended ((registry.update id change).purge id) := by
  have purged : (registry.update id change).Retains [] _ := purge _ id
  have both := (update registry id retained).trans purged
  rwa [List.append_nil] at both

end Retains

/-- **No change of the registry does more.** -/
theorem Change.retains (change : registry.Change next) : registry.Retains ended next := by
  cases change with
  | startFailed txn assigned failure failed =>
    refine .of_sessions (resolveNew_failed failed) fun {other config} found => ?_
    have struck : (registry.starting.erase txn)[other]? = some config →
        registry.starting[other]? = some config := by
      intro there
      rw [Tables.getElem?_erase] at there
      split at there
      next => cases there
      next => exact there
    unfold resolveNew at found
    split at found
    next => exact found
    next =>
      dsimp only at found
      split at found
      · exact struck found
      · split at found
        · exact struck found
        · split at found
          all_goals exact struck found
  | messageEnded id txn => exact .update_purge registry id fun _ =>
    ⟨rfl, rfl, fun live => live, fun pending => pending, .inl⟩
  | stopEnded id txn =>
    exact .update_purge registry id fun _ =>
      ⟨rfl, rfl, (nomatch ·), fun pending => pending, .inl⟩
  | ended id =>
    unfold onTerminated
    split
    next => exact .refl registry
    next session found =>
      have terminated : session.Retained ended
          { session with state := .terminated, peers := ∅ } :=
        ⟨rfl, rfl, (nomatch ·), fun pending => pending, .inl⟩
      dsimp only
      split
      · exact .put_purge found terminated
      · exact .put_purge found terminated
      · exact .refl registry
  | fell => exact .empty registry

/-- **An update that fails is dropped**, as its end is reported, and the session keeps its
configuration. -/
theorem resolveUpdate_failed {txn : TransactionId} {outcome : Except Failure Unit}
    {failure : Failure} (failed : (registry.resolveUpdate id txn outcome).1 = .error failure)
    (reported : txn ∈ ended) :
    registry.Retains ended (registry.resolveUpdate id txn outcome).2 := by
  unfold resolveUpdate at failed ⊢
  cases found : registry.get? id with
  | none => exact .refl registry
  | some session =>
    simp only [found] at failed ⊢
    split
    next active =>
      cases outcome with
      | ok => simp [active] at failed
      | error => exact .put_purge found (.dropUpdate session reported)
    next => exact .put_purge found (.dropUpdate session reported)

/-- What a session learns of a peer is no concern of its configuration. -/
theorem sight_retains (registry : SessionRegistry) (id : SessionId)
    (learn : Session → PeerRecord) : registry.Retains ended (registry.sight id learn).2 := by
  rcases registry.sight_cases id learn with ⟨ignored, _⟩ | ⟨session, found, _, noted⟩
  · rw [ignored]
    exact .refl registry
  · rw [noted]
    exact .put found ⟨rfl, rfl, fun live => live, fun pending => pending, .inl⟩

end SessionRegistry

/-! ## The engine -/

namespace Engine

variable {engine next : Engine} {notices : List Notification}

/-- An event that was held back changes nothing but the paths. -/
theorem replayHeld_frame (engine : Engine) (id : DataPathId) :
    ∃ paths, (engine.replayHeld id).1 = { engine with paths := paths } := by
  refine sweep_keeps (fun next _ => ∃ paths, next = { engine with paths := paths }) ?_ _ _ [] ⟨_, rfl⟩
  rintro _ _ event ⟨paths, rfl⟩
  cases event with
  | confirmed => exact ⟨_, rfl⟩
  | terminated => exact ⟨_, rfl⟩

/-- The caller is told of a sighting as of anything else that grants nothing. -/
theorem sight_plain {notice : Notification} (plain : notice.grants = false) (engine : Engine)
    (id : SessionId) (learn : Session → PeerRecord) :
    ∀ told ∈ (engine.sight id learn notice).2, told.grants = false := by
  intro told member
  unfold sight at member
  dsimp only at member
  split at member
  · exact List.mem_singleton.mp member ▸ plain
  · cases member

theorem Change.retains (change : engine.Change notices next) :
    engine.sessions.Retains (ended notices) next.sessions := by
  cases change with
  | sessions change => exact change.retains
  | updateFailed id txn kind outcome failure failed =>
    exact SessionRegistry.resolveUpdate_failed failed (List.mem_singleton_self txn)
  | replayed id =>
    obtain ⟨paths, same⟩ := engine.replayHeld_frame id
    rw [same]
    exact .refl engine.sessions
  | aside | told | dataInterfaces | paths => exact .refl engine.sessions

/-- **No sequence of changes does more.** -/
theorem Changes.retains (changes : engine.Changes notices next) :
    engine.sessions.Retains (ended notices) next.sessions := by
  induction changes with
  | nil engine => exact .refl engine.sessions
  | cons change rest ih =>
    have both := change.retains.trans ih
    rwa [ended, ended, ← List.map_append, ← completions_append] at both

theorem Changes.capabilities (changes : engine.Changes notices next) :
    next.capabilities = engine.capabilities := by
  induction changes with
  | nil => rfl
  | @cons first second third _ _ change rest ih =>
    refine ih.trans ?_
    cases change with
    | replayed id =>
      obtain ⟨paths, same⟩ := first.replayHeld_frame id
      rw [same]
    | aside | told | sessions | updateFailed | dataInterfaces | paths => rfl

/-- The caller is not told that anything was granted. -/
theorem Changes.plain (changes : engine.Changes notices next) :
    ∀ notice ∈ notices, notice.grants = false := by
  induction changes with
  | nil => exact fun notice member => nomatch member
  | @cons first second third _ _ change rest ih =>
    intro notice member
    rcases List.mem_append.mp member with now | later
    · cases change with
      | told _ plain => exact List.mem_singleton.mp now ▸ plain
      | updateFailed =>
        obtain rfl := List.mem_singleton.mp now
        rfl
      | replayed id => exact (first.replayHeld_silent id).plain notice now
      | aside | sessions | dataInterfaces | paths => cases now
    · exact ih notice later

end Engine

/-! ## Requests -/

/-- The session that a request is to start or to update, by its number, and what it is to be about.
A start has the number zero. -/
def Request.discovery? : Request → Option (SessionId × DiscoveryConfig)
  | publish id config => some (id, .publish config)
  | subscribe id config => some (id, .subscribe config)
  | _ => none

namespace Engine

variable {engine : Engine} {dispatch : Dispatch} {txn : TransactionId}

namespace Coherent

variable {free : TransactionId} {config : DiscoveryConfig} (coherent : engine.Coherent)
  (fresh : engine.ledger.get? free = none)

include coherent fresh

/-- What is under way is under way under numbers that are on file: so no start is under way under a
number that is free. -/
theorem apart_of_starting (starting : engine.sessions.starting[txn]? = some config) :
    txn ≠ free := by
  have sessions : engine.sessions.Agrees _ := coherent.agrees .sessions
  obtain ⟨record, out, _⟩ := sessions.out_of_starting starting
  rintro rfl
  exact absurd (fresh.symm.trans (Ledger.docket_eq_some.mp out).1) (by simp)

/-- Neither is an update. -/
theorem apart_of_updating {id : SessionId} {session : Session}
    (found : engine.sessions.get? id = some session)
    (pending : session.pendingUpdate = some (txn, config)) : txn ≠ free := by
  have sessions : engine.sessions.Agrees _ := coherent.agrees .sessions
  obtain ⟨_, record, out, _⟩ := (sessions.session found).update_out pending
  rintro rfl
  exact absurd (fresh.symm.trans (Ledger.docket_eq_some.mp out).1) (by simp)

end Coherent

/-- What a request makes of the sessions. -/
inductive Staged (engine : Engine) (txn : TransactionId) (request : Request)
    (context : PendingContext) : SessionRegistry → Prop
  /-- A start is under way. -/
  | started (id : SessionId) (config : DiscoveryConfig)
    (asks : request.discovery? = some (id, config)) (unnumbered : id.raw = 0)
    (about : context = .newSession config.role)
    (room : ∀ known, engine.capabilities.snapshot = some known →
      engine.sessions.liveCount config.role < (known.maxSessions config.role).toNat) :
    Staged engine txn request context (engine.sessions.beginNew txn config)
  /-- An update is under way; none was. -/
  | updated (id : SessionId) (config : DiscoveryConfig) (session : Session)
    (asks : request.discovery? = some (id, config)) (about : context = .session id)
    (found : engine.sessions.get? id = some session) (idle : session.pendingUpdate = none) :
    Staged engine txn request context (engine.sessions.put id
      { session.attach txn with pendingUpdate := some (txn, config) })
  | other {next : SessionRegistry} (nothing : request.discovery? = none)
    (retains : engine.sessions.Retains [] next) : Staged engine txn request context next

/-- **A request enters a start or an update**, or the sessions are as they were. -/
theorem staged {request : Request} (admitted : engine.vet request = .ok dispatch)
    (ledger : Ledger) (txn : TransactionId) :
    engine.Staged txn request dispatch.context ((engine.upon ledger).stage txn request).sessions := by
  have same : ((engine.upon ledger).stage txn request).sessions =
      (engine.stage txn request).sessions := by cases request <;> rfl
  rw [same]
  have discovery {id : SessionId} {config : DiscoveryConfig}
      (asks : request.discovery? = some (id, config))
      (admitted : engine.vetDiscovery id config = .ok dispatch) :
      engine.Staged txn request dispatch.context (engine.stageDiscovery txn id config).sessions := by
    have admits := admits_of_vetDiscovery admitted
    unfold stageDiscovery
    rcases (vetDiscovery_ok admitted).2 with ⟨unassigned, about⟩ | ⟨assigned, about, _⟩
    · have unnumbered : id.raw = 0 := by simpa [SessionId.isAssigned] using unassigned
      rw [unassigned]
      exact .started id config asks unnumbered about (admits.room unnumbered)
    · obtain ⟨session, found, _, _, idle⟩ :=
        admits.update (by simpa [SessionId.isAssigned] using assigned)
      rw [assigned, if_pos rfl]
      simp only [SessionRegistry.beginUpdate, SessionRegistry.update_eq_put found]
      exact .updated id config session asks about found idle
  have stop {id : SessionId} {role : SessionRole} {command : Command}
      (admitted : engine.vetStop id role command = .ok dispatch) :
      engine.sessions.Retains [] (engine.sessions.beginStop id txn) := by
    obtain ⟨session, found, active, _⟩ := (admits_of_vetStop admitted).session
    simp only [SessionRegistry.beginStop, SessionRegistry.update_eq_put found]
    have live : session.isLive = true := by simp [Session.isLive, active]
    exact .put found ⟨rfl, rfl, fun _ => live, fun pending => pending, .inl⟩
  cases request with
  | publish id config => exact discovery rfl admitted
  | subscribe id config => exact discovery rfl admitted
  | sendMessage id peer payload =>
    exact .other rfl (.update _ id fun _ =>
      ⟨rfl, rfl, fun live => live, fun pending => pending, .inl⟩)
  | stopPublish id | stopSubscribe id => exact .other rfl (stop admitted)
  | _ => exact .other rfl (.refl _)

end Engine

end NanHost
