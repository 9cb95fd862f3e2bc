import NanHost.Proofs.Engine.Abidance

/-!
# Recession — a reaction takes things away, and leaves what it does not take as it was

Most of what an engine reacts to ends something: commands end, paths go down, sessions are over.
What is left after such a reaction was there before. Two facts of this kind carry invariants that
span more than one table. The first is about the interfaces that paths run over, the second about
the peers that sessions have met.

## What is proved

- `DataPathTable.Sheds`: a live path or an initiation runs over an interface only if one did before.
  No change of the paths breaks it (`DataPathTable.Change.sheds`).
- `SessionRegistry.Recalls`, for every operation but the arrival of a session and its meeting a
  peer: a session that is active was so before, and has met no other peers since.
- `Engine.Recedes`: the two together, and an interface that is ready stays so. No sequence of changes
  can break it (`Engine.Changes.recedes`), nor can a report on a path.
-/

namespace NanHost

/-! ## Paths and the interfaces that they run over -/

/-- The path is live and runs over the interface. -/
def DataPath.RunsOver (path : DataPath) (name : String) : Prop :=
  path.isLive = true ∧ path.interfaceName = some name

/-- A path that is down runs over nothing. -/
theorem DataPath.not_runsOver {path : DataPath} {name : String} (gone : path.state = .terminated) :
    ¬path.RunsOver name := by
  rintro ⟨live, _⟩
  simp [isLive, gone] at live

namespace DataPathTable

variable {table next : DataPathTable} {id : DataPathId} {path entry : DataPath} {name : String}

/-- A live path, or an initiation under way, runs over the interface. -/
def Carries (table : DataPathTable) (name : String) : Prop :=
  (∃ id path, table.get? id = some path ∧ path.RunsOver name) ∨
    ∃ (txn : TransactionId) (request : InitiateRequest), table.initiating[txn]? = some request ∧
      request.interfaceName = name

/-- That is what a deletion looks at. -/
theorem usesInterface_iff : table.usesInterface name = true ↔ table.Carries name := by
  simp only [usesInterface, Carries, Bool.or_eq_true, List.any_eq_true, Bool.and_eq_true,
    decide_eq_true_eq, Prod.exists,
    Std.ExtTreeMap.mem_toList_iff_getElem?_eq_some]
  refine or_congr ?_ Iff.rfl
  constructor
  · rintro ⟨path, member, runs⟩
    obtain ⟨id, found⟩ := mem_toList.mp member
    exact ⟨id, path, found, runs⟩
  · rintro ⟨id, path, found, runs⟩
    exact ⟨path, mem_toList.mpr ⟨id, found⟩, runs⟩

/-- Nothing runs over an interface of which nothing is there. -/
theorem not_carries_new (graceMs : UInt64) : ¬(new graceMs).Carries name := by
  rintro (⟨id, path, found, _⟩ | ⟨txn, request, found, _⟩)
  · simp [new, get?] at found
  · simp [new] at found

/-- The table carries paths over an interface only if it did so before. -/
def Sheds (table next : DataPathTable) : Prop := ∀ name, next.Carries name → table.Carries name

namespace Sheds

theorem refl (table : DataPathTable) : table.Sheds table := fun _ carries => carries

theorem trans {last : DataPathTable} (before : table.Sheds next) (after : next.Sheds last) :
    table.Sheds last := fun name carries => before name (after name carries)

/-- Paths that abide run over what they ran over, and a request that nobody has answered over
nothing. -/
theorem of_abides (abides : table.Abides next) : table.Sheds next := by
  rintro name (⟨id, path, found, live, runs⟩ | ⟨txn, request, underWay, same⟩)
  · rcases abides.path found with ⟨earlier, there, abides⟩ | unanswered
    · exact .inl ⟨id, earlier, there, abides.live live, abides.interfaceName ▸ runs⟩
    · rw [unanswered.interfaceName] at runs
      cases runs
  · exact .inr ⟨txn, request, abides.initiating underWay, same⟩

/-- A path that was asked for from here runs over what the initiation was to run over. -/
theorem resolveInitiate (table : DataPathTable) (txn : TransactionId)
    (assigned : Except Failure DataPathId) :
    table.Sheds (table.resolveInitiate txn assigned).2 := by
  cases found : table.initiating[txn]? with
  | none =>
    unfold DataPathTable.resolveInitiate
    rw [found]
    exact refl table
  | some request =>
    have struck : table.Sheds { table with initiating := table.initiating.erase txn } := by
      rintro name (runs | ⟨other, underWay, there, same⟩)
      · exact .inl runs
      · rw [Tables.getElem?_erase] at there
        split at there
        next => cases there
        next => exact .inr ⟨other, underWay, there, same⟩
    rw [resolveInitiate_of_found found]
    dsimp only
    rw [closing_eq]
    refine trans ?_ (of_abides (.reheld _ _))
    rcases enterInitiated_cases { table with initiating := table.initiating.erase txn } request
      assigned with ⟨_, entered⟩ | ⟨id, _, _, entered⟩
    · rw [entered]
      exact struck
    · rw [entered]
      rintro name (⟨other, path, there, runs⟩ | underWay)
      · rw [get?_put] at there
        split at there
        next =>
          obtain rfl := Option.some.inj there
          exact .inr ⟨txn, request, found, Option.some.inj runs.2⟩
        next => exact .inl ⟨other, path, there, runs⟩
      · exact struck name (.inr underWay)

end Sheds

/-- **No change of the paths has more run over an interface.** -/
theorem Change.sheds (change : table.Change next) : table.Sheds next := by
  rcases change.abides_or with abides | ⟨txn, assigned, rfl⟩
  · exact .of_abides abides
  · exact .resolveInitiate table txn assigned

end DataPathTable

/-! ## Sessions and the peers that they have met -/

namespace SessionRegistry

variable {registry next : SessionRegistry} {id : SessionId} {session entry : Session}

/-- A session that is active was so before, and has met no other peers since. -/
def Recalls (registry next : SessionRegistry) : Prop :=
  ∀ id session, next.get? id = some session → session.state = .active →
    ∃ earlier, registry.get? id = some earlier ∧ earlier.state = .active ∧
      earlier.peers = session.peers

namespace Recalls

theorem of_sessions (same : next.sessions = registry.sessions) : registry.Recalls next := by
  intro id session found active
  refine ⟨session, ?_, active, rfl⟩
  rw [get?, ← same]
  exact found

theorem refl (registry : SessionRegistry) : registry.Recalls registry := of_sessions rfl

theorem trans {last : SessionRegistry} (before : registry.Recalls next)
    (after : next.Recalls last) :
    registry.Recalls last := by
  intro id session found active
  obtain ⟨middle, there, active, peers⟩ := after id session found active
  obtain ⟨earlier, there, active, peers'⟩ := before id middle there active
  exact ⟨earlier, there, active, peers'.trans peers⟩

theorem empty (registry : SessionRegistry) : registry.Recalls .empty := by
  intro id session found
  simp [SessionRegistry.empty, get?] at found

theorem put (found : registry.get? id = some session)
    (recalls : entry.state = .active → session.state = .active ∧ session.peers = entry.peers) :
    registry.Recalls (registry.put id entry) := by
  intro other next there active
  rw [get?_put] at there
  split at there
  next here =>
    obtain rfl := Option.some.inj there
    exact ⟨session, here ▸ found, recalls active⟩
  next => exact ⟨next, there, active, rfl⟩

theorem purge (registry : SessionRegistry) (id : SessionId) :
    registry.Recalls (registry.purge id) := by
  intro other session found active
  refine ⟨session, ?_, active, rfl⟩
  rw [get?_purge] at found
  split at found
  next here => exact here ▸ (Option.filter_eq_some_iff.mp found).1
  next => exact found

theorem put_purge (found : registry.get? id = some session)
    (recalls : entry.state = .active → session.state = .active ∧ session.peers = entry.peers) :
    registry.Recalls ((registry.put id entry).purge id) := (put found recalls).trans (purge _ id)

theorem update (registry : SessionRegistry) (id : SessionId) (change : Session → Session)
    (recalls : ∀ session, (change session).state = .active →
      session.state = .active ∧ session.peers = (change session).peers) :
    registry.Recalls (registry.update id change) := by
  cases found : registry.get? id with
  | none =>
    intro other session there active
    have there : (registry.sessions.modify id change)[other]? = some session := there
    have found : registry.sessions[id]? = none := found
    rw [Tables.getElem?_modify, found] at there
    split at there
    next => cases there
    next => exact ⟨session, there, active, rfl⟩
  | some session =>
    rw [update_eq_put found]
    exact put found (recalls session)

theorem attach (registry : SessionRegistry) (id : SessionId) (txn : TransactionId) :
    registry.Recalls (registry.attach id txn) := update registry id _ fun _ active => ⟨active, rfl⟩

theorem beginUpdate (registry : SessionRegistry) (id : SessionId) (txn : TransactionId)
    (config : DiscoveryConfig) : registry.Recalls (registry.beginUpdate id txn config) :=
  update registry id _ fun _ active => ⟨active, rfl⟩

theorem beginStop (registry : SessionRegistry) (id : SessionId) (txn : TransactionId) :
    registry.Recalls (registry.beginStop id txn) :=
  update registry id _ fun _ active => by cases active

theorem detach (registry : SessionRegistry) (id : SessionId) (txn : TransactionId) :
    registry.Recalls (registry.detach id txn).2 :=
  (update registry id (·.detach txn) fun _ active => ⟨active, rfl⟩).trans (purge _ id)

theorem resolveStop (registry : SessionRegistry) (id : SessionId) (txn : TransactionId) :
    registry.Recalls (registry.resolveStop id txn).2 :=
  (update registry id (fun entry => { entry.detach txn with state := .terminated })
    fun _ active => by cases active).trans (purge _ id)

theorem resolveUpdate (registry : SessionRegistry) (id : SessionId) (txn : TransactionId)
    (outcome : Except Failure Unit) :
    registry.Recalls (registry.resolveUpdate id txn outcome).2 := by
  have dropped (session : Session) : (session.dropUpdate txn).state = session.state ∧
      (session.dropUpdate txn).peers = session.peers := by
    rw [Session.dropUpdate_eq]
    exact ⟨rfl, rfl⟩
  have settled {session : Session}
      (active : ((session.detach txn).dropUpdate txn).state = .active) :
      session.state = .active ∧ session.peers = ((session.detach txn).dropUpdate txn).peers := by
    rw [(dropped _).1] at active
    rw [(dropped _).2]
    exact ⟨active, rfl⟩
  unfold SessionRegistry.resolveUpdate
  split
  next => exact refl registry
  next session found =>
    dsimp only
    split
    · split
      · exact put_purge found fun active => settled active
      · exact put_purge found settled
    · exact put_purge found settled

theorem onTerminated (registry : SessionRegistry) (id : SessionId) :
    registry.Recalls (registry.onTerminated id).2 := by
  unfold SessionRegistry.onTerminated
  split
  next => exact refl registry
  next session found =>
    dsimp only
    split
    · exact put_purge found fun active => by cases active
    · exact put_purge found fun active => by cases active
    · exact refl registry

end Recalls

/-- **No change of the registry has a session meet a peer.** -/
theorem Change.recalls (change : registry.Change next) : registry.Recalls next := by
  cases change with
  | startFailed txn assigned failure failed => exact .of_sessions (resolveNew_failed failed)
  | messageEnded id txn => exact .detach registry id txn
  | stopEnded id txn => exact .resolveStop registry id txn
  | ended id => exact .onTerminated registry id
  | fell => exact .empty registry

end SessionRegistry

/-! ## Data interfaces -/

namespace DataInterfaceTable

variable {table next : DataInterfaceTable} {name : String}

/-- The end of a creation leaves every interface that is ready as it is. -/
theorem ready_resolveCreate (ready : table.state? name = some .ready) (other : String)
    (success : Bool) : (table.resolveCreate other success).state? name = some .ready := by
  unfold resolveCreate
  split
  next txn creating =>
    have differs : name ≠ other := fun same => by simp [← same, ready] at creating
    split
    · rw [Agrees.state?_insert, if_neg differs]
      exact ready
    · rw [Agrees.state?_erase, if_neg differs]
      exact ready
  next => exact ready

/-- So does the end of a deletion. -/
theorem ready_resolveDelete (ready : table.state? name = some .ready) (other : String)
    (success : Bool) : (table.resolveDelete other success).state? name = some .ready := by
  unfold resolveDelete
  split
  next txn deleting =>
    have differs : name ≠ other := fun same => by simp [← same, ready] at deleting
    split
    · rw [Agrees.state?_erase, if_neg differs]
      exact ready
    · rw [Agrees.state?_insert, if_neg differs]
      exact ready
  next => exact ready

/-- **No change of the data interfaces takes away one that is ready.** -/
theorem Change.ready (change : table.Change next) (ready : table.state? name = some .ready) :
    next.state? name = some .ready := by
  cases change with
  | creationEnded other success => exact ready_resolveCreate ready other success
  | deletionEnded other success => exact ready_resolveDelete ready other success

end DataInterfaceTable

namespace Engine

variable {engine next : Engine} {notices : List Notification}

/-- Things have been taken away at most: what paths run over, the interfaces that are ready and the
peers that active sessions have met were so before. -/
structure Recedes (before after : Engine) : Prop where
  paths : before.paths.Sheds after.paths
  ready : ∀ name, before.dataInterfaces.state? name = some .ready →
    after.dataInterfaces.state? name = some .ready
  sessions : before.sessions.Recalls after.sessions

namespace Recedes

theorem trans {first second third : Engine} (before : first.Recedes second)
    (after : second.Recedes third) : first.Recedes third where
  paths := before.paths.trans after.paths
  ready _ held := after.ready _ (before.ready _ held)
  sessions := before.sessions.trans after.sessions

/-- The ledger, the capabilities and the interface of the radio play no part. -/
theorem of_tables {before after : Engine} (paths : after.paths = before.paths)
    (dataInterfaces : after.dataInterfaces = before.dataInterfaces)
    (sessions : after.sessions = before.sessions) : before.Recedes after where
  paths := paths ▸ .refl _
  ready _ held := dataInterfaces ▸ held
  sessions := sessions ▸ .refl _

theorem refl (engine : Engine) : engine.Recedes engine := of_tables rfl rfl rfl

/-- Only paths have changed. -/
theorem of_paths {paths : DataPathTable} (sheds : engine.paths.Sheds paths) :
    engine.Recedes { engine with paths := paths } := ⟨sheds, fun _ ready => ready, .refl _⟩

/-- Only sessions have changed. -/
theorem of_sessions {sessions : SessionRegistry} (recalls : engine.sessions.Recalls sessions) :
    engine.Recedes { engine with sessions := sessions } := ⟨.refl _, fun _ ready => ready, recalls⟩

/-- Only data interfaces have changed. -/
theorem of_dataInterfaces {table : DataInterfaceTable}
    (ready : ∀ name, engine.dataInterfaces.state? name = some .ready →
      table.state? name = some .ready) :
    engine.Recedes { engine with dataInterfaces := table } := ⟨.refl _, ready, .refl _⟩

end Recedes

/-! ## Changes -/

theorem replay_recedes (engine : Engine) (path : DataPathId) (event : HeldEvent) :
    engine.Recedes (engine.replay path event).1 := by
  have abides := engine.replay_abides path event
  cases event with
  | confirmed => exact .of_paths (.of_abides abides)
  | terminated => exact .of_paths (.of_abides abides)

theorem replayHeld_recedes (engine : Engine) (path : DataPathId) :
    engine.Recedes (engine.replayHeld path).1 :=
  sweep_keeps (fun next _ => engine.Recedes next)
    (fun event before => before.trans (replay_recedes _ path event)) _ _ []
    (.of_paths (.of_abides (.reheld _ _)))

theorem Change.recedes (change : engine.Change notices next) : engine.Recedes next := by
  cases change with
  | aside => exact .of_tables rfl rfl rfl
  | told => exact .refl engine
  | sessions change => exact .of_sessions change.recalls
  | updateFailed id txn kind outcome => exact .of_sessions (.resolveUpdate _ id txn outcome)
  | dataInterfaces change => exact .of_dataInterfaces fun _ ready => change.ready ready
  | paths change => exact .of_paths change.sheds
  | replayed id => exact engine.replayHeld_recedes id

/-- **What an engine does when the firmware grants it nothing takes things away at most.** -/
theorem Changes.recedes (changes : engine.Changes notices next) : engine.Recedes next := by
  induction changes with
  | nil engine => exact .refl engine
  | cons change rest ih => exact change.recedes.trans ih

end Engine

end NanHost
