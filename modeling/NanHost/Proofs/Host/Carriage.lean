import NanHost.Proofs.Engine.Admissible
import NanHost.Proofs.Host.Progress

/-!
# Carriage — no data interface is taken from under a path

A deletion looks at the paths, and a path that is to be set up looks at its interface. Each looks
once, when it is asked for, and all that follows takes its time: the interface is created and
deleted by commands that may fail, and paths come and go.

## What is proved

`run_carriage`: in every state the interface that a live path or an initiation runs over is ready,
so no command about that interface is out, and none can be deleted from under them.

What happens to an engine that is *founded* takes paths away at most, and leaves the interfaces that
are ready (`Engine.Recedes`). What a request enters, it has looked at (`Founded.stage`).
-/

namespace NanHost

namespace DataPathTable

variable {table : DataPathTable} {name : String} {txn : TransactionId}

/-- After an initiation was entered there is one path more on its way, over its interface. -/
theorem carries_beginInitiate {request : InitiateRequest}
    (carries : (table.beginInitiate txn request).Carries name) :
    table.Carries name ∨ name = request.interfaceName := by
  rcases carries with live | ⟨other, entered, found, runs⟩
  · exact .inl (.inl live)
  · have found : (table.initiating.insert txn request)[other]? = some entered := found
    rw [Tables.getElem?_insert] at found
    split at found
    next =>
      obtain rfl := Option.some.inj found
      exact .inr runs.symm
    next => exact .inl (.inr ⟨other, entered, found, runs⟩)

/-- After an answer was entered the path that it is about runs over the interface that it names, if
it accepts the peer, and over none otherwise. -/
theorem carries_beginRespond {request : RespondRequest} {path : DataPath}
    (found : table.get? request.pathId = some path)
    (carries : (table.beginRespond txn request).Carries name) :
    table.Carries name ∨ request.accept = true ∧ name = request.interfaceName := by
  have begun : table.beginRespond txn request =
      table.put request.pathId ((path.attach txn).answered request) := update_eq_put found _
  rw [begun] at carries
  rcases carries with ⟨id, entry, there, runs⟩ | underWay
  · rw [get?_put] at there
    split at there
    next =>
      obtain rfl := Option.some.inj there
      unfold DataPath.answered at runs
      split at runs
      next accepts => exact .inr ⟨accepts, (Option.some.inj runs.2).symm⟩
      next => exact absurd runs (DataPath.not_runsOver rfl)
    next => exact .inl (.inl ⟨id, entry, there, runs⟩)
  · exact .inl (.inr underWay)

end DataPathTable

namespace Engine

variable {engine next : Engine} {dispatch : Dispatch}

/-- Every interface that a live path or an initiation runs over is ready. -/
def Founded (engine : Engine) : Prop :=
  ∀ name, engine.paths.Carries name → engine.dataInterfaces.state? name = some .ready

namespace Founded

theorem new (config : EngineConfig) : (Engine.new config).Founded :=
  fun _ carries => absurd carries (DataPathTable.not_carries_new _)

/-- Nothing has been added to what paths run over, and the interfaces are as they were. -/
theorem steady (founded : engine.Founded) (sheds : engine.paths.Sheds next.paths)
    (same : next.dataInterfaces = engine.dataInterfaces) : next.Founded :=
  fun name carries => same ▸ founded name (sheds name carries)

/-- Things have been taken away at most. -/
theorem recedes (founded : engine.Founded) (recedes : engine.Recedes next) : next.Founded :=
  fun name carries => recedes.ready name (founded name (recedes.paths name carries))

/-! ## Requests -/

/-- **What a request enters, it has looked at**: an interface that is new carries nothing yet, one
that is to be deleted carries nothing any more, and one that is to carry a path is ready. -/
theorem stage (founded : engine.Founded) {request : Request}
    (admitted : engine.vet request = .ok dispatch) (txn : TransactionId) (ledger : Ledger) :
    ((engine.upon ledger).stage txn request).Founded := by
  cases request with
  | createInterface name =>
    intro other carries
    have ready := founded other carries
    have differs : other ≠ name := fun same => by
      rw [same, (admits_of_vetCreate admitted).free] at ready
      cases ready
    show DataInterfaceTable.state? ⟨engine.dataInterfaces.interfaces.insert name _⟩ other = _
    rw [DataInterfaceTable.Agrees.state?_insert, if_neg differs]
    exact ready
  | deleteInterface name =>
    intro other carries
    have admits := admits_of_vetDelete admitted
    have differs : other ≠ name := fun same => admits.unused (same ▸ carries)
    show (engine.dataInterfaces.beginDelete name txn).state? other = _
    rw [DataInterfaceTable.Agrees.state?_beginDelete admits.ready, if_neg differs]
    exact founded other carries
  | initiateDataPath request =>
    intro name carries
    rcases DataPathTable.carries_beginInitiate carries with before | rfl
    · exact founded name before
    · exact (admits_of_vetInitiate admitted).setUp.ready
  | respondDataPath request =>
    intro name carries
    have admits := admits_of_vetRespond admitted
    obtain ⟨path, found, _⟩ := admits.waits
    rcases DataPathTable.carries_beginRespond found carries with before | ⟨accepts, rfl⟩
    · exact founded name before
    · exact (admits.setUp accepts).ready
  | endDataPath id => exact founded.steady (.of_abides (.beginEnd _ id txn)) rfl
  | _ => exact founded.steady (.refl _) rfl

end Founded

end Engine

namespace Host

variable {σ : Type} [Transport σ] {host : Host σ}

/-- **Every interface that a path runs over is ready**, in every state a host is found in. -/
theorem Reachable.founded (reachable : Reachable host) : host.engine.Founded := by
  induction reachable with
  | new config transport now => exact Engine.Founded.new config
  | @step host act before ih =>
    have progress := before.progress act
    generalize host.told [act] = notices, (host.step act).engine = next at progress
    cases progress with
    | taken request dispatch record admitted opens accepted => exact ih.stage admitted _ _
    | granted txn outcome reaction granted =>
      -- Nothing that is granted concerns paths or interfaces.
      cases granted with
      | surveyed | started | updated => exact ih.steady (.refl _) rfl
    | sighted => exact ih.steady (.refl _) rfl
    | reported event id report about => exact ih.recedes (host.engine.replay_recedes id report)
    | changed act nobody changes => exact ih.recedes changes.recedes

/-! ## Runs -/

/-- No data interface is taken from under a path. -/
structure Carriage (start : Host σ) : Prop where
  /-- The interface that a live path runs over is ready. -/
  path : ∀ acts id path name, (start.run acts).engine.paths.get? id = some path →
    path.isLive = true → path.interfaceName = some name →
      (start.run acts).engine.dataInterfaces.state? name = some .ready
  /-- So is the one that an initiation names. -/
  initiation : ∀ acts (txn : TransactionId) (request : InitiateRequest),
    (start.run acts).engine.paths.initiating[txn]? = some request →
      (start.run acts).engine.dataInterfaces.state? request.interfaceName = some .ready
  /-- As long as there is such a path or such an initiation no command about the interface is on
  file: neither a deletion nor anything else. -/
  idle : ∀ acts name,
    ((∃ id path, (start.run acts).engine.paths.get? id = some path ∧ path.isLive = true ∧
        path.interfaceName = some name) ∨
      ∃ (txn : TransactionId) (request : InitiateRequest),
        (start.run acts).engine.paths.initiating[txn]? = some request ∧
          request.interfaceName = name) →
    ∀ txn record, (start.run acts).engine.ledger.get? txn = some record →
      record.context ≠ .dataInterface name

/-- **No data interface is taken from under a path**, in any run. -/
theorem run_carriage (config : EngineConfig) (transport : σ) (now : Timestamp) :
    (Host.new config transport now).Carriage := by
  have reachable := Reachable.new config transport now
  generalize Host.new config transport now = start at reachable
  have founded (acts : List (Act σ)) := (reachable.run acts).founded
  constructor
  case path =>
    intro acts id path name found live runs
    exact founded acts name (.inl ⟨id, path, found, live, runs⟩)
  case initiation =>
    intro acts txn request underWay
    exact founded acts request.interfaceName (.inr ⟨txn, request, underWay, rfl⟩)
  case idle =>
    intro acts name carries txn record onFile about
    have ready := founded acts name carries
    have dataInterfaces : (start.run acts).engine.dataInterfaces.Agrees _ :=
      (reachable.run acts).coherent.agrees .dataInterfaces
    obtain ⟨state, found, awaited⟩ := dataInterfaces.state?_of_out
      (Ledger.docket_eq_some.mpr ⟨onFile, by rw [about]; rfl⟩) about
    obtain rfl := Option.some.inj (ready.symm.trans found)
    cases awaited

end Host

end NanHost
