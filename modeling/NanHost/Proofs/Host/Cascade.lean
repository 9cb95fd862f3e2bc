import NanHost.Proofs.Host.Order
import NanHost.Proofs.Integrity

/-!
# Cascades — exactly what is told when the interface of a host goes down

The interface goes down in two ways: the firmware answers a disabling, or reports that it is down.
Either ends whatever the engine had under way about sessions and paths, in the middle of whatever
it was.

## What is proved

`run_cascades`: after any run, both ways add to the record a list of notifications that is read off
the state before, and leave a state that is read off the state before. The list has the commands in
the order in which they were accepted, and the sessions and the paths in ascending order. So nobody
is reported twice, and nothing that was under way is left out.
-/

namespace NanHost

namespace Host

variable {σ : Type}

/-- The host once its interface has gone down: those commands alone are on file that satisfy a
condition, and a list of notifications was told. -/
def fallen (host : Host σ) (stays : TransactionRecord → Bool) (told : List Notification) : Host σ :=
  { host with
    engine := host.engine.fallen stays
    effects := host.effects ++ (told.map .told).toArray }

variable [Transport σ]

/-- Whenever the interface goes down after a run, what is told and what is left is exactly this. -/
structure Cascades (start : Host σ) (acts : List (Act σ)) : Prop where
  /-- A disabling that went well is reported after all that it ended. -/
  disabled : ∀ id record payload,
    (start.run acts).engine.ledger.get? id = some record → record.kind = .disable →
      (start.run acts).handle (.commandCompleted id (.ok payload)) =
        (start.run acts).fallen (fun other => other.id ≠ id && !other.context.isSessionOrPath)
          ((start.run acts).engine.cascade .interfaceDisabled ++
            [.completed ⟨id, .disable, .ok .disabled⟩])
  /-- If the interface goes down by itself, what it awaited is reported first. -/
  grounded : ∀ status, (start.run acts).engine.interface.phase ≠ .disabled →
    (start.run acts).handle (.interfaceDown status) =
      (start.run acts).fallen
        (fun other => !other.isSuperseded && !other.context.isSessionOrPath)
        (((start.run acts).engine.ledger.records.filter (·.isSuperseded)).map (·.failed .aborted) ++
          (start.run acts).engine.cascade .interfaceDown ++ [.interfaceDown status])
  /-- That is one command at most. -/
  superseded : ((start.run acts).engine.ledger.records.filter (·.isSuperseded)).length ≤ 1
  /-- The commands are reported once each. -/
  once : ((start.run acts).engine.ledger.records.map (·.id)).Nodup
  /-- They are reported in the order in which they were accepted, as long as no sequence number has
  been given twice. A number that was accepted more than once stands for its last command. -/
  order : (start.run acts).filings < UInt64.size →
    (start.run acts).engine.ledger.callers =
      ((start.accepted acts).map (·.2)).dedup.filter (start.run acts).engine.ledger.awaitsCaller
  /-- The sessions are reported in ascending order. -/
  sessions : ((start.run acts).engine.sessions.roster (·.isActive)).Pairwise fun first second =>
    compare first.1 second.1 = .lt
  /-- The paths are reported in ascending order. -/
  paths : ((start.run acts).engine.paths.roster (·.isOpen)).Pairwise fun first second =>
    compare first second = .lt

/-- **Whenever the interface goes down, what is told and what is left is exact**, whatever was under
way. -/
theorem run_cascades (config : EngineConfig) (transport : σ) (now : Timestamp)
    (acts : List (Act σ)) : (Host.new config transport now).Cascades acts := by
  have coherent := ((Reachable.new config transport now).run acts).coherent
  have fresh : (Host.new config transport now).InOrder [] := fun _ => Ledger.inOrder_new _ _
  have inOrder := run_inOrder (Engine.Coherent.new config) fresh acts
  generalize Host.new config transport now = start at coherent inOrder
  constructor
  case disabled =>
    intro id record payload onFile disable
    have exact' := coherent.onCompleted_disable onFile disable payload
    show (start.run acts).react ((start.run acts).engine.onCompleted id (.ok payload)) = _
    rw [exact', react_eq]
    rfl
  case grounded =>
    intro status up
    have exact' := coherent.onInterfaceDown_exact up status
    show (start.run acts).react ((start.run acts).engine.onInterfaceDown status) = _
    rw [exact', react_eq]
    rfl
  case superseded => exact coherent.integrity.exclusive
  case once => exact coherent.filed.nodup_ids
  case order =>
    intro bound
    exact (inOrder bound).order
  case sessions =>
    have sessions : (start.run acts).engine.sessions.Agrees _ := coherent.agrees .sessions
    exact SessionRegistry.roster_ascending sessions (·.isActive)
  case paths =>
    have paths : (start.run acts).engine.paths.Agrees _ := coherent.agrees .paths
    exact DataPathTable.roster_ascending paths (·.isOpen)

end Host

end NanHost
