import NanHost.Proofs.Engine.Entities
import NanHost.Proofs.Host.Progress

/-!
# Interleavings — reports of different entities may come in either order

The firmware reports on sessions, data interfaces and data paths side by side, and answers the
commands about them in between. No order is promised among them, and none is needed: as long as
neither report is about what the other is about, the engine comes out the same, and what is told of
each of them is the same.

## What is proved

`run_interleavings`, in any run. The reports are those with an entity (`FirmwareEvent.entity?`), the
answers to commands about an entity that is there among them, whatever the outcome.
-/

namespace NanHost

namespace Host

variable {σ : Type} [Transport σ] {host : Host σ}

/-! ## Reports one after the other -/

omit [Transport σ] in
/-- A report takes no time. -/
theorem now_handle (host : Host σ) (event : FirmwareEvent) :
    (host.handle event).now = host.now :=
  congrArg (·.now) (react_eq host _)

theorem told_handle (host : Host σ) (event : FirmwareEvent) :
    host.told [.handle event] = (host.engine.handle host.now event).2 :=
  told_react rfl

theorem engine_handle_handle (host : Host σ) (first second : FirmwareEvent) :
    (host.run [.handle first, .handle second]).engine =
      ((host.engine.handle host.now first).1.handle host.now second).1 := by
  show ((host.handle first).handle second).engine = _
  rw [engine_handle, now_handle, engine_handle]

theorem told_run_handle (host : Host σ) (first second : FirmwareEvent) :
    (host.run [.handle first]).told [.handle second] =
      ((host.engine.handle host.now first).1.handle host.now second).2 := by
  show (host.handle first).told [.handle second] = _
  rw [told_handle, now_handle, engine_handle]

/-! ## Runs -/

/-- Reports of different entities may change places. -/
structure Interleavings (start : Host σ) : Prop where
  /-- The engine comes out the same, at the same time. -/
  engine : ∀ acts first second entity entity',
    first.entity? (start.run acts).engine.ledger = some entity →
      second.entity? (start.run acts).engine.ledger = some entity' → entity ≠ entity' →
        (start.run (acts ++ [.handle first, .handle second])).engine =
          (start.run (acts ++ [.handle second, .handle first])).engine
  /-- What is told of a report is what is told of it if the other one comes first. -/
  told : ∀ acts first second entity entity',
    first.entity? (start.run acts).engine.ledger = some entity →
      second.entity? (start.run acts).engine.ledger = some entity' → entity ≠ entity' →
        (start.run (acts ++ [.handle first])).told [.handle second] =
          (start.run acts).told [.handle second]

/-- **Reports of different entities may come in either order**, in any run. -/
theorem run_interleavings (config : EngineConfig) (transport : σ) (now : Timestamp) :
    (Host.new config transport now).Interleavings := by
  have reachable := Reachable.new config transport now
  generalize Host.new config transport now = start at reachable
  constructor
  case engine =>
    intro acts first second entity entity' about about' apart
    rw [run_append, run_append, engine_handle_handle, engine_handle_handle]
    exact ((reachable.run acts).coherent.handle_comm about about' apart _).1
  case told =>
    intro acts first second entity entity' about about' apart
    rw [run_append, told_run_handle, told_handle]
    exact ((reachable.run acts).coherent.handle_comm about about' apart _).2

end Host

end NanHost
