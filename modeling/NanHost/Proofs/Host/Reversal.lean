import NanHost.Proofs.Engine.Reversal
import NanHost.Proofs.Host.Leftovers
import NanHost.Proofs.Host.Progress

/-!
# Reversal — a caller whose request failed can go on from where it was

A request that is accepted takes hold of something: of the stage of the interface, of a session, of a
name. If its command fails, the caller must find everything as it left it, for it may want to ask
again, and other callers must not see that it was ever asked.

## What is proved

`run_reverses`, for the state after any run. A request that fails next is undone, and the caller hears
of the failure and of nothing else; all that is left are the counters of the ledger, which have moved
on. And what a stop or an end makes of the engine does not depend on how it ends.
-/

namespace NanHost

namespace Host

variable {σ : Type} [Transport σ]

/-- **What the end of a command leaves of it.** -/
structure Reverses (host : Host σ) : Prop where
  /-- A request that fails next is undone, and its failure is told. -/
  undone : ∀ request id next, host.submit request = (.ok id, next) →
    ∀ answer failure, request.Fails host.engine answer failure →
      next.emitted [.handle (.commandCompleted id answer)] =
          [.told (.completed ⟨id, request.kind, .error failure⟩)] ∧
        ∃ nextId nextSequence, (next.handle (.commandCompleted id answer)).engine =
          { host.engine with
            ledger := { host.engine.ledger with nextId := nextId, nextSequence := nextSequence } }
  /-- A stop or an end is carried through. -/
  carriedThrough : ∀ id record, host.engine.ledger.get? id = some record →
    record.kind.isEnding = true → ∀ answer other,
      (host.handle (.commandCompleted id answer)).engine =
        (host.handle (.commandCompleted id other)).engine

/-- **A request that failed is undone, and an end is carried through**, whatever was done to the host
before and however the transport answered. -/
theorem run_reverses (config : EngineConfig) (transport : σ) (now : Timestamp)
    (acts : List (Act σ)) : ((Host.new config transport now).run acts).Reverses := by
  have reachable := (Reachable.new config transport now).run acts
  generalize (Host.new config transport now).run acts = host at reachable
  have coherent := reachable.coherent
  constructor
  case undone =>
    intro request id next accepted answer failure fails
    have fate := submit_submission coherent.filed request
    rw [accepted] at fate
    cases fate with
    | taken dispatch transport admitted opens sent =>
      have kind := opens.kind.trans (Engine.kind_of_vet admitted)
      have ended := coherent.onCompleted_stage reachable.tidy admitted opens fails
      constructor
      · refine (emitted_react rfl).trans ?_
        show ((Engine.onCompleted _ _ answer).2).map Effect.told = _
        rw [ended, ← kind]
        rfl
      · refine ⟨(host.recordFor dispatch .caller).id.raw + 1,
          host.engine.ledger.nextSequence + 1, ?_⟩
        rw [engine_handle]
        show (Engine.onCompleted _ _ answer).1 = _
        rw [ended]
        exact congrArg host.engine.upon (Ledger.rollback_file _ opens.fresh)
  case carriedThrough =>
    intro id record onFile ending answer other
    rw [engine_handle, engine_handle]
    exact coherent.onCompleted_carriedThrough onFile ending answer other

end Host

end NanHost
