import NanHost.Proofs.Host.Reachable

/-!
# Refusals — a request that is refused has left no trace

A request is looked at, filed, handed over and staged, in this order. Whatever is wrong with it is
found before it is filed; whatever the transport has against it is heard before it is staged, and
its record is taken off again.

## What is proved

`run_submit_traceless`: in every state a host is found in, a refused request has changed nothing
but, if it was the transport that refused it, the counters from which the ledger takes the next
number and the next place. A request that is accepted has handed over one command, of its own kind
and under the number it was given. In neither case is the caller told anything.
-/

namespace NanHost

namespace Host

variable {σ : Type} (host : Host σ)

/-- What was handed over is no notification. -/
theorem notifications_push {host : Host σ} {effects : Array Effect} {effect : Effect}
    (pushed : effects = host.effects.push effect) (silent : effect.notification? = none) :
    effects.filterMap (·.notification?) = host.notifications := by
  rw [pushed, notifications, Array.filterMap_push_none silent (by simp)]

variable [Transport σ]

/-- What a request may leave behind, by the answer to it. -/
def Traceless (request : Request) : Except Rejection TransactionId × Host σ → Prop
  | (.error rejection, next) =>
    next.notifications = host.notifications ∧ next.now = host.now ∧
      (∃ nextId nextSequence, next.engine = { host.engine with
        ledger := { host.engine.ledger with nextId := nextId, nextSequence := nextSequence } }) ∧
      ((∀ kind reason, rejection ≠ .transportRejected kind reason) → next = host)
  | (.ok id, next) =>
    next.notifications = host.notifications ∧ next.now = host.now ∧
      ∃ command, command.kind = request.kind ∧
        next.effects = host.effects.push (.issued id command) ∧
        Transport.send host.transport id command = (.ok (), next.transport)

variable {host}

theorem Submission.traceless {request : Request} {outcome : Except Rejection TransactionId × Host σ}
    (fate : host.Submission request outcome) : host.Traceless request outcome := by
  cases fate with
  | unfit rejection vetted => exact ⟨rfl, rfl, ⟨_, _, rfl⟩, fun _ => rfl⟩
  | full noRoom => exact ⟨rfl, rfl, ⟨_, _, rfl⟩, fun _ => rfl⟩
  | taken dispatch transport admitted opens sent =>
    have kind := Engine.kind_of_vet admitted
    exact ⟨notifications_push rfl rfl, rfl, dispatch.command, kind, rfl, sent⟩
  | refused dispatch transport error admitted opens sent =>
    exact ⟨notifications_push rfl rfl, rfl,
      ⟨_, _, congrArg host.engine.upon (Ledger.rollback_file _ opens.fresh)⟩,
      fun other => absurd rfl (other _ _)⟩

/-- **A request that is refused has left no trace**, whatever was done to the host before and
whatever the transport answers; one that is accepted has handed over one command and told
nothing. -/
theorem run_submit_traceless (config : EngineConfig) (transport : σ) (now : Timestamp)
    (acts : List (Act σ)) (request : Request) :
    ((Host.new config transport now).run acts).Traceless request
      (((Host.new config transport now).run acts).submit request) :=
  have reachable := (Reachable.new config transport now).run acts
  (submit_submission reachable.coherent.filed request).traceless

end Host

end NanHost
