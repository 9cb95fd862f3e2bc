import NanHost.Proofs.Host.Deadlines

/-!
# Emissions — what comes out of each kind of step

What comes out of a step is told to the caller or handed to the firmware, and each kind of step has
its own: a request hands over its command at most, and looking after the peers tells each of them
that waited too long, and refuses it. All other steps are reactions, which only tell.

## What is proved

- `emitted_submit`: a request that is accepted hands over its command, and one that is not hands over
  at most a command that is refused.
- `emitted_expireResponses`: looking after the peers tells and hands over nothing else.
- `Reachable.emitted_tick`: a tick is the two things that it does, one after the other.
-/

namespace NanHost

/-! ## Looking after the peers -/

/-- What comes out when peers that waited too long are refused: the caller is told of the lapse, or a
refusal is handed over, or it does not reach the firmware. -/
inductive Effect.TurnsAway : Effect → Prop
  | told (path : DataPathId) : TurnsAway (.lapsed path)
  | issued (txn : TransactionId) (path : DataPathId) (known : Option Capabilities) :
    TurnsAway (.issued txn (.respondDataPath (.refusal path) known))
  | refused (txn : TransactionId) (path : DataPathId) (known : Option Capabilities)
    (error : TransportError) :
    TurnsAway (.refused txn (.respondDataPath (.refusal path) known) error)

namespace Host

variable {σ : Type} [Transport σ] {host : Host σ}

/-- The refusal of a peer. -/
theorem Refusal.turnsAway {path : DataPathId} {next : Host σ} (fate : host.Refusal path next) :
    ∃ effects, next.effects.toList = host.effects.toList ++ effects ∧
      ∀ effect ∈ effects, effect.TurnsAway := by
  have told : (host.effectsTold path).toList = host.effects.toList ++ [.lapsed path] :=
    Array.toList_push ..
  cases fate with
  | full noRoom =>
    refine ⟨_, told, fun effect member => ?_⟩
    obtain rfl := List.mem_singleton.mp member
    exact .told path
  | taken transport opens sent =>
    refine ⟨[.lapsed path, .issued (host.recordFor (host.refusal path) .engine).id
      (host.refusal path).command], ?_, ?_⟩
    · rw [Array.toList_push, told, List.append_assoc]
      rfl
    · exact List.forall_mem_cons.mpr ⟨.told path, List.forall_mem_singleton.mpr (.issued _ path _)⟩
  | refused transport error opens sent =>
    refine ⟨[.lapsed path, .refused (host.recordFor (host.refusal path) .engine).id
      (host.refusal path).command error], ?_, ?_⟩
    · rw [Array.toList_push, told, List.append_assoc]
      rfl
    · exact List.forall_mem_cons.mpr
        ⟨.told path, List.forall_mem_singleton.mpr (.refused _ path _ error)⟩

/-- **Looking after the peers tells of lapses and hands over refusals**, and does nothing else. -/
theorem emitted_expireResponses (coherent : host.engine.Coherent) :
    ∀ effect ∈ host.emitted [.expireResponses], effect.TurnsAway := by
  have looked := expireResponses_keeps
    (fun next => ∃ effects, next.effects.toList = host.effects.toList ++ effects ∧
      ∀ effect ∈ effects, effect.TurnsAway)
    coherent ⟨[], (List.append_nil _).symm, fun _ => nofun⟩ ?_
  · obtain ⟨effects, out, turnsAway⟩ := looked.2
    have emitted : host.emitted [.expireResponses] = effects := emitted_of_out out
    rw [emitted]
    exact turnsAway
  · rintro next path coherent ⟨effects, out, turnsAway⟩
    obtain ⟨more, out', turnsAway'⟩ := (refuseOverdue_refusal coherent.filed path).turnsAway
    refine ⟨effects ++ more, by rw [out', out, List.append_assoc], fun effect member => ?_⟩
    rcases List.mem_append.mp member with before | now
    · exact turnsAway effect before
    · exact turnsAway' effect now

/-- A tick gives up the commands whose time is over, and looks after the peers then. -/
theorem Reachable.emitted_tick (reachable : Reachable host) :
    host.emitted [.tick] =
      host.emitted [.expireTransactions] ++
        (host.step .expireTransactions).emitted [.expireResponses] :=
  reachable.emitted_append [.expireTransactions] [.expireResponses]

/-! ## Requests -/

/-- What comes out of a request, given its answer. -/
inductive Offered (request : Request) : Except Rejection TransactionId → List Effect → Prop
  | unheard (rejection : Rejection) : Offered request (.error rejection) []
  | refused (rejection : Rejection) (txn : TransactionId) (command : Command)
    (error : TransportError) :
    Offered request (.error rejection) [.refused txn command error]
  | issued (txn : TransactionId) (command : Command) (kind : command.kind = request.kind) :
    Offered request (.ok txn) [.issued txn command]

/-- **A request that is accepted hands its command over**, and tells nothing. -/
theorem emitted_submit (filed : host.engine.ledger.WellFiled) (request : Request) :
    Offered request (host.submit request).1 (host.emitted [.submit request]) := by
  have fate := submit_submission filed request
  have emitted {effects : List Effect}
      (out : (host.submit request).2.effects.toList = host.effects.toList ++ effects) :
      host.emitted [.submit request] = effects := emitted_of_out out
  generalize host.submit request = outcome at fate emitted
  cases fate with
  | unfit | full =>
    rw [emitted (List.append_nil _).symm]
    exact .unheard _
  | taken dispatch transport admitted opens sent =>
    rw [emitted (Array.toList_push ..)]
    exact .issued _ _ (Engine.kind_of_vet admitted)
  | refused dispatch transport error admitted opens sent =>
    rw [emitted (Array.toList_push ..)]
    exact .refused _ _ _ error

/-- A request tells the caller nothing. -/
theorem told_submit (filed : host.engine.ledger.WellFiled) (request : Request) :
    (host.emitted [.submit request]).filterMap (·.notification?) = [] := by
  have offered := emitted_submit filed request
  generalize (host.submit request).1 = answer, host.emitted [.submit request] = effects at offered
  cases offered <;> rfl

end Host

end NanHost
