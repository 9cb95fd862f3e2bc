import NanHost.Proofs.Engine.Remainder
import NanHost.Proofs.Host.Account
import NanHost.Proofs.Ledger.Order

/-!
# Order in a run — commands on file are in the order in which they were accepted

The ledger's own account of the past is a counter. The past itself is what the callers were answered
(`accepted`) and what went to the transport (`filings`). In every run they agree, until the counter
has been through all its values.

## What is proved

`run_inOrder`, from one lemma for each kind of step: a reaction lets commands leave, a request files
one in front of the caller's eyes, and the refusal of a peer files one behind the caller's back.
-/

namespace NanHost

namespace Host

variable {σ : Type} {host after : Host σ} {accepted : List (Request × TransactionId)}

/-- How many commands have been filed, be it that the transport took them or not. -/
def filings (host : Host σ) : Nat := host.effects.toList.countP (·.notification?.isNone)

/-- As long as there were places for all the commands that were filed, those of callers that are on
file are so in the order in which they were accepted. -/
def InOrder (host : Host σ) (accepted : List (Request × TransactionId)) : Prop :=
  host.filings < UInt64.size → host.engine.ledger.InOrder host.filings (accepted.map (·.2))

theorem filings_push {effect : Effect} (pushed : after.effects = host.effects.push effect)
    (filing : effect.notification? = none) : after.filings = host.filings + 1 := by
  unfold filings
  rw [pushed, Array.toList_push, List.countP_append, List.countP_singleton, filing]
  rfl

theorem filings_react (host : Host σ) (reaction : Reaction) :
    (host.react reaction).filings = host.filings := by
  unfold filings
  rw [effects_react, List.countP_append]
  simp [List.countP_map, Effect.notification?]

/-! ## Steps -/

theorem InOrder.append_nil (inOrder : host.InOrder accepted) : host.InOrder (accepted ++ []) := by
  rw [List.append_nil]
  exact inOrder

/-- What was told is no filing. -/
theorem InOrder.tell (inOrder : host.InOrder accepted) (notification : Notification) :
    (host.tell notification).InOrder accepted := by
  have same : (host.tell notification).filings = host.filings :=
    filings_react host (host.engine, [notification])
  intro bound
  rw [same] at bound ⊢
  exact inOrder bound

/-- **A reaction** lets commands leave. -/
theorem InOrder.react (inOrder : host.InOrder accepted) (filed : host.engine.ledger.WellFiled)
    {reaction : Reaction}
    (keeps : ∃ condition, reaction.1.ledger = host.engine.ledger.keep condition) :
    (host.react reaction).InOrder accepted := by
  obtain ⟨condition, keeps⟩ := keeps
  intro bound
  rw [filings_react] at bound ⊢
  rw [engine_react, keeps]
  exact (inOrder bound).keep filed condition

/-- **A command that is filed and handed over** lengthens the past if a caller asked for it. -/
theorem InOrder.file {dispatch : Dispatch} {origin : Origin} (inOrder : host.InOrder accepted)
    (filed : host.engine.ledger.WellFiled)
    (opens : host.engine.ledger.Opens (host.recordFor dispatch origin) dispatch origin)
    (ledger : after.engine.ledger = host.engine.ledger.file (host.recordFor dispatch origin))
    (filings : after.filings = host.filings + 1) (grown : List (Request × TransactionId))
    (told : grown.map (·.2) =
      if origin = .caller then [(host.recordFor dispatch origin).id] else []) :
    after.InOrder (accepted ++ grown) := by
  intro bound
  rw [filings] at bound ⊢
  have before := inOrder (by omega)
  have next := before.file (filed.file opens.awaiting opens.nonzero) opens.fresh rfl bound
  rw [ledger, List.map_append, told]
  rw [opens.origin] at next
  cases origin with
  | caller => exact next
  | engine => simpa using next

/-- **A command that is filed and taken off again** leaves the past as it was. -/
theorem InOrder.refile {record : TransactionRecord} (inOrder : host.InOrder accepted)
    (fresh : host.engine.ledger.get? record.id = none)
    (ledger : after.engine.ledger = (host.engine.ledger.file record).rollback record.id)
    (filings : after.filings = host.filings + 1) : after.InOrder accepted := by
  intro bound
  rw [filings] at bound ⊢
  rw [ledger]
  exact (inOrder (by omega)).refile (Ledger.pending_rollback_file _ fresh) rfl bound

variable [Transport σ]

/-- **A request** that is accepted is the last so far. -/
theorem Submission.inOrder {request : Request} {outcome : Except Rejection TransactionId × Host σ}
    (fate : host.Submission request outcome) (filed : host.engine.ledger.WellFiled)
    (inOrder : host.InOrder accepted) :
    outcome.2.InOrder (accepted ++ acceptedBy request outcome.1) := by
  cases fate with
  | unfit | full => exact inOrder.append_nil
  | taken dispatch transport admitted opens sent =>
    exact inOrder.file filed opens (ledger_stage _ _ _) (filings_push rfl rfl) _ rfl
  | refused dispatch transport error admitted opens sent =>
    exact (inOrder.refile opens.fresh rfl (filings_push rfl rfl)).append_nil

/-- **The refusal of a peer** is accepted by nobody. -/
theorem refuseOverdue_inOrder (filed : host.engine.ledger.WellFiled) (path : DataPathId)
    (inOrder : host.InOrder accepted) : (host.refuseOverdue path).InOrder accepted := by
  have told := inOrder.tell (.dataPathTerminated path .responseTimeout)
  have fate := refuseOverdue_refusal filed path
  generalize host.refuseOverdue path = next at fate
  cases fate with
  | full noRoom => exact told
  | taken transport opens sent =>
    rw [← List.append_nil accepted]
    exact told.file filed opens rfl (filings_push rfl rfl) [] rfl
  | refused transport error opens sent => exact told.refile opens.fresh rfl (filings_push rfl rfl)

theorem expireResponses_inOrder (coherent : host.engine.Coherent)
    (inOrder : host.InOrder accepted) : host.expireResponses.2.InOrder accepted :=
  (expireResponses_keeps (InOrder · accepted) coherent inOrder fun _ path coherent inOrder =>
    refuseOverdue_inOrder coherent.filed path inOrder).2

omit [Transport σ] in
theorem expireTransactions_inOrder (coherent : host.engine.Coherent)
    (inOrder : host.InOrder accepted) : host.expireTransactions.2.InOrder accepted :=
  inOrder.react coherent.filed (coherent.expireTransactions_keeps host.now)

/-! ## Runs -/

/-- **Every step keeps the order.** -/
theorem step_inOrder (coherent : host.engine.Coherent) (inOrder : host.InOrder accepted)
    (act : Act σ) : (host.step act).InOrder (accepted ++ host.acceptedAt act) := by
  cases act with
  | submit request =>
    exact (submit_submission coherent.filed request).inOrder coherent.filed inOrder
  | handle event =>
    exact (inOrder.react coherent.filed (coherent.handle_keeps host.now event)).append_nil
  | expireTransactions => exact (expireTransactions_inOrder coherent inOrder).append_nil
  | expireResponses => exact (expireResponses_inOrder coherent inOrder).append_nil
  | tick =>
    exact (expireResponses_inOrder (expireTransactions_coherent coherent)
      (expireTransactions_inOrder coherent inOrder)).append_nil
  | shutdown => exact (inOrder.react coherent.filed coherent.shutdown_keeps).append_nil
  | advance | replaceTransport => exact InOrder.append_nil inOrder

/-- **So does every run.** -/
theorem run_inOrder (coherent : host.engine.Coherent) (inOrder : host.InOrder accepted)
    (acts : List (Act σ)) : (host.run acts).InOrder (accepted ++ host.accepted acts) := by
  induction acts generalizing host accepted with
  | nil => exact inOrder.append_nil
  | cons act rest ih =>
    rw [Host.accepted, ← List.append_assoc]
    exact ih (step_coherent coherent act) (step_inOrder coherent inOrder act)

end Host

end NanHost
