import NanHost.Proofs.Engine.Account
import NanHost.Proofs.Host.Reachable

/-!
# Accounts of a run — every accepted request is reported exactly once

A step of a host accepts requests and reports completions. Under each number the two are balanced by
what is owed: what is reported in a step, with what is owed after it, is what was owed before it,
with what was accepted in it. Over a run from a fresh host, where nothing is owed, this leaves what
was reported and what is owed on the one side, and what was accepted on the other.

Numbers are used again, so a number stands for a sequence of commands. The balance is one of lists,
not of counts: under each number the completions come in the order of the requests, each of the kind
of its own.

## What is proved

`run_exactlyOnce` states this for every run, with what it comes to at a shutdown and for the
commands that the engine issues of its own accord.
-/

namespace NanHost

/-- The kinds of the requests that were accepted under a number, in order. -/
def acceptedFor (txn : TransactionId) (accepted : List (Request × TransactionId)) :
    List CommandKind :=
  (accepted.filter (·.2 = txn)).map (·.1.kind)

theorem acceptedFor_append (txn : TransactionId) (first second : List (Request × TransactionId)) :
    acceptedFor txn (first ++ second) = acceptedFor txn first ++ acceptedFor txn second := by
  rw [acceptedFor, List.filter_append, List.map_append]
  rfl

namespace Host

variable {σ : Type}

/-- The completions that have been reported, the oldest first. -/
def completions (host : Host σ) : List Completion := NanHost.completions host.notifications.toList

/-- Under each number, what is reported between two states and owed in the second is what was owed
in the first and accepted between them. -/
def Balanced (before after : Host σ) (accepted : List (Request × TransactionId)) : Prop :=
  ∃ reports, after.completions = before.completions ++ reports ∧
    ∀ txn, reportedFor txn reports ++ after.engine.ledger.owed txn =
      before.engine.ledger.owed txn ++ acceptedFor txn accepted

theorem Balanced.trans {first second third : Host σ}
    {accepted accepted' : List (Request × TransactionId)}
    (balanced : Balanced first second accepted)
    (balanced' : Balanced second third accepted') :
    Balanced first third (accepted ++ accepted') := by
  obtain ⟨reports, told, paid⟩ := balanced
  obtain ⟨reports', told', paid'⟩ := balanced'
  refine ⟨reports ++ reports', by rw [told', told, List.append_assoc], fun txn => ?_⟩
  rw [reportedFor_append, acceptedFor_append, List.append_assoc, paid' txn, ← List.append_assoc,
    paid txn, List.append_assoc]

/-- If nothing is reported, what is owed grows by what is accepted. -/
theorem Balanced.of_silent {before after : Host σ} {accepted : List (Request × TransactionId)}
    (silent : after.completions = before.completions)
    (owed : ∀ txn, after.engine.ledger.owed txn =
      before.engine.ledger.owed txn ++ acceptedFor txn accepted) :
    Balanced before after accepted :=
  ⟨[], by rw [silent, List.append_nil], fun txn => by rw [← owed txn]; rfl⟩

theorem Balanced.refl (host : Host σ) : Balanced host host [] :=
  .of_silent rfl fun txn => by rw [acceptedFor, List.filter_nil, List.map_nil, List.append_nil]

/-! ## Reactions -/

theorem completions_react (host : Host σ) (reaction : Reaction) :
    (host.react reaction).completions = host.completions ++ NanHost.completions reaction.2 := by
  have told : (reaction.2.map Effect.told).filterMap (·.notification?) = reaction.2 := by
    rw [List.filterMap_map]
    exact List.filterMap_some
  unfold completions notifications
  rw [← completions_append, Array.toList_filterMap, effects_react, List.filterMap_append, told,
    Array.toList_filterMap]

/-- A reaction that keeps account is balanced. -/
theorem balanced_react {host : Host σ} {reaction : Reaction}
    (paid : reaction.Pays host.engine.ledger) : Balanced host (host.react reaction) [] := by
  refine ⟨_, completions_react host reaction, fun txn => ?_⟩
  rw [engine_react, paid txn]
  exact (List.append_nil _).symm

theorem completions_push {host after : Host σ} {effect : Effect}
    (pushed : after.effects = host.effects.push effect)
    (silent : effect.notification?.bind (·.completion?) = none) :
    after.completions = host.completions := by
  unfold completions NanHost.completions notifications
  rw [pushed, Array.toList_filterMap, Array.toList_filterMap, List.filterMap_filterMap,
    List.filterMap_filterMap, Array.toList_push, List.filterMap_append]
  simp [silent]

/-! ## Requests and refusals -/

/-- What the answer to a request adds to the requests that were accepted. -/
def acceptedBy (request : Request) :
    Except Rejection TransactionId → List (Request × TransactionId)
  | .ok id => [(request, id)]
  | .error _ => []

theorem ledger_stage (engine : Engine) (txn : TransactionId) (request : Request) :
    (engine.stage txn request).ledger = engine.ledger := by
  cases request <;> rfl

variable [Transport σ] {host : Host σ}

/-- **A request is owed a completion once it is accepted, and not before.** -/
theorem Submission.balanced {request : Request} {outcome : Except Rejection TransactionId × Host σ}
    (fate : host.Submission request outcome) :
    Balanced host outcome.2 (acceptedBy request outcome.1) := by
  cases fate with
  | unfit rejection vetted => exact .refl host
  | full noRoom => exact .refl host
  | taken dispatch transport admitted opens sent =>
    refine .of_silent (completions_push rfl rfl) fun txn => ?_
    dsimp only
    rw [ledger_stage, Engine.ledger_upon, Ledger.owed_file opens.fresh, opens.kind,
      Engine.kind_of_vet admitted]
    by_cases same : txn = (host.recordFor dispatch .caller).id
    · simp [acceptedFor, acceptedBy, same, opens.origin]
    · simp [acceptedFor, acceptedBy, same, Ne.symm same]
  | refused dispatch transport error admitted opens sent =>
    refine .of_silent (completions_push rfl rfl) fun txn => ?_
    dsimp only
    rw [Engine.ledger_upon, Ledger.owed_congr (Ledger.pending_rollback_file _ opens.fresh)]
    exact (List.append_nil _).symm

/-- **The refusal of a peer is owed nothing.** -/
theorem balanced_refuseOverdue (filed : host.engine.ledger.WellFiled) (path : DataPathId) :
    Balanced host (host.refuseOverdue path) [] := by
  have told : (host.tell (.dataPathTerminated path .responseTimeout)).completions =
      host.completions := completions_push rfl rfl
  have fate := refuseOverdue_refusal filed path
  generalize host.refuseOverdue path = next at fate
  cases fate with
  | full noRoom => exact .of_silent told fun txn => (List.append_nil _).symm
  | taken transport opens sent =>
    refine .of_silent ((completions_push rfl rfl).trans told) fun txn => ?_
    dsimp only
    rw [Ledger.owed_file opens.fresh, opens.origin]
    simp [acceptedFor]
  | refused transport error opens sent =>
    refine .of_silent ((completions_push rfl rfl).trans told) fun txn => ?_
    dsimp only
    rw [Ledger.owed_congr (Ledger.pending_rollback_file _ opens.fresh)]
    exact (List.append_nil _).symm

theorem balanced_expireResponses (coherent : host.engine.Coherent) :
    Balanced host host.expireResponses.2 [] :=
  (expireResponses_keeps (Balanced host · []) coherent (Balanced.refl host)
    fun _ path coherent balanced =>
      balanced.trans (balanced_refuseOverdue coherent.filed path)).2

/-! ## Runs -/

/-- The requests that a step accepts. -/
def acceptedAt (host : Host σ) : Act σ → List (Request × TransactionId)
  | .submit request => acceptedBy request (host.submit request).1
  | _ => []

/-- The requests that a run accepts, in order. -/
def accepted (host : Host σ) : List (Act σ) → List (Request × TransactionId)
  | [] => []
  | act :: rest => host.acceptedAt act ++ (host.step act).accepted rest

theorem accepted_append (host : Host σ) (first second : List (Act σ)) :
    host.accepted (first ++ second) = host.accepted first ++ (host.run first).accepted second := by
  induction first generalizing host with
  | nil => rfl
  | cons act rest ih =>
    rw [List.cons_append, accepted, accepted, ih, List.append_assoc]
    rfl

omit [Transport σ] in
theorem balanced_expireTransactions (coherent : host.engine.Coherent) :
    Balanced host host.expireTransactions.2 [] := by
  have paid := Engine.expireTransactions_pays coherent host.now
  exact balanced_react paid

/-- **Every step is balanced.** -/
theorem balanced_step (coherent : host.engine.Coherent) (act : Act σ) :
    Balanced host (host.step act) (host.acceptedAt act) := by
  cases act with
  | submit request => exact (submit_submission coherent.filed request).balanced
  | handle event => exact balanced_react (Engine.handle_pays coherent host.now event)
  | expireTransactions => exact balanced_expireTransactions coherent
  | expireResponses => exact balanced_expireResponses coherent
  | tick =>
    exact (balanced_expireTransactions coherent).trans
      (balanced_expireResponses (expireTransactions_coherent coherent))
  | shutdown => exact balanced_react (Engine.shutdown_pays coherent)
  | advance | replaceTransport => exact .refl host

/-- **So is every run.** -/
theorem balanced_run (coherent : host.engine.Coherent) (acts : List (Act σ)) :
    Balanced host (host.run acts) (host.accepted acts) := by
  induction acts generalizing host with
  | nil => exact .refl host
  | cons act rest ih => exact (balanced_step coherent act).trans (ih (step_coherent coherent act))

/-! ## Exactly once -/

/-- Every request that a run accepts is reported exactly once. -/
structure ExactlyOnce (start : Host σ) (acts : List (Act σ)) : Prop where
  /-- Under each number as many completions were reported as requests were accepted, but for the one
  that is out if a caller's command is on file. -/
  count : ∀ txn, (start.accepted acts).countP (·.2 = txn) =
    (start.run acts).completions.countP (·.id = txn) +
      if ((start.run acts).engine.ledger.get? txn).any (·.origin = .caller) then 1 else 0
  /-- They came in the order of the requests, each of the kind of its own. -/
  kinds : ∀ txn, reportedFor txn (start.run acts).completions <+:
    acceptedFor txn (start.accepted acts)
  /-- A number that is given to the next request is not zero, and was not on file. -/
  fresh : ∀ request txn, ((start.run acts).submit request).1 = .ok txn →
    txn.raw ≠ 0 ∧ (start.run acts).engine.ledger.isPending txn = false
  /-- What the next step reports was on file before it, and a caller had asked for it. -/
  caller : ∀ act, ∀ completion ∈
      ((start.run acts).step act).completions.drop (start.run acts).completions.length,
    ∃ record, (start.run acts).engine.ledger.get? completion.id = some record ∧
      record.origin = .caller ∧ record.kind = completion.kind
  /-- After a shutdown nothing is on file, and everything was reported. -/
  shutdown : (start.run acts).shutdown.engine.ledger.isEmpty = true ∧
    ∀ txn, reportedFor txn (start.run acts).shutdown.completions =
      acceptedFor txn (start.accepted acts)

theorem length_owed (ledger : Ledger) (txn : TransactionId) :
    (ledger.owed txn).length = if (ledger.get? txn).any (·.origin = .caller) then 1 else 0 := by
  unfold Ledger.owed
  cases ledger.get? txn with
  | none => rfl
  | some record => cases origin : record.origin <;> simp [origin]

theorem length_reportedFor (txn : TransactionId) (reports : List Completion) :
    (reportedFor txn reports).length = reports.countP (·.id = txn) := by
  rw [reportedFor, List.length_map, List.countP_eq_length_filter]

theorem length_acceptedFor (txn : TransactionId) (accepted : List (Request × TransactionId)) :
    (acceptedFor txn accepted).length = accepted.countP (·.2 = txn) := by
  rw [acceptedFor, List.length_map, List.countP_eq_length_filter]

/-- From a fresh host, what was reported and what is owed is what was accepted. -/
theorem balance_of_new (config : EngineConfig) (transport : σ) (now : Timestamp)
    (acts : List (Act σ)) (txn : TransactionId) :
    reportedFor txn ((Host.new config transport now).run acts).completions ++
      ((Host.new config transport now).run acts).engine.ledger.owed txn =
        acceptedFor txn ((Host.new config transport now).accepted acts) := by
  have coherent : (Host.new config transport now).engine.Coherent := .new config
  obtain ⟨reports, told, paid⟩ := balanced_run coherent acts
  have fresh : (Host.new config transport now).engine.ledger.owed txn = [] :=
    Ledger.owed_of_none (Ledger.get?_new _ _ txn)
  rw [told]
  exact (paid txn).trans (by rw [fresh, List.nil_append])

/-- A request reports nothing. -/
theorem completions_submit (filed : host.engine.ledger.WellFiled) (request : Request) :
    (host.submit request).2.completions = host.completions := by
  have fate := submit_submission filed request
  generalize host.submit request = outcome at fate
  cases fate with
  | unfit | full => rfl
  | taken | refused => exact completions_push rfl rfl

/-- What a step reports was on file before, and a caller had asked for it. -/
theorem caller_of_reported (coherent : host.engine.Coherent) (act : Act σ)
    {reports : List Completion}
    (told : (host.step act).completions = host.completions ++ reports)
    (paid : ∀ txn, reportedFor txn reports ++ (host.step act).engine.ledger.owed txn =
      host.engine.ledger.owed txn ++ acceptedFor txn (host.acceptedAt act))
    {completion : Completion} (reported : completion ∈ reports) :
    ∃ record, host.engine.ledger.get? completion.id = some record ∧
      record.origin = .caller ∧ record.kind = completion.kind := by
  have nothing : host.acceptedAt act = [] := by
    cases act with
    | submit request =>
      have silent : (host.submit request).2.completions = host.completions ++ reports := told
      rw [completions_submit coherent.filed] at silent
      rw [List.self_eq_append_right.mp silent] at reported
      cases reported
    | _ => rfl
  have owed := paid completion.id
  rw [nothing] at owed
  have member : completion.kind ∈ host.engine.ledger.owed completion.id := by
    have there : completion.kind ∈ reportedFor completion.id reports :=
      List.mem_map.mpr ⟨completion, List.mem_filter.mpr ⟨reported, by simp⟩, rfl⟩
    rw [← List.append_nil (host.engine.ledger.owed completion.id)]
    exact owed ▸ List.mem_append_left _ there
  unfold Ledger.owed at member
  split at member
  next record onFile =>
    split at member
    next origin => exact ⟨record, onFile, origin, (List.mem_singleton.mp member).symm⟩
    next => cases member
  next => cases member

/-- **Every accepted request is reported exactly once**, whatever is done to a host and in whatever
order. -/
theorem run_exactlyOnce (config : EngineConfig) (transport : σ) (now : Timestamp)
    (acts : List (Act σ)) : (Host.new config transport now).ExactlyOnce acts := by
  have balance := balance_of_new config transport now acts
  have coherent := ((Reachable.new config transport now).run acts).coherent
  generalize Host.new config transport now = start at balance coherent
  constructor
  case count =>
    intro txn
    rw [← length_acceptedFor, ← balance txn, List.length_append, length_owed, length_reportedFor]
  case kinds =>
    intro txn
    exact ⟨_, balance txn⟩
  case fresh =>
    intro request txn accepted
    have fate := submit_submission coherent.filed request
    generalize (start.run acts).submit request = outcome at fate accepted
    cases fate with
    | unfit | full | refused => cases accepted
    | taken dispatch transport admitted opens sent =>
      obtain rfl := Except.ok.inj accepted
      refine ⟨opens.nonzero, ?_⟩
      rw [Ledger.isPending_eq_isSome, opens.fresh]
      rfl
  case caller =>
    intro act completion member
    obtain ⟨reports, told, paid⟩ := balanced_step coherent act
    rw [told, List.drop_left] at member
    exact caller_of_reported coherent act told paid member
  case shutdown =>
    have gone := Engine.get?_shutdown coherent
    obtain ⟨reports, told, paid⟩ := balanced_step coherent .shutdown
    constructor
    · refine Std.ExtTreeMap.isEmpty_iff.mpr (Std.ExtTreeMap.ext_getElem? fun id => ?_)
      rw [shutdown, engine_react]
      exact (gone id).trans Std.ExtTreeMap.getElem?_empty.symm
    · intro txn
      have settled : (start.run acts).shutdown.engine.ledger.owed txn = [] := by
        refine Ledger.owed_of_none ?_
        rw [shutdown, engine_react]
        exact gone txn
      have paid := paid txn
      rw [show (start.run acts).step .shutdown = (start.run acts).shutdown from rfl, settled,
        List.append_nil] at paid
      have told : (start.run acts).shutdown.completions = _ := told
      rw [told, reportedFor_append, paid, ← balance txn]
      exact congrArg _ (List.append_nil _)

end Host

end NanHost
