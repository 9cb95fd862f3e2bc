import NanHost.Proofs.Host.Handovers
import NanHost.Proofs.Ledger.Recurrence

/-!
# Renumbering — an answer that comes too late finds no other command

The firmware may answer a command whose time is over. By then its number is nobody's, and for a long
time it stays so, whatever is done to the host: the ledger hands out the other numbers first.

## What is proved

All that a host does to its ledger is to call it (`Reachable.conducts_run`), and the numbers that it
gets are those under which commands reach the transport. So what holds of a ledger in any sequence of
calls holds in any run, and `run_renumbering` states both.

The count begins with the command whose number it is. From its end on it may be shorter: a command
that has been waiting while nearly all numbers were handed out can be followed at once.
-/

namespace NanHost

namespace Host

variable {σ : Type} {host next last : Host σ}

/-- The numbers under which commands have reached the transport, be it that it took them or not, the
oldest first. -/
def numbers (host : Host σ) : List TransactionId := (sentIn host.effects.toList).map (·.1)

/-! ## A host calls its ledger -/

/-- Between two states the ledger was called a number of times, and the numbers that it handed out
have reached the transport. -/
def Conducts (host next : Host σ) : Prop :=
  ∃ operations, next.engine.ledger = host.engine.ledger.run operations ∧
    next.numbers = host.numbers ++ host.engine.ledger.handedOut operations

namespace Conducts

/-- The ledger was not called. -/
theorem still (ledger : next.engine.ledger = host.engine.ledger)
    (numbers : next.numbers = host.numbers) : host.Conducts next := by
  refine ⟨[], ledger, ?_⟩
  rw [Ledger.handedOut, List.append_nil]
  exact numbers

theorem trans (before : host.Conducts next) (after : next.Conducts last) : host.Conducts last := by
  obtain ⟨first, ledger, numbers⟩ := before
  obtain ⟨second, ledger', numbers'⟩ := after
  refine ⟨first ++ second, ?_, ?_⟩
  · rw [Ledger.run_append, ← ledger]
    exact ledger'
  · rw [Ledger.handedOut_append, ← ledger, numbers', numbers, List.append_assoc]

theorem numbers_told {notices : List Notification}
    (out : next.effects.toList = host.effects.toList ++ notices.map .told) :
    next.numbers = host.numbers := by
  unfold Host.numbers
  rw [out, sentIn_append, sentIn_told, List.append_nil]

/-- A reaction lets commands leave. -/
theorem react {reaction : Reaction}
    (keeps : ∃ condition, reaction.1.ledger = host.engine.ledger.keep condition) :
    host.Conducts (host.react reaction) := by
  obtain ⟨condition, kept⟩ := keeps
  refine ⟨[.drainWhere (!condition ·)], ?_, ?_⟩
  · rw [engine_react, kept]
    show _ = (host.engine.ledger.drainWhere _).2
    rw [Ledger.drainWhere_snd_eq_keep]
    simp only [Bool.not_not]
  · rw [numbers_told (effects_react host reaction)]
    exact (List.append_nil _).symm

variable [Transport σ]

/-- A command that is issued is filed, and taken off again if the transport refuses it. -/
theorem issue (host : Host σ) (dispatch : Dispatch) (origin : Origin) :
    host.Conducts (host.issue dispatch origin).2 := by
  obtain ⟨command, context⟩ := dispatch
  have pushed {effects : Array Effect} {effect : Effect} {id : TransactionId}
      (sent : effect.sent? = some (id, command)) :
      (sentIn (effects.push effect).toList).map (·.1) =
        (sentIn effects.toList).map (·.1) ++ [id] := by
    have last : sentIn [effect] = [(id, command)] := by
      rw [sentIn, List.filterMap_cons_some sent, List.filterMap_nil]
    rw [Array.toList_push, sentIn_append, List.map_append, last]
    rfl
  let filing : Ledger.Operation := .allocate command.kind context origin host.now
  unfold Host.issue
  dsimp only
  split
  next rejection full => exact .still rfl rfl
  next id ledger allocated =>
    have filed : host.engine.ledger.step filing = ledger := by
      simp only [filing, Ledger.step, allocated]
    have hands : host.engine.ledger.handsOut? filing = some id := by
      simp only [filing, Ledger.handsOut?, allocated]
    split
    next transport sent =>
      refine ⟨[filing], filed.symm, ?_⟩
      rw [Ledger.handedOut, hands]
      exact pushed rfl
    next error transport sent =>
      refine ⟨[filing, .rollback id], ?_, ?_⟩
      · show ledger.rollback id = (host.engine.ledger.step filing).rollback id
        rw [filed]
      · rw [Ledger.handedOut, hands]
        exact pushed rfl

/-- A request comes down to its command. -/
theorem submit (host : Host σ) (request : Request) : host.Conducts (host.submit request).2 := by
  unfold Host.submit
  split
  next rejection vetted => exact .still rfl rfl
  next dispatch admitted =>
    have issued := issue host dispatch .caller
    generalize host.issue dispatch .caller = outcome at issued
    obtain ⟨answer, next⟩ := outcome
    cases answer with
    | error rejection => exact issued
    | ok id => exact issued.trans (.still (ledger_stage next.engine id request) rfl)

/-- So does the refusal of a peer. -/
theorem refuseOverdue (host : Host σ) (path : DataPathId) :
    host.Conducts (host.refuseOverdue path) := by
  let told := host.tell (.dataPathTerminated path .responseTimeout)
  have before : host.Conducts told :=
    .still rfl (numbers_told (effects_react host (host.engine, [_])))
  have issued := before.trans (issue told (host.refusal path) .engine)
  unfold Host.refuseOverdue
  dsimp only
  split
  next id next same =>
    have same : told.issue (host.refusal path) .engine = _ := same
    rw [same] at issued
    exact issued
  next rejection next same =>
    have same : told.issue (host.refusal path) .engine = _ := same
    rw [same] at issued
    exact issued

theorem foldl_refuseOverdue (host : Host σ) (paths : List DataPathId) :
    host.Conducts (paths.foldl Host.refuseOverdue host) := by
  induction paths generalizing host with
  | nil => exact .still rfl rfl
  | cons path rest ih => exact (refuseOverdue host path).trans (ih (host.refuseOverdue path))

theorem expireResponses (host : Host σ) : host.Conducts host.expireResponses.2 := by
  have relieved : host.Conducts host.relieved := .still rfl rfl
  exact relieved.trans (foldl_refuseOverdue host.relieved _)

/-- **A step calls the ledger**, and does nothing else to it. -/
theorem step (coherent : host.engine.Coherent) (act : Act σ) : host.Conducts (host.step act) := by
  have expired : host.Conducts host.expireTransactions.2 :=
    .react (coherent.expireTransactions_keeps host.now)
  cases act with
  | submit request => exact submit host request
  | handle event => exact .react (coherent.handle_keeps host.now event)
  | expireTransactions => exact expired
  | expireResponses => exact expireResponses host
  | tick => exact expired.trans (expireResponses _)
  | shutdown => exact .react coherent.shutdown_keeps
  | advance | replaceTransport => exact .still rfl rfl

end Conducts

/-! ## Commands that have left -/

/-- An answer to no command on file leaves the host as it is. -/
theorem handle_of_absent {id : TransactionId} (absent : host.engine.ledger.get? id = none)
    (outcome : Except FirmwareStatus AnswerPayload) :
    host.handle (.commandCompleted id outcome) = host := by
  have quiet : host.engine.handle host.now (.commandCompleted id outcome) = host.engine.quiet :=
    Engine.onCompleted_of_absent absent outcome
  rw [handle, quiet, react_eq]
  simp [Engine.quiet]

/-- A command whose time is over leaves. -/
theorem get?_expireTransactions (coherent : host.engine.Coherent) {id : TransactionId}
    {record : TransactionRecord} (onFile : host.engine.ledger.get? id = some record)
    (late : record.deadline ≤ host.now) :
    host.expireTransactions.2.engine.ledger.get? id = none := by
  have expired : host.expireTransactions.2.engine.ledger =
      host.engine.ledger.keep fun record => !decide (record.deadline ≤ host.now) := by
    rw [expireTransactions, engine_react, Engine.expireTransactions_eq coherent.filed]
    exact coherent.giveUpAll_keeps (·.deadline ≤ host.now) .timeout
  rw [expired, Ledger.get?_keep, onFile]
  apply Option.filter_some_neg
  simp [late]

variable [Transport σ]

/-! ## Numbers that come again -/

/-- **A run calls the ledger**, and does nothing else to it. -/
theorem Reachable.conducts_run (reachable : Reachable host) (acts : List (Act σ)) :
    host.Conducts (host.run acts) := by
  induction acts generalizing host with
  | nil => exact .still rfl rfl
  | cons act rest ih => exact (Conducts.step reachable.coherent act).trans (ih (reachable.step act))

/-- **How soon a number comes again** in the runs of a host whose ledger holds `bound` records. -/
structure Renumbers (start : Host σ) (bound : Nat) : Prop where
  /-- Between two commands of one number, so many others have reached the transport. -/
  apart : ∀ acts first id middle rest,
    (start.run acts).numbers = first ++ id :: (middle ++ id :: rest) →
      65535 - bound ≤ middle.countP (· ≠ id)
  /-- A command whose time is over leaves when deadlines are looked after. -/
  timedOut : ∀ acts id record, (start.run acts).engine.ledger.get? id = some record →
    record.deadline ≤ (start.run acts).now →
      (start.run (acts ++ [.expireTransactions])).engine.ledger.get? id = none
  /-- Once a command has left, an answer to it changes nothing and is told to nobody, as long as
  fewer commands than that have followed it. -/
  stale : ∀ acts later first id since further outcome,
    (start.run acts).numbers = first ++ id :: since →
      (start.run acts).engine.ledger.get? id = none →
        (start.run (acts ++ later)).numbers = first ++ id :: (since ++ further) →
          (since ++ further).length < 65535 - bound →
            (start.run (acts ++ later)).handle (.commandCompleted id outcome) =
              start.run (acts ++ later)

/-- **A number comes again after a lap, and not before.** So it is in any sequence of calls on a
ledger, of whatever capacity, and in any run of a host. -/
theorem run_renumbering (capacity timeoutMs : UInt64) (config : EngineConfig) (transport : σ)
    (now : Timestamp) :
    Ledger.Recurs capacity timeoutMs ∧
      (Host.new config transport now).Renumbers (Ledger.bound config.maxPendingTransactions) := by
  have reachable := Reachable.new config transport now
  have filed := Ledger.wellFiled_new config.maxPendingTransactions config.transactionTimeoutMs
  have fresh : (Host.new config transport now).engine.ledger =
    Ledger.new config.maxPendingTransactions config.transactionTimeoutMs := rfl
  have none : (Host.new config transport now).numbers = [] := rfl
  have holds : (Ledger.new config.maxPendingTransactions config.transactionTimeoutMs).capacity =
    Ledger.bound config.maxPendingTransactions := rfl
  generalize Host.new config transport now = start at reachable fresh none
  have conducted (acts : List (Act σ)) := reachable.conducts_run acts
  refine ⟨Ledger.run_recurs capacity timeoutMs, ?_⟩
  constructor
  case apart =>
    intro acts first id middle rest same
    obtain ⟨operations, -, handed⟩ := conducted acts
    rw [none, List.nil_append, fresh, same] at handed
    have many := filed.le_countP_between handed.symm
    rw [holds] at many
    exact Nat.sub_le_of_le_add many
  case timedOut =>
    intro acts id record onFile late
    rw [run_append]
    exact get?_expireTransactions (reachable.run acts).coherent onFile late
  case stale =>
    intro acts later first id since further outcome same absent same' few
    apply handle_of_absent
    obtain ⟨operations, ledger, handed⟩ := conducted acts
    obtain ⟨operations', ledger', handed'⟩ := (reachable.run acts).conducts_run later
    rw [none, List.nil_append, fresh, same] at handed
    rw [← run_append, same, same', List.append_assoc] at handed'
    have more := List.cons.inj (List.append_cancel_left handed')
    have further_eq := List.append_cancel_left more.2
    rw [fresh] at ledger
    rw [ledger] at absent ledger' further_eq
    rw [run_append, ledger', ← Ledger.run_append]
    rw [further_eq, ← holds] at few
    exact filed.get?_run_of_few handed.symm absent few

end Host

end NanHost
