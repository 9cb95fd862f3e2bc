import NanHost.Proofs.Engine.Radio
import NanHost.Proofs.Host.Emissions
import NanHost.Proofs.Host.Updates

/-!
# Configurations — what is in force is what was confirmed last

A configuration of the interface is staged when it is asked for and in force when the firmware has
confirmed it. In between it may be refused, run out of time, or fall with the interface, and then the
firmware may still answer. What is in force has to be what the caller can tell from what it has asked
for and what it was told.

Two facts about a run tie the interface to its history. A command to configure the interface that is
on file was asked for in the run under its number, and is the one that the interface waits for
(`Engine.AwaitsConfiguration`). And each step is one of six (`RadioStep`), of which three are told and
change what is in force.

## What is proved

`run_configures`, for every run. What is in force is what was asked for by the command that was
confirmed last, or nothing if none was or the interface has gone down since (`InForce`); a
confirmation says whether the interface was down when the configuration was asked for, as the command
did (`Asks`). Nothing else affects what is in force (`Spares`), nor does an answer that comes after
the interface has gone down.
-/

namespace NanHost

/-- A configuration on file was asked for, and the interface waits for it. -/
def Engine.AwaitsConfiguration (engine : Engine)
    (asked : TransactionId → EnableRequest → Bool → Prop) : Prop :=
  ∀ id record, engine.ledger.get? id = some record → record.kind = .configure →
    ∃ request initial, asked id request initial ∧ engine.interface.staged = some request ∧
      engine.interface.phase = if initial then .enabling else .reconfiguring

namespace Engine

variable {engine : Engine} {request : EnableRequest} {dispatch : Dispatch}

/-- A configuration is admitted if the interface is at rest; it says whether the interface is down. -/
theorem resting_of_vet_enable (admitted : engine.vet (.enable request) = .ok dispatch) :
    ∃ initial, dispatch.command = .enable request initial ∧
      (initial = true ↔ engine.interface.phase = .disabled) ∧
      engine.interface.phase.awaited = none := by
  obtain ⟨initial, passed, rest⟩ := bind_eq_ok.mp admitted
  obtain ⟨-, handed⟩ := check_bind_eq_ok.mp rest
  obtain rfl := pure_eq_ok.mp handed
  have phase := Interface.checkEnable_eq_ok.mp passed
  refine ⟨initial, rfl, ?_⟩
  rw [phase]
  cases initial <;> simp [InterfacePhase.awaited]

end Engine

namespace Host

variable {σ : Type} [Transport σ] {host start : Host σ}

/-- A run parted behind one of its steps. -/
theorem run_append_cons (host : Host σ) (first rest : List (Act σ)) (act : Act σ) :
    host.run (first ++ act :: rest) = (host.run (first ++ [act])).run rest := by
  rw [List.append_cons, run_append]

theorem Reachable.radioReports_append (reachable : Reachable host) (first second : List (Act σ)) :
    radioReports (host.told (first ++ second)) =
      radioReports (host.told first) ++ radioReports ((host.run first).told second) := by
  rw [reachable.told_append, NanHost.radioReports_append]

/-- Where nothing is told of the interface, nothing is in any of the steps. -/
theorem Reachable.unsaid_within (reachable : Reachable host) {first rest : List (Act σ)}
    {act : Act σ} (unsaid : radioReports (host.told (first ++ act :: rest)) = []) :
    radioReports ((host.run first).told [act]) = [] := by
  have parted := reachable.radioReports_append first ([act] ++ rest)
  obtain ⟨-, after⟩ := List.append_eq_nil_iff.mp (parted.symm.trans unsaid)
  rw [(reachable.run first).radioReports_append] at after
  exact (List.append_eq_nil_iff.mp after).1

theorem radioReports_told_nil (host : Host σ) : radioReports (host.told []) = [] := by
  rw [told_nil]
  rfl

/-! ## What was asked for -/

/-- A configuration is accepted now, under a number. Its command says whether the interface is
down. -/
structure Asks (host : Host σ) (request : EnableRequest) (id : TransactionId) (initial : Bool) :
    Prop where
  accepted : (host.submit (.enable request)).1 = .ok id
  sent : host.emitted [.submit (.enable request)] = [.issued id (.enable request initial)]
  initially : initial = true ↔ host.engine.interface.phase = .disabled

/-- A configuration was accepted in a run, under a number. No other request has been accepted under
the number since, and no command is reported to have ended under it. -/
inductive Asked (host : Host σ) : List (Act σ) → TransactionId → EnableRequest → Bool → Prop
  | intro (before since : List (Act σ)) (id : TransactionId) (request : EnableRequest)
    (initial : Bool) (asks : (host.run before).Asks request id initial)
    (alone : (host.run (before ++ [.submit (.enable request)])).requestOf since id = none)
    (unanswered : id ∉ ended ((host.run (before ++ [.submit (.enable request)])).told since)) :
    Asked host (before ++ .submit (.enable request) :: since) id request initial

theorem Asks.requestOf {request : EnableRequest} {id : TransactionId} {initial : Bool}
    (asks : host.Asks request id initial) :
    host.requestOf [.submit (.enable request)] id = some (.enable request) := by
  have taken : host.acceptedAt (.submit (.enable request)) = [(.enable request, id)] := by
    rw [acceptedAt, asks.accepted]
    rfl
  rw [requestOf_of_accepted taken, if_pos rfl]

namespace Asked

variable {acts : List (Act σ)} {id : TransactionId} {request other : EnableRequest}
  {initial : Bool}

/-- It is the last request that was accepted under its number. -/
theorem requestOf (asked : host.Asked acts id request initial) :
    host.requestOf acts id = some (.enable request) := by
  cases asked with
  | intro before since id request initial asks alone =>
    rw [List.append_cons, requestOf_append, alone, Option.none_or, requestOf_append, asks.requestOf]
    rfl

theorem unique (asked : host.Asked acts id request initial) {initial' : Bool}
    (asked' : host.Asked acts id other initial') : request = other := by
  have same := asked.requestOf.symm.trans asked'.requestOf
  exact Request.enable.inj (Option.some.inj same)

/-- It has just been accepted. -/
theorem now (asks : (host.run acts).Asks request id initial) :
    host.Asked (acts ++ [.submit (.enable request)]) id request initial := by
  refine .intro acts [] id request initial asks rfl ?_
  rw [told_nil]
  exact List.not_mem_nil

/-- It stays so while nothing happens under the number. -/
theorem extend (reachable : Reachable host) (asked : host.Asked acts id request initial)
    {act : Act σ} (alone : (host.run acts).requestOf [act] id = none)
    (unanswered : id ∉ ended ((host.run acts).told [act])) :
    host.Asked (acts ++ [act]) id request initial := by
  cases asked with
  | intro before since id request initial asks earlier silent =>
    rw [List.append_assoc, List.cons_append]
    rw [run_append_cons] at alone unanswered
    refine .intro before (since ++ [act]) id request initial asks ?_ ?_
    · rw [requestOf_append, alone, earlier]
      rfl
    · rw [(reachable.run _).told_append, ended, completions_append, List.map_append, List.mem_append]
      exact fun member => member.elim silent unanswered

end Asked

/-! ## Commands on file -/

/-- What a caller has on file after a step was on file before, and nothing has happened under its
number; or it was accepted in the step. -/
theorem Reachable.cases_onFile (reachable : Reachable host) (act : Act σ) {id : TransactionId}
    {record : TransactionRecord} (onFile : (host.step act).engine.ledger.get? id = some record)
    (caller : record.origin = .caller) :
    host.engine.ledger.get? id = some record ∧ host.requestOf [act] id = none ∧
        id ∉ ended (host.told [act]) ∨
      ∃ request dispatch, act = .submit request ∧ host.acceptedAt act = [(request, id)] ∧
        host.engine.vet request = .ok dispatch ∧ record.kind = request.kind := by
  have nobody (nobody : host.acceptedAt act = []) :
      host.engine.ledger.get? id = some record ∧ host.requestOf [act] id = none ∧
        id ∉ ended (host.told [act]) := by
    obtain ⟨before, unreported⟩ := reachable.unreported nobody onFile caller
    exact ⟨before, requestOf_of_nobody nobody id, unreported⟩
  cases act with
  | submit request =>
    have fate := submit_submission reachable.coherent.filed request
    have silent : host.told [.submit request] = [] := told_submit reachable.coherent.filed request
    have accepted : host.acceptedAt (.submit request) =
        acceptedBy request (host.submit request).1 := rfl
    have onFile : (host.submit request).2.engine.ledger.get? id = some record := onFile
    generalize host.submit request = outcome at fate accepted onFile
    cases fate with
    | unfit | full | refused => exact .inl (nobody accepted)
    | taken dispatch transport admitted opens sent =>
      have onFile : (Engine.stage _ _ request).ledger.get? id = some record := onFile
      rw [ledger_stage] at onFile
      rcases Ledger.cases_file onFile with ⟨rfl, rfl⟩ | before
      · exact .inr ⟨request, dispatch, rfl, accepted, admitted,
          opens.kind.trans (Engine.kind_of_vet admitted)⟩
      · refine .inl ⟨before, ?_, ?_⟩
        · have apart : id ≠ (host.recordFor dispatch .caller).id := by
            rintro rfl
            rw [opens.fresh] at before
            cases before
          rw [requestOf_of_accepted accepted, if_neg apart]
        · rw [silent]
          exact List.not_mem_nil
  | handle | expireTransactions | expireResponses | tick | shutdown | advance | replaceTransport =>
    exact .inl (nobody rfl)

/-- What a caller has on file after a run was on file before, unless it was accepted in the run. -/
theorem Reachable.onFile_of_unasked (reachable : Reachable host) {later : List (Act σ)}
    {id : TransactionId} {record : TransactionRecord}
    (onFile : (host.run later).engine.ledger.get? id = some record)
    (caller : record.origin = .caller) (unasked : host.requestOf later id = none) :
    host.engine.ledger.get? id = some record := by
  induction later using List.reverseRecOn with
  | nil => exact onFile
  | append_singleton later act ih =>
    rw [run_append] at onFile
    rw [requestOf_append, Option.or_eq_none_iff] at unasked
    rcases (reachable.run later).cases_onFile act onFile caller with
      ⟨before, -⟩ | ⟨request, dispatch, -, accepted, -⟩
    · exact ih before unasked.2
    · rw [requestOf_of_accepted accepted, if_pos rfl] at unasked
      cases unasked.1

/-! ## Steps -/

/-- What a step makes of the interface, by what was asked for, and what the caller is told of it. -/
inductive RadioStep (host : Host σ) (asked : TransactionId → EnableRequest → Bool → Prop) :
    Act σ → List RadioReport → Interface → Prop
  /-- What is in force stays. A change that was under way may be given up. -/
  | left {act : Act σ} {next : Interface} (recedes : host.engine.interface.Recedes next) :
    RadioStep host asked act [] next
  /-- A configuration is asked for. -/
  | asks (request : EnableRequest) (id : TransactionId) (initial : Bool)
    (resting : host.engine.interface.phase.awaited = none)
    (asks : host.Asks request id initial) :
    RadioStep host asked (.submit (.enable request)) [] (host.engine.interface.beginEnable request)
  /-- The interface is to be disabled. -/
  | leaves : RadioStep host asked (.submit .disable) [] host.engine.interface.beginDisable
  /-- A configuration is confirmed. -/
  | configured (id : TransactionId) (record : TransactionRecord) (payload : AnswerPayload)
    (request : EnableRequest) (initial : Bool)
    (onFile : host.engine.ledger.get? id = some record) (configure : record.kind = .configure)
    (known : asked id request initial) :
    RadioStep host asked (.handle (.commandCompleted id (.ok payload))) [.configured id initial]
      ⟨.enabled, some request, none⟩
  /-- The interface has been disabled. -/
  | disabled (id : TransactionId) (record : TransactionRecord) (payload : AnswerPayload)
    (onFile : host.engine.ledger.get? id = some record) (disable : record.kind = .disable) :
    RadioStep host asked (.handle (.commandCompleted id (.ok payload))) [.down] .down
  /-- The interface has gone down by itself. -/
  | fell (status : FirmwareStatus) :
    RadioStep host asked (.handle (.interfaceDown status)) [.down] .down

variable {asked : TransactionId → EnableRequest → Bool → Prop}

/-- A reaction that leaves the interface. -/
theorem RadioStep.react {act : Act σ} {reaction : Reaction}
    (same : host.step act = host.react reaction) (leaves : host.engine.LeavesRadio reaction) :
    host.RadioStep asked act (radioReports (host.told [act])) (host.step act).engine.interface := by
  rw [told_react same, leaves.unsaid, same, engine_react]
  exact .left leaves.recedes

/-- Looking after the peers leaves the interface. -/
theorem radio_expireResponses (coherent : host.engine.Coherent) :
    host.expireResponses.2.engine.interface = host.engine.interface ∧
      radioReports (host.told [.expireResponses]) = [] := by
  constructor
  · refine (expireResponses_keeps
      (fun next => next.engine.interface = host.engine.interface) coherent rfl ?_).2
    intro next path coherent before
    have fate := refuseOverdue_refusal coherent.filed path
    generalize next.refuseOverdue path = last at fate
    cases fate with
    | full | taken | refused => exact before
  · refine radioReports_eq_nil fun notice member => ?_
    have turnsAway := emitted_expireResponses coherent _ (mem_told.mp member)
    cases turnsAway
    rfl

/-- A request that is accepted, or not. -/
theorem Reachable.radioStep_submit (reachable : Reachable host) (request : Request) :
    host.RadioStep asked (.submit request) [] (host.submit request).2.engine.interface := by
  have fate := submit_submission reachable.coherent.filed request
  have emitted {effects : List Effect}
      (out : (host.submit request).2.effects.toList = host.effects.toList ++ effects) :
      host.emitted [.submit request] = effects := emitted_of_out out
  generalize submitted : host.submit request = outcome at fate emitted
  cases fate with
  | unfit | full | refused => exact .left .same
  | taken dispatch transport admitted opens sent =>
    cases request with
    | enable what =>
      obtain ⟨initial, command, initially, resting⟩ := Engine.resting_of_vet_enable admitted
      refine .asks what (host.recordFor dispatch .caller).id initial resting
        ⟨congrArg Prod.fst submitted, ?_, initially⟩
      rw [emitted (Array.toList_push ..), command]
    | disable => exact .leaves
    | _ => exact .left .same

/-- An answer of the firmware. -/
theorem Reachable.radioStep_completed (reachable : Reachable host)
    (awaits : host.engine.AwaitsConfiguration asked) (id : TransactionId)
    (answer : Except FirmwareStatus AnswerPayload) :
    host.RadioStep asked (.handle (.commandCompleted id answer))
      (radioReports (host.engine.onCompleted id answer).2)
      (host.engine.onCompleted id answer).1.interface := by
  have coherent := reachable.coherent
  by_cases agrees : ∃ record payload, host.engine.ledger.get? id = some record ∧
      answer = .ok payload ∧ record.isSuperseded = true
  · obtain ⟨record, payload, onFile, rfl, superseded⟩ := agrees
    simp only [TransactionRecord.isSuperseded, decide_eq_true_eq] at superseded
    rcases superseded with configure | disable
    · obtain ⟨request, initial, known, staged, phase⟩ := awaits _ _ onFile configure
      obtain ⟨interface, reports⟩ :=
        coherent.configured_onCompleted onFile configure staged phase payload
      rw [interface, reports]
      exact .configured id record payload request initial onFile configure known
    · obtain ⟨interface, reports⟩ := coherent.down_onCompleted onFile disable payload
      rw [interface, reports]
      exact .disabled id record payload onFile disable
  · have leaves := coherent.leavesRadio_refused id answer fun record payload onFile ok => by
      rw [← Bool.not_eq_true]
      exact fun superseded => agrees ⟨record, payload, onFile, ok, superseded⟩
    rw [leaves.unsaid]
    exact .left leaves.recedes

/-- The report that the interface has gone down. -/
theorem Reachable.radioStep_interfaceDown (reachable : Reachable host) (status : FirmwareStatus) :
    host.RadioStep asked (.handle (.interfaceDown status))
      (radioReports (host.engine.onInterfaceDown status).2)
      (host.engine.onInterfaceDown status).1.interface := by
  have coherent := reachable.coherent
  by_cases down : host.engine.interface.phase = .disabled
  · rw [coherent.onInterfaceDown_of_down down]
    exact .left .same
  · obtain ⟨interface, reports⟩ := coherent.down_onInterfaceDown down status
    rw [interface, reports]
    exact .fell status

/-- Commands whose time is up leave the interface. -/
theorem Reachable.leavesRadio_expireTransactions (reachable : Reachable host) :
    host.engine.LeavesRadio (host.engine.expireTransactions host.now).2 := by
  have filed := reachable.coherent.filed
  rw [Engine.expireTransactions_eq filed]
  exact Engine.leavesRadio_giveUpAll (filed.onFile_filter _) .timeout

/-- Looking after the deadlines leaves the interface. -/
theorem Reachable.radioStep_tick (reachable : Reachable host) :
    host.RadioStep asked .tick (radioReports (host.told [.tick]))
      (host.step .tick).engine.interface := by
  have expired := reachable.leavesRadio_expireTransactions
  obtain ⟨same, unsaid⟩ :=
    radio_expireResponses (expireTransactions_coherent reachable.coherent)
  have first : radioReports (host.told [.expireTransactions]) = [] := by
    rw [told_react rfl]
    exact expired.unsaid
  have both : radioReports (host.told [.tick]) = radioReports (host.told [.expireTransactions]) ++
      radioReports (host.expireTransactions.2.told [.expireResponses]) :=
    reachable.radioReports_append [.expireTransactions] [.expireResponses]
  have interface : (host.step .tick).engine.interface =
    host.expireTransactions.2.engine.interface := same
  rw [both, first, unsaid, interface, expireTransactions, engine_react]
  exact .left expired.recedes

/-- **A step leaves what is in force, or is told.** -/
theorem Reachable.radioStep (reachable : Reachable host)
    (awaits : host.engine.AwaitsConfiguration asked) (act : Act σ) :
    host.RadioStep asked act (radioReports (host.told [act])) (host.step act).engine.interface := by
  have coherent := reachable.coherent
  have told (event : FirmwareEvent) :
      host.told [.handle event] = (host.engine.handle host.now event).2 := told_react rfl
  cases act with
  | submit request =>
    have silent : host.told [.submit request] = [] := told_submit coherent.filed request
    rw [silent]
    exact reachable.radioStep_submit request
  | handle event =>
    by_cases ends : event.endsCommands = true
    · have next : (host.step (.handle event)).engine = _ := engine_handle host event
      rw [told, next]
      cases event with
      | commandCompleted id answer => exact reachable.radioStep_completed awaits id answer
      | interfaceDown status => exact reachable.radioStep_interfaceDown status
      | _ => cases ends
    · exact .react rfl (host.engine.leavesRadio_handle host.now (Bool.not_eq_true _ ▸ ends))
  | expireTransactions => exact .react rfl reachable.leavesRadio_expireTransactions
  | expireResponses =>
    obtain ⟨same, unsaid⟩ := radio_expireResponses coherent
    have same : (host.step .expireResponses).engine.interface = host.engine.interface := same
    rw [unsaid, same]
    exact .left .same
  | tick => exact reachable.radioStep_tick
  | shutdown =>
    refine .react rfl ?_
    rw [Engine.shutdown_eq coherent.filed]
    exact Engine.leavesRadio_giveUpAll coherent.filed.onFile_records .aborted
  | advance | replaceTransport =>
    rw [Host.told, emitted_of_out (List.append_nil _).symm]
    exact .left .same

/-! ## What the interface waits for -/

/-- **A configuration on file was asked for in the run**: every step keeps it so. -/
theorem Reachable.awaits_step (fresh : Reachable start) {acts : List (Act σ)}
    (awaits : (start.run acts).engine.AwaitsConfiguration (start.Asked acts)) (act : Act σ) :
    ((start.run acts).step act).engine.AwaitsConfiguration (start.Asked (acts ++ [act])) := by
  have reachable := fresh.run acts
  have coherent := (reachable.step act).coherent
  have step := reachable.radioStep awaits act
  intro id record onFile configure
  have caller : record.origin = .caller :=
    (coherent.superseded onFile (by simp [TransactionRecord.isSuperseded, configure])).2
  have awaited := coherent.awaited_of_onFile onFile (.inl configure)
  rw [configure] at awaited
  have cases_onFile := reachable.cases_onFile act onFile caller
  generalize radioReports ((start.run acts).told [act]) = reports,
    ((start.run acts).step act).engine.interface = next at step awaited
  cases step with
  | left recedes =>
    cases recedes with
    | back resting =>
      rw [resting] at awaited
      cases awaited
    | same =>
      rcases cases_onFile with
        ⟨before, alone, unanswered⟩ | ⟨request, dispatch, rfl, accepted, admitted, kind⟩
      · obtain ⟨request, initial, asked, staged, phase⟩ := awaits _ _ before configure
        exact ⟨request, initial, asked.extend fresh alone unanswered, staged, phase⟩
      · -- A configuration is accepted at rest only, and then the interface waits for it.
        rw [configure] at kind
        cases request with
        | enable request =>
          obtain ⟨-, -, -, resting⟩ := Engine.resting_of_vet_enable admitted
          rw [resting] at awaited
          cases awaited
        | _ => cases kind
  | asks request id' initial resting asks =>
    rcases cases_onFile with ⟨before, -⟩ | ⟨request', dispatch, same, accepted, -⟩
    · have busy := reachable.coherent.awaited_of_onFile before (.inl configure)
      rw [resting] at busy
      cases busy
    · have taken : (start.run acts).acceptedAt (.submit (.enable request)) =
          [(.enable request, id')] := by
        rw [acceptedAt, asks.accepted]
        rfl
      have both := (List.cons.inj (accepted.symm.trans taken)).1
      obtain ⟨rfl, rfl⟩ := Prod.mk.inj both
      refine ⟨request, initial, .now asks, rfl, ?_⟩
      have initially := asks.initially
      unfold Interface.beginEnable
      cases initial <;> simp_all
  | leaves => cases awaited
  | configured | disabled | fell => cases awaited

/-- So it is after any run. -/
theorem Reachable.awaits_run (fresh : Reachable start)
    (idle : start.engine.AwaitsConfiguration (start.Asked [])) (acts : List (Act σ)) :
    (start.run acts).engine.AwaitsConfiguration (start.Asked acts) := by
  induction acts using List.reverseRecOn with
  | nil => exact idle
  | append_singleton acts act ih =>
    rw [run_append]
    exact fresh.awaits_step ih act

/-! ## What is in force -/

/-- What is in force after a run, by what was told of the interface last. -/
inductive InForce (host : Host σ) : List (Act σ) → Option EnableRequest → Prop
  /-- Nothing was told. -/
  | never (acts : List (Act σ)) (unsaid : radioReports (host.told acts) = []) :
    InForce host acts none
  /-- A configuration was confirmed that had been asked for. -/
  | configured (before : List (Act σ)) (act : Act σ) (rest : List (Act σ)) (id : TransactionId)
    (request : EnableRequest) (initial : Bool) (asked : host.Asked before id request initial)
    (told : radioReports ((host.run before).told [act]) = [.configured id initial])
    (since : radioReports ((host.run (before ++ [act])).told rest) = []) :
    InForce host (before ++ act :: rest) (some request)
  /-- The interface has gone down. -/
  | down (before : List (Act σ)) (act : Act σ) (rest : List (Act σ))
    (told : radioReports ((host.run before).told [act]) = [.down])
    (since : radioReports ((host.run (before ++ [act])).told rest) = []) :
    InForce host (before ++ act :: rest) none

/-- In one way only can a run be parted at the last step in which something was told. -/
theorem Reachable.last_unique (reachable : Reachable host) {before before' rest rest' : List (Act σ)}
    {act act' : Act σ} (same : before ++ act :: rest = before' ++ act' :: rest')
    (told : radioReports ((host.run before).told [act]) ≠ [])
    (since : radioReports ((host.run (before ++ [act])).told rest) = [])
    (told' : radioReports ((host.run before').told [act']) ≠ [])
    (since' : radioReports ((host.run (before' ++ [act'])).told rest') = []) :
    before = before' ∧ act = act' := by
  -- The one that is longer would have what the other told last among what it told before.
  have apart {before rest more : List (Act σ)} {act last : Act σ}
      (told : radioReports ((host.run (before ++ act :: more)).told [last]) ≠ [])
      (since : radioReports ((host.run (before ++ [act])).told (more ++ last :: rest)) = []) :
      False := by
    rw [run_append_cons] at told
    exact told ((reachable.run (before ++ [act])).unsaid_within since)
  rcases List.append_eq_append_iff.mp same with ⟨more, rfl, parted⟩ | ⟨more, rfl, parted⟩
  · cases more with
    | nil => exact ⟨(List.append_nil _).symm, (List.cons.inj parted).1⟩
    | cons first more =>
      obtain ⟨rfl, rfl⟩ := List.cons.inj parted
      exact (apart told' since).elim
  · cases more with
    | nil => exact ⟨List.append_nil _, (List.cons.inj parted).1.symm⟩
    | cons first more =>
      obtain ⟨rfl, rfl⟩ := List.cons.inj parted
      exact (apart told since').elim

namespace InForce

variable {acts : List (Act σ)} {applied other : Option EnableRequest}

/-- It stays so while nothing is told of the interface. -/
theorem extend (reachable : Reachable host) (inForce : host.InForce acts applied) {act : Act σ}
    (unsaid : radioReports ((host.run acts).told [act]) = []) :
    host.InForce (acts ++ [act]) applied := by
  have later {first rest : List (Act σ)}
      (silent : radioReports (((host.run first).run rest).told [act]) = [])
      (since : radioReports ((host.run first).told rest) = []) :
      radioReports ((host.run first).told (rest ++ [act])) = [] := by
    rw [(reachable.run first).radioReports_append, since, silent]
    rfl
  cases inForce with
  | never acts silent =>
    refine .never _ ?_
    rw [reachable.radioReports_append, silent, unsaid]
    rfl
  | configured before first rest id request initial asked told since =>
    rw [run_append_cons] at unsaid
    rw [List.append_assoc, List.cons_append]
    exact .configured before first (rest ++ [act]) id request initial asked told
      (later unsaid since)
  | down before first rest told since =>
    rw [run_append_cons] at unsaid
    rw [List.append_assoc, List.cons_append]
    exact .down before first (rest ++ [act]) told (later unsaid since)

/-- **One thing is in force.** -/
theorem unique (reachable : Reachable host) (inForce : host.InForce acts applied)
    (inForce' : host.InForce acts other) : applied = other := by
  have said {reports : List RadioReport} {report : RadioReport} (told : reports = [report]) :
      reports ≠ [] := by simp [told]
  cases inForce with
  | never acts unsaid =>
    generalize same : acts = acts' at inForce'
    cases inForce' with
    | never => rfl
    | configured before act rest id request initial asked told =>
      exact absurd (reachable.unsaid_within (same ▸ unsaid)) (said told)
    | down => rfl
  | configured before act rest id request initial asked told since =>
    generalize same : before ++ act :: rest = acts at inForce'
    cases inForce' with
    | never acts unsaid => exact absurd (reachable.unsaid_within (same ▸ unsaid)) (said told)
    | configured before' act' rest' id' request' initial' asked' told' since' =>
      obtain ⟨rfl, rfl⟩ := reachable.last_unique same (said told) since (said told') since'
      obtain ⟨rfl, rfl⟩ := RadioReport.configured.inj (List.cons.inj (told.symm.trans told')).1
      rw [asked.unique asked']
    | down before' act' rest' told' since' =>
      obtain ⟨rfl, rfl⟩ := reachable.last_unique same (said told) since (said told') since'
      cases told.symm.trans told'
  | down before act rest told since =>
    generalize same : before ++ act :: rest = acts at inForce'
    cases inForce' with
    | never => rfl
    | configured before' act' rest' id' request' initial' asked' told' since' =>
      obtain ⟨rfl, rfl⟩ := reachable.last_unique same (said told) since (said told') since'
      cases told.symm.trans told'
    | down => rfl

end InForce

/-- **What is in force is what was confirmed last**: every step keeps it so. -/
theorem Reachable.inForce_step (fresh : Reachable start) {acts : List (Act σ)}
    (awaits : (start.run acts).engine.AwaitsConfiguration (start.Asked acts))
    (inForce : start.InForce acts (start.run acts).engine.interface.applied) (act : Act σ) :
    start.InForce (acts ++ [act]) ((start.run acts).step act).engine.interface.applied := by
  have step := (fresh.run acts).radioStep awaits act
  have nothing {reports : List RadioReport}
      (last : radioReports ((start.run acts).told [act]) = reports) :
      radioReports ((start.run (acts ++ [act])).told []) = [] := radioReports_told_nil _
  generalize last : radioReports ((start.run acts).told [act]) = reports at step
  generalize ((start.run acts).step act).engine.interface = next at step
  cases step with
  | left recedes =>
    rw [recedes.applied]
    exact inForce.extend fresh last
  | asks | leaves => exact inForce.extend fresh last
  | configured id record payload request initial onFile configure known =>
    exact .configured acts _ [] id request initial known last (nothing last)
  | disabled | fell => exact .down acts _ [] last (nothing last)

theorem Reachable.inForce_run (fresh : Reachable start)
    (idle : start.engine.AwaitsConfiguration (start.Asked []))
    (down : start.engine.interface.applied = none) (acts : List (Act σ)) :
    start.InForce acts (start.run acts).engine.interface.applied := by
  induction acts using List.reverseRecOn with
  | nil =>
    show start.InForce [] start.engine.interface.applied
    rw [down]
    exact .never [] (radioReports_told_nil start)
  | append_singleton acts act ih =>
    have step := fresh.inForce_step (fresh.awaits_run idle acts) ih act
    rw [run_append]
    exact step

/-! ## What leaves it in force -/

/-- What is done to a host that leaves in force what is. -/
inductive Spares (host : Host σ) : Act σ → Prop
  /-- A request, whatever the answer to it. -/
  | request (request : Request) : Spares host (.submit request)
  /-- A command is refused by the firmware. -/
  | refused (id : TransactionId) (status : FirmwareStatus) :
    Spares host (.handle (.commandCompleted id (.error status)))
  /-- An answer to no command on file. -/
  | late (id : TransactionId) (answer : Except FirmwareStatus AnswerPayload)
    (absent : host.engine.ledger.get? id = none) :
    Spares host (.handle (.commandCompleted id answer))
  /-- An answer to a command that neither configures nor disables the interface. -/
  | other (id : TransactionId) (answer : Except FirmwareStatus AnswerPayload)
    (record : TransactionRecord) (onFile : host.engine.ledger.get? id = some record)
    (notConfigure : record.kind ≠ .configure) (notDisable : record.kind ≠ .disable) :
    Spares host (.handle (.commandCompleted id answer))
  /-- A report on a session, on a path or on the discovery address. -/
  | report (event : FirmwareEvent) (ends : event.endsCommands = false) :
    Spares host (.handle event)
  /-- Commands whose time is up are given up. -/
  | expireTransactions : Spares host .expireTransactions
  /-- Peers that have waited too long are refused. -/
  | expireResponses : Spares host .expireResponses
  | tick : Spares host .tick
  /-- All commands are given up. -/
  | shutdown : Spares host .shutdown
  | advance (millis : UInt64) : Spares host (.advance millis)
  | replaceTransport (transport : σ) : Spares host (.replaceTransport transport)

/-- **These leave in force what is.** -/
theorem Reachable.applied_of_spares (reachable : Reachable host)
    (awaits : host.engine.AwaitsConfiguration asked) {act : Act σ} (spares : host.Spares act) :
    (host.step act).engine.interface.applied = host.engine.interface.applied := by
  have step := reachable.radioStep awaits act
  generalize radioReports (host.told [act]) = reports,
    (host.step act).engine.interface = next at step ⊢
  cases step with
  | left recedes => exact recedes.applied
  | asks | leaves => rfl
  | configured id record payload request initial onFile configure =>
    cases spares with
    | late _ _ absent => cases absent.symm.trans onFile
    | other _ _ record' onFile' notConfigure =>
      obtain rfl := Option.some.inj (onFile'.symm.trans onFile)
      exact absurd configure notConfigure
    | report _ ends => cases ends
  | disabled id record payload onFile disable =>
    cases spares with
    | late _ _ absent => cases absent.symm.trans onFile
    | other _ _ record' onFile' _ notDisable =>
      obtain rfl := Option.some.inj (onFile'.symm.trans onFile)
      exact absurd disable notDisable
    | report _ ends => cases ends
  | fell status =>
    cases spares with
    | report _ ends => cases ends

/-- Once the interface has gone down, no command about it is on file but queries. -/
theorem Reachable.idle_interfaceDown (reachable : Reachable host) (status : FirmwareStatus)
    {id : TransactionId} {record : TransactionRecord}
    (onFile : (host.handle (.interfaceDown status)).engine.ledger.get? id = some record) :
    record.isSuperseded = false := by
  have coherent := (reachable.step (.handle (.interfaceDown status))).coherent
  have same : (host.handle (.interfaceDown status)).engine =
    (host.engine.onInterfaceDown status).1 := engine_handle _ _
  have down : (host.handle (.interfaceDown status)).engine.interface.phase = .disabled := by
    rw [same]
    by_cases already : host.engine.interface.phase = .disabled
    · rw [reachable.coherent.onInterfaceDown_of_down already]
      exact already
    · rw [(reachable.coherent.down_onInterfaceDown already status).1]
      rfl
  rw [← Bool.not_eq_true]
  intro superseded
  simp only [TransactionRecord.isSuperseded, decide_eq_true_eq] at superseded
  have awaited : (host.handle (.interfaceDown status)).engine.interface.phase.awaited = _ :=
    coherent.awaited_of_onFile onFile superseded
  rw [down] at awaited
  cases awaited

/-! ## Runs -/

/-- **What is in force, in every run.** -/
structure Configures (start : Host σ) : Prop where
  /-- It is what was confirmed last, or nothing if the interface has gone down since. -/
  applied : ∀ acts request, (start.run acts).engine.interface.applied = request ↔
    start.InForce acts request
  /-- What is confirmed was asked for. The caller is told whether it was the first configuration
  since the interface was down, as the firmware was. -/
  confirmed : ∀ acts act id initial,
    .configured id initial ∈ radioReports ((start.run acts).told [act]) →
      ∃ request, start.Asked acts id request initial
  /-- Nothing else affects it. -/
  spared : ∀ acts act, (start.run acts).Spares act →
    (start.run (acts ++ [act])).engine.interface.applied =
      (start.run acts).engine.interface.applied
  /-- Once the interface has gone down, an answer to a command that was asked for before does not
  affect it, however late it comes. -/
  superseded : ∀ acts status later id answer,
    (start.run (acts ++ [.handle (.interfaceDown status)])).requestOf later id = none →
      (start.run (acts ++ [.handle (.interfaceDown status)] ++ later ++
          [.handle (.commandCompleted id answer)])).engine.interface.applied =
        (start.run (acts ++ [.handle (.interfaceDown status)] ++ later)).engine.interface.applied

/-- **What is in force is what was confirmed last**, in every run from a fresh host. -/
theorem run_configures (config : EngineConfig) (transport : σ) (now : Timestamp) :
    (Host.new config transport now).Configures := by
  have fresh : Reachable (Host.new config transport now) := .new config transport now
  have idle : (Host.new config transport now).engine.AwaitsConfiguration
      ((Host.new config transport now).Asked []) := by
    intro id record onFile
    simp [Host.new, Engine.new] at onFile
  have down : (Host.new config transport now).engine.interface.applied = none := rfl
  generalize Host.new config transport now = start at fresh idle down
  have awaits (acts : List (Act σ)) := fresh.awaits_run idle acts
  constructor
  case applied =>
    intro acts request
    have inForce := fresh.inForce_run idle down acts
    constructor
    · rintro rfl
      exact inForce
    · intro other
      exact inForce.unique fresh other
  case confirmed =>
    intro acts act id initial reported
    have step := (fresh.run acts).radioStep (awaits acts) act
    generalize radioReports ((start.run acts).told [act]) = reports at step reported
    generalize ((start.run acts).step act).engine.interface = next at step
    cases step with
    | configured id' record payload request initial' onFile configure known =>
      obtain ⟨rfl, rfl⟩ := RadioReport.configured.inj (List.mem_singleton.mp reported)
      exact ⟨request, known⟩
    | left | asks | leaves => cases reported
    | disabled | fell => cases List.mem_singleton.mp reported
  case spared =>
    intro acts act spares
    rw [run_append]
    exact (fresh.run acts).applied_of_spares (awaits acts) spares
  case superseded =>
    intro acts status later id answer unasked
    have reachable := fresh.run (acts ++ [.handle (.interfaceDown status)])
    rw [run_append _ (_ ++ later), run_append _ _ later]
    have leaves := (reachable.run later).coherent.leavesRadio_refused id answer ?_
    · show (((start.run _).run later).handle (.commandCompleted id answer)).engine.interface.applied
        = _
      rw [engine_handle]
      exact leaves.recedes.applied
    · intro record payload onFile _
      rw [← Bool.not_eq_true]
      intro superseded
      have caller := ((reachable.run later).coherent.superseded onFile superseded).2
      have before := reachable.onFile_of_unasked onFile caller unasked
      rw [run_append] at before
      have idle := (fresh.run acts).idle_interfaceDown status before
      rw [superseded] at idle
      cases idle

end Host

end NanHost
