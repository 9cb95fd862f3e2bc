import NanHost.Proofs.Host.Lifetime

/-!
# Closings — the ends of sessions and paths that callers ask for

A caller who wants to end a session or a path gets a completion for it, whatever else happens to the
entry meanwhile. Which of the completions these are is told by the ledger: in the step that reports
one, the command was on file before, about that entry.

## What is proved

- `Reachable.closed_balance`: under every number, what was reported of the ends of an entry and what is
  on file of them is what was on file before and accepted since.
- `Reachable.closed_perm`: so, of an entry that was not there and is not there again, just those ends
  were reported that were accepted.
- `Reachable.closings_eq`: and just those were handed to the firmware.
-/

namespace NanHost

/-! ## Ends -/

/-- The entry that a request is to end. -/
def Request.closes? : Request → Option Place
  | stopPublish id | stopSubscribe id => some (.session id)
  | endDataPath id => some (.path id)
  | _ => none

/-- The entry that a command is to end. -/
def Command.closes? : Command → Option Place
  | stopPublish id | stopSubscribe id => some (.session id)
  | endDataPath id => some (.path id)
  | _ => none

/-- The entry that a command on file is to end. -/
def TransactionRecord.closes? (record : TransactionRecord) : Option Place :=
  match record.kind, record.context with
  | .stopPublish, .session id | .stopSubscribe, .session id => some (.session id)
  | .endDataPath, .dataPath id => some (.path id)
  | _, _ => none

theorem TransactionRecord.closes?_session {record : TransactionRecord} {id : SessionId} :
    record.closes? = some (.session id) ↔
      (record.kind = .stopPublish ∨ record.kind = .stopSubscribe) ∧
        record.context = .session id := by
  grind [closes?]

theorem TransactionRecord.closes?_path {record : TransactionRecord} {id : DataPathId} :
    record.closes? = some (.path id) ↔
      record.kind = .endDataPath ∧ record.context = .dataPath id := by
  grind [closes?]

/-- The number of a command that was handed over to end an entry. -/
def Effect.closing? (place : Place) : Effect → Option TransactionId
  | issued txn command => if command.closes? = some place then some txn else none
  | _ => none

/-- What is handed over to end an entry concerns it. -/
theorem Effect.place?_of_closing? {effect : Effect} {place : Place} {txn : TransactionId}
    (closing : effect.closing? place = some txn) : effect.place? = some place := by
  cases effect with
  | issued number command =>
    simp only [Effect.closing?] at closing
    split at closing
    next closes =>
      cases command with
      | stopPublish | stopSubscribe | endDataPath => exact closes
      | _ => cases closes
    next => cases closing
  | _ => cases closing

/-- The numbers under which ends of an entry have been handed to the firmware, by what has come
out. -/
def closingsIn (place : Place) (log : List Effect) : List TransactionId :=
  log.filterMap (·.closing? place)

theorem closingsIn_append (place : Place) (log effects : List Effect) :
    closingsIn place (log ++ effects) = closingsIn place log ++ closingsIn place effects :=
  List.filterMap_append

theorem closingsIn_of_quiet {place : Place} {effects : List Effect} (quiet : Quiet place effects) :
    closingsIn place effects = [] := by
  refine List.filterMap_eq_nil_iff.mpr fun effect member => ?_
  cases closing : effect.closing? place with
  | none => rfl
  | some txn => exact absurd (Effect.place?_of_closing? closing) (quiet effect member)

/-- Whether the end of an entry is on file under a number. -/
def Ledger.awaitsClosing (ledger : Ledger) (place : Place) (txn : TransactionId) : Bool :=
  (ledger.get? txn).any fun record => record.closes? = some place

theorem Ledger.awaitsClosing_iff {ledger : Ledger} {place : Place} {txn : TransactionId} :
    ledger.awaitsClosing place txn = true ↔
      ∃ record, ledger.get? txn = some record ∧ record.closes? = some place := by
  rw [awaitsClosing, Option.any_eq_true]
  simp only [decide_eq_true_eq]

namespace Engine

variable {engine : Engine}

/-- A request is to end what its command and its record are to end. -/
theorem closes?_of_vet {request : Request} {dispatch : Dispatch}
    (admitted : engine.vet request = .ok dispatch) :
    dispatch.command.closes? = request.closes? ∧
      ∀ record : TransactionRecord, record.kind = dispatch.command.kind →
        record.context = dispatch.context → record.closes? = request.closes? := by
  have same := kind_of_vet admitted
  cases request with
  | stopPublish id | stopSubscribe id =>
    obtain ⟨rfl, _⟩ := vetStop_ok admitted
    refine ⟨rfl, fun record kind context => ?_⟩
    rw [TransactionRecord.closes?, kind, context]
    rfl
  | endDataPath id =>
    obtain ⟨rfl, _⟩ := vetEnd_ok admitted
    refine ⟨rfl, fun record kind context => ?_⟩
    rw [TransactionRecord.closes?, kind, context]
    rfl
  | _ =>
    constructor
    · generalize dispatch.command = command at same
      cases command <;> first | rfl | cases same
    · intro record kind _
      rw [TransactionRecord.closes?, kind, same]
      rfl

/-- An end is on file at the request of a caller, and about an entry that is there. -/
theorem Coherent.closes (coherent : engine.Coherent) {txn : TransactionId}
    {record : TransactionRecord} {place : Place} (onFile : engine.ledger.get? txn = some record)
    (closes : record.closes? = some place) :
    record.origin = .caller ∧ engine.holds place = true := by
  have commission : Commission record.kind record.context record.origin :=
    coherent.commissioned onFile
  cases place with
  | session id =>
    obtain ⟨_, context⟩ := TransactionRecord.closes?_session.mp closes
    rw [context] at commission
    have sessions : engine.sessions.Agrees _ := coherent.agrees .sessions
    obtain ⟨session, found, _⟩ := sessions.session_of_out
      (Ledger.docket_eq_some.mpr ⟨onFile, by rw [context]; rfl⟩) context
    exact ⟨commission.caller_of_ne (by simp), by rw [holds, found]; rfl⟩
  | path id =>
    obtain ⟨kind, context⟩ := TransactionRecord.closes?_path.mp closes
    have paths : engine.paths.Agrees _ := coherent.agrees .paths
    obtain ⟨path, found, _⟩ := paths.path_of_out
      (Ledger.docket_eq_some.mpr ⟨onFile, by rw [context]; rfl⟩) context
    refine ⟨?_, by rw [holds, found]; rfl⟩
    generalize record.kind = kind', record.context = context', record.origin = origin at *
    cases commission with
    | respond => cases kind
    | _ => rfl

end Engine

namespace Host

variable {σ : Type} [Transport σ] {host : Host σ} {place : Place}

/-- The numbers under which a run accepts requests to end an entry. -/
def closings (host : Host σ) (place : Place) (acts : List (Act σ)) : List TransactionId :=
  ((host.accepted acts).filter (·.1.closes? = some place)).map (·.2)

/-- The completions among what has come out. -/
def completionsIn (effects : List Effect) : List Completion :=
  NanHost.completions (effects.filterMap (·.notification?))

theorem completionsIn_append (log effects : List Effect) :
    completionsIn (log ++ effects) = completionsIn log ++ completionsIn effects := by
  rw [completionsIn, List.filterMap_append, completions_append]
  rfl

theorem mem_completionsIn {completion : Completion} {effects : List Effect} :
    completion ∈ completionsIn effects ↔ .told (.completed completion) ∈ effects := by
  unfold completionsIn NanHost.completions
  rw [List.mem_filterMap]
  constructor
  · rintro ⟨notice, member, same⟩
    obtain ⟨effect, here, same'⟩ := List.mem_filterMap.mp member
    cases effect with
    | told notification =>
      obtain rfl := Option.some.inj same'
      cases notification with
      | completed other =>
        obtain rfl := Option.some.inj same
        exact here
      | _ => cases same
    | _ => cases same'
  · exact fun member => ⟨.completed completion, List.mem_filterMap.mpr ⟨_, member, rfl⟩, rfl⟩

/-- The numbers under which a step reports that the end of an entry has ended. -/
def closedAt (host : Host σ) (place : Place) (act : Act σ) : List TransactionId :=
  ((completionsIn (host.emitted [act])).map (·.id)).filter (host.engine.ledger.awaitsClosing place)

/-- The numbers under which a run reports that the end of an entry has ended. -/
def closed (host : Host σ) (place : Place) : List (Act σ) → List TransactionId
  | [] => []
  | act :: rest => host.closedAt place act ++ (host.step act).closed place rest

/-! ## Balance -/

theorem Reachable.completions_step (reachable : Reachable host) (act : Act σ) :
    (host.step act).completions = host.completions ++ completionsIn (host.emitted [act]) := by
  have out : (host.step act).effects.toList = _ := reachable.effects_run [act]
  unfold completions completionsIn notifications
  rw [Array.toList_filterMap, Array.toList_filterMap, out, List.filterMap_append,
    completions_append]

/-- How many ends of an entry are on file under a number. -/
def owing (host : Host σ) (place : Place) (txn : TransactionId) : Nat :=
  (host.engine.ledger.awaitsClosing place txn).toNat

/-- A step that accepts nothing reports an end that has left the ledger. -/
theorem Reachable.closedAt_balance (reachable : Reachable host) (act : Act σ)
    (nobody : host.acceptedAt act = []) (txn : TransactionId) :
    (host.closedAt place act).count txn + (host.step act).owing place txn =
      host.owing place txn := by
  obtain ⟨reports, told, paid⟩ := balanced_step reachable.coherent act
  have same : completionsIn (host.emitted [act]) = reports :=
    List.append_cancel_left ((reachable.completions_step act).symm.trans told)
  have paid := congrArg List.length (paid txn)
  rw [nobody, acceptedFor, List.filter_nil, List.map_nil, List.append_nil, List.length_append,
    length_owed, length_owed, length_reportedFor] at paid
  have nothingNew := nothingNew_step reachable.coherent act nobody
  have coherent := (reachable.step act).coherent
  unfold closedAt owing
  rw [same]
  cases before : host.engine.ledger.awaitsClosing place txn with
  | false =>
    have none' : (host.step act).engine.ledger.awaitsClosing place txn = false := by
      rw [Bool.eq_false_iff, ne_eq, Ledger.awaitsClosing_iff] at before ⊢
      rintro ⟨record, onFile, closes⟩
      exact before ⟨record, nothingNew _ _ onFile (coherent.closes onFile closes).1, closes⟩
    rw [none', List.count_eq_zero_of_not_mem (by simp [before])]
    rfl
  | true =>
    obtain ⟨record, onFile, closes⟩ := Ledger.awaitsClosing_iff.mp before
    have caller := (reachable.coherent.closes onFile closes).1
    -- A caller has the number on file afterwards only if it is this command still.
    have still : (host.step act).engine.ledger.awaitsClosing place txn =
        ((host.step act).engine.ledger.get? txn).any (·.origin = .caller) := by
      rw [Bool.eq_iff_iff, Ledger.awaitsClosing_iff, Option.any_eq_true]
      constructor
      · rintro ⟨other, onFile', closes'⟩
        exact ⟨other, onFile', decide_eq_true (coherent.closes onFile' closes').1⟩
      · rintro ⟨other, onFile', caller'⟩
        obtain rfl := Option.some.inj
          (onFile.symm.trans (nothingNew _ _ onFile' (of_decide_eq_true caller')))
        exact ⟨record, onFile', closes⟩
    rw [still, List.count_filter before]
    have counted : (reports.map (·.id)).count txn = reports.countP (·.id = txn) := by
      rw [List.count, List.countP_map]
      rfl
    rw [onFile, Option.any_some, caller] at paid
    rw [counted]
    generalize ((host.step act).engine.ledger.get? txn).any _ = out at paid ⊢
    cases out <;> simpa using paid

/-- What a step reports of the ends of an entry, and leaves of them on file, was on file before or is
accepted in it. -/
theorem Reachable.closed_balance_step (reachable : Reachable host) (place : Place) (act : Act σ)
    (txn : TransactionId) :
    (host.closedAt place act).count txn + (host.step act).owing place txn =
      (host.closings place [act]).count txn + host.owing place txn := by
  have accepted : host.accepted [act] = host.acceptedAt act := List.append_nil _
  by_cases nobody : host.acceptedAt act = []
  · rw [reachable.closedAt_balance act nobody, closings, accepted, nobody]
    exact (Nat.zero_add _).symm
  · cases act with
    | submit request =>
      have silent : completionsIn (host.emitted [.submit request]) = [] := by
        have told := reachable.completions_step (.submit request)
        rw [show (host.step (.submit request)).completions = host.completions from
          completions_submit reachable.coherent.filed request] at told
        exact List.self_eq_append_right.mp told
      have fate := submit_submission reachable.coherent.filed request
      have nobody : acceptedBy request (host.submit request).1 ≠ [] := nobody
      have one : host.acceptedAt (.submit request) = acceptedBy request (host.submit request).1 :=
        rfl
      unfold closedAt closings owing
      rw [silent, accepted, one]
      show _ + ((host.submit request).2.engine.ledger.awaitsClosing place txn).toNat = _
      generalize host.submit request = outcome at fate nobody
      cases fate with
      | unfit | full | refused => exact absurd rfl nobody
      | taken dispatch transport admitted opens sent =>
        have closes := (Engine.closes?_of_vet admitted).2 _ opens.kind opens.context
        unfold Ledger.awaitsClosing
        dsimp only [acceptedBy]
        rw [ledger_stage, Engine.ledger_upon, Ledger.get?_file]
        by_cases same : txn = (host.recordFor dispatch .caller).id
        · rw [if_pos same, same, opens.fresh, Option.any_some, closes]
          by_cases about : request.closes? = some place <;> simp [about]
        · rw [if_neg same]
          by_cases about : request.closes? = some place <;> simp [about, Ne.symm same]
    | _ => exact absurd rfl nobody

theorem closings_cons (host : Host σ) (place : Place) (act : Act σ)
    (rest : List (Act σ)) :
    host.closings place (act :: rest) =
      host.closings place [act] ++ (host.step act).closings place rest := by
  have one : host.accepted [act] = host.acceptedAt act := List.append_nil _
  unfold closings
  rw [one, accepted, List.filter_append, List.map_append]

/-- **What is reported of the ends of an entry, and left of them on file, was on file before or
accepted since.** -/
theorem Reachable.closed_balance (reachable : Reachable host) (place : Place)
    (acts : List (Act σ)) (txn : TransactionId) :
    (host.closed place acts).count txn + (host.run acts).owing place txn =
      (host.closings place acts).count txn + host.owing place txn := by
  induction acts generalizing host with
  | nil => rfl
  | cons act rest ih =>
    have first := reachable.closed_balance_step place act txn
    have second : _ + (host.run (act :: rest)).owing place txn = _ := ih (reachable.step act)
    rw [closings_cons, closed, List.count_append, List.count_append]
    omega

/-- Of an entry that is not there no end is on file. -/
theorem Reachable.owing_eq_zero (reachable : Reachable host)
    (vacant : host.engine.holds place = false) (txn : TransactionId) :
    host.owing place txn = 0 := by
  refine Bool.toNat_eq_zero.mpr (Bool.eq_false_iff.mpr fun awaits => ?_)
  obtain ⟨record, onFile, closes⟩ := Ledger.awaitsClosing_iff.mp awaits
  have there := (reachable.coherent.closes onFile closes).2
  rw [vacant] at there
  cases there

/-- **Of an entry that was not there and is not there again, just those ends were reported that were
accepted.** -/
theorem Reachable.closed_perm (reachable : Reachable host) {acts : List (Act σ)}
    (vacant : host.engine.holds place = false)
    (gone : (host.run acts).engine.holds place = false) :
    (host.closed place acts).Perm (host.closings place acts) := by
  refine List.perm_iff_count.mpr fun txn => ?_
  have balance := reachable.closed_balance place acts txn
  rw [reachable.owing_eq_zero vacant, (reachable.run acts).owing_eq_zero gone] at balance
  exact balance

/-! ## Handed over -/

/-- The numbers under which ends of an entry have been handed to the firmware. -/
def closingsOut (host : Host σ) (place : Place) : List TransactionId :=
  closingsIn place host.effects.toList

omit [Transport σ] in
theorem closingsOut_react (host : Host σ) (place : Place) (reaction : Reaction) :
    (host.react reaction).closingsOut place = host.closingsOut place := by
  unfold closingsOut
  rw [effects_react, closingsIn_append]
  simp [closingsIn, Effect.closing?]

omit [Transport σ] in
theorem closingsOut_push {next : Host σ} {effect : Effect}
    (pushed : next.effects = host.effects.push effect) (silent : effect.closing? place = none) :
    next.closingsOut place = host.closingsOut place := by
  unfold closingsOut
  rw [pushed, Array.toList_push, closingsIn_append]
  simp [closingsIn, silent]

theorem closingsOut_refuseOverdue (filed : host.engine.ledger.WellFiled) (path : DataPathId) :
    (host.refuseOverdue path).closingsOut place = host.closingsOut place := by
  have told : (host.tell (.dataPathTerminated path .responseTimeout)).closingsOut place =
      host.closingsOut place := closingsOut_push rfl rfl
  have fate := refuseOverdue_refusal filed path
  generalize host.refuseOverdue path = next at fate
  cases fate with
  | full noRoom => exact told
  | taken | refused => exact (closingsOut_push rfl rfl).trans told

theorem closingsOut_expireResponses (coherent : host.engine.Coherent) :
    host.expireResponses.2.closingsOut place = host.closingsOut place :=
  (expireResponses_keeps (·.closingsOut place = host.closingsOut place) coherent rfl
    fun _ path coherent same => (closingsOut_refuseOverdue coherent.filed path).trans same).2

/-- A step hands over just those ends of an entry that it accepts. -/
theorem closingsOut_step (coherent : host.engine.Coherent) (act : Act σ) :
    (host.step act).closingsOut place = host.closingsOut place ++ host.closings place [act] := by
  have accepted : host.accepted [act] = host.acceptedAt act := List.append_nil _
  unfold closings
  rw [accepted]
  cases act with
  | submit request =>
    have fate := submit_submission coherent.filed request
    show (host.submit request).2.closingsOut place = host.closingsOut place ++
      ((acceptedBy request (host.submit request).1).filter _).map _
    generalize host.submit request = outcome at fate
    cases fate with
    | unfit | full => exact (List.append_nil _).symm
    | refused => exact (closingsOut_push rfl rfl).trans (List.append_nil _).symm
    | taken dispatch transport admitted opens sent =>
      have closes := (Engine.closes?_of_vet admitted).1
      unfold closingsOut
      rw [Array.toList_push, closingsIn_append]
      by_cases about : request.closes? = some place <;>
        simp [closingsIn, Effect.closing?, acceptedBy, closes, about]
  | handle | expireTransactions | shutdown =>
    exact (closingsOut_react ..).trans (List.append_nil _).symm
  | expireResponses => exact (closingsOut_expireResponses coherent).trans (List.append_nil _).symm
  | tick =>
    exact (closingsOut_expireResponses (expireTransactions_coherent coherent)).trans
      ((closingsOut_react ..).trans (List.append_nil _).symm)
  | advance | replaceTransport => exact (List.append_nil _).symm

theorem closingsOut_run (coherent : host.engine.Coherent) (acts : List (Act σ)) :
    (host.run acts).closingsOut place = host.closingsOut place ++ host.closings place acts := by
  induction acts generalizing host with
  | nil => exact (List.append_nil _).symm
  | cons act rest ih =>
    rw [closings_cons, ← List.append_assoc, ← closingsOut_step coherent]
    exact ih (step_coherent coherent act)

/-- **Just those ends of an entry are handed to the firmware that are accepted.** -/
theorem Reachable.closings_eq (reachable : Reachable host) (place : Place) (acts : List (Act σ)) :
    host.closings place acts = closingsIn place (host.emitted acts) := by
  have both : (host.run acts).closingsOut place = _ := closingsOut_run reachable.coherent acts
  rw [closingsOut, reachable.effects_run, closingsIn_append] at both
  exact (List.append_cancel_left both).symm

end Host

end NanHost
