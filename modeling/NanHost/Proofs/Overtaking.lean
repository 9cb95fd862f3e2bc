import NanHost.Proofs.Agreement.Arrivals
import NanHost.Proofs.Host.Reachable

/-!
# Overtaking — it does not matter whether a path is reported before or after it is numbered

The firmware numbers a path in its answer to an initiation, and reports on the path under that
number. Nothing keeps a report from overtaking the answer. A report about a number that is not in the
table is held back as long as an initiation is under way, since that initiation may turn out to be
the one that is given the number.

## What is proved

`Host.run_overtaking`: while an initiation is under way, reports about a number that is not in the
table may be delivered before or after the answer to the initiation. The host is the same in the end,
to the last notification and its place in the record, whatever the answer is: the number in question,
another one, one that cannot be used, or a failure.

The proof follows one report that is held back (`Engine.hold`) through the answer. If the answer
brings its number, the report is the last to be replayed (`replayHeld_hold_self`). If it brings
another number, the report is not touched (`replayHeld_hold_of_ne`), unless no initiation is left to
claim it; then it is forgotten, and delivered afterwards it would have been ignored.
-/

namespace NanHost

/-- Whether an event reports that the path of a number was confirmed or has ended. -/
def FirmwareEvent.isPathReport (id : DataPathId) : FirmwareEvent → Bool
  | dataPathConfirmed path .. => path = id
  | dataPathTerminated path _ => path = id
  | _ => false

/-! ## The table -/

namespace DataPathTable

variable {table : DataPathTable} {id other : DataPathId} {txn : TransactionId}

/-- Two tables that hold the same events back, and otherwise are one, are equal. -/
theorem ext_held {first second : DataPathTable} (paths : first.paths = second.paths)
    (initiating : first.initiating = second.initiating) (graceMs : first.graceMs = second.graceMs)
    (held : ∀ key : DataPathId, first.held[key]? = second.held[key]?) : first = second := by
  have maps : first.held = second.held := Std.ExtTreeMap.ext_getElem? fun key => held key
  cases first
  cases second
  simp_all

/-- What is held back for a number after one event more was. -/
theorem getElem?_held_hold (event : HeldEvent) (key : DataPathId) :
    (table.hold id event).held[key]? =
      if key = id then some ((table.held[id]?).getD [] ++ [event]) else table.held[key]? :=
  Tables.getElem?_insert table.held id key _

/-- What is held back for a number after the events of one were taken. -/
theorem getElem?_held_takeHeld (key : DataPathId) :
    (table.takeHeld id).2.held[key]? = if key = id then none else table.held[key]? :=
  Tables.getElem?_erase table.held id key

/-- Events about different numbers are held back independently of each other. -/
theorem hold_hold_of_ne (apart : other ≠ id) (event event' : HeldEvent) :
    (table.hold id event).hold other event' = (table.hold other event').hold id event := by
  refine ext_held rfl rfl rfl fun key => ?_
  simp only [getElem?_held_hold, if_neg apart, if_neg apart.symm]
  by_cases here : key = other
  · simp [here, apart]
  · simp [here]

theorem purge_hold (table : DataPathTable) (id other : DataPathId) (event : HeldEvent) :
    (table.hold id event).purge other = (table.purge other).hold id event := by
  rw [purge_eq, purge_eq]
  rfl

/-! ### Reports about another number -/

theorem onConfirmed_hold_of_ne (apart : other ≠ id) (event : HeldEvent) (accepted : Bool)
    (peerInterface : MacAddress) (appInfo : ByteArray) (status : FirmwareStatus) :
    (table.hold id event).onConfirmed other accepted peerInterface appInfo status =
      ((table.onConfirmed other accepted peerInterface appInfo status).1,
        (table.onConfirmed other accepted peerInterface appInfo status).2.hold id event) := by
  have view : (table.hold id event).get? other = table.get? other := rfl
  have initiating : (table.hold id event).initiating = table.initiating := rfl
  unfold onConfirmed
  rw [view, initiating]
  cases table.get? other with
  | none =>
    dsimp only
    split
    · rfl
    · rw [hold_hold_of_ne apart]
  | some path =>
    dsimp only
    split
    · rfl
    · split
      · rfl
      · exact congrArg (Prod.mk _) (purge_hold (table.put other path.terminated) id other event)

theorem onTerminated_hold_of_ne (apart : other ≠ id) (event : HeldEvent)
    (status : FirmwareStatus) :
    (table.hold id event).onTerminated other status =
      ((table.onTerminated other status).1, (table.onTerminated other status).2.hold id event) := by
  have view : (table.hold id event).get? other = table.get? other := rfl
  have initiating : (table.hold id event).initiating = table.initiating := rfl
  unfold onTerminated
  rw [view, initiating]
  cases table.get? other with
  | none =>
    dsimp only
    split
    · rfl
    · rw [hold_hold_of_ne apart]
  | some path =>
    dsimp only
    split
    · rfl
    · exact congrArg (Prod.mk _)
        (purge_hold (table.put other path.terminated.withoutDeadline) id other event)

/-! ### Events that are taken or forgotten -/

/-- The event that was held back last is the last to be taken. -/
theorem takeHeld_hold_self (event : HeldEvent) :
    (table.hold id event).takeHeld id =
      ((table.takeHeld id).1 ++ [event], (table.takeHeld id).2) := by
  refine Prod.ext ?_ (ext_held rfl rfl rfl fun key => ?_)
  · simp only [takeHeld, getElem?_held_hold, if_true, Option.getD_some]
  · simp only [getElem?_held_takeHeld, getElem?_held_hold]
    split <;> rfl

/-- Events of another number are taken past it. -/
theorem takeHeld_hold_of_ne (apart : other ≠ id) (event : HeldEvent) :
    (table.hold id event).takeHeld other =
      ((table.takeHeld other).1, (table.takeHeld other).2.hold id event) := by
  refine Prod.ext ?_ (ext_held rfl rfl rfl fun key => ?_)
  · simp only [takeHeld, getElem?_held_hold, if_neg apart]
  · simp only [getElem?_held_takeHeld, getElem?_held_hold, if_neg apart.symm]
    by_cases here : key = other
    · simp [here, apart]
    · simp [here]

/-- An event is kept with those of its own number, and forgotten with those of any other. -/
theorem onlyHeld_hold (event : HeldEvent) (keep : Option DataPathId) :
    (table.hold id event).onlyHeld keep =
      if keep = some id then (table.onlyHeld keep).hold id event else table.onlyHeld keep := by
  cases keep with
  | none => rfl
  | some number =>
    by_cases same : number = id
    · subst same
      rw [if_pos rfl]
      refine ext_held rfl rfl rfl fun key => ?_
      simp only [onlyHeld, getElem?_held_hold, if_true, Option.elim_some]
      cases table.held[number]? with
      | none =>
        simp only [Tables.getElem?_insert, Option.elim_none]
        split <;> simp
      | some events =>
        simp only [Tables.getElem?_insert, Option.elim_some, if_true, Option.getD_some]
        split <;> rfl
    · rw [if_neg (by simpa using same)]
      refine ext_held rfl rfl rfl fun key => ?_
      simp only [onlyHeld, getElem?_held_hold, if_neg same]

/-! ### The answer to an initiation -/

theorem enterInitiated_hold (event : HeldEvent) (request : InitiateRequest)
    (assigned : Except Failure DataPathId) :
    (table.hold id event).enterInitiated request assigned =
      ((table.enterInitiated request assigned).1,
        (table.enterInitiated request assigned).2.hold id event) := by
  have paths : (table.hold id event).paths = table.paths := rfl
  unfold enterInitiated
  rw [paths]
  cases assigned with
  | error failure => rfl
  | ok number =>
    dsimp only
    split
    · rfl
    · split <;> rfl

/-- An event that is held back stays so, unless no initiation is left and another number was
given. -/
theorem closing_hold (event : HeldEvent) (given : Option DataPathId) :
    (table.hold id event).closing given =
      if table.initiating.isEmpty = true ∧ given ≠ some id then table.closing given
      else (table.closing given).hold id event := by
  have kept : (table.hold id event).initiating = table.initiating := rfl
  unfold closing
  rw [kept]
  by_cases last : table.initiating.isEmpty = true
  · rw [if_pos last, if_pos last, onlyHeld_hold]
    by_cases same : given = some id <;> simp [last, same]
  · rw [if_neg last, if_neg last, if_neg fun both => last both.1]

/-- **An event that is held back stays so when an initiation ends**, unless no initiation is left and
its number was not given. -/
theorem resolveInitiate_hold (initiating : txn ∈ table.initiating) (event : HeldEvent)
    (assigned : Except Failure DataPathId) :
    (table.hold id event).resolveInitiate txn assigned =
      ((table.resolveInitiate txn assigned).1,
        if (table.resolveInitiate txn assigned).2.initiating.isEmpty = true ∧
          (table.resolveInitiate txn assigned).1 ≠ .ok id
        then (table.resolveInitiate txn assigned).2
        else (table.resolveInitiate txn assigned).2.hold id event) := by
  obtain ⟨request, found⟩ := Option.isSome_iff_exists.mp
    (Std.ExtTreeMap.mem_iff_isSome_getElem?.mp initiating)
  have found' : (table.hold id event).initiating[txn]? = some request := found
  have left : { table.hold id event with
      initiating := (table.hold id event).initiating.erase txn } =
        { table with initiating := table.initiating.erase txn }.hold id event := rfl
  have named (result : Except Failure DataPathId) :
      result.toOption ≠ some id ↔ result ≠ .ok id := by
    cases result <;> simp [Except.toOption]
  rw [resolveInitiate_of_found found, resolveInitiate_of_found found', left, enterInitiated_hold]
  simp only [closing_hold, initiating_closing, named]

/-- The path of a number that was not given is what it was. -/
theorem get?_resolveInitiate_of_ne {assigned : Except Failure DataPathId}
    (apart : (table.resolveInitiate txn assigned).1 ≠ .ok other) :
    (table.resolveInitiate txn assigned).2.get? other = table.get? other := by
  rcases table.resolveInitiate_cases txn assigned with
    ⟨failure, _, paths⟩ | ⟨number, request, _, _, given, entered⟩
  · rw [get?, paths]
    rfl
  · have differs : other ≠ number := fun same => apart (same ▸ given)
    rw [entered, if_neg differs]

end DataPathTable

/-! ## The engine -/

namespace Engine

variable {engine : Engine} {id other : DataPathId} {txn : TransactionId}
  {record : TransactionRecord}

/-- The engine with an event held back. -/
def hold (engine : Engine) (id : DataPathId) (event : HeldEvent) : Engine :=
  { engine with paths := engine.paths.hold id event }

/-- Two sweeps one after the other are one. -/
theorem sweep_append {α : Type} (engine : Engine) (first second : List α)
    (react : Engine → α → Reaction) :
    engine.sweep (first ++ second) react =
      (((engine.sweep first react).1.sweep second react).1,
        (engine.sweep first react).2 ++ ((engine.sweep first react).1.sweep second react).2) := by
  induction first generalizing engine with
  | nil => rfl
  | cons item rest ih =>
    rw [List.cons_append, sweep_cons, sweep_cons, ih]
    simp only [List.append_assoc]

/-! ### Reports about one number -/

/-- What replaying events about one number leaves alone: the other paths, and the initiations. -/
structure Spares (before after : Engine) (id : DataPathId) : Prop where
  path : ∀ other, other ≠ id → after.paths.get? other = before.paths.get? other
  initiating : after.paths.initiating = before.paths.initiating

theorem Spares.trans {first second third : Engine} (before : first.Spares second id)
    (after : second.Spares third id) : first.Spares third id where
  path other apart := (after.path other apart).trans (before.path other apart)
  initiating := after.initiating.trans before.initiating

/-- A table in which one path was put in its place and perhaps forgotten. -/
theorem Spares.put_purge (engine : Engine) (id : DataPathId) (path : DataPath) :
    engine.Spares { engine with paths := (engine.paths.put id path).purge id } id where
  path other apart := by
    show ((engine.paths.put id path).purge id).get? other = _
    rw [DataPathTable.get?_purge, if_neg apart, DataPathTable.get?_put, if_neg apart]
  initiating := by
    show ((engine.paths.put id path).purge id).initiating = _
    rw [DataPathTable.purge_eq]
    rfl

theorem spares_replay (engine : Engine) (id : DataPathId) (event : HeldEvent) :
    engine.Spares (engine.replay id event).1 id := by
  have same : engine.Spares engine id := ⟨fun _ _ => rfl, rfl⟩
  have held (event : HeldEvent) : engine.Spares (engine.hold id event) id :=
    ⟨fun _ _ => rfl, rfl⟩
  cases event with
  | confirmed accepted peerInterface appInfo status =>
    unfold replay onPathConfirmed DataPathTable.onConfirmed
    cases engine.paths.get? id with
    | none =>
      dsimp only
      split
      · exact same
      · exact held _
    | some path =>
      dsimp only
      split
      · exact same
      · split
        · refine ⟨fun other apart => ?_, rfl⟩
          show (engine.paths.put id _).get? other = _
          rw [DataPathTable.get?_put, if_neg apart]
        · exact .put_purge engine id path.terminated
  | terminated status =>
    unfold replay onPathTerminated DataPathTable.onTerminated
    cases engine.paths.get? id with
    | none =>
      dsimp only
      split
      · exact same
      · exact held _
    | some path =>
      dsimp only
      split
      · exact same
      · exact .put_purge engine id path.terminated.withoutDeadline

theorem spares_replayHeld (engine : Engine) (id : DataPathId) :
    engine.Spares (engine.replayHeld id).1 id := by
  have taken : engine.Spares { engine with paths := (engine.paths.takeHeld id).2 } id :=
    ⟨fun _ _ => rfl, rfl⟩
  exact sweep_keeps (fun next _ => engine.Spares next id)
    (fun event before => before.trans (spares_replay _ id event)) _ _ [] taken

/-- An event about a number that is not in the table is held back if an initiation is under way, and
ignored otherwise. -/
theorem replay_of_absent (absent : engine.paths.get? id = none) (event : HeldEvent) :
    engine.replay id event =
      if engine.paths.initiating.isEmpty then engine.quiet else (engine.hold id event).quiet := by
  cases event with
  | confirmed accepted peerInterface appInfo status =>
    unfold replay onPathConfirmed DataPathTable.onConfirmed
    rw [absent]
    dsimp only
    split <;> rfl
  | terminated status =>
    unfold replay onPathTerminated DataPathTable.onTerminated
    rw [absent]
    dsimp only
    split <;> rfl

/-- Events about another number are replayed past it. -/
theorem replay_hold_of_ne (apart : other ≠ id) (event event' : HeldEvent) :
    (engine.hold id event).replay other event' =
      ((engine.replay other event').1.hold id event, (engine.replay other event').2) := by
  cases event' with
  | confirmed accepted peerInterface appInfo status =>
    have noted : (engine.paths.hold id event).onConfirmed other accepted peerInterface appInfo status =
        _ := DataPathTable.onConfirmed_hold_of_ne apart event accepted peerInterface appInfo status
    simp only [replay, onPathConfirmed, hold, noted]
  | terminated status =>
    have noted : (engine.paths.hold id event).onTerminated other status = _ :=
      DataPathTable.onTerminated_hold_of_ne apart event status
    simp only [replay, onPathTerminated, hold, noted]

theorem replayHeld_hold_of_ne (apart : other ≠ id) (event : HeldEvent) :
    (engine.hold id event).replayHeld other =
      ((engine.replayHeld other).1.hold id event, (engine.replayHeld other).2) := by
  have replayed (events : List HeldEvent) (start : Engine) :
      (start.hold id event).sweep events (fun engine event => engine.replay other event) =
        ((start.sweep events fun engine event => engine.replay other event).1.hold id event,
          (start.sweep events fun engine event => engine.replay other event).2) := by
    induction events generalizing start with
    | nil => rfl
    | cons next rest ih => simp only [sweep_cons, replay_hold_of_ne apart, ih]
  unfold replayHeld
  simp only [hold, DataPathTable.takeHeld_hold_of_ne apart]
  exact replayed (engine.paths.takeHeld other).1
    { engine with paths := (engine.paths.takeHeld other).2 }

/-- **The event that was held back last is the last to be replayed.** -/
theorem replayHeld_hold_self (event : HeldEvent) :
    (engine.hold id event).replayHeld id =
      (((engine.replayHeld id).1.replay id event).1,
        (engine.replayHeld id).2 ++ ((engine.replayHeld id).1.replay id event).2) := by
  unfold replayHeld
  simp only [hold, DataPathTable.takeHeld_hold_self, sweep_append, sweep_cons, sweep_nil, quiet,
    List.append_nil]

/-! ### The answer to an initiation -/

/-- The engine once an initiation has been answered and has left, and the number that its path was
given. -/
def resolveInitiation (engine : Engine) (txn : TransactionId)
    (outcome : Except FirmwareStatus AnswerPayload) : Engine × Except Failure DataPathId :=
  let resolved := engine.paths.resolveInitiate txn (Outcome.pathId (outcome.mapError .firmware))
  ({ engine with ledger := engine.ledger.rollback txn, paths := resolved.2 }, resolved.1)

/-- What the caller is told of the answer, and what is replayed. -/
def concludeInitiation (engine : Engine) (txn : TransactionId) :
    Except Failure DataPathId → Reaction
  | .ok path =>
    ((engine.replayHeld path).1,
      .completed ⟨txn, .initiateDataPath, .ok (.dataPathInitiated path)⟩ ::
        (engine.replayHeld path).2)
  | .error failure =>
    (engine, [.completed ⟨txn, .initiateDataPath, .error failure⟩])

/-- An event that was held back plays no part in the answer itself. -/
theorem resolveInitiation_hold (underway : txn ∈ engine.paths.initiating) (event : HeldEvent)
    (outcome : Except FirmwareStatus AnswerPayload) :
    (engine.hold id event).resolveInitiation txn outcome =
      (if (engine.resolveInitiation txn outcome).1.paths.initiating.isEmpty = true ∧
          (engine.resolveInitiation txn outcome).2 ≠ .ok id
        then (engine.resolveInitiation txn outcome).1
        else (engine.resolveInitiation txn outcome).1.hold id event,
        (engine.resolveInitiation txn outcome).2) := by
  have resolved : (engine.paths.hold id event).resolveInitiate txn _ = _ :=
    DataPathTable.resolveInitiate_hold underway event (Outcome.pathId (outcome.mapError .firmware))
  unfold resolveInitiation
  dsimp only [hold]
  rw [resolved]
  refine Prod.ext ?_ rfl
  dsimp only
  split <;> rfl

/-- An event that is still held back when the answer is announced, or was forgotten with it, comes
to what it would have come to afterwards. -/
theorem concludeInitiation_hold {result : Except Failure DataPathId}
    (absent : result ≠ .ok id → engine.paths.get? id = none) (event : HeldEvent) :
    (if engine.paths.initiating.isEmpty = true ∧ result ≠ .ok id then engine
      else engine.hold id event).concludeInitiation txn result =
        (((engine.concludeInitiation txn result).1.replay id event).1,
          (engine.concludeInitiation txn result).2 ++
            ((engine.concludeInitiation txn result).1.replay id event).2) := by
  cases result with
  | error failure =>
    have absent := absent (by simp)
    simp only [concludeInitiation, replay_of_absent absent, ne_eq, reduceCtorEq, not_false_eq_true,
      and_true]
    split <;> rfl
  | ok path =>
    by_cases given : path = id
    · subst given
      rw [if_neg fun both => both.2 rfl]
      simp only [concludeInitiation, replayHeld_hold_self, List.cons_append]
    · have other : Except.ok path ≠ (.ok id : Except Failure DataPathId) := by simpa using given
      have spares := engine.spares_replayHeld path
      have absent : (engine.replayHeld path).1.paths.get? id = none :=
        (spares.path id (Ne.symm given)).trans (absent other)
      simp only [concludeInitiation, replay_of_absent absent, spares.initiating, other, ne_eq,
        not_false_eq_true, and_true]
      split
      · simp only [quiet, List.append_nil]
      · rw [replayHeld_hold_of_ne given]
        simp only [quiet, List.append_nil]

namespace Coherent

theorem onCompleted_initiate (coherent : engine.Coherent)
    (onFile : engine.ledger.get? txn = some record) (initiating : record.context = .newDataPath)
    (outcome : Except FirmwareStatus AnswerPayload) :
    engine.onCompleted txn outcome =
      (engine.resolveInitiation txn outcome).1.concludeInitiation txn
        (engine.resolveInitiation txn outcome).2 := by
  obtain rfl := coherent.filed.own onFile
  have commission : Commission record.kind record.context record.origin :=
    coherent.commissioned onFile
  generalize kind : record.kind = kind', origin : record.origin = origin' at commission
  rw [initiating] at commission
  cases commission
  rw [coherent.onCompleted_beginning onFile (by rw [initiating]; rfl) (by simp [initiating]),
    settleByItself_initiate kind initiating]
  unfold Engine.announce settleInitiate resolveInitiation
  rw [kind]
  dsimp only [upon]
  cases (engine.paths.resolveInitiate record.id _).1 with
  | ok path => rfl
  | error failure => rfl

/-- An event that is held back plays no part in coherence. -/
theorem hold (coherent : engine.Coherent) (id : DataPathId) (event : HeldEvent) :
    (engine.hold id event).Coherent :=
  coherent.touchTable .paths (DataPathTable.Agrees.reheld (coherent.agrees .paths) _)

/-- An initiation on file is under way. -/
theorem underway (coherent : engine.Coherent) (onFile : engine.ledger.get? txn = some record)
    (initiating : record.context = .newDataPath) : txn ∈ engine.paths.initiating := by
  have paths : engine.paths.Agrees _ := coherent.agrees .paths
  obtain ⟨request, entered⟩ :=
    paths.initiating_of_out (Ledger.docket_eq_some.mpr ⟨onFile, by rw [initiating]; rfl⟩) initiating
  exact Std.ExtTreeMap.mem_iff_isSome_getElem?.mpr (by rw [entered]; rfl)

/-- **An event that overtakes the answer to an initiation** comes to what it would have come to
behind it. -/
theorem onCompleted_hold (coherent : engine.Coherent)
    (onFile : engine.ledger.get? txn = some record) (initiating : record.context = .newDataPath)
    (absent : engine.paths.get? id = none) (event : HeldEvent)
    (outcome : Except FirmwareStatus AnswerPayload) :
    (engine.hold id event).onCompleted txn outcome =
      (((engine.onCompleted txn outcome).1.replay id event).1,
        (engine.onCompleted txn outcome).2 ++
          ((engine.onCompleted txn outcome).1.replay id event).2) := by
  have onFile' : (engine.hold id event).ledger.get? txn = some record := onFile
  rw [(coherent.hold id event).onCompleted_initiate onFile' initiating,
    coherent.onCompleted_initiate onFile initiating,
    resolveInitiation_hold (coherent.underway onFile initiating)]
  apply concludeInitiation_hold
  intro apart
  exact (DataPathTable.get?_resolveInitiate_of_ne apart).trans absent

end Coherent

end Engine

/-! ## The host -/

/-- Reports about a path are what can be held back for it. -/
theorem FirmwareEvent.exists_replay {id : DataPathId} {report : FirmwareEvent}
    (about : report.isPathReport id = true) :
    ∃ event : HeldEvent, ∀ (engine : Engine) (now : Timestamp),
      engine.handle now report = engine.replay id event := by
  cases report with
  | dataPathConfirmed path accepted peerInterface appInfo status =>
    obtain rfl := of_decide_eq_true about
    exact ⟨.confirmed accepted peerInterface appInfo status, fun _ _ => rfl⟩
  | dataPathTerminated path status =>
    obtain rfl := of_decide_eq_true about
    exact ⟨.terminated status, fun _ _ => rfl⟩
  | _ => cases about

namespace Host

variable {σ : Type} {host : Host σ} {txn : TransactionId} {record : TransactionRecord}
  {id : DataPathId}

/-- Two reactions one after the other are taken on as one. -/
theorem react_react (host : Host σ) (first second : Reaction) :
    (host.react first).react second = host.react (second.1, first.2 ++ second.2) := by
  simp only [react_eq, List.map_append, ← List.append_toArray, Array.append_assoc]

/-- Reports about a number that is not in the table may be delivered before or after the answer to an
initiation. -/
theorem foldl_handle_overtaking (coherent : host.engine.Coherent)
    (onFile : host.engine.ledger.get? txn = some record) (initiating : record.context = .newDataPath)
    (absent : host.engine.paths.get? id = none) {reports : List FirmwareEvent}
    (about : ∀ report ∈ reports, report.isPathReport id = true)
    (outcome : Except FirmwareStatus AnswerPayload) :
    (reports.foldl handle host).handle (.commandCompleted txn outcome) =
      reports.foldl handle (host.handle (.commandCompleted txn outcome)) := by
  induction reports generalizing host with
  | nil => rfl
  | cons report rest ih =>
    obtain ⟨event, replayed⟩ := FirmwareEvent.exists_replay (about report (by simp))
    -- The report is held back, and the state that this leaves meets the same conditions.
    have underway := coherent.underway onFile initiating
    have busy : host.engine.paths.initiating.isEmpty = false :=
      Std.ExtTreeMap.isEmpty_eq_false_iff.mpr (Std.ExtTreeMap.ne_empty_of_mem underway)
    have held : host.handle report = { host with engine := host.engine.hold id event } := by
      unfold handle
      rw [replayed, Engine.replay_of_absent absent, busy]
      rfl
    have swapped : (host.handle report).handle (.commandCompleted txn outcome) =
        (host.handle (.commandCompleted txn outcome)).handle report := by
      have given := coherent.onCompleted_hold onFile initiating absent event outcome
      rw [held]
      show { host with engine := _ }.react ((host.engine.hold id event).onCompleted txn outcome) = _
      rw [given]
      unfold handle
      rw [replayed, react_react]
      simp only [react_eq]
      rfl
    rw [List.foldl_cons, List.foldl_cons, ← swapped]
    refine ih ?_ ?_ ?_ fun other member => about other (List.mem_cons_of_mem _ member)
    · rw [held]
      exact coherent.hold id event
    · rw [held]
      exact onFile
    · rw [held]
      exact absent

variable [Transport σ]

/-- **It does not matter whether a path is reported before or after it is numbered.** After any run,
while an initiation is on file, reports about a number that is not in the table may be delivered
before its answer or after it, whatever the answer is: the host is the same in the end. -/
theorem run_overtaking (config : EngineConfig) (transport : σ) (now : Timestamp)
    (acts : List (Act σ))
    (onFile : ((Host.new config transport now).run acts).engine.ledger.get? txn = some record)
    (initiating : record.context = .newDataPath)
    (absent : ((Host.new config transport now).run acts).engine.paths.get? id = none)
    (reports : List FirmwareEvent) (about : ∀ report ∈ reports, report.isPathReport id = true)
    (outcome : Except FirmwareStatus AnswerPayload) :
    (reports.foldl handle ((Host.new config transport now).run acts)).handle
        (.commandCompleted txn outcome) =
      reports.foldl handle
        (((Host.new config transport now).run acts).handle (.commandCompleted txn outcome)) :=
  have reachable := (Reachable.new config transport now).run acts
  foldl_handle_overtaking reachable.coherent onFile initiating absent about outcome

/-- A run that leaves two initiations under way. -/
def initiatingTwice : List (Act Recorder) :=
  let request : InitiateRequest :=
    ⟨⟨0⟩, .zero, .available, none, "nan0", .empty, .unsecured⟩
  [.submit (.enable .standard), .handle (.commandCompleted ⟨1⟩ (.ok .empty)),
    .submit (.createInterface "nan0"), .handle (.commandCompleted ⟨2⟩ (.ok .empty)),
    .submit (.initiateDataPath request), .submit (.initiateDataPath request)]

/-- A path that is reported up, down and up again before it is numbered. The last report is held back
again in either order, since another initiation may still be given the number. -/
theorem run_overtaking_upDownUp :
    let host := (Host.new .standard Recorder.new ⟨0⟩).run initiatingTwice
    let up : FirmwareEvent := .dataPathConfirmed ⟨5⟩ true .zero .empty ⟨0⟩
    let reports := [up, .dataPathTerminated ⟨5⟩ ⟨7⟩, up]
    let numbered : FirmwareEvent := .commandCompleted ⟨3⟩ (.ok (.pathId ⟨5⟩))
    (host.engine.ledger.get? ⟨3⟩).any (·.context = .newDataPath) = true ∧
      host.engine.paths.get? ⟨5⟩ = none ∧
      (∀ report ∈ reports, report.isPathReport ⟨5⟩ = true) ∧
      (reports.foldl handle host).handle numbered = reports.foldl handle (host.handle numbered) := by
  have onFile : ((Host.new .standard Recorder.new ⟨0⟩).run initiatingTwice).engine.ledger.get? ⟨3⟩ =
      some ⟨⟨3⟩, .initiateDataPath, ⟨0⟩, ⟨5000⟩, true, 2, .newDataPath, .caller⟩ := by
    decide +kernel
  have absent :
      ((Host.new .standard Recorder.new ⟨0⟩).run initiatingTwice).engine.paths.get? ⟨5⟩ = none := by
    decide +kernel
  intro host up reports numbered
  have about : ∀ report ∈ reports, report.isPathReport ⟨5⟩ = true := by decide
  refine ⟨?_, absent, about, ?_⟩
  · show Option.any _ (((Host.new .standard Recorder.new ⟨0⟩).run initiatingTwice).engine.ledger.get?
      ⟨3⟩) = true
    rw [onFile]
    rfl
  · exact run_overtaking .standard Recorder.new ⟨0⟩ initiatingTwice onFile rfl absent reports about
      (.ok (.pathId ⟨5⟩))

end Host

end NanHost
