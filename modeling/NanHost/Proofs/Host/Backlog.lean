import NanHost.Proofs.Host.Leftovers
import NanHost.Proofs.Host.Progress
import NanHost.Proofs.Overtaking

/-!
# Backlog — how old a report may be that is replayed onto a new path

A report that names no path of the table is held back while an initiation is under way, since that
initiation may be given the number. What is held back is kept by number alone, and nobody notes which
initiations were under way when it came. It is forgotten when no initiation is left. With initiations
that overlap, that may never be: a report that came before an initiation was asked for, and so cannot
be about its path, may be waiting for it.

## What is proved

- `Reachable.heldFor_run`: what is held back for a number at the end of a run was held back at its
  beginning, or was reported in it.
- `run_replays`: what is replayed onto a path is what is held back for its number, all of it and in
  order. Of any moment before, it is what was held back then, or was reported since. So it was all
  reported since the last moment at which no initiation was under way.
- `run_replays_stale`: it may have been reported before the initiation was asked for.
-/

namespace NanHost

/-! ## The table -/

namespace DataPathTable

variable {table next : DataPathTable} {id other : DataPathId}

/-- The events that are held back for a number, in the order in which they came. -/
def heldFor (table : DataPathTable) (id : DataPathId) : List HeldEvent := (table.held[id]?).getD []

theorem heldFor_hold (table : DataPathTable) (other id : DataPathId) (event : HeldEvent) :
    (table.hold other event).heldFor id =
      table.heldFor id ++ if other = id then [event] else [] := by
  unfold heldFor
  rw [getElem?_held_hold]
  by_cases here : other = id
  · rw [if_pos here.symm, if_pos here, here]
    rfl
  · rw [if_neg (Ne.symm here), if_neg here, List.append_nil]

/-- What is taken is not held back any more, and nothing else is touched. -/
theorem heldFor_takeHeld (table : DataPathTable) (other id : DataPathId) :
    (table.takeHeld other).2.heldFor id = if other = id then [] else table.heldFor id := by
  unfold heldFor
  rw [getElem?_held_takeHeld]
  by_cases here : other = id
  · rw [if_pos here.symm, if_pos here]
    rfl
  · rw [if_neg (Ne.symm here), if_neg here]

/-- When all but one number are forgotten, what is held back for that number is kept. -/
theorem heldFor_onlyHeld (table : DataPathTable) (keep : Option DataPathId) (id : DataPathId) :
    (table.onlyHeld keep).heldFor id = if keep = some id then table.heldFor id else [] := by
  cases keep with
  | none => simp [heldFor, onlyHeld]
  | some other =>
    have kept : (table.onlyHeld (some other)).held = (table.held[other]?).elim ∅ fun events =>
        (∅ : Std.ExtTreeMap DataPathId (List HeldEvent)).insert other events := rfl
    unfold heldFor
    rw [kept]
    by_cases here : other = id
    · rw [here, if_pos rfl]
      cases table.held[id]? with
      | none => simp
      | some events => rw [Option.elim_some, Tables.getElem?_insert, if_pos rfl]
    · rw [if_neg (by simpa using here)]
      cases table.held[other]? with
      | none => simp
      | some events =>
        rw [Option.elim_some, Tables.getElem?_insert, if_neg (Ne.symm here)]
        simp

/-- The end of an initiation leaves alone what is held back for the number that was given. -/
theorem heldFor_closing_self (table : DataPathTable) (id : DataPathId) :
    (table.closing (some id)).heldFor id = table.heldFor id := by
  unfold closing
  split
  · rw [heldFor_onlyHeld, if_pos rfl]
  · rfl

/-- What it does not leave alone it forgets. -/
theorem heldFor_closing_sublist (table : DataPathTable) (given : Option DataPathId)
    (id : DataPathId) : ((table.closing given).heldFor id).Sublist (table.heldFor id) := by
  unfold closing
  split
  · rw [heldFor_onlyHeld]
    split
    · exact List.Sublist.refl _
    · exact List.nil_sublist _
  · exact List.Sublist.refl _

theorem held_purge (table : DataPathTable) (id : DataPathId) :
    (table.purge id).held = table.held := by rw [purge_eq]

/-- An initiation that ends leaves at most what was held back. -/
theorem heldFor_resolveInitiate_sublist (table : DataPathTable) (txn : TransactionId)
    (assigned : Except Failure DataPathId) (id : DataPathId) :
    ((table.resolveInitiate txn assigned).2.heldFor id).Sublist (table.heldFor id) := by
  cases found : table.initiating[txn]? with
  | none =>
    have same : (table.resolveInitiate txn assigned).2 = table := by
      unfold resolveInitiate
      rw [found]
    simp only [same, List.Sublist.refl]
  | some request =>
    rw [resolveInitiate_of_found found]
    rcases enterInitiated_cases { table with initiating := table.initiating.erase txn } request
      assigned with ⟨_, entered⟩ | ⟨_, _, _, entered⟩
    · rw [entered]
      exact heldFor_closing_sublist _ _ id
    · rw [entered]
      exact heldFor_closing_sublist _ _ id

/-- An initiation that is given a number enters its path, and leaves what is held back for it. -/
theorem resolveInitiate_ok {txn : TransactionId} {assigned : Except Failure DataPathId}
    (given : (table.resolveInitiate txn assigned).1 = .ok id) :
    ∃ request, table.initiating[txn]? = some request ∧
      (table.resolveInitiate txn assigned).2.get? id = some (.initiated id request) ∧
      (table.resolveInitiate txn assigned).2.heldFor id = table.heldFor id := by
  cases found : table.initiating[txn]? with
  | none =>
    unfold resolveInitiate at given
    rw [found] at given
    cases given
  | some request =>
    refine ⟨request, rfl, ?_⟩
    rw [resolveInitiate_of_found found] at given ⊢
    rcases enterInitiated_cases { table with initiating := table.initiating.erase txn } request
      assigned with ⟨_, entered⟩ | ⟨number, _, _, entered⟩
    · rw [entered] at given
      cases given
    · rw [entered] at given ⊢
      obtain rfl := Except.ok.inj given
      constructor
      · dsimp only
        rw [closing_eq]
        exact (get?_put _ number number _).trans (if_pos rfl)
      · exact heldFor_closing_self _ number

/-- An answer that ends leaves what is held back. -/
theorem held_resolveRespond (table : DataPathTable) (id : DataPathId) (txn : TransactionId)
    (outcome : Except Failure Unit) :
    (table.resolveRespond id txn outcome).2.held = table.held := by
  unfold resolveRespond
  split
  next => rfl
  next =>
    dsimp only
    split <;> exact held_purge _ id

/-- **No change of the paths holds anything back.** -/
theorem Change.heldFor_sublist (change : table.Change next) (id : DataPathId) :
    (next.heldFor id).Sublist (table.heldFor id) := by
  have kept (same : next.held = table.held) : (next.heldFor id).Sublist (table.heldFor id) := by
    simp only [heldFor, same, List.Sublist.refl]
  cases change with
  | initiationEnded txn assigned => exact table.heldFor_resolveInitiate_sublist txn assigned id
  | answerEnded other txn outcome => exact kept (table.held_resolveRespond other txn outcome)
  | endEnded other txn => exact kept (held_purge _ other)
  | struckOff other txn => exact kept (held_purge _ other)
  | requested other peer address appInfo now =>
    rcases table.onRequest_cases other peer address appInfo now with same | ⟨_, entered⟩
    · exact kept (by rw [same])
    · exact kept (by rw [entered]; rfl)
  | lapsed now => exact kept rfl
  | refused other txn => exact kept rfl
  | forgotten other => exact kept (held_purge _ other)
  | fell =>
    have none : (new table.graceMs).heldFor id = [] := by simp [heldFor, new]
    rw [none]
    exact List.nil_sublist _

end DataPathTable

/-! ## The engine -/

namespace Engine

variable {engine next : Engine} {notices : List Notification} {id other : DataPathId}

/-- **A report on a path is held back at most for its own number.** -/
theorem heldFor_replay_sublist (engine : Engine) (other id : DataPathId) (event : HeldEvent) :
    ((engine.replay other event).1.paths.heldFor id).Sublist
      (engine.paths.heldFor id ++ if other = id then [event] else []) := by
  cases found : engine.paths.get? other with
  | none =>
    rw [replay_of_absent found]
    split
    next => exact List.sublist_append_left _ _
    next =>
      show ((engine.paths.hold other event).heldFor id).Sublist _
      simp only [DataPathTable.heldFor_hold, List.Sublist.refl]
  | some path =>
    have kept : (engine.replay other event).1.paths.held = engine.paths.held := by
      cases event with
      | confirmed accepted peerInterface appInfo status =>
        simp only [replay, onPathConfirmed, DataPathTable.onConfirmed, found]
        split
        · rfl
        · split
          · rfl
          · exact DataPathTable.held_purge _ other
      | terminated status =>
        simp only [replay, onPathTerminated, DataPathTable.onTerminated, found]
        split
        · rfl
        · exact DataPathTable.held_purge _ other
    unfold DataPathTable.heldFor
    rw [kept]
    exact List.sublist_append_left _ _

/-- Events that are replayed may be held back again, and nothing else is. -/
theorem heldFor_replayHeld_sublist (engine : Engine) (other id : DataPathId) :
    ((engine.replayHeld other).1.paths.heldFor id).Sublist (engine.paths.heldFor id) := by
  have replayed (events : List HeldEvent) (start : Engine) :
      ((start.sweep events fun engine event => engine.replay other event).1.paths.heldFor id).Sublist
        (start.paths.heldFor id ++ if other = id then events else []) := by
    induction events generalizing start with
    | nil => simp [quiet]
    | cons event rest ih =>
      rw [sweep_cons]
      refine (ih _).trans ?_
      refine ((start.heldFor_replay_sublist other id event).append_right _).trans ?_
      split <;> simp
  refine (replayed _ { engine with paths := (engine.paths.takeHeld other).2 }).trans ?_
  dsimp only
  rw [DataPathTable.heldFor_takeHeld]
  split
  next here => simp only [here, DataPathTable.heldFor, List.nil_append, List.Sublist.refl]
  next => simp only [List.append_nil, List.Sublist.refl]

/-! ### The number of an initiation -/

/-- The engine with the path of an initiation entered, and what was held back for it taken. -/
def numbered (engine : Engine) (txn : TransactionId)
    (outcome : Except FirmwareStatus AnswerPayload) (id : DataPathId) : Engine :=
  let resolved := (engine.resolveInitiation txn outcome).1
  { resolved with paths := (resolved.paths.takeHeld id).2 }

namespace Coherent

variable {txn : TransactionId} {outcome : Except FirmwareStatus AnswerPayload}
  (coherent : engine.Coherent) (underWay : txn ∈ engine.paths.initiating)

include coherent underWay

/-- The answer to an initiation that is under way. -/
theorem onCompleted_underWay :
    engine.onCompleted txn outcome =
      (engine.resolveInitiation txn outcome).1.concludeInitiation txn
        (engine.resolveInitiation txn outcome).2 := by
  have paths : engine.paths.Agrees _ := coherent.agrees .paths
  obtain ⟨request, entered⟩ := Option.isSome_iff_exists.mp
    (Std.ExtTreeMap.mem_iff_isSome_getElem?.mp underWay)
  obtain ⟨record, out, about⟩ := paths.out_of_initiating entered
  exact coherent.onCompleted_initiate (Ledger.docket_eq_some.mp out).1 about outcome

/-- An initiation that is reported to have been given a number was given it. -/
theorem numbered_of_mem
    (told : .completed ⟨txn, .initiateDataPath, .ok (.dataPathInitiated id)⟩ ∈
      (engine.onCompleted txn outcome).2) :
    (engine.resolveInitiation txn outcome).2 = .ok id := by
  rw [coherent.onCompleted_underWay underWay] at told
  generalize (engine.resolveInitiation txn outcome).2 = result at told ⊢
  cases result with
  | error failure =>
    cases List.mem_singleton.mp told
  | ok path =>
    rcases List.mem_cons.mp told with same | replayed
    · cases same
      rfl
    · have silent := replayHeld_silent _ path _ replayed
      cases silent

/-- **An initiation that is given a number** has everything replayed that is held back for it. -/
theorem onCompleted_numbering (given : (engine.resolveInitiation txn outcome).2 = .ok id) :
    engine.onCompleted txn outcome =
      let replayed := (engine.numbered txn outcome id).sweep (engine.paths.heldFor id)
        fun engine event => engine.replay id event
      (replayed.1,
        .completed ⟨txn, .initiateDataPath, .ok (.dataPathInitiated id)⟩ :: replayed.2) := by
  obtain ⟨request, _, _, kept⟩ := DataPathTable.resolveInitiate_ok given
  have kept : (engine.resolveInitiation txn outcome).1.paths.heldFor id =
      engine.paths.heldFor id := kept
  rw [coherent.onCompleted_underWay underWay, given, ← kept]
  rfl

end Coherent

/-- **No sequence of changes holds anything back.** -/
theorem Changes.heldFor_sublist (changes : engine.Changes notices next) (id : DataPathId) :
    (next.paths.heldFor id).Sublist (engine.paths.heldFor id) := by
  induction changes with
  | nil => exact List.Sublist.refl _
  | @cons first second third _ _ change rest ih =>
    refine ih.trans ?_
    cases change with
    | paths change => exact change.heldFor_sublist id
    | replayed other => exact first.heldFor_replayHeld_sublist other id
    | aside | told | sessions | updateFailed | dataInterfaces => exact List.Sublist.refl _

end Engine

/-! ## Runs -/

/-- The report on the path of a number that a step hands to the engine. -/
def Act.reportOn? {σ : Type} (id : DataPathId) : Act σ → Option HeldEvent
  | .handle event => (event.pathReport?.filter (·.1 = id)).map (·.2)
  | _ => none

/-- The reports on the path of a number, in the order in which they are handled. -/
def reportsOn {σ : Type} (id : DataPathId) (acts : List (Act σ)) : List HeldEvent :=
  acts.filterMap (·.reportOn? id)

namespace Host

variable {σ : Type} [Transport σ] {host : Host σ} {txn : TransactionId} {id : DataPathId}
  {outcome : Except FirmwareStatus AnswerPayload}

/-- **What is held back after a step** was held back before, or was reported in it. -/
theorem Reachable.heldFor_step (reachable : Reachable host) (act : Act σ) (id : DataPathId) :
    ((host.step act).engine.paths.heldFor id).Sublist
      (host.engine.paths.heldFor id ++ reportsOn id [act]) := by
  have progress := reachable.progress act
  generalize host.told [act] = notices at progress
  generalize (host.step act).engine = next at progress
  cases progress with
  | taken request dispatch record admitted opens taken =>
    have kept : ((host.engine.upon (host.engine.ledger.file record)).stage record.id
        request).paths.held = host.engine.paths.held := by cases request <;> rfl
    unfold DataPathTable.heldFor
    rw [kept]
    exact List.sublist_append_left _ _
  | granted txn outcome reaction granted => cases granted <;> exact List.sublist_append_left _ _
  | sighted => exact List.sublist_append_left _ _
  | reported event other report about =>
    have told : reportsOn id [.handle event (σ := σ)] = if other = id then [report] else [] := by
      by_cases here : other = id <;> simp [reportsOn, Act.reportOn?, about, here]
    rw [told]
    exact host.engine.heldFor_replay_sublist other id report
  | changed act nobody changes =>
    exact (changes.heldFor_sublist id).trans (List.sublist_append_left _ _)

/-- **What is held back at the end of a run** was held back at its beginning, or was reported in
it. -/
theorem Reachable.heldFor_run (reachable : Reachable host) (acts : List (Act σ)) (id : DataPathId) :
    ((host.run acts).engine.paths.heldFor id).Sublist
      (host.engine.paths.heldFor id ++ reportsOn id acts) := by
  induction acts generalizing host with
  | nil =>
    rw [reportsOn, List.filterMap_nil, List.append_nil]
    exact List.Sublist.refl _
  | cons act rest ih =>
    have split : reportsOn id (act :: rest) = reportsOn id [act] ++ reportsOn id rest :=
      List.filterMap_append (l := [act])
    rw [split, ← List.append_assoc]
    exact (ih (reachable.step act)).trans ((reachable.heldFor_step act id).append_right _)

/-! ## Replays -/

/-- **What is replayed when an initiation is given a number after a run.** -/
structure Replays (start : Host σ) (acts : List (Act σ)) (txn : TransactionId)
    (outcome : Except FirmwareStatus AnswerPayload) (id : DataPathId) : Prop where
  /-- The path of the initiation is entered. -/
  path : ∃ request, (start.run acts).engine.paths.initiating[txn]? = some request ∧
    ((start.run acts).engine.numbered txn outcome id).paths.get? id = some (.initiated id request)
  /-- Everything that is held back for the number is replayed onto it, in order. -/
  replayed : (start.run acts).engine.onCompleted txn outcome =
    let replayed := ((start.run acts).engine.numbered txn outcome id).sweep
      ((start.run acts).engine.paths.heldFor id) fun engine event => engine.replay id event
    (replayed.1,
      .completed ⟨txn, .initiateDataPath, .ok (.dataPathInitiated id)⟩ :: replayed.2)
  /-- Of any moment before, it was held back then or was reported since. -/
  dated : ∀ before since, acts = before ++ since → ∃ stale fresh,
    (start.run acts).engine.paths.heldFor id = stale ++ fresh ∧
      stale.Sublist ((start.run before).engine.paths.heldFor id) ∧
      fresh.Sublist (reportsOn id since)
  /-- If no initiation was under way then, it was reported since. -/
  fresh : ∀ before since, acts = before ++ since →
    (start.run before).engine.paths.initiating = ∅ →
      ((start.run acts).engine.paths.heldFor id).Sublist (reportsOn id since)

/-- **What is replayed onto a path was reported while initiations were under way**, the initiation of
that path or others, since the last moment at which none was. -/
theorem run_replays (config : EngineConfig) (transport : σ) (now : Timestamp)
    (acts : List (Act σ))
    (underWay : txn ∈ ((Host.new config transport now).run acts).engine.paths.initiating)
    (numbered : .completed ⟨txn, .initiateDataPath, .ok (.dataPathInitiated id)⟩ ∈
      ((Host.new config transport now).run acts).told [.handle (.commandCompleted txn outcome)]) :
    (Host.new config transport now).Replays acts txn outcome id := by
  have fresh : Reachable (Host.new config transport now) := .new config transport now
  generalize Host.new config transport now = start at fresh underWay numbered
  have reached : Reachable (start.run acts) := fresh.run acts
  have given : ((start.run acts).engine.resolveInitiation txn outcome).2 = .ok id := by
    apply reached.coherent.numbered_of_mem underWay
    have told : (start.run acts).told [.handle (.commandCompleted txn outcome)] =
        ((start.run acts).engine.onCompleted txn outcome).2 :=
      reached.told_of_notifications (notifications_react _ _)
    rwa [told] at numbered
  have dated (before since : List (Act σ)) (split : acts = before ++ since) :
      ((start.run acts).engine.paths.heldFor id).Sublist
        ((start.run before).engine.paths.heldFor id ++ reportsOn id since) := by
    rw [split, run_append]
    exact (fresh.run before).heldFor_run since id
  constructor
  case path =>
    obtain ⟨request, found, entered, _⟩ := DataPathTable.resolveInitiate_ok given
    exact ⟨request, found, entered⟩
  case replayed => exact reached.coherent.onCompleted_numbering underWay given
  case dated =>
    intro before since split
    obtain ⟨stale, fresh, whole, old, new⟩ := List.sublist_append_iff.mp (dated before since split)
    exact ⟨stale, fresh, whole, old, new⟩
  case fresh =>
    intro before since split idle
    have nothing : (start.run before).engine.paths.heldFor id = [] := by
      unfold DataPathTable.heldFor
      rw [(fresh.run before).tidy.held idle]
      simp
    have dated := dated before since split
    rwa [nothing, List.nil_append] at dated

/-- A request for a path. -/
def asking : Act Recorder :=
  .submit (.initiateDataPath ⟨⟨0⟩, .zero, .available, none, "nan0", .empty, .unsecured⟩)

/-- A run with one initiation under way. -/
def askingOnce : List (Act Recorder) :=
  [.submit (.enable .standard), .handle (.commandCompleted ⟨1⟩ (.ok .empty)),
    .submit (.createInterface "nan0"), .handle (.commandCompleted ⟨2⟩ (.ok .empty)), asking]

/-- The end of a path that has no number yet. -/
def endingEarly : Act Recorder := .handle (.dataPathTerminated ⟨5⟩ ⟨7⟩)

/-- A run with two initiations under way, and the end of a path that one of them may be given. -/
def endingBetween : List (Act Recorder) := askingOnce ++ [asking, endingEarly]

/-- A path that ends before it is numbered: the end is replayed. -/
theorem run_replays_endingEarly :
    let host := (Host.new .standard Recorder.new ⟨0⟩).run endingBetween
    (⟨4⟩ ∈ host.engine.paths.initiating ∧
      .completed ⟨⟨4⟩, .initiateDataPath, .ok (.dataPathInitiated ⟨5⟩)⟩ ∈
        host.told [.handle (.commandCompleted ⟨4⟩ (.ok (.pathId ⟨5⟩)))]) ∧
    host.engine.paths.heldFor ⟨5⟩ = [.terminated ⟨7⟩] ∧
    (Host.new .standard Recorder.new ⟨0⟩).Replays endingBetween ⟨4⟩ (.ok (.pathId ⟨5⟩)) ⟨5⟩ := by
  have underWay : ⟨4⟩ ∈
      ((Host.new .standard Recorder.new ⟨0⟩).run endingBetween).engine.paths.initiating := by
    decide +kernel
  have numbered : .completed ⟨⟨4⟩, .initiateDataPath, .ok (.dataPathInitiated ⟨5⟩)⟩ ∈
      ((Host.new .standard Recorder.new ⟨0⟩).run endingBetween).told
        [.handle (.commandCompleted ⟨4⟩ (.ok (.pathId ⟨5⟩)))] := by decide +kernel
  exact ⟨⟨underWay, numbered⟩, by decide +kernel,
    run_replays .standard Recorder.new ⟨0⟩ endingBetween underWay numbered⟩

/-- **An old report can end a new path.** The end is reported while the first initiation is under way
and the second is not asked for yet. Nothing is reported on the number since, and the second
initiation is given it; its path is ended at once. -/
theorem run_replays_stale :
    let start := Host.new .standard Recorder.new ⟨0⟩
    let before := askingOnce ++ [endingEarly]
    let answer : Act Recorder := .handle (.commandCompleted ⟨4⟩ (.ok (.pathId ⟨5⟩)))
    ((start.run before).acceptedAt asking).map (·.2) = [⟨4⟩] ∧
      reportsOn ⟨5⟩ [asking] = [] ∧
      (start.run (before ++ [asking])).engine.paths.heldFor ⟨5⟩ = [.terminated ⟨7⟩] ∧
      (start.run (before ++ [asking])).told [answer] =
        [.completed ⟨⟨4⟩, .initiateDataPath, .ok (.dataPathInitiated ⟨5⟩)⟩,
          .dataPathTerminated ⟨5⟩ (.firmware ⟨7⟩)] ∧
      (start.run (before ++ [asking, answer])).engine.paths.get? ⟨5⟩ = none := by
  decide +kernel

end Host

end NanHost
