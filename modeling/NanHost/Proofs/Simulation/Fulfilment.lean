import NanHost.Proofs.Simulation.Compliance
import NanHost.Proofs.Simulation.Success

/-!
# Fulfilment — in an orderly loop every accepted request succeeds

A closed loop is orderly if the firmware carries out all commands, and if everything that it has to say
is handed to the host before the next request, the next look at the deadlines and the next shutdown.
Then the loop is at rest before each of these, or it has never left it: no command is out. A request that
is accepted puts its answer on the way; it is the only one, and the answer takes the loop to rest again.

## What is proved

- `Awaits.deliver`: the answer that is awaited ends its command and reports the success.
- `AtRest.submit`: a request that is accepted is awaited from then on.
- `Awaits.run`: in an orderly loop an answer that is awaited arrives before everything has been handed
  over, and no other end is reported until the next request.
- `run_honours`: in every closed loop, as long as there are numbers, no answer is found at fault; and if
  the loop is orderly, every request that is accepted is reported once, as a success with the detail of
  its own kind and target, by the time when all events have been handed over.
-/

namespace NanHost

namespace Ledger

variable {ledger : Ledger}

/-- Nothing is on file. -/
def Bare (ledger : Ledger) : Prop := ∀ id, ledger.get? id = none

theorem Bare.records (bare : ledger.Bare) : ledger.records = [] := by
  apply List.eq_nil_iff_forall_not_mem.mpr
  intro record member
  obtain ⟨id, onFile⟩ := (mem_records _).mp member
  rw [bare id] at onFile
  cases onFile

/-- A record that is filed and taken off again leaves nothing. -/
theorem Bare.refile (bare : ledger.Bare) (record : TransactionRecord) :
    ((ledger.file record).rollback record.id).Bare := by
  intro id
  rw [get?_rollback, get?_file]
  split
  · rfl
  · exact bare id

theorem bare_new (capacity timeoutMs : UInt64) : (new capacity timeoutMs).Bare :=
  get?_new capacity timeoutMs

end Ledger

namespace Engine

variable {engine : Engine}

/-- When nothing is on file, no deadline comes. -/
theorem expireTransactions_of_bare (filed : engine.ledger.WellFiled) (bare : engine.ledger.Bare)
    (now : Timestamp) : (engine.expireTransactions now).2 = engine.quiet := by
  rw [expireTransactions_eq filed, bare.records]
  rfl

/-- A shutdown gives nothing up. -/
theorem shutdown_of_bare (filed : engine.ledger.WellFiled) (bare : engine.ledger.Bare) :
    engine.shutdown = engine.quiet := by
  rw [shutdown_eq filed, bare.records]
  rfl

/-- And a teardown ends sessions and paths alone. -/
theorem silent_teardown_of_bare (filed : engine.ledger.WellFiled) (bare : engine.ledger.Bare)
    (reason : TerminationReason) : Silent (engine.teardown reason).2 := by
  have byItself {id : TransactionId} {record : TransactionRecord}
      (onFile : engine.ledger.get? id = some record) (_ : record.context.isSessionOrPath = true) :
      record.kind ≠ .disable := by
    rw [bare id] at onFile
    cases onFile
  have nothing : engine.abandonSessionsAndPaths = engine.quiet := by
    rw [abandonSessionsAndPaths, bare.records]
    rfl
  rw [teardown_eq engine filed byItself, nothing]
  intro notice member
  simp only [quiet, List.nil_append, List.mem_append, List.mem_map] at member
  rcases member with ⟨ended, _, rfl⟩ | ⟨broken, _, rfl⟩ <;> rfl

/-- **The answer to the only command on file** is followed by its completion, and by no other. -/
theorem completions_onCompleted_of_alone {record : TransactionRecord} (coherent : engine.Coherent)
    (onFile : engine.ledger.get? record.id = some record) (origin : record.origin = .caller)
    (alone : (engine.ledger.rollback record.id).Bare) (payload : AnswerPayload) :
    completions (engine.onCompleted record.id (.ok payload)).2 = [⟨record.id, record.kind,
      ((engine.upon (engine.ledger.rollback record.id)).settle record (.ok payload)).result⟩] := by
  have filed := coherent.filed.rollback record.id
  rw [onCompleted_of_onFile onFile, conclude_caller origin]
  refine completions_announce ?_
  show Silent (settle _ record (.ok payload)).notices
  by_cases disable : record.kind = .disable
  · rw [settle_disable disable]
    unfold settleDisable
    split
    · exact silent_teardown_of_bare filed alone .interfaceDisabled
    · exact fun _ member => absurd member List.not_mem_nil
  · rw [settle_eq_settleByItself disable]
    exact settleByItself_silent _ _ _

/-- After it nothing is on file. -/
theorem bare_onCompleted_of_alone {id : TransactionId} (coherent : engine.Coherent)
    (alone : (engine.ledger.rollback id).Bare) (outcome : Except FirmwareStatus AnswerPayload) :
    (engine.onCompleted id outcome).1.ledger.Bare := by
  obtain ⟨condition, keeps⟩ := coherent.onCompleted_keeps id outcome
  intro other
  by_cases same : other = id
  · rw [same]
    exact coherent.get?_onCompleted id outcome
  · have absent := alone other
    rw [Ledger.get?_rollback, if_neg same] at absent
    rw [keeps, Ledger.get?_keep, absent]
    rfl

theorem stage_upon (engine : Engine) (ledger : Ledger) (txn : TransactionId) (request : Request) :
    (engine.upon ledger).stage txn request = (engine.stage txn request).upon ledger := by
  cases request <;> rfl

end Engine

/-! ## Orderly loops -/

namespace Loop

variable {loop next : Loop} {sessions paths : Nat} {completion : Completion}

/-- Whether a stimulus is in order: requests, deadlines and shutdowns wait until all events have been
handed over, and the firmware is told of no command that it is not to carry out. -/
def Admits (loop : Loop) : Stimulus → Prop
  | .submit _ | .expireTransactions | .expireResponses | .tick | .shutdown => loop.onTheWay = []
  | .setMood _ mood => mood = .willing
  | .take _ | .deliver | .advance _ => True

/-- All that happens in the loop is in order. -/
def Orderly (loop : Loop) : List Stimulus → Prop
  | [] => True
  | stimulus :: rest => loop.Admits stimulus ∧ (loop.step stimulus).Orderly rest

/-- The firmware carries out all commands. -/
def Willing (loop : Loop) : Prop := ∀ kind, loop.simulator.mood kind = .willing

/-- No command is out, and what is on the way is about paths. -/
structure AtRest (loop : Loop) : Prop where
  bare : loop.host.engine.ledger.Bare
  reports : ∀ event ∈ loop.onTheWay, event.pathReport?.isSome = true

/-- One command is out. Its answer is the next event on the way, and will be followed by the completion
and by no other. What else is on the way is about paths. -/
inductive Awaits (loop : Loop) (completion : Completion) : Prop
  | intro (payload : AnswerPayload) (reports : List FirmwareEvent)
    (way : loop.onTheWay = .commandCompleted completion.id (.ok payload) :: reports)
    (about : ∀ event ∈ reports, event.pathReport?.isSome = true)
    (alone : (loop.host.engine.ledger.rollback completion.id).Bare)
    (reported : completions (loop.host.engine.onCompleted completion.id (.ok payload)).2 =
      [completion])

/-- A loop that is awaiting an answer is not drained. -/
theorem Awaits.not_drained (awaits : loop.Awaits completion) : loop.onTheWay ≠ [] := by
  obtain ⟨_, _, way, _⟩ := awaits
  rw [way]
  exact List.cons_ne_nil _ _

/-- A firmware that carries out all commands goes on to do so. -/
theorem Willing.step (willing : loop.Willing) (compliant : loop.Compliant sessions paths)
    {stimulus : Stimulus} (admits : loop.Admits stimulus) : (loop.step stimulus).Willing := by
  have same {next : Loop} (mood : next.simulator.mood = loop.simulator.mood) : next.Willing := by
    unfold Willing
    rw [mood]
    exact willing
  have expired : (loop.step .expireTransactions).Willing :=
    same (congrArg Simulator.mood (transport_react _ _))
  cases stimulus with
  | submit request =>
    have fate := Host.submit_submission compliant.reachable.coherent.filed request
    have stepped : (loop.step (.submit request)).host = (loop.host.submit request).2 := rfl
    generalize loop.host.submit request = outcome at stepped fate
    refine same ?_
    unfold Loop.simulator
    rw [stepped]
    cases fate with
    | unfit | full => rfl
    | taken dispatch transport admitted opens sent => exact (Simulator.takes_of_send sent).mood
    | refused dispatch transport error admitted opens sent =>
      exact congrArg Simulator.mood (Simulator.eq_of_refused sent)
  | take | advance => exact same rfl
  | deliver =>
    cases hand : loop.hand with
    | nil =>
      rw [step_deliver_nil hand]
      exact willing
    | cons event rest => exact same (congrArg Simulator.mood (step_deliver_cons hand).simulator)
  | expireTransactions => exact expired
  | expireResponses =>
    rw [step_expireResponses compliant.calm]
    exact willing
  | tick =>
    rw [step_tick compliant.expire.calm]
    exact expired
  | shutdown => exact same (congrArg Simulator.mood (transport_react _ _))
  | setMood kind mood =>
    obtain rfl : mood = .willing := admits
    intro other
    show (if other = kind then Mood.willing else loop.simulator.mood other) = .willing
    split
    · rfl
    · exact willing other

/-! ### Requests -/

/-- **A request that is accepted is awaited from then on**, and its success is certain. -/
theorem AtRest.submit (rest : loop.AtRest) (compliant : loop.Compliant sessions paths)
    (willing : loop.Willing) (drained : loop.onTheWay = []) {request : Request} {id : TransactionId}
    {sessions' paths' : Nat} (compliant' : (loop.step (.submit request)).Compliant sessions' paths')
    (accepted : (loop.host.submit request).1 = .ok id) :
    (loop.step (.submit request)).Awaits
      ⟨id, request.kind, .ok (loop.simulator.detail loop.host.engine request)⟩ := by
  have fate := Host.submit_submission compliant.reachable.coherent.filed request
  have host : (loop.step (.submit request)).host = (loop.host.submit request).2 := rfl
  have hand : (loop.step (.submit request)).hand = loop.hand := rfl
  generalize loop.step (.submit request) = next at host hand compliant'
  generalize loop.host.submit request = outcome at host fate accepted
  cases fate with
  | unfit | full | refused => cases accepted
  | taken dispatch transport admitted opens sent =>
    obtain rfl := Except.ok.inj accepted
    generalize loop.host.recordFor dispatch .caller = record at host opens sent
    have engine : next.host.engine = (loop.host.engine.stage record.id request).upon
        (loop.host.engine.ledger.file record) := by
      rw [host]
      exact Engine.stage_upon _ _ _ _
    have ledger : next.host.engine.ledger = loop.host.engine.ledger.file record := by
      rw [engine]
      rfl
    have onFile : next.host.engine.ledger.get? record.id = some record := by
      rw [ledger, Ledger.get?_file, if_pos rfl]
    have alone : (next.host.engine.ledger.rollback record.id).Bare := by
      rw [ledger]
      exact rest.bare.refile record
    have way : next.onTheWay =
        .commandCompleted record.id (.ok (loop.simulator.answer dispatch.command).1.1) ::
          (loop.simulator.answer dispatch.command).1.2.toList := by
      obtain ⟨empty, drained⟩ := List.append_eq_nil_iff.mp drained
      have events : next.simulator.events.waiting.toList = _ :=
        (congrArg (·.transport.events.waiting.toList) host).trans
          (Simulator.takes_of_send sent).events
      rw [onTheWay, hand, empty, events, List.nil_append]
      show loop.simulator.events.waiting.toList ++ loop.simulator.replies _ _ = _
      rw [drained, List.nil_append]
      exact loop.simulator.replies_willing (willing _) _
    refine .intro _ _ way (fun event member => ?_) alone ?_
    · exact Simulator.pathReport_of_follows (Option.mem_toList.mp member)
    · have answers := compliant'.answers way onFile
      rw [Engine.completions_onCompleted_of_alone compliant'.reachable.coherent onFile opens.origin
        alone, opens.kind, Engine.kind_of_vet admitted, engine]
      refine congrArg (fun result => [(⟨record.id, request.kind, result⟩ : Completion)]) ?_
      refine Engine.result_settle admitted opens loop.simulator ?_
      rw [engine] at answers
      exact ⟨answers.report, answers.session, answers.path⟩

/-- A request that is refused leaves the loop at rest. -/
theorem AtRest.refused (rest : loop.AtRest) (compliant : loop.Compliant sessions paths)
    {request : Request} {rejection : Rejection}
    (refused : (loop.host.submit request).1 = .error rejection) :
    (loop.step (.submit request)).AtRest := by
  have fate := Host.submit_submission compliant.reachable.coherent.filed request
  have host : (loop.step (.submit request)).host = (loop.host.submit request).2 := rfl
  have hand : (loop.step (.submit request)).hand = loop.hand := rfl
  generalize loop.step (.submit request) = next at host hand
  generalize loop.host.submit request = outcome at host fate refused
  cases fate with
  | unfit | full =>
    obtain rfl : next = loop := Loop.ext host hand
    exact rest
  | taken => cases refused
  | refused dispatch transport error admitted opens sent =>
    have simulator : next.simulator = loop.simulator :=
      (congrArg (·.transport) host).trans (Simulator.eq_of_refused sent)
    refine ⟨?_, ?_⟩
    · rw [host]
      exact rest.bare.refile _
    · rw [onTheWay, hand, simulator]
      exact rest.reports

/-- A request reports no end. -/
theorem completions_submit (compliant : loop.Compliant sessions paths) (request : Request) :
    (loop.step (.submit request)).host.completions = loop.host.completions :=
  Host.completions_submit compliant.reachable.coherent.filed request

/-! ### What is not a request -/

/-- What comes of a stimulus that is no request. -/
structure Passes (loop : Loop) (reports : List Completion) (next : Loop) : Prop where
  rest : next.AtRest
  told : next.host.completions = loop.host.completions ++ reports

/-- **Nothing but a request disturbs a loop that is at rest.** -/
theorem AtRest.step (rest : loop.AtRest) (compliant : loop.Compliant sessions paths)
    {stimulus : Stimulus} (noRequest : ∀ request, stimulus ≠ .submit request) :
    loop.Passes [] (loop.step stimulus) := by
  have coherent := compliant.reachable.coherent
  have same {next : Loop} (same : next = loop) : loop.Passes [] next := by
    rw [same]
    exact ⟨rest, (List.append_nil _).symm⟩
  have still {next : Loop} (engine : next.host.engine = loop.host.engine)
      (effects : next.host.effects = loop.host.effects) (way : next.onTheWay = loop.onTheWay) :
      loop.Passes [] next := by
    refine ⟨⟨?_, ?_⟩, ?_⟩
    · rw [engine]
      exact rest.bare
    · rw [way]
      exact rest.reports
    · rw [Host.completions, Host.notifications, effects, List.append_nil]
      rfl
  have nothing (host : Host Simulator) : host.react host.engine.quiet = host := by
    rw [Host.react_eq]
    simp [Engine.quiet]
  have expired : loop.step .expireTransactions = loop := by
    refine Loop.ext ?_ rfl
    show loop.host.react (loop.host.engine.expireTransactions loop.host.now).2 = loop.host
    rw [Engine.expireTransactions_of_bare coherent.filed rest.bare]
    exact nothing loop.host
  cases stimulus with
  | submit request => exact absurd rfl (noRequest request)
  | take count => exact still rfl rfl (loop.onTheWay_take count)
  | deliver =>
    cases hand : loop.hand with
    | nil => exact same (step_deliver_nil hand)
    | cons event left =>
      have delivers := step_deliver_cons hand
      have about := rest.reports event (delivers.way ▸ List.mem_cons_self)
      have ends : event.endsCommands = false := by
        cases event <;> first | rfl | cases about
      obtain ⟨silent, ledger⟩ := Engine.handle_silent loop.host.engine loop.host.now ends
      refine ⟨⟨?_, fun other member => ?_⟩, ?_⟩
      · rw [delivers.host, Host.engine_handle, ledger]
        exact rest.bare
      · rw [delivers.left] at member
        exact rest.reports other (delivers.way ▸ List.mem_cons_of_mem _ member)
      · rw [delivers.host, Host.handle, Host.completions_react, silent.completions_eq]
  | expireTransactions => exact same expired
  | expireResponses => exact same (step_expireResponses compliant.calm)
  | tick => exact same ((step_tick compliant.expire.calm).trans expired)
  | shutdown =>
    refine same (Loop.ext ?_ rfl)
    show loop.host.react loop.host.engine.shutdown = loop.host
    rw [Engine.shutdown_of_bare coherent.filed rest.bare]
    exact nothing loop.host
  | advance | setMood => exact still rfl rfl rfl

/-- **The answer that is awaited** takes the loop to rest, and reports the completion. -/
theorem Awaits.deliver (awaits : loop.Awaits completion) (compliant : loop.Compliant sessions paths)
    {event : FirmwareEvent} {left : List FirmwareEvent} (hand : loop.hand = event :: left) :
    loop.Passes [completion] (loop.step .deliver) := by
  have delivers := step_deliver_cons hand
  obtain ⟨payload, reports, way, about, alone, reported⟩ := awaits
  obtain ⟨rfl, rest⟩ := List.cons.inj (delivers.way.symm.trans way)
  refine ⟨⟨?_, fun other member => ?_⟩, ?_⟩
  · rw [delivers.host, Host.engine_handle]
    exact Engine.bare_onCompleted_of_alone compliant.reachable.coherent alone (.ok payload)
  · rw [delivers.left, rest] at member
    exact about other member
  · rw [delivers.host, Host.handle, Host.completions_react]
    exact congrArg _ reported

/-- Until then a loop that waits goes on waiting. -/
theorem Awaits.step (awaits : loop.Awaits completion) (compliant : loop.Compliant sessions paths)
    {stimulus : Stimulus} (admits : loop.Admits stimulus) :
    (loop.step stimulus).Awaits completion ∧
        (loop.step stimulus).host.completions = loop.host.completions ∨
      loop.Passes [completion] (loop.step stimulus) := by
  have still {next : Loop} (engine : next.host.engine = loop.host.engine)
      (effects : next.host.effects = loop.host.effects) (way : next.onTheWay = loop.onTheWay) :
      next.Awaits completion ∧ next.host.completions = loop.host.completions := by
    obtain ⟨payload, reports, here, about, alone, reported⟩ := awaits
    refine ⟨.intro payload reports (way.trans here) about (engine ▸ alone) (engine ▸ reported), ?_⟩
    rw [Host.completions, Host.notifications, effects]
    rfl
  cases stimulus with
  | submit | expireTransactions | expireResponses | tick | shutdown =>
    exact absurd admits awaits.not_drained
  | take count => exact .inl (still rfl rfl (loop.onTheWay_take count))
  | deliver =>
    cases hand : loop.hand with
    | nil =>
      rw [step_deliver_nil hand]
      exact .inl ⟨awaits, rfl⟩
    | cons event left => exact .inr (awaits.deliver compliant hand)
  | advance | setMood => exact .inl (still rfl rfl rfl)

/-! ## Orderly runs -/

theorem orderly_append (loop : Loop) (first second : List Stimulus) :
    loop.Orderly (first ++ second) ↔ loop.Orderly first ∧ (loop.run first).Orderly second := by
  induction first generalizing loop with
  | nil => exact ⟨fun orderly => ⟨trivial, orderly⟩, And.right⟩
  | cons stimulus rest ih =>
    show _ ∧ (loop.step stimulus).Orderly (rest ++ second) ↔ (_ ∧ _) ∧ _
    rw [ih, and_assoc]
    rfl

/-- A loop with what lies ahead of it: all that will happen is in order, the firmware carries out all
commands, and there are numbers for them. -/
structure InOrder (loop : Loop) (ahead : List Stimulus) : Prop where
  orderly : loop.Orderly ahead
  willing : loop.Willing
  supplied : ∃ sessions paths, loop.Compliant sessions paths ∧
    (loop.run ahead).Within (sessions + loop.given Simulator.sessionCounter ahead)
      (paths + loop.given Simulator.pathCounter ahead)

namespace InOrder

variable {stimulus : Stimulus} {ahead first second : List Stimulus}

theorem step (inOrder : loop.InOrder (stimulus :: ahead)) : (loop.step stimulus).InOrder ahead := by
  obtain ⟨sessions, paths, compliant, within⟩ := inOrder.supplied
  simp only [given, ← Nat.add_assoc] at within
  have next := compliant.step stimulus
    (within.of_run (reachable_step compliant.reachable stimulus) ahead)
  exact ⟨inOrder.orderly.2, inOrder.willing.step compliant inOrder.orderly.1, _, _, next, within⟩

theorem run (inOrder : loop.InOrder (first ++ second)) : (loop.run first).InOrder second := by
  induction first generalizing loop with
  | nil => exact inOrder
  | cons stimulus rest ih => exact ih inOrder.step

theorem of_append (inOrder : loop.InOrder (first ++ second)) : loop.InOrder first := by
  obtain ⟨sessions, paths, compliant, within⟩ := inOrder.supplied
  refine ⟨((orderly_append loop first second).mp inOrder.orderly).1, inOrder.willing, sessions, paths,
    compliant, ?_⟩
  rw [run_append, given_append, given_append, ← Nat.add_assoc, ← Nat.add_assoc] at within
  exact within.of_run (reachable_run compliant.reachable first) second

theorem compliant (inOrder : loop.InOrder ahead) : ∃ sessions paths, loop.Compliant sessions paths := by
  obtain ⟨sessions, paths, compliant, _⟩ := inOrder.supplied
  exact ⟨sessions, paths, compliant⟩

/-- One command is out at most, at every moment. -/
theorem stands (inOrder : loop.InOrder ahead)
    (stands : loop.AtRest ∨ ∃ completion, loop.Awaits completion) :
    (loop.run ahead).AtRest ∨ ∃ completion, (loop.run ahead).Awaits completion := by
  induction ahead generalizing loop with
  | nil => exact stands
  | cons stimulus rest ih =>
    refine ih inOrder.step ?_
    obtain ⟨_, _, compliant⟩ := inOrder.compliant
    obtain ⟨_, _, after⟩ := inOrder.step.compliant
    have admits : loop.Admits stimulus := inOrder.orderly.1
    rcases stands with atRest | ⟨completion, awaits⟩
    · by_cases asked : ∃ request, stimulus = .submit request
      · obtain ⟨request, rfl⟩ := asked
        cases answer : (loop.host.submit request).1 with
        | ok id =>
          exact .inr ⟨_, atRest.submit compliant inOrder.willing admits after answer⟩
        | error rejection => exact .inl (atRest.refused compliant answer)
      · exact .inl (atRest.step compliant fun request same => asked ⟨request, same⟩).rest
    · rcases awaits.step compliant admits with ⟨awaits, _⟩ | passes
      · exact .inr ⟨completion, awaits⟩
      · exact .inl passes.rest

end InOrder

variable {span : List Stimulus}

/-- **Nothing but requests disturbs a loop that is at rest**, however much of it there is. -/
theorem AtRest.run (rest : loop.AtRest) (inOrder : loop.InOrder span)
    (noRequest : ∀ request, .submit request ∉ span) : loop.Passes [] (loop.run span) := by
  induction span generalizing loop with
  | nil => exact ⟨rest, (List.append_nil _).symm⟩
  | cons stimulus later ih =>
    obtain ⟨_, _, compliant⟩ := inOrder.compliant
    have first := rest.step compliant fun request same =>
      noRequest request (same ▸ List.mem_cons_self)
    have others := ih first.rest inOrder.step fun request member =>
      noRequest request (List.mem_cons_of_mem _ member)
    exact ⟨others.rest, others.told.trans
      (congrArg (· ++ []) (first.told.trans (List.append_nil _)))⟩

/-- **An answer that is awaited arrives** before everything has been handed over, and no request is
accepted meanwhile. -/
theorem Awaits.run (awaits : loop.Awaits completion) (inOrder : loop.InOrder span)
    (noRequest : ∀ request, .submit request ∉ span) :
    (loop.run span).Awaits completion ∧
        (loop.run span).host.completions = loop.host.completions ∨
      loop.Passes [completion] (loop.run span) := by
  induction span generalizing loop with
  | nil => exact .inl ⟨awaits, rfl⟩
  | cons stimulus later ih =>
    obtain ⟨_, _, compliant⟩ := inOrder.compliant
    have noRequest (request : Request) : .submit request ∉ later := fun member =>
      noRequest request (List.mem_cons_of_mem _ member)
    rcases awaits.step compliant inOrder.orderly.1 with ⟨still, same⟩ | passes
    · rcases ih still inOrder.step noRequest with ⟨waits, none⟩ | ended
      · exact .inl ⟨waits, none.trans same⟩
      · exact .inr ⟨ended.rest, ended.told.trans (congrArg (· ++ [completion]) same)⟩
    · have others := passes.rest.run inOrder.step noRequest
      refine .inr ⟨others.rest, others.told.trans ?_⟩
      rw [List.append_nil]
      exact passes.told

/-! ## The contract of the firmware -/

/-- What a simulated firmware is relied on for, in a run of a closed loop. -/
structure Honours (loop : Loop) (stimuli : List Stimulus) : Prop where
  /-- No answer is found at fault. -/
  faultless : ∀ completion ∈ (loop.run stimuli).host.completions, ∀ fault,
    completion.result ≠ .error (.invalidAnswer fault)
  /-- In an orderly run, what is reported between a request that is accepted and the moment when all
  events have been handed over, with no other request in between, is its success, and nothing else. -/
  fulfilled : loop.Orderly stimuli → ∀ before request span after id,
    stimuli = before ++ .submit request :: span ++ after →
    ((loop.run before).host.submit request).1 = .ok id →
    (∀ other, .submit other ∉ span) →
    (loop.run (before ++ .submit request :: span)).onTheWay = [] →
    (loop.run (before ++ .submit request :: span)).host.completions =
      (loop.run before).host.completions ++ [⟨id, request.kind,
        .ok ((loop.run before).simulator.detail (loop.run before).host.engine request)⟩]
  /-- So this is what has been reported of it when the next request is made. -/
  inTime : loop.Orderly stimuli → ∀ before request span other after id,
    stimuli = before ++ .submit request :: span ++ .submit other :: after →
    ((loop.run before).host.submit request).1 = .ok id →
    (∀ other, .submit other ∉ span) →
    (loop.run (before ++ .submit request :: span)).host.completions =
      (loop.run before).host.completions ++ [⟨id, request.kind,
        .ok ((loop.run before).simulator.detail (loop.run before).host.engine request)⟩]

/-- A request that is accepted in an orderly run is fulfilled by the time when all events have been
handed over. -/
theorem InOrder.fulfilled {before span after : List Stimulus} {request : Request}
    {id : TransactionId} (inOrder : loop.InOrder (before ++ .submit request :: span ++ after))
    (atRest : loop.AtRest) (accepted : ((loop.run before).host.submit request).1 = .ok id)
    (noRequest : ∀ other, .submit other ∉ span)
    (drained : (loop.run (before ++ .submit request :: span)).onTheWay = []) :
    (loop.run (before ++ .submit request :: span)).host.completions =
      (loop.run before).host.completions ++ [⟨id, request.kind,
        .ok ((loop.run before).simulator.detail (loop.run before).host.engine request)⟩] := by
  have upTo := inOrder.of_append
  have stands := upTo.of_append.stands (.inl atRest)
  have here := upTo.run
  obtain ⟨_, _, compliant⟩ := here.compliant
  obtain ⟨_, _, compliant'⟩ := here.step.compliant
  have admits : (loop.run before).onTheWay = [] := here.orderly.1
  have rested : (loop.run before).AtRest := by
    rcases stands with rested | ⟨_, awaits⟩
    · exact rested
    · exact absurd admits awaits.not_drained
  have awaits := rested.submit compliant here.willing admits compliant' accepted
  rw [run_append] at drained ⊢
  rcases awaits.run here.step noRequest with ⟨waits, _⟩ | passes
  · exact absurd drained waits.not_drained
  · exact passes.told.trans (congrArg (· ++ _) (completions_submit compliant request))

/-- **A simulated firmware honours what the engine relies on**, whatever it can do, however few events
its channel holds and however it is told to take commands, as long as there are numbers for the
commands, for the sessions and for the paths. -/
theorem run_honours (config : EngineConfig) (capacity : Nat) (capabilities : Capabilities)
    (autoConfirm : Bool) (now : Timestamp) (stimuli : List Stimulus)
    (within : ((Loop.new config (.new capacity capabilities autoConfirm) now).run stimuli).Within
      ((Loop.new config (.new capacity capabilities autoConfirm) now).given
        Simulator.sessionCounter stimuli)
      ((Loop.new config (.new capacity capabilities autoConfirm) now).given
        Simulator.pathCounter stimuli)) :
    (Loop.new config (.new capacity capabilities autoConfirm) now).Honours stimuli := by
  have compliant := Compliant.new config capacity capabilities autoConfirm now
  have atRest : (Loop.new config (.new capacity capabilities autoConfirm) now).AtRest :=
    ⟨Ledger.bare_new _ _, fun _ member => absurd member List.not_mem_nil⟩
  have willing : (Loop.new config (.new capacity capabilities autoConfirm) now).Willing :=
    fun _ => rfl
  generalize Loop.new config (.new capacity capabilities autoConfirm) now = loop at *
  rw [← Nat.zero_add (loop.given _ stimuli), ← Nat.zero_add (loop.given Simulator.pathCounter _)]
    at within
  have inOrder (orderly : loop.Orderly stimuli) : loop.InOrder stimuli :=
    ⟨orderly, willing, 0, 0, compliant, within⟩
  refine ⟨fun completion member fault faulty => ?_, ?_, ?_⟩
  · have faultless := (compliant.run stimuli within).faultless completion member
    rw [faulty] at faultless
    cases faultless
  · rintro orderly before request span after id rfl accepted noRequest drained
    exact (inOrder orderly).fulfilled atRest accepted noRequest drained
  · rintro orderly before request span other after id rfl accepted noRequest
    have last := ((orderly_append loop _ _).mp orderly).2
    exact (inOrder orderly).fulfilled atRest accepted noRequest last.1

/-- Somebody enables a host and starts a session, and hands over the answer to each request. -/
def opening : List Stimulus :=
  [.submit (.enable .standard), .take 1, .deliver,
    .submit (.publish ⟨0⟩ (.named "printer")), .take 1, .deliver]

/-- Both requests are fulfilled. -/
theorem run_honours_opening :
    let loop := Loop.new .standard (.new 2 .standard true) ⟨0⟩
    (loop.run opening).Within (loop.given Simulator.sessionCounter opening)
        (loop.given Simulator.pathCounter opening) ∧
      loop.Orderly opening ∧
      loop.Honours opening ∧
      (loop.run opening).host.completions =
        [⟨⟨1⟩, .configure, .ok (.enabled true)⟩,
          ⟨⟨2⟩, .publish, .ok (.sessionStarted ⟨1⟩ .publisher)⟩] := by
  intro loop
  have within : (loop.run opening).Within (loop.given Simulator.sessionCounter opening)
      (loop.given Simulator.pathCounter opening) :=
    ⟨by decide +kernel, by decide +kernel, by decide +kernel⟩
  have orderly : loop.Orderly opening :=
    ⟨rfl, trivial, trivial, (by decide +kernel : Loop.onTheWay _ = []), trivial, trivial, trivial⟩
  have honours : loop.Honours opening :=
    run_honours .standard 2 .standard true ⟨0⟩ opening within
  refine ⟨within, orderly, honours, ?_⟩
  have second := honours.fulfilled orderly (opening.take 3) (.publish ⟨0⟩ (.named "printer"))
    [.take 1, .deliver] [] ⟨2⟩ rfl (by decide +kernel) (fun _ => by simp) (by decide +kernel)
  exact second.trans (by decide +kernel)

end Loop

end NanHost
