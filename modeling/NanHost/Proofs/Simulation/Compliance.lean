import NanHost.Proofs.Engine.Faults
import NanHost.Proofs.Host.Calm
import NanHost.Proofs.Ledger.Numbering
import NanHost.Proofs.Simulation.Loop

/-!
# Compliance — in a closed loop no answer is found at fault

The simulated firmware answers a command with what the command asks for, and with a number that it has
not given out before. The engine may have given the command up by the time it takes the answer; then,
as long as the numbers of commands have not been used up, it finds no other command under that number.
And it may have forgotten the session or the path; then no other one has the number.

## What is proved

- `Numbered`: the numbers that were given out are one, two, three; each is named in one answer at most
  that is still on its way, and then it is not in use.
- `Expected`: an event on its way is the answer to a command that was filed, with what that command asks
  for, or it is about a path.
- `Compliant.step`: a closed loop stays so, whatever happens in it, and no completion that is told says
  that an answer could not be used.
-/

namespace NanHost

/-! ## Numbers that are given out -/

/-- The numbers of one kind, of which `given` were given out so far: those that answers on their way
name, and those in use. -/
structure Numbered (limit counter : Nat) (named : List Nat) (inUse : Nat → Prop) (given : Nat) :
    Prop where
  next : given < limit → counter = given + 1
  distinct : named.Nodup
  named : ∀ n ∈ named, 0 < n ∧ n ≤ given ∧ ¬inUse n
  used : ∀ n, inUse n → n ≤ given

namespace Numbered

variable {limit counter counter' given : Nat} {named drawn : List Nat} {inUse inUse' : Nat → Prop}

/-- A number that is given out is new. -/
theorem draw (numbered : Numbered limit counter named inUse given)
    (draws : Draws limit counter counter' drawn)
    (room : given + (if counter' = counter then 0 else 1) ≤ limit) :
    Numbered limit counter' (named ++ drawn) inUse
      (given + if counter' = counter then 0 else 1) := by
  cases draws with
  | none =>
    rw [if_pos rfl, List.append_nil]
    exact numbered
  | one moves follows =>
    rw [if_neg moves] at room ⊢
    obtain rfl := numbered.next room
    refine ⟨fun more => follows (by omega), ?_, fun n member => ?_, fun n here => ?_⟩
    · refine List.nodup_append.mpr ⟨numbered.distinct, List.nodup_singleton _, ?_⟩
      intro n member last here same
      obtain rfl := List.mem_singleton.mp here
      have below := (numbered.named n member).2.1
      omega
    · rcases List.mem_append.mp member with earlier | last
      · obtain ⟨positive, below, unused⟩ := numbered.named n earlier
        exact ⟨positive, Nat.le_succ_of_le below, unused⟩
      · obtain rfl := List.mem_singleton.mp last
        exact ⟨Nat.succ_pos _, Nat.le_refl _, fun here => absurd (numbered.used _ here) (by omega)⟩
    · exact Nat.le_succ_of_le (numbered.used n here)

/-- A number whose answer arrives comes into use, or it does not. -/
theorem deliver (numbered : Numbered limit counter (drawn ++ named) inUse given)
    (grows : ∀ n, inUse' n → inUse n ∨ n ∈ drawn) :
    Numbered limit counter named inUse' given := by
  obtain ⟨_, rest, apart⟩ := List.nodup_append.mp numbered.distinct
  refine ⟨numbered.next, rest, fun n member => ?_, fun n used => ?_⟩
  · obtain ⟨positive, below, unused⟩ := numbered.named n (List.mem_append_right _ member)
    refine ⟨positive, below, fun used => ?_⟩
    rcases grows n used with before | now
    · exact unused before
    · exact apart n now n member rfl
  · rcases grows n used with before | now
    · exact numbered.used n before
    · exact (numbered.named n (List.mem_append_left _ now)).2.1

/-- A number may go out of use. -/
theorem release (numbered : Numbered limit counter named inUse given)
    (fewer : ∀ n, inUse' n → inUse n) : Numbered limit counter named inUse' given := by
  have numbered : Numbered limit counter ([] ++ named) inUse given := numbered
  exact numbered.deliver fun n used => .inl (fewer n used)

end Numbered

/-- Whether there is a session of a number. -/
def Engine.SessionInUse (engine : Engine) (n : Nat) : Prop :=
  ∃ id : SessionId, id.raw.toNat = n ∧ engine.holds (.session id) = true

/-- Whether there is a data path of a number. -/
def Engine.PathInUse (engine : Engine) (n : Nat) : Prop :=
  ∃ id : DataPathId, id.raw.toNat = n ∧ engine.holds (.path id) = true

/-! ## Events on their way -/

/-- The answer brings what a command asks for: a report, the number of a session or of a path. -/
structure TransactionRecord.Suits (record : TransactionRecord) (payload : AnswerPayload) : Prop where
  report : record.kind = .capabilities → ∃ report, payload = .capabilities report
  session : ∀ role, record.context = .newSession role → ∃ id, payload = .sessionId id
  path : record.context = .newDataPath → ∃ id, payload = .pathId id

/-- What a simulated firmware answers suits the command that was admitted. -/
theorem Engine.suits_of_vet {engine : Engine} {request : Request} {dispatch : Dispatch}
    (admitted : engine.vet request = .ok dispatch) (simulator : Simulator)
    {record : TransactionRecord} (commission : record.Commissioned)
    (kind : record.kind = dispatch.command.kind) (context : record.context = dispatch.context) :
    record.Suits (simulator.answer dispatch.command).1.1 where
  report query := by
    rw [kind] at query
    cases command : dispatch.command <;> rw [command] at query <;>
      first | exact ⟨_, rfl⟩ | cases query
  session role new := by
    have start : record.kind = role.startKind := by
      unfold TransactionRecord.Commissioned at commission
      rw [new] at commission
      generalize record.kind = kind', record.origin = origin at commission
      cases commission
      rfl
    have asked : request.kind = role.startKind := by rw [← kind_of_vet admitted, ← kind, start]
    have numbered {id : SessionId} {config : DiscoveryConfig}
        (admitted : engine.vetDiscovery id config = .ok dispatch) :
        ∃ id, (simulator.answer dispatch.command).1.1 = .sessionId id := by
      obtain ⟨command, about⟩ := vetDiscovery_ok admitted
      rcases about with ⟨unassigned, _⟩ | ⟨_, update, _⟩
      · have starts : dispatch.command.starts = true := by
          rw [command, Command.starts_ofDiscovery, unassigned]
          rfl
        exact ⟨_, (simulator.answering _).of_start starts⟩
      · rw [context, update] at new
        cases new
    cases request with
    | publish id config => exact numbered admitted
    | subscribe id config => exact numbered admitted
    | _ => cases role <;> cases asked
  path new := by
    have initiate : record.kind = .initiateDataPath := by
      unfold TransactionRecord.Commissioned at commission
      rw [new] at commission
      generalize record.kind = kind', record.origin = origin at commission
      cases commission
      rfl
    rw [kind] at initiate
    exact ⟨_, (simulator.answering _).of_initiate initiate⟩

/-- A session that is there after a step had its number before, or the step was the answer that names
it. -/
theorem Host.Reachable.sessionInUse {host : Host Simulator} (reachable : host.Reachable)
    {act : Act Simulator} {n : Nat} (used : (host.step act).engine.SessionInUse n) :
    host.engine.SessionInUse n ∨ ∃ event, act = .handle event ∧ event.sessionNumber? = some n := by
  obtain ⟨id, rfl, there⟩ := used
  rcases reachable.holds_of_step there with before | ⟨event, same, begins⟩
  · exact .inl ⟨id, rfl, before⟩
  · refine .inr ⟨event, same, ?_⟩
    unfold FirmwareEvent.begins? at begins
    split at begins <;> cases begins
    rfl

/-- So is it with a path, if no peer has asked for it. -/
theorem Host.Reachable.pathInUse {host : Host Simulator} (reachable : host.Reachable)
    {act : Act Simulator} {n : Nat} (used : (host.step act).engine.PathInUse n)
    (nobody : ∀ event, act = .handle event → event.isPeerRequest = false) :
    host.engine.PathInUse n ∨ ∃ event, act = .handle event ∧ event.pathNumber? = some n := by
  obtain ⟨id, rfl, there⟩ := used
  rcases reachable.holds_of_step there with before | ⟨event, same, begins⟩
  · exact .inl ⟨id, rfl, before⟩
  · refine .inr ⟨event, same, ?_⟩
    have nobody := nobody event same
    unfold FirmwareEvent.begins? at begins
    split at begins <;> cases begins
    · rfl
    · cases nobody

/-- Nothing comes into use but by an event. -/
theorem Host.Reachable.inUse_of_silent {host : Host Simulator} (reachable : host.Reachable)
    (act : Act Simulator) (silent : ∀ event, act ≠ .handle event) (n : Nat) :
    ((host.step act).engine.SessionInUse n → host.engine.SessionInUse n) ∧
      ((host.step act).engine.PathInUse n → host.engine.PathInUse n) := by
  constructor
  · intro used
    rcases reachable.sessionInUse used with before | ⟨event, same, _⟩
    · exact before
    · exact absurd same (silent event)
  · intro used
    rcases reachable.pathInUse used fun event same => absurd same (silent event) with
      before | ⟨event, same, _⟩
    · exact before
    · exact absurd same (silent event)

/-- An event that may be on its way: the failure of a command, an answer that suits the command on file
under its number, if there is one, or what became of a path. -/
inductive Expected (ledger : Ledger) (filings : Nat) : FirmwareEvent → Prop
  | failed (id : TransactionId) (status : FirmwareStatus) :
    Expected ledger filings (.commandCompleted id (.error status))
  | answered (id : TransactionId) (payload : AnswerPayload) (filed : id.raw.toNat ≤ filings)
    (suits : ∀ record, ledger.get? id = some record → record.Suits payload) :
    Expected ledger filings (.commandCompleted id (.ok payload))
  | report (event : FirmwareEvent) (about : event.pathReport?.isSome = true) :
    Expected ledger filings event

namespace Expected

variable {ledger next : Ledger} {filings : Nat} {event : FirmwareEvent}

/-- It may still be so when commands have left. -/
theorem of_fewer (expected : Expected ledger filings event)
    (fewer : ∀ {id record}, next.get? id = some record → ledger.get? id = some record) :
    Expected next filings event := by
  cases expected with
  | failed id status => exact .failed id status
  | answered id payload filed suits =>
    exact .answered id payload filed fun record onFile => suits record (fewer onFile)
  | report _ about => exact .report _ about

/-- And when a command was filed under the next number. -/
theorem file (expected : Expected ledger filings event) {record : TransactionRecord}
    (number : record.id.raw.toNat = filings + 1) :
    Expected (ledger.file record) (filings + 1) event := by
  cases expected with
  | failed id status => exact .failed id status
  | answered id payload filed suits =>
    refine .answered id payload (Nat.le_succ_of_le filed) fun other onFile => ?_
    rcases Ledger.cases_file onFile with ⟨rfl, _⟩ | before
    · rw [number] at filed
      exact absurd filed (Nat.not_succ_le_self filings)
    · exact suits other before
  | report _ about => exact .report _ about

/-- No peer asks for a path. -/
theorem not_isPeerRequest (expected : Expected ledger filings event) :
    event.isPeerRequest = false := by
  cases expected with
  | failed | answered => rfl
  | report _ about => cases event <;> first | rfl | cases about

end Expected

/-- What a simulated firmware has to say to a command on file is expected. -/
theorem expected_replies {simulator : Simulator} {command : Command} {id : TransactionId}
    {ledger : Ledger} {filings : Nat} (filed : id.raw.toNat ≤ filings)
    (suits : ∀ record, ledger.get? id = some record →
      record.Suits (simulator.answer command).1.1) :
    ∀ event ∈ simulator.replies id command, Expected ledger filings event := by
  intro event member
  unfold Simulator.replies at member
  split at member
  · exact absurd member List.not_mem_nil
  next status _ =>
    obtain rfl := List.mem_singleton.mp member
    exact .failed id status
  · rcases List.mem_cons.mp member with rfl | follows
    · exact .answered id _ filed suits
    · exact .report event (Simulator.pathReport_of_follows (Option.mem_toList.mp follows))

/-! ## Loops in which all is as expected -/

namespace Loop

/-- A closed loop in which `sessions` numbers of sessions and `paths` numbers of paths were given out,
and in which all is as expected. -/
structure Compliant (loop : Loop) (sessions paths : Nat) : Prop where
  reachable : loop.host.Reachable
  calm : loop.host.engine.Calm
  serial : loop.host.engine.ledger.Serial loop.host.filings
  expected : ∀ event ∈ loop.onTheWay,
    Expected loop.host.engine.ledger loop.host.filings event
  sessions : Numbered 255 loop.simulator.sessionCounter
    (loop.onTheWay.filterMap (·.sessionNumber?)) loop.host.engine.SessionInUse sessions
  paths : Numbered (UInt32.size - 1) loop.simulator.pathCounter
    (loop.onTheWay.filterMap (·.pathNumber?)) loop.host.engine.PathInUse paths
  faultless : ∀ completion ∈ loop.host.completions, isFaulty completion.result = false

/-- A counter that stands as before has given out no number. -/
theorem drawn_of_eq {counter : Simulator → Nat} {loop next : Loop}
    (same : counter next.simulator = counter loop.simulator) : loop.drawn counter next = 0 :=
  if_pos same

namespace Compliant

variable {loop next : Loop} {sessions paths : Nat}

theorem new (config : EngineConfig) (capacity : Nat) (capabilities : Capabilities)
    (autoConfirm : Bool) (now : Timestamp) :
    (Loop.new config (.new capacity capabilities autoConfirm) now).Compliant 0 0 where
  reachable := .new config _ now
  calm := Engine.calm_new config
  serial := .new _ _
  expected event member := absurd member List.not_mem_nil
  sessions := by
    refine ⟨fun _ => rfl, List.nodup_nil, fun n member => absurd member List.not_mem_nil, ?_⟩
    rintro n ⟨id, _, there⟩
    rw [show (Loop.new config _ now).host.engine = .new config from rfl, Engine.holds_new] at there
    cases there
  paths := by
    refine ⟨fun _ => rfl, List.nodup_nil, fun n member => absurd member List.not_mem_nil, ?_⟩
    rintro n ⟨id, _, there⟩
    rw [show (Loop.new config _ now).host.engine = .new config from rfl, Engine.holds_new] at there
    cases there
  faultless completion member := absurd member List.not_mem_nil

/-! ### Commands that end, and all else -/

/-- **What puts nothing on the way and gives out no number** leaves a loop as expected, if what was on
the way may still be, and if no fault is told of. -/
theorem nothingNew (compliant : loop.Compliant sessions paths) (act : Act Simulator)
    (host : next.host = loop.host.step act) (silent : ∀ event, act ≠ .handle event)
    (way : next.onTheWay = loop.onTheWay)
    (nextSession : next.simulator.sessionCounter = loop.simulator.sessionCounter)
    (nextPath : next.simulator.pathCounter = loop.simulator.pathCounter)
    (serial : next.host.engine.ledger.Serial next.host.filings)
    (still : ∀ event, Expected loop.host.engine.ledger loop.host.filings event →
      Expected next.host.engine.ledger next.host.filings event)
    (told : ∃ notices, next.host.completions = loop.host.completions ++ completions notices ∧
      Faultless notices) :
    next.Compliant sessions paths := by
  obtain ⟨notices, completions, faultless⟩ := told
  have fewer := compliant.reachable.inUse_of_silent act silent
  rw [← host] at fewer
  refine ⟨?_, ?_, serial, fun event member => ?_, ?_, ?_, fun completion member => ?_⟩
  · rw [host]
    exact compliant.reachable.step act
  · rw [host]
    exact compliant.reachable.calm_step compliant.calm fun event same => absurd same (silent event)
  · rw [way] at member
    exact still event (compliant.expected event member)
  · rw [way, nextSession]
    exact compliant.sessions.release fun n => (fewer n).1
  · rw [way, nextPath]
    exact compliant.paths.release fun n => (fewer n).2
  · rw [completions, List.mem_append] at member
    rcases member with before | now
    · exact compliant.faultless completion before
    · exact faultless completion now

/-- Such as what lets commands end. -/
theorem aside (compliant : loop.Compliant sessions paths) (act : Act Simulator)
    (host : next.host = loop.host.step act) (silent : ∀ event, act ≠ .handle event)
    (way : next.onTheWay = loop.onTheWay)
    (nextSession : next.simulator.sessionCounter = loop.simulator.sessionCounter)
    (nextPath : next.simulator.pathCounter = loop.simulator.pathCounter)
    (filings : next.host.filings = loop.host.filings)
    (keeps : ∃ condition,
      next.host.engine.ledger = loop.host.engine.ledger.keep condition)
    (told : ∃ notices, next.host.completions = loop.host.completions ++ completions notices ∧
      Faultless notices) :
    next.Compliant sessions paths := by
  obtain ⟨condition, ledger⟩ := keeps
  refine compliant.nothingNew act host silent way nextSession nextPath ?_ (fun event expected => ?_)
    told
  · rw [ledger, filings]
    exact compliant.serial.keep condition
  · rw [ledger, filings]
    refine expected.of_fewer fun onFile => ?_
    rw [Ledger.get?_keep, Option.filter_eq_some_iff] at onFile
    exact onFile.1

/-! ### Events that are handed to the host -/

/-- The answer that is handed to the host can be used. -/
theorem answers (compliant : loop.Compliant sessions paths) {id : TransactionId}
    {payload : AnswerPayload} {rest : List FirmwareEvent}
    (way : loop.onTheWay = .commandCompleted id (.ok payload) :: rest)
    {record : TransactionRecord} (onFile : loop.host.engine.ledger.get? id = some record) :
    loop.host.engine.Answers record payload := by
  have member : .commandCompleted id (.ok payload) ∈ loop.onTheWay := way ▸ List.mem_cons_self
  have suits : record.Suits payload := by
    cases compliant.expected _ member with
    | answered _ _ _ suits => exact suits record onFile
    | report _ about => cases about
  refine ⟨suits.report, fun role new => ?_, fun new => ?_⟩
  · obtain ⟨session, rfl⟩ := suits.session role new
    obtain ⟨positive, _, unused⟩ := compliant.sessions.named session.raw.toNat
      (List.mem_filterMap.mpr ⟨_, member, rfl⟩)
    refine ⟨session, rfl, ?_, ?_⟩
    · rw [SessionId.isAssigned, bne_iff_ne]
      rintro zero
      rw [zero] at positive
      cases positive
    · exact Option.not_isSome_iff_eq_none.mp fun there => unused ⟨session, rfl, there⟩
  · obtain ⟨path, rfl⟩ := suits.path new
    obtain ⟨positive, _, unused⟩ := compliant.paths.named path.raw.toNat
      (List.mem_filterMap.mpr ⟨_, member, rfl⟩)
    refine ⟨path, rfl, ?_, ?_⟩
    · rw [DataPathId.isAssigned, bne_iff_ne]
      rintro zero
      rw [zero] at positive
      cases positive
    · exact Option.not_isSome_iff_eq_none.mp fun there => unused ⟨path, rfl, there⟩

/-- So what the event tells is without a fault. -/
theorem faultless_handle (compliant : loop.Compliant sessions paths) {event : FirmwareEvent}
    {rest : List FirmwareEvent} (way : loop.onTheWay = event :: rest) (now : Timestamp) :
    Faultless (loop.host.engine.handle now event).2 := by
  have expected := compliant.expected event (way ▸ List.mem_cons_self)
  have coherent := compliant.reachable.coherent
  cases expected with
  | failed id status => exact coherent.faultless_onCompleted id _ (by rintro _ _ _ ⟨⟩)
  | answered id payload filed suits =>
    refine coherent.faultless_onCompleted id _ fun record given onFile same => ?_
    obtain rfl := Except.ok.inj same
    exact compliant.answers way onFile
  | report _ about =>
    refine .of_silent (Engine.handle_silent _ now ?_).1
    cases event <;> first | rfl | cases about

/-- **An event that is handed to the host** leaves a loop as expected. -/
theorem deliver (compliant : loop.Compliant sessions paths) {event : FirmwareEvent}
    {rest : List FirmwareEvent} (host : next.host = loop.host.handle event)
    (way : loop.onTheWay = event :: rest) (nextWay : next.onTheWay = rest) :
    next.Compliant sessions paths := by
  have member : event ∈ loop.onTheWay := way ▸ List.mem_cons_self
  have nobody : ∀ other, Act.handle event = (.handle other : Act Simulator) →
      other.isPeerRequest = false := by
    rintro _ ⟨rfl⟩
    exact (compliant.expected event member).not_isPeerRequest
  have simulator : next.simulator = loop.simulator := by
    unfold Loop.simulator
    rw [host, Host.handle, Host.react_eq]
  have filings : next.host.filings = loop.host.filings := by
    rw [host]
    exact Host.filings_react _ _
  obtain ⟨condition, ledger⟩ := compliant.reachable.coherent.handle_keeps loop.host.now event
  rw [← Host.engine_handle, ← host] at ledger
  have sessions := compliant.sessions
  have paths := compliant.paths
  rw [way, ← List.singleton_append, List.filterMap_append] at sessions paths
  have handled : next.host = loop.host.step (.handle event) := host
  refine ⟨?_, ?_, ?_, fun other there => ?_, ?_, ?_, fun completion told => ?_⟩
  · rw [handled]
    exact compliant.reachable.step _
  · rw [handled]
    exact compliant.reachable.calm_step compliant.calm nobody
  · rw [ledger, filings]
    exact compliant.serial.keep condition
  · rw [ledger, filings]
    rw [nextWay] at there
    refine (compliant.expected other (way ▸ List.mem_cons_of_mem _ there)).of_fewer fun onFile => ?_
    rw [Ledger.get?_keep, Option.filter_eq_some_iff] at onFile
    exact onFile.1
  · rw [nextWay, simulator, handled]
    refine sessions.deliver fun n used => ?_
    refine (compliant.reachable.sessionInUse used).imp_right ?_
    rintro ⟨_, ⟨rfl⟩, names⟩
    exact List.mem_filterMap.mpr ⟨event, List.mem_singleton_self event, names⟩
  · rw [nextWay, simulator, handled]
    refine paths.deliver fun n used => ?_
    refine (compliant.reachable.pathInUse used nobody).imp_right ?_
    rintro ⟨_, ⟨rfl⟩, names⟩
    exact List.mem_filterMap.mpr ⟨event, List.mem_singleton_self event, names⟩
  · rw [host, Host.handle, Host.completions_react, List.mem_append] at told
    rcases told with before | now
    · exact compliant.faultless completion before
    · exact compliant.faultless_handle way _ completion now

/-! ### Requests -/

variable {request : Request} {record : TransactionRecord} {dispatch : Dispatch} {effect : Effect}

/-- A command that is filed takes the next number. -/
theorem numbered (compliant : loop.Compliant sessions paths) (dispatch : Dispatch)
    (pushed : next.host.effects = loop.host.effects.push effect)
    (filing : effect.notification? = none) (room : next.host.filings ≤ Ledger.idCount) :
    next.host.filings = loop.host.filings + 1 ∧
      (loop.host.recordFor dispatch .caller).id.raw.toNat = loop.host.filings + 1 := by
  have filings := Host.filings_push pushed filing
  rw [filings] at room
  exact ⟨filings, compliant.serial.id_newRecord room _ _ _ _⟩

/-- **A command that the firmware takes** puts on the way what the firmware has to say to it. -/
theorem taken (compliant : loop.Compliant sessions paths)
    (stepped : next.host = loop.host.step (.submit request)) (hand : next.hand = loop.hand)
    (admitted : loop.host.engine.vet request = .ok dispatch)
    (same : record = loop.host.recordFor dispatch .caller)
    (opens : loop.host.engine.ledger.Opens record dispatch .caller)
    (ledger : next.host.engine.ledger = loop.host.engine.ledger.file record)
    (pushed : next.host.effects = loop.host.effects.push (.issued record.id dispatch.command))
    (takes : loop.simulator.Takes record.id dispatch.command next.simulator)
    (within : next.Within (sessions + loop.drawn Simulator.sessionCounter next)
      (paths + loop.drawn Simulator.pathCounter next)) :
    next.Compliant (sessions + loop.drawn Simulator.sessionCounter next)
      (paths + loop.drawn Simulator.pathCounter next) := by
  obtain ⟨filings, number⟩ := compliant.numbered dispatch pushed rfl within.filings
  rw [← same] at number
  have fewer := compliant.reachable.inUse_of_silent (.submit request) (by rintro _ ⟨⟩)
  rw [← stepped] at fewer
  have reachable : next.host.Reachable := stepped ▸ compliant.reachable.step _
  have onFile : next.host.engine.ledger.get? record.id = some record := by
    rw [ledger, Ledger.get?_file, if_pos rfl]
  have way : next.onTheWay =
      loop.onTheWay ++ loop.simulator.replies record.id dispatch.command := by
    rw [onTheWay, hand, takes.events, onTheWay, List.append_assoc]
  refine ⟨reachable, ?_, ?_, fun event member => ?_, ?_, ?_, ?_⟩
  · rw [stepped]
    exact compliant.reachable.calm_step compliant.calm (by rintro _ ⟨⟩)
  · rw [ledger, filings]
    exact compliant.serial.file number
  · rw [way] at member
    rw [ledger, filings]
    rcases List.mem_append.mp member with before | now
    · exact (compliant.expected event before).file number
    · refine expected_replies (Nat.le_of_eq number) (fun other filed => ?_) event now
      obtain rfl := Option.some.inj ((ledger ▸ onFile).symm.trans filed)
      exact Engine.suits_of_vet admitted _ (reachable.coherent.commissioned onFile) opens.kind
        opens.context
  · rw [way, List.filterMap_append]
    exact (compliant.sessions.draw takes.sessions within.sessions).release fun n => (fewer n).1
  · rw [way, List.filterMap_append]
    exact (compliant.paths.draw takes.paths (Nat.le_pred_of_lt within.paths)).release
      fun n => (fewer n).2
  · rw [Host.completions_push pushed rfl]
    exact compliant.faultless

/-- A command that the firmware refuses leaves nothing but its number behind. -/
theorem refused (compliant : loop.Compliant sessions paths)
    (stepped : next.host = loop.host.step (.submit request)) (hand : next.hand = loop.hand)
    (same : record = loop.host.recordFor dispatch .caller)
    (ledger : next.host.engine.ledger = (loop.host.engine.ledger.file record).rollback record.id)
    {error : TransportError}
    (pushed : next.host.effects = loop.host.effects.push (.refused record.id dispatch.command error))
    (simulator : next.simulator = loop.simulator) (room : next.host.filings ≤ Ledger.idCount) :
    next.Compliant sessions paths := by
  obtain ⟨filings, number⟩ := compliant.numbered dispatch pushed rfl room
  rw [← same] at number
  have way : next.onTheWay = loop.onTheWay := by rw [onTheWay, hand, simulator, onTheWay]
  refine compliant.nothingNew (.submit request) stepped (by rintro _ ⟨⟩) way (congrArg _ simulator)
    (congrArg _ simulator) ?_ (fun event expected => ?_) ⟨[], ?_, .nil⟩
  · rw [ledger, filings]
    exact compliant.serial.refile number
  · rw [ledger, filings]
    refine (expected.file number).of_fewer fun onFile => ?_
    rw [Ledger.get?_rollback] at onFile
    split at onFile
    · cases onFile
    · exact onFile
  · rw [Host.completions_push pushed rfl]
    exact (List.append_nil _).symm

/-- **A request** leaves a loop as expected, as long as there are numbers for all that it asks for. -/
theorem submit (compliant : loop.Compliant sessions paths)
    (host : next.host = (loop.host.submit request).2) (hand : next.hand = loop.hand)
    (within : next.Within (sessions + loop.drawn Simulator.sessionCounter next)
      (paths + loop.drawn Simulator.pathCounter next)) :
    next.Compliant (sessions + loop.drawn Simulator.sessionCounter next)
      (paths + loop.drawn Simulator.pathCounter next) := by
  have stepped : next.host = loop.host.step (.submit request) := host
  have fate := Host.submit_submission compliant.reachable.coherent.filed request
  generalize loop.host.submit request = outcome at host fate
  cases fate with
  | unfit | full =>
    obtain rfl : next = loop := Loop.ext host hand
    rw [drawn_of_eq rfl, drawn_of_eq rfl]
    exact compliant
  | taken dispatch transport admitted opens sent =>
    refine compliant.taken stepped hand admitted rfl opens ?_ (congrArg (·.effects) host) ?_ within
    · rw [host]
      exact Host.ledger_stage _ _ _
    · unfold Loop.simulator
      rw [host]
      exact Simulator.takes_of_send sent
  | refused dispatch transport error admitted opens sent =>
    have simulator : next.simulator = loop.simulator :=
      (congrArg (·.transport) host).trans (Simulator.eq_of_refused sent)
    rw [drawn_of_eq (congrArg _ simulator), drawn_of_eq (congrArg _ simulator)]
    exact compliant.refused stepped hand rfl (congrArg (·.engine.ledger) host)
      (congrArg (·.effects) host) simulator within.filings

/-! ### Steps -/

/-- A reaction of the engine that lets commands leave, and tells of no fault. -/
theorem react (compliant : loop.Compliant sessions paths) (act : Act Simulator)
    (silent : ∀ event, act ≠ .handle event) {reaction : Reaction}
    (host : loop.host.step act = loop.host.react reaction)
    (keeps : ∃ condition, reaction.1.ledger = loop.host.engine.ledger.keep condition)
    (faultless : Faultless reaction.2) :
    (Loop.mk (loop.host.step act) loop.hand).Compliant sessions paths := by
  have simulator : (Loop.mk (loop.host.step act) loop.hand).simulator = loop.simulator := by
    unfold Loop.simulator
    rw [host, Host.react_eq]
  refine compliant.aside act rfl silent ?_ (congrArg _ simulator) (congrArg _ simulator) ?_ ?_ ?_
  · rw [onTheWay, simulator, onTheWay]
  · rw [host]
    exact Host.filings_react _ _
  · rw [host, Host.engine_react]
    exact keeps
  · rw [host]
    exact ⟨reaction.2, Host.completions_react _ _, faultless⟩

theorem expire (compliant : loop.Compliant sessions paths) :
    (loop.step .expireTransactions).Compliant sessions paths :=
  have coherent := compliant.reachable.coherent
  compliant.react .expireTransactions (by rintro _ ⟨⟩) rfl (coherent.expireTransactions_keeps _)
    (coherent.faultless_expireTransactions _)

/-- What leaves the engine, the record and the counters as they are, and puts nothing on the way. -/
theorem still (compliant : loop.Compliant sessions paths) (act : Act Simulator)
    (host : next.host = loop.host.step act) (silent : ∀ event, act ≠ .handle event)
    (way : next.onTheWay = loop.onTheWay)
    (nextSession : next.simulator.sessionCounter = loop.simulator.sessionCounter)
    (nextPath : next.simulator.pathCounter = loop.simulator.pathCounter)
    (engine : next.host.engine = loop.host.engine) (effects : next.host.effects = loop.host.effects) :
    next.Compliant sessions paths := by
  refine compliant.aside act host silent way nextSession nextPath ?_ ⟨fun _ => true, ?_⟩ ⟨[], ?_, ?_⟩
  · rw [Host.filings, effects, Host.filings]
  · rw [engine, Ledger.keep_true]
  · rw [Host.completions, Host.notifications, effects]
    exact (List.append_nil _).symm
  · exact .nil

/-- **A closed loop stays as expected**, whatever happens in it, as long as there are numbers. -/
theorem step (compliant : loop.Compliant sessions paths) (stimulus : Stimulus)
    (within : (loop.step stimulus).Within
      (sessions + loop.drawn Simulator.sessionCounter (loop.step stimulus))
      (paths + loop.drawn Simulator.pathCounter (loop.step stimulus))) :
    (loop.step stimulus).Compliant
      (sessions + loop.drawn Simulator.sessionCounter (loop.step stimulus))
      (paths + loop.drawn Simulator.pathCounter (loop.step stimulus)) := by
  have coherent := compliant.reachable.coherent
  -- All but a request draw no number.
  have undrawn {next : Loop} (same : next.simulator.sessionCounter = loop.simulator.sessionCounter)
      (same' : next.simulator.pathCounter = loop.simulator.pathCounter)
      (compliant : next.Compliant sessions paths) :
      next.Compliant (sessions + loop.drawn Simulator.sessionCounter next)
        (paths + loop.drawn Simulator.pathCounter next) := by
    rw [drawn_of_eq same, drawn_of_eq same']
    exact compliant
  cases stimulus with
  | submit request => exact compliant.submit rfl rfl within
  | take count =>
    exact undrawn rfl rfl (compliant.still (.replaceTransport _) rfl (by rintro _ ⟨⟩)
      (loop.onTheWay_take count) rfl rfl rfl rfl)
  | deliver =>
    cases hand : loop.hand with
    | nil =>
      rw [step_deliver_nil hand]
      exact undrawn rfl rfl compliant
    | cons event rest =>
      have delivered := step_deliver_cons hand
      exact undrawn (congrArg _ delivered.simulator) (congrArg _ delivered.simulator)
        (compliant.deliver delivered.host delivered.way delivered.left)
  | expireTransactions =>
    exact undrawn (congrArg Simulator.sessionCounter (transport_react _ _))
      (congrArg Simulator.pathCounter (transport_react _ _)) compliant.expire
  | expireResponses =>
    rw [step_expireResponses compliant.calm]
    exact undrawn rfl rfl compliant
  | tick =>
    rw [step_tick compliant.expire.calm]
    exact undrawn (congrArg Simulator.sessionCounter (transport_react _ _))
      (congrArg Simulator.pathCounter (transport_react _ _)) compliant.expire
  | shutdown =>
    exact undrawn (congrArg Simulator.sessionCounter (transport_react _ _))
      (congrArg Simulator.pathCounter (transport_react _ _))
      (compliant.react .shutdown (by rintro _ ⟨⟩) rfl coherent.shutdown_keeps
        coherent.faultless_shutdown)
  | advance millis =>
    exact undrawn rfl rfl (compliant.still (.advance millis) rfl (by rintro _ ⟨⟩) rfl rfl rfl rfl rfl)
  | setMood kind mood =>
    exact undrawn rfl rfl (compliant.still (.replaceTransport _) rfl (by rintro _ ⟨⟩) rfl rfl rfl rfl
      rfl)

/-- **So does a closed loop in a run.** -/
theorem run (compliant : loop.Compliant sessions paths) (stimuli : List Stimulus)
    (within : (loop.run stimuli).Within (sessions + loop.given Simulator.sessionCounter stimuli)
      (paths + loop.given Simulator.pathCounter stimuli)) :
    (loop.run stimuli).Compliant (sessions + loop.given Simulator.sessionCounter stimuli)
      (paths + loop.given Simulator.pathCounter stimuli) := by
  induction stimuli generalizing loop sessions paths with
  | nil => exact compliant
  | cons stimulus rest ih =>
    simp only [given, ← Nat.add_assoc] at within ⊢
    refine ih (compliant.step stimulus (within.of_run ?_ rest)) within
    exact reachable_step compliant.reachable stimulus

end Compliant

end Loop

end NanHost
