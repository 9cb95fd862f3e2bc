import NanHost.Proofs.Simulation.Replies

/-!
# Delivery — an answer is queued whole or not at all

A command may bring about two events: its answer, and what follows from it. A firmware that found a
place for the first and none for the second would have said half of what there is to say, or would have
given a number out and told nobody. So it looks first whether there is room for both.

## What is proved

- `sendByPlaces_eq`: the firmware may as well keep a place for each event in turn, and call the command
  off when there is none. It never comes to that: what it takes up, it brings to an end.
- `send_of_open`: a command is taken if there is room for two events, and refused otherwise, whatever it is.
- `Sound.run`: the channel is never overfull, the history never too long, and no counter stands at zero.
- `Sound.answers`: what a whole answer is, by the command: what it brings, what follows, and which
  numbers come next.
- `run_whole` collects what holds of a command, whatever was done to the firmware before.
-/

namespace NanHost

/-! ## Places in the channel -/

namespace Channel

variable {α : Type}

/-- Keeps one more place in a channel, of which `kept` are kept already: how many are kept then. -/
def reserve (channel : Channel α) (kept : Nat) : Except ChannelError Nat :=
  if channel.closed then .error .closed
  else if channel.free ≤ kept then .error .full
  else .ok (kept + 1)

/-- Puts a message into a place that was kept for it. -/
def fill (channel : Channel α) (message : α) : Channel α :=
  { channel with waiting := channel.waiting.push message }

end Channel

namespace Simulator

variable {simulator next : Simulator} {id : TransactionId} {command : Command}

/-- Puts an event into a place that was kept for it. -/
def fill (simulator : Simulator) (event : FirmwareEvent) : Simulator :=
  { simulator with events := simulator.events.fill event }

/-- Takes a command, with a place kept for each event before any of them is queued. A number that was
given out stays so when the command is called off for want of the second place. -/
def sendByPlaces (simulator : Simulator) (id : TransactionId) (command : Command) :
    Except TransportError Unit × Simulator :=
  let kind := command.kind
  if simulator.events.free < 2 then (.error .unavailable, simulator)
  else match simulator.mood kind with
    | .silent => (.ok (), simulator.record id kind)
    | .failing status =>
      match simulator.events.reserve 0 with
      | .error _ => (.error .unavailable, simulator)
      | .ok _ => (.ok (), (simulator.record id kind).fill (.commandCompleted id (.error status)))
    | .willing =>
      match simulator.events.reserve 0 with
      | .error _ => (.error .unavailable, simulator)
      | .ok kept =>
        let ((payload, followUp), numbered) := simulator.answer command
        let answered := (numbered.record id kind).fill (.commandCompleted id (.ok payload))
        match followUp with
        | none => (.ok (), answered)
        | some event =>
          match numbered.events.reserve kept with
          | .error _ => (.error .unavailable, numbered)
          | .ok _ => (.ok (), answered.fill event)

/-! ## Commands that are taken and refused -/

/-- A firmware has two things to say to a command at most. -/
theorem length_replies_le (simulator : Simulator) (id : TransactionId) (command : Command) :
    (simulator.replies id command).length ≤ 2 := by
  unfold replies
  split
  · exact Nat.zero_le 2
  · exact Nat.le_succ 1
  · rw [List.length_cons]
    have one : (simulator.answer command).1.2.toList.length ≤ 1 := by
      cases (simulator.answer command).1.2 <;> simp
    omega

/-- **Whether a command is taken** is a matter of room alone, as long as the receiver is there. -/
theorem send_of_open (isOpen : simulator.events.closed = false) (id : TransactionId)
    (command : Command) :
    simulator.send id command =
      if simulator.events.free < 2 then (.error .unavailable, simulator)
      else (.ok (), simulator.taken id command) := by
  rw [send_eq]
  simp only [isOpen, Bool.false_eq_true, false_and, or_false]

/-- **Place by place it comes to the same.** Where there is room for two events, a place is found for
each, so the second one is never missing; and the first one is missing if the receiver has gone. -/
theorem sendByPlaces_eq (simulator : Simulator) (id : TransactionId) (command : Command) :
    simulator.sendByPlaces id command = simulator.send id command := by
  rw [send_eq]
  unfold sendByPlaces
  dsimp only
  by_cases full : simulator.events.free < 2
  · rw [if_pos full, if_pos (.inl full)]
  · rw [if_neg full]
    have recorded := simulator.record_answer id command
    unfold taken numbering replies
    cases isOpen : simulator.events.closed with
    | true =>
      have lost : simulator.events.reserve 0 = .error .closed := by simp [Channel.reserve, isOpen]
      cases simulator.mood command.kind with
      | silent => simp [full, record]
      | failing status => simp [lost]
      | willing => simp [lost]
    | false =>
      have first : simulator.events.reserve 0 = .ok 1 := by
        simp only [Channel.reserve, isOpen, Bool.false_eq_true, if_false]
        rw [if_neg (by omega)]
      have second : (simulator.answer command).2.events.reserve 1 = .ok 2 := by
        rw [(simulator.answering command).counters]
        simp only [Channel.reserve, isOpen, Bool.false_eq_true, if_false]
        rw [if_neg (by omega)]
      cases simulator.mood command.kind with
      | silent => simp [full, record]
      | failing status => simp [full, first, fill, Channel.fill, record]
      | willing =>
        simp only [first]
        cases (simulator.answer command).1.2 with
        | none => simp [full, fill, Channel.fill, recorded]
        | some event =>
          have both (events : Array FirmwareEvent) (answer : FirmwareEvent) :
              (events.push answer).push event = events ++ #[answer, event] := Array.ext' (by simp)
          simp [full, second, fill, Channel.fill, recorded, both]

/-! ## What a firmware goes through -/

/-- What can be done to a simulated firmware while its receiver is there. -/
inductive Use where
  | send (id : TransactionId) (command : Command)
  /-- The firmware is told how to take commands of a kind from now on. -/
  | setMood (kind : CommandKind) (mood : Mood)
  /-- It reports an event that no command asked for. -/
  | inject (event : FirmwareEvent)
  /-- The receiver takes up to `count` events. -/
  | take (count : Nat)

/-- The firmware after something was done to it. -/
def step (simulator : Simulator) : Use → Simulator
  | .send id command => (simulator.send id command).2
  | .setMood kind mood => simulator.setMood kind mood
  | .inject event => (simulator.inject event).2
  | .take count => (simulator.take count).2

/-- The firmware after a number of things were done to it. -/
def run (simulator : Simulator) (uses : List Use) : Simulator := uses.foldl step simulator

/-- What holds of a simulated firmware whose receiver is there, whatever it has been through. -/
structure Sound (simulator : Simulator) : Prop where
  isOpen : simulator.events.closed = false
  /-- The channel is not overfull. -/
  fits : simulator.events.waiting.size ≤ simulator.events.capacity
  /-- The counters never stand at zero. -/
  sessions : simulator.nextSession ≠ 0
  paths : simulator.nextPath ≠ 0
  /-- The history goes back no further than it may. -/
  history : simulator.history.size ≤ historySize

theorem sound_new (capacity : Nat) (capabilities : Capabilities) (autoConfirm : Bool) :
    (new capacity capabilities autoConfirm).Sound where
  isOpen := rfl
  fits := Nat.zero_le _
  sessions := (by decide : (1 : UInt8) ≠ 0)
  paths := (by decide : (1 : UInt32) ≠ 0)
  history := Nat.zero_le _

/-- After the last number comes the first one, which is not zero. -/
theorem Sound.counters (sound : simulator.Sound) {payload : AnswerPayload}
    (answering : simulator.Answering command payload next) :
    next.nextSession ≠ 0 ∧ next.nextPath ≠ 0 := by
  cases answering with
  | report | empty => exact ⟨sound.sessions, sound.paths⟩
  | session starts =>
    refine ⟨?_, sound.paths⟩
    show (if simulator.nextSession + 1 = 0 then (1 : UInt8) else simulator.nextSession + 1) ≠ 0
    split
    next => decide
    next more => exact more
  | path request known =>
    refine ⟨sound.sessions, ?_⟩
    show (if simulator.nextPath + 1 = 0 then (1 : UInt32) else simulator.nextPath + 1) ≠ 0
    split
    next => decide
    next more => exact more

theorem Sound.numbering (sound : simulator.Sound) (command : Command) :
    (simulator.numbering command).nextSession ≠ 0 ∧ (simulator.numbering command).nextPath ≠ 0 := by
  unfold Simulator.numbering
  split
  · exact sound.counters (simulator.answering command)
  · exact ⟨sound.sessions, sound.paths⟩
  · exact ⟨sound.sessions, sound.paths⟩

/-- **A history grows by one command**, and the oldest one makes room if need be. -/
theorem toList_record (simulator : Simulator) (id : TransactionId) (kind : CommandKind) :
    (simulator.record id kind).history.toList =
      (if simulator.history.size = historySize then simulator.history.toList.tail
        else simulator.history.toList) ++ [(id, kind)] := by
  unfold record
  dsimp only
  rw [Array.toList_push]
  split
  next full =>
    rw [Array.toList_extract, List.extract_eq_take_drop, List.drop_one, List.take_of_length_le]
    exact Nat.le_of_eq (by rw [List.length_tail, Array.length_toList, full])
  next => rfl

theorem size_record_le (within : simulator.history.size ≤ historySize) (id : TransactionId)
    (kind : CommandKind) : (simulator.record id kind).history.size ≤ historySize := by
  rw [← Array.length_toList, toList_record]
  split
  next full =>
    rw [List.length_append, List.length_tail, Array.length_toList, full, List.length_singleton]
    decide
  next room =>
    rw [List.length_append, Array.length_toList, List.length_singleton]
    omega

theorem Sound.taken (sound : simulator.Sound) (room : 2 ≤ simulator.events.free)
    (id : TransactionId) (command : Command) : (simulator.taken id command).Sound where
  isOpen := sound.isOpen
  fits := by
    show (simulator.events.waiting ++ (simulator.replies id command).toArray).size ≤
      simulator.events.capacity
    have few : (simulator.replies id command).toArray.size ≤ 2 := by
      rw [List.size_toArray]
      exact simulator.length_replies_le id command
    have fits := sound.fits
    unfold Channel.free at room
    rw [Array.size_append]
    omega
  sessions := (sound.numbering command).1
  paths := (sound.numbering command).2
  history := size_record_le sound.history id command.kind

/-- **A firmware stays sound, whatever is done to it.** -/
theorem Sound.step (sound : simulator.Sound) (use : Use) : (simulator.step use).Sound := by
  cases use with
  | send id command =>
    show (simulator.send id command).2.Sound
    rw [send_of_open sound.isOpen]
    split
    next => exact sound
    next room => exact sound.taken (Nat.not_lt.mp room) id command
  | setMood kind mood =>
    exact ⟨sound.isOpen, sound.fits, sound.sessions, sound.paths, sound.history⟩
  | inject event =>
    show (simulator.inject event).2.Sound
    unfold inject Channel.send
    simp only [sound.isOpen, Bool.false_eq_true, if_false]
    by_cases full : simulator.events.free = 0
    · simp only [if_pos full]
      exact sound
    · simp only [if_neg full]
      refine ⟨rfl, ?_, sound.sessions, sound.paths, sound.history⟩
      have fits := sound.fits
      unfold Channel.free at full
      show (simulator.events.waiting.push event).size ≤ simulator.events.capacity
      rw [Array.size_push]
      omega
  | take count =>
    refine ⟨sound.isOpen, ?_, sound.sessions, sound.paths, sound.history⟩
    show (simulator.events.waiting.extract count simulator.events.waiting.size).size ≤
      simulator.events.capacity
    have fits := sound.fits
    rw [Array.size_extract]
    omega

theorem Sound.run (sound : simulator.Sound) (uses : List Use) : (simulator.run uses).Sound := by
  induction uses generalizing simulator with
  | nil => exact sound
  | cons use rest ih => exact ih (sound.step use)

/-! ## Whole answers -/

/-- **A whole answer** to a command that is carried out: what it brings and what follows it, by the
command, and the firmware after it. -/
structure Answers (simulator : Simulator) (command : Command) (payload : AnswerPayload)
    (followUp : Option FirmwareEvent) (next : Simulator) : Prop where
  /-- Whoever asks what the firmware can do is told so. -/
  capabilities : command = .getCapabilities → payload = .capabilities simulator.capabilities
  /-- A session that starts is given the next number. -/
  session : command.starts = true → payload = .sessionId ⟨simulator.nextSession⟩
  /-- So is a path that is initiated. -/
  path : command.kind = .initiateDataPath → payload = .pathId ⟨simulator.nextPath⟩
  /-- To all other commands, updates among them, the answer brings nothing. -/
  empty : command ≠ .getCapabilities → command.starts = false →
    command.kind ≠ .initiateDataPath → payload = .empty
  /-- What is to follow does, and nothing else. -/
  followUp : ∀ event, followUp = some event ↔ simulator.Follows command event
  /-- No number that is given is zero. -/
  assigned : (∀ session, payload = .sessionId session → session.isAssigned = true) ∧
    ∀ path, payload = .pathId path → path.isAssigned = true
  /-- A number that is given is used up, and no other one is. -/
  sessions : next.sessionCounter =
    if command.starts then following 255 simulator.sessionCounter else simulator.sessionCounter
  paths : next.pathCounter =
    if command.kind = .initiateDataPath then following (UInt32.size - 1) simulator.pathCounter
    else simulator.pathCounter

theorem Sound.answers (sound : simulator.Sound) (command : Command) :
    simulator.Answers command (simulator.answer command).1.1 (simulator.answer command).1.2
      (simulator.answer command).2 := by
  have answering := simulator.answering command
  generalize (simulator.answer command).1.1 = payload, (simulator.answer command).2 = next
    at answering
  constructor
  case capabilities =>
    rintro rfl
    exact answering.of_query
  case session => exact answering.of_start
  case path => exact answering.of_initiate
  case empty => exact answering.of_other
  case followUp => exact fun event => follows_iff
  case assigned =>
    constructor
    · intro session payload
      cases answering <;> cases payload
      exact bne_iff_ne.mpr sound.sessions
    · intro path payload
      cases answering <;> cases payload
      exact bne_iff_ne.mpr sound.paths
  case sessions =>
    cases answering with
    | report | path => rfl
    | session starts => rw [if_pos starts, sessionCounter_numberSession]
    | empty _ noStart => rw [noStart]; rfl
  case paths =>
    cases answering with
    | report => rfl
    | session starts => rw [if_neg (Command.not_initiate_of_starts starts)]; rfl
    | path => exact simulator.pathCounter_numberPath.trans (if_pos rfl).symm
    | empty _ _ notInitiated => rw [if_neg notInitiated]

/-- **What is left of a command that was taken.** -/
structure Took (simulator : Simulator) (id : TransactionId) (command : Command)
    (next : Simulator) : Prop where
  /-- The history gains the command, and loses the oldest one at most. -/
  history : next.history.toList =
    (if simulator.history.size = 1024 then simulator.history.toList.tail
      else simulator.history.toList) ++ [(id, command.kind)]
  /-- A firmware that does not answer says nothing. -/
  silent : simulator.mood command.kind = .silent →
    next.events.waiting.toList = simulator.events.waiting.toList ∧
      next.nextSession = simulator.nextSession ∧ next.nextPath = simulator.nextPath
  /-- One that is to fail says so, and that is all. -/
  failing : ∀ status, simulator.mood command.kind = .failing status →
    next.events.waiting.toList =
        simulator.events.waiting.toList ++ [.commandCompleted id (.error status)] ∧
      next.nextSession = simulator.nextSession ∧ next.nextPath = simulator.nextPath
  /-- Any other one answers as the command asks for, and right behind its answer is what follows. -/
  willing : simulator.mood command.kind = .willing → ∃ payload followUp,
    next.events.waiting.toList = simulator.events.waiting.toList ++
        .commandCompleted id (.ok payload) :: followUp.toList ∧
      simulator.Answers command payload followUp next
  /-- The channel is as large as before, and not overfull. -/
  fits : next.events.waiting.size ≤ next.events.capacity
  channel : next.events.capacity = simulator.events.capacity ∧ next.events.closed = false
  /-- What the firmware was told to be does not change. -/
  character : next.capabilities = simulator.capabilities ∧
    next.autoConfirm = simulator.autoConfirm ∧ next.mood = simulator.mood

theorem Sound.took (sound : simulator.Sound) (room : 2 ≤ simulator.events.free)
    (id : TransactionId) (command : Command) :
    simulator.Took id command (simulator.taken id command) := by
  have waiting : (simulator.taken id command).events.waiting.toList =
      simulator.events.waiting.toList ++ simulator.replies id command := Array.toList_append
  constructor
  case history => exact simulator.toList_record id command.kind
  case silent =>
    intro silent
    rw [waiting, replies, silent]
    unfold Simulator.taken Simulator.numbering
    rw [silent]
    exact ⟨List.append_nil _, rfl, rfl⟩
  case failing =>
    intro status failing
    rw [waiting, replies, failing]
    unfold Simulator.taken Simulator.numbering
    rw [failing]
    exact ⟨rfl, rfl, rfl⟩
  case willing =>
    intro willing
    refine ⟨_, _, waiting.trans (congrArg _ (simulator.replies_willing willing id)), ?_⟩
    have answers := sound.answers command
    have numbered : simulator.numbering command = (simulator.answer command).2 := by
      rw [Simulator.numbering, willing]
    rw [← numbered] at answers
    exact { answers with }
  case fits => exact (sound.taken room id command).fits
  case channel => exact ⟨rfl, sound.isOpen⟩
  case character =>
    unfold Simulator.taken
    rw [numbering_counters]
    exact ⟨rfl, rfl, rfl⟩

/-- **What holds of every command**, at a firmware that is asked to take it. -/
structure Whole (simulator : Simulator) : Prop where
  /-- The channel is not overfull. -/
  fits : simulator.events.waiting.size ≤ simulator.events.capacity
  /-- It makes no difference whether the places are kept one after the other. -/
  byPlaces : ∀ id command, simulator.sendByPlaces id command = simulator.send id command
  /-- A command is taken whenever there is room for two events, whatever it is. -/
  room : ∀ id command, (simulator.send id command).1 = .ok () ↔
    simulator.events.waiting.size + 2 ≤ simulator.events.capacity
  /-- A firmware that refuses a command is as it was. -/
  refused : ∀ id command error, (simulator.send id command).1 = .error error →
    error = .unavailable ∧ (simulator.send id command).2 = simulator
  /-- One that takes it says all that there is to say. -/
  took : ∀ id command, (simulator.send id command).1 = .ok () →
    simulator.Took id command (simulator.send id command).2

theorem Sound.whole (sound : simulator.Sound) : simulator.Whole := by
  have room_iff : 2 ≤ simulator.events.free ↔
      simulator.events.waiting.size + 2 ≤ simulator.events.capacity := by
    unfold Channel.free
    omega
  constructor
  case fits => exact sound.fits
  case byPlaces => exact simulator.sendByPlaces_eq
  case room =>
    intro id command
    rw [send_of_open sound.isOpen, ← room_iff, ← Nat.not_lt]
    split
    next full => simp [full]
    next room => simp [room]
  case refused =>
    intro id command error refused
    rw [send_of_open sound.isOpen] at refused ⊢
    split at refused
    next full =>
      rw [if_pos full]
      exact ⟨(Except.error.inj refused).symm, rfl⟩
    next => cases refused
  case took =>
    intro id command taken
    rw [send_of_open sound.isOpen] at taken ⊢
    split at taken
    next => cases taken
    next room =>
      rw [if_neg room]
      exact sound.took (Nat.not_lt.mp room) id command

/-- **An answer is queued whole or not at all**, whatever was done to the firmware before. -/
theorem run_whole (sound : simulator.Sound) (uses : List Use) : (simulator.run uses).Whole :=
  (sound.run uses).whole

/-- A path is initiated and a session started. -/
def initiateAndPublish : List Use :=
  [.send ⟨1⟩ (.initiateDataPath ⟨⟨0⟩, .zero, .available, none, "nan0", .empty, .unsecured⟩ none),
    .send ⟨2⟩ (.publish ⟨0⟩ (.named "printer"))]

/-- Of a channel with room for four events the path takes two and the session one. The next command
finds room for its answer, but not for what follows, and leaves nothing behind. -/
theorem run_whole_initiateAndPublish :
    let start := Simulator.new 4 .standard true
    let simulator := start.run initiateAndPublish
    start.Sound ∧ simulator.Whole ∧
      simulator.history.toList = [(⟨1⟩, .initiateDataPath), (⟨2⟩, .publish)] ∧
      simulator.events.waiting.toList =
        [.commandCompleted ⟨1⟩ (.ok (.pathId ⟨1⟩)),
          .dataPathConfirmed ⟨1⟩ true .zero .empty .success,
          .commandCompleted ⟨2⟩ (.ok (.sessionId ⟨1⟩))] ∧
      simulator.nextPath = 2 ∧ simulator.nextSession = 2 ∧
      (simulator.send ⟨3⟩ (.endDataPath ⟨1⟩)).1 = .error .unavailable ∧
      (simulator.send ⟨3⟩ (.endDataPath ⟨1⟩)).2 = simulator := by
  intro start simulator
  have sound : start.Sound := sound_new 4 .standard true
  have whole : simulator.Whole := run_whole sound initiateAndPublish
  have refused : (simulator.send ⟨3⟩ (.endDataPath ⟨1⟩)).1 = .error .unavailable := by decide
  exact ⟨sound, whole, by decide, by decide, by decide, by decide, refused,
    (whole.refused _ _ _ refused).2⟩

end Simulator

end NanHost
