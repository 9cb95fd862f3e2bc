import Mathlib.Data.List.Basic
import NanHost.Metrics
import NanHost.Proofs.Engine.Announcements
import NanHost.Proofs.Host.Closings
import NanHost.Proofs.Tables

/-!
# The meter — what it makes of what comes out of a host

A meter knows nothing of the engine. Of sessions and paths it sees what the caller is told, and that
commands which it has seen being handed over have ended. This module says what becomes of the state of
a meter as it reads effects, without asking where they come from.

## What is proved

- `shows_reads_told`: what the meter shows of an entry after a number of notifications is what was
  said of it last. A completion says that an entry is gone if its command was to end the entry, and if
  it disabled the interface.
- `shows_reads_silent`: where no completion is among the effects, the notices alone count.
- `getElem?_inFlight_reads_told`: notifications make the meter forget the commands that they report,
  and no other.
- `gauged_reads`: once anything was told, the gauges are the sizes of the sets.
- `issued_reads`, `completed_reads`, `latencySamples_reads_told`: the counters count what is handed
  over and what is reported, by kinds, and by outcomes.
-/

namespace NanHost

/-! ## What is said of an entry -/

/-- The entry that a notification says is down. -/
def Notification.lowers? : Notification → Option Place
  | sessionTerminated id _ _ => some (.session id)
  | dataPathTerminated id _ => some (.path id)
  | _ => none

/-- What a notification says of an entry: whether it is up, if it says anything. -/
def Notification.says? (place : Place) (notice : Notification) : Option Bool :=
  if notice.raises? = some place then some true
  else if notice.lowers? = some place then some false
  else none

/-- Whether a completion reports that the interface was disabled. -/
def Completion.disables (completion : Completion) : Bool :=
  match completion.result with
  | .ok .disabled => true
  | _ => false

theorem Completion.disables_iff {completion : Completion} :
    completion.disables = true ↔ completion.result = .ok .disabled := by
  unfold disables
  split <;> simp_all

/-- Whether an entry is gone with a command, given what each command was to end. -/
def Completion.settles (place : Place) (ends : TransactionId → Option Place)
    (completion : Completion) : Bool :=
  completion.disables || ends completion.id = some place

/-- What a notification says of an entry if it is known what each command was to end. -/
def Notification.implies? (place : Place) (ends : TransactionId → Option Place)
    (notice : Notification) : Option Bool :=
  (notice.says? place).or
    (if notice.completion?.any (·.settles place ends) then some false else none)

/-- What was said of an entry last. -/
def lastSaid (say : Notification → Option Bool) (notices : List Notification) : Option Bool :=
  (notices.filterMap say).getLast?

theorem lastSaid_append (say : Notification → Option Bool) (first second : List Notification) :
    lastSaid say (first ++ second) = (lastSaid say second).or (lastSaid say first) := by
  rw [lastSaid, List.filterMap_append, List.getLast?_append]
  rfl

theorem lastSaid_cons (say : Notification → Option Bool) (notice : Notification)
    (rest : List Notification) :
    lastSaid say (notice :: rest) = (lastSaid say rest).or (say notice) := by
  rw [← List.singleton_append, lastSaid_append]
  cases said : say notice <;> simp [lastSaid, said]

/-- Where no command is reported that took the entry away, what is said is all that counts. -/
theorem lastSaid_implies_of_unsettled {place : Place} {ends : TransactionId → Option Place}
    {notices : List Notification}
    (unsettled : ∀ completion ∈ completions notices, completion.settles place ends = false) :
    lastSaid (·.implies? place ends) notices = lastSaid (·.says? place) notices := by
  unfold lastSaid
  refine congrArg _ (List.filterMap_congr fun notice member => ?_)
  unfold Notification.implies?
  cases reported : notice.completion? with
  | none => simp
  | some completion =>
    have same := unsettled completion (List.mem_filterMap.mpr ⟨notice, member, reported⟩)
    simp [same]

/-- Where one is reported, and nothing is said to be up, the entry is said to be gone. -/
theorem lastSaid_implies_of_settled {place : Place} {ends : TransactionId → Option Place}
    {notices : List Notification} {completion : Completion}
    (reported : completion ∈ completions notices) (settles : completion.settles place ends = true)
    (falls : ∀ notice ∈ notices, notice.raises? = none) :
    lastSaid (·.implies? place ends) notices = some false := by
  have only : ∀ word ∈ notices.filterMap (·.implies? place ends), word = false := by
    intro word member
    obtain ⟨notice, member, said⟩ := List.mem_filterMap.mp member
    simp only [Notification.implies?, Notification.says?, falls notice member] at said
    grind
  obtain ⟨notice, member, same⟩ := List.mem_filterMap.mp reported
  have some' : notices.filterMap (·.implies? place ends) ≠ [] := by
    refine List.ne_nil_of_mem (List.mem_filterMap.mpr ⟨notice, member, ?_⟩ : false ∈ _)
    simp only [Notification.implies?, Notification.says?, falls notice member, same]
    grind
  have last := List.getLast_mem some'
  rw [lastSaid, List.getLast?_eq_some_getLast some', only _ last]

/-! ## Commands that the meter remembers -/

namespace MeteredCommand

/-- Whether the command takes the entry away as it ends. -/
def takes (command : MeteredCommand) : Place → Bool
  | .session id => command.stops = some id
  | .path id => command.ends = some id

@[simp] theorem kind_ofCommand (command : Command) : (ofCommand command).kind = command.kind := by
  cases command <;> rfl

@[simp] theorem takes_ofCommand (command : Command) (place : Place) :
    (ofCommand command).takes place = decide (command.closes? = some place) := by
  cases place <;> cases command <;> simp [takes, ofCommand, Command.closes?]

end MeteredCommand

namespace Metrics

variable {metrics : Metrics} {place : Place} {completion : Completion}

/-! ## What the meter shows -/

/-- Whether the meter has an entry among those that are up. -/
def shows (metrics : Metrics) : Place → Bool
  | .session id => metrics.sessions.contains id
  | .path id => metrics.paths.contains id

/-- Whether the meter takes an entry away at a completion. -/
def loses (metrics : Metrics) (place : Place) (completion : Completion) : Bool :=
  completion.disables || (metrics.inFlight[completion.id]?).any fun command =>
    command.kind = completion.kind && command.takes place

theorem shows_forget (id : TransactionId) : (metrics.forget id).shows place = metrics.shows place :=
  rfl

/-- The end of a command takes away what it was to end. -/
theorem shows_close (command : MeteredCommand) :
    (metrics.close command).shows place = (metrics.shows place && !command.takes place) := by
  obtain ⟨kind, stops, ends⟩ := command
  cases place with
  | session id =>
    cases stops with
    | none => simp [close, shows, MeteredCommand.takes]
    | some other =>
      by_cases same : other = id
      · simp [close, shows, MeteredCommand.takes, same]
      · simp [close, shows, MeteredCommand.takes, same]
  | path id =>
    cases ends with
    | none => simp [close, shows, MeteredCommand.takes]
    | some other =>
      by_cases same : other = id
      · simp [close, shows, MeteredCommand.takes, same]
      · simp [close, shows, MeteredCommand.takes, same]

/-- A success adds the session that it started, and a disabling takes everything away. -/
theorem shows_achieve :
    (metrics.achieve completion.result).shows place =
      (((Notification.completed completion).says? place).getD
        (metrics.shows place && !completion.disables)) := by
  obtain ⟨id, kind, result⟩ := completion
  cases result with
  | error failure =>
    simp [achieve, Notification.says?, Notification.raises?, Notification.lowers?,
      Completion.disables]
  | ok detail =>
    cases detail with
    | sessionStarted session role =>
      cases place with
      | session other =>
        by_cases same : session = other
        · simp [achieve, shows, Notification.says?, Notification.raises?, same]
        · simp [achieve, shows, Notification.says?, Notification.raises?, Notification.lowers?,
            Completion.disables, same]
      | path other =>
        simp [achieve, shows, Notification.says?, Notification.raises?, Notification.lowers?,
          Completion.disables]
    | disabled =>
      cases place <;> simp [achieve, shows, Notification.says?, Notification.raises?,
        Notification.lowers?, Completion.disables]
    | _ =>
      simp [achieve, Notification.says?, Notification.raises?, Notification.lowers?,
        Completion.disables]

/-- What the meter shows after a completion. -/
theorem shows_complete :
    (metrics.complete completion).shows place =
      (((Notification.completed completion).says? place).getD
        (metrics.shows place && !metrics.loses place completion)) := by
  unfold complete
  dsimp only
  rw [shows_achieve, shows_forget]
  congr 1
  unfold loses
  cases metrics.inFlight[completion.id]? with
  | none => simp [shows]
  | some command =>
    by_cases same : command.kind = completion.kind
    · have taken (completed : Tally) :
          ({ metrics with completed := completed }.close command).shows place =
            (metrics.shows place && !command.takes place) := shows_close command
      simp only [same, if_true, taken, Option.any_some, decide_true, Bool.true_and, Bool.not_or]
      rw [Bool.and_assoc, Bool.and_comm (!command.takes place)]
    · simp [same, shows]

/-- **What the meter shows after a notification**: what the notification says, or what was shown
before, unless it takes the entry away. -/
theorem shows_notice (notice : Notification) :
    (metrics.notice notice).shows place =
      ((notice.says? place).getD
        (metrics.shows place && !notice.completion?.any (metrics.loses place))) := by
  cases notice with
  | completed completion => exact shows_complete
  | sessionTerminated session role reason =>
    cases place with
    | session id =>
      by_cases same : session = id <;>
        simp [notice, shows, Notification.says?, Notification.raises?, Notification.lowers?,
          Notification.completion?, same]
    | path id =>
      simp [notice, shows, Notification.says?, Notification.raises?, Notification.lowers?,
        Notification.completion?]
  | dataPathConfirmed path | dataPathTerminated path =>
    cases place with
    | session id =>
      simp [notice, shows, Notification.says?, Notification.raises?, Notification.lowers?,
        Notification.completion?]
    | path id =>
      by_cases same : path = id <;>
        simp [notice, shows, Notification.says?, Notification.raises?, Notification.lowers?,
          Notification.completion?, same]
  | _ =>
    cases place <;> simp [notice, shows, Notification.says?, Notification.raises?,
      Notification.lowers?, Notification.completion?]

/-! ## Commands under way -/

theorem getElem?_inFlight_issued (id other : TransactionId) (command : Command) :
    (metrics.observe (.issued id command)).inFlight[other]? =
      if other = id then some (.ofCommand command) else metrics.inFlight[other]? :=
  Tables.getElem?_insert _ id other _

theorem getElem?_inFlight_refused (id other : TransactionId) (command : Command)
    (error : TransportError) :
    (metrics.observe (.refused id command error)).inFlight[other]? =
      if other = id then none else metrics.inFlight[other]? := by
  show ((metrics.inFlight.insert id (.ofCommand command)).erase id)[other]? = _
  rw [Tables.getElem?_erase, Tables.getElem?_insert]
  split <;> rfl

theorem inFlight_achieve (result : Except Failure CompletionDetail) :
    (metrics.achieve result).inFlight = metrics.inFlight := by
  unfold achieve
  split <;> rfl

theorem inFlight_complete :
    (metrics.complete completion).inFlight = metrics.inFlight.erase completion.id := by
  unfold complete
  dsimp only
  rw [inFlight_achieve]
  split
  · split <;> rfl
  · rfl

/-- A notification makes the meter forget the command that it reports. -/
theorem getElem?_inFlight_told (notice : Notification) (id : TransactionId) :
    (metrics.observe (.told notice)).inFlight[id]? =
      if notice.completion?.any (·.id = id) then none else metrics.inFlight[id]? := by
  cases notice with
  | completed completion =>
    show (metrics.complete completion).inFlight[id]? = _
    rw [inFlight_complete, Tables.getElem?_erase]
    simp [Notification.completion?, eq_comm]
  | _ => rfl

/-! ## Lists of effects -/

/-- What the meter is after it has taken on a list of effects. -/
def reads (metrics : Metrics) (effects : List Effect) : Metrics := effects.foldl observe metrics

theorem observeAll_eq (metrics : Metrics) (effects : Array Effect) :
    metrics.observeAll effects = metrics.reads effects.toList := by
  rw [observeAll, reads, Array.foldl_toList]

theorem reads_append (metrics : Metrics) (first second : List Effect) :
    metrics.reads (first ++ second) = (metrics.reads first).reads second := List.foldl_append

/-- Notifications make the meter forget the commands that they report, and no other. -/
theorem getElem?_inFlight_reads_told (metrics : Metrics) (notices : List Notification)
    (id : TransactionId) :
    (metrics.reads (notices.map .told)).inFlight[id]? =
      if id ∈ (completions notices).map (·.id) then none else metrics.inFlight[id]? := by
  induction notices generalizing metrics with
  | nil => rfl
  | cons notice rest ih =>
    have read : (metrics.reads ((notice :: rest).map .told)).inFlight[id]? = _ :=
      ih (metrics.observe (.told notice))
    rw [read, getElem?_inFlight_told, completions_cons]
    cases notice.completion? with
    | none => rfl
    | some completion =>
      by_cases same : completion.id = id
      · simp [same]
      · simp [same, Ne.symm same]

/-- The meter remembers the commands that are reported, and what each of them was to end. -/
structure Recalls (metrics : Metrics) (ends : TransactionId → Option Place)
    (reports : List Completion) : Prop where
  known : ∀ completion ∈ reports, ∃ command : Command,
    metrics.inFlight[completion.id]? = some (.ofCommand command) ∧
      command.kind = completion.kind ∧ command.closes? = ends completion.id
  distinct : (reports.map (·.id)).Nodup

/-- What is left to be read is remembered still. -/
theorem Recalls.tail {ends : TransactionId → Option Place} {notice : Notification}
    {rest : List Notification} (recalls : metrics.Recalls ends (completions (notice :: rest))) :
    (metrics.observe (.told notice)).Recalls ends (completions rest) := by
  have distinct := recalls.distinct
  rw [completions_cons, List.map_append, List.nodup_append] at distinct
  refine ⟨fun completion member => ?_, distinct.2.1⟩
  obtain ⟨command, remembered, same, closes⟩ := recalls.known completion
    (by rw [completions_cons]; exact List.mem_append_right _ member)
  refine ⟨command, ?_, same, closes⟩
  rw [getElem?_inFlight_told, if_neg, remembered]
  cases reported : notice.completion? with
  | none => simp
  | some first =>
    intro here
    have here : first.id = completion.id := by simpa using here
    rw [reported] at distinct
    exact distinct.2.2 first.id (List.mem_singleton_self _) completion.id
      (List.mem_map_of_mem member) here

/-- At a completion that it remembers, the meter takes away what is gone. -/
theorem Recalls.loses {ends : TransactionId → Option Place} {reports : List Completion}
    (recalls : metrics.Recalls ends reports) (member : completion ∈ reports) :
    metrics.loses place completion = completion.settles place ends := by
  obtain ⟨command, remembered, same, closes⟩ := recalls.known completion member
  unfold Metrics.loses Completion.settles
  rw [remembered]
  simp [same, closes]

/-- **What the meter shows after notifications is what was said last**, if it remembers the commands
that are reported. -/
theorem shows_reads_told {ends : TransactionId → Option Place} {notices : List Notification}
    (recalls : metrics.Recalls ends (completions notices)) :
    (metrics.reads (notices.map .told)).shows place =
      (lastSaid (·.implies? place ends) notices).getD (metrics.shows place) := by
  induction notices generalizing metrics with
  | nil => rfl
  | cons notice rest ih =>
    have read : (metrics.reads ((notice :: rest).map .told)).shows place = _ := ih recalls.tail
    have first : (metrics.observe (.told notice)).shows place = _ := shows_notice notice
    rw [read, first, lastSaid_cons, Option.getD_or]
    congr 1
    unfold Notification.implies?
    rw [Option.getD_or]
    congr 1
    cases reported : notice.completion? with
    | none => simp
    | some completion =>
      have member : completion ∈ completions (notice :: rest) := by
        rw [completions_cons, reported]
        exact List.mem_cons_self
      rw [Option.any_some, Option.any_some, recalls.loses member]
      cases completion.settles place ends <;> simp

/-- **Where no completion is among the effects, the notices alone count.** -/
theorem shows_reads_silent {effects : List Effect}
    (silent : Silent (effects.filterMap (·.notification?))) :
    (metrics.reads effects).shows place =
      (lastSaid (·.says? place) (effects.filterMap (·.notification?))).getD
        (metrics.shows place) := by
  induction effects generalizing metrics with
  | nil => rfl
  | cons effect rest ih =>
    cases effect with
    | told notice =>
      obtain ⟨first, silent⟩ := List.forall_mem_cons.mp silent
      have read : (metrics.reads (.told notice :: rest)).shows place = _ := ih silent
      have shown : (metrics.observe (.told notice)).shows place = _ := shows_notice notice
      rw [read, shown, first]
      simp [Effect.notification?, lastSaid_cons, Option.getD_or]
    | issued | refused => exact ih silent

/-! ## Gauges -/

/-- The gauges are the sizes of the sets. -/
structure Gauged (metrics : Metrics) : Prop where
  sessions : metrics.sessionGauge = metrics.sessions.size
  paths : metrics.pathGauge = metrics.paths.size

/-- **Once anything was told, the gauges are the sizes of the sets**, and if they are they stay so. -/
theorem gauged_reads {metrics : Metrics} {effects : List Effect}
    (told : effects.filterMap (·.notification?) ≠ [] ∨ metrics.Gauged) :
    (metrics.reads effects).Gauged := by
  induction effects using List.reverseRecOn with
  | nil => exact told.resolve_left fun some' => some' rfl
  | append_singleton effects effect ih =>
    rw [reads_append]
    cases effect with
    | told notice => exact ⟨rfl, rfl⟩
    | issued | refused =>
      rw [List.filterMap_append, List.filterMap_cons_none rfl, List.filterMap_nil,
        List.append_nil] at told
      exact ⟨(ih told).sessions, (ih told).paths⟩

/-! ## Counters -/

end Metrics

/-- The label of a kind stands for that kind alone. -/
theorem CommandKind.label_injective : Function.Injective CommandKind.label := by
  intro kind other same
  cases kind <;> cases other <;> first | rfl | exact absurd same (by decide)

namespace Tally

theorem count_bump (tally : Tally) (labels other : List String) :
    (tally.bump labels).count other = tally.count other + if other = labels then 1 else 0 := by
  unfold count bump
  rw [Std.ExtTreeMap.getD_insert]
  simp only [Std.LawfulEqOrd.compare_eq_iff_eq]
  by_cases same : labels = other
  · simp [same, count]
  · simp [same, Ne.symm same]

/-- Under the label of a kind that kind alone is counted. -/
theorem count_bump_kind (tally : Tally) (kind other : CommandKind) :
    (tally.bump [other.label]).count [kind.label] =
      tally.count [kind.label] + if other = kind then 1 else 0 := by
  rw [count_bump]
  simp only [List.cons.injEq, CommandKind.label_injective.eq_iff, and_true, eq_comm]

/-- Under the labels of a kind and an outcome that kind is counted with that outcome. -/
theorem count_bump_outcome (tally : Tally) (kind : CommandKind) (outcome : String)
    (completion : Completion) :
    (tally.bump [completion.kind.label, completion.outcomeLabel]).count [kind.label, outcome] =
      tally.count [kind.label, outcome] +
        if completion.kind = kind ∧ completion.outcomeLabel = outcome then 1 else 0 := by
  rw [count_bump]
  simp only [List.cons.injEq, CommandKind.label_injective.eq_iff, and_true, eq_comm]

end Tally

namespace Metrics

variable {metrics : Metrics}

theorem counters_achieve (metrics : Metrics) (result : Except Failure CompletionDetail) :
    (metrics.achieve result).issued = metrics.issued ∧
      (metrics.achieve result).completed = metrics.completed ∧
      (metrics.achieve result).latencySamples = metrics.latencySamples := by
  unfold achieve
  split <;> exact ⟨rfl, rfl, rfl⟩

theorem issued_complete (metrics : Metrics) (completion : Completion) :
    (metrics.complete completion).issued = metrics.issued := by
  unfold complete
  dsimp only
  rw [(counters_achieve _ _).1]
  split
  · split <;> rfl
  · rfl

/-- A completion counts under its kind and its outcome. -/
theorem completed_complete (metrics : Metrics) (completion : Completion) :
    (metrics.complete completion).completed =
      metrics.completed.bump [completion.kind.label, completion.outcomeLabel] := by
  unfold complete
  dsimp only
  rw [(counters_achieve _ _).2.1]
  split
  · split <;> rfl
  · rfl

/-- The latency of a command that is remembered is measured. -/
theorem latencySamples_complete {metrics : Metrics} {completion : Completion} {command : Command}
    (remembered : metrics.inFlight[completion.id]? = some (.ofCommand command))
    (same : command.kind = completion.kind) :
    (metrics.complete completion).latencySamples =
      metrics.latencySamples.bump [completion.kind.label] := by
  unfold complete
  dsimp only
  rw [(counters_achieve _ _).2.2, remembered]
  dsimp only
  rw [MeteredCommand.kind_ofCommand, if_pos same, ← same]
  show metrics.latencySamples.bump [(MeteredCommand.ofCommand command).kind.label] = _
  rw [MeteredCommand.kind_ofCommand]

/-- **Every command that was handed over is counted once**, under its kind. -/
theorem issued_reads (metrics : Metrics) (effects : List Effect) (kind : CommandKind) :
    (metrics.reads effects).issued.count [kind.label] =
      metrics.issued.count [kind.label] +
        (effects.filterMap (·.issued?)).countP (·.2.kind = kind) := by
  induction effects generalizing metrics with
  | nil => rfl
  | cons effect rest ih =>
    have read : (metrics.reads (effect :: rest)).issued.count [kind.label] = _ :=
      ih (metrics.observe effect)
    rw [read]
    cases effect with
    | told notice =>
      have same : (metrics.observe (.told notice)).issued = metrics.issued := by
        cases notice with
        | completed completion => exact metrics.issued_complete completion
        | _ => rfl
      rw [same]
      rfl
    | refused => rfl
    | issued id command =>
      have counted : (metrics.observe (.issued id command)).issued =
        metrics.issued.bump [command.kind.label] := rfl
      have handed : (Effect.issued id command :: rest).filterMap (·.issued?) =
        (id, command) :: rest.filterMap (·.issued?) := rfl
      rw [counted, Tally.count_bump_kind, handed, List.countP_cons, Nat.add_right_comm, Nat.add_assoc]
      simp only [decide_eq_true_eq]

/-- **Every completion is counted once**, under its kind and its outcome. -/
theorem completed_reads (metrics : Metrics) (effects : List Effect) (kind : CommandKind)
    (outcome : String) :
    (metrics.reads effects).completed.count [kind.label, outcome] =
      metrics.completed.count [kind.label, outcome] +
        (Host.completionsIn effects).countP fun completion =>
          completion.kind = kind ∧ completion.outcomeLabel = outcome := by
  induction effects generalizing metrics with
  | nil => rfl
  | cons effect rest ih =>
    have read : (metrics.reads (effect :: rest)).completed.count [kind.label, outcome] = _ :=
      ih (metrics.observe effect)
    rw [read]
    cases effect with
    | told notice =>
      cases notice with
      | completed completion =>
        have counted : (metrics.observe (.told (.completed completion))).completed =
            metrics.completed.bump [completion.kind.label, completion.outcomeLabel] :=
          metrics.completed_complete completion
        have reported : Host.completionsIn (.told (.completed completion) :: rest) =
          completion :: Host.completionsIn rest := rfl
        rw [counted, Tally.count_bump_outcome, reported, List.countP_cons, Nat.add_right_comm,
          Nat.add_assoc]
        simp only [decide_eq_true_eq]
      | _ => rfl
    | issued | refused => rfl

/-- **The latency of every completion is measured once**, if the commands are remembered. -/
theorem latencySamples_reads_told {ends : TransactionId → Option Place}
    {notices : List Notification} (recalls : metrics.Recalls ends (completions notices))
    (kind : CommandKind) :
    (metrics.reads (notices.map .told)).latencySamples.count [kind.label] =
      metrics.latencySamples.count [kind.label] + (completions notices).countP (·.kind = kind) := by
  induction notices generalizing metrics with
  | nil => rfl
  | cons notice rest ih =>
    have read : (metrics.reads ((notice :: rest).map .told)).latencySamples.count [kind.label] = _ :=
      ih recalls.tail
    rw [read]
    cases notice with
    | completed completion =>
      obtain ⟨command, remembered, same, _⟩ := recalls.known completion List.mem_cons_self
      have measured : (metrics.observe (.told (.completed completion))).latencySamples =
        metrics.latencySamples.bump [completion.kind.label] := latencySamples_complete remembered same
      have reported : completions (.completed completion :: rest) =
        completion :: completions rest := rfl
      rw [measured, Tally.count_bump_kind, reported, List.countP_cons, Nat.add_right_comm,
        Nat.add_assoc]
      simp only [decide_eq_true_eq]
    | _ => rfl

/-- Where no completion is among the effects, nothing is measured. -/
theorem latencySamples_reads_silent {effects : List Effect}
    (silent : Silent (effects.filterMap (·.notification?))) :
    (metrics.reads effects).latencySamples = metrics.latencySamples := by
  induction effects generalizing metrics with
  | nil => rfl
  | cons effect rest ih =>
    cases effect with
    | told notice =>
      obtain ⟨first, silent⟩ := List.forall_mem_cons.mp silent
      have read : (metrics.reads (.told notice :: rest)).latencySamples = _ := ih silent
      rw [read]
      cases notice with
      | completed => cases first
      | _ => rfl
    | issued | refused => exact ih silent

end Metrics

end NanHost
