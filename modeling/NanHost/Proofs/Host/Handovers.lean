import NanHost.Proofs.Engine.Admissible
import NanHost.Proofs.Host.Deadlines
import NanHost.Proofs.Host.Leftovers

/-!
# Handovers — every command that reaches the transport is in order when it does

Commands are handed over in two places: for a request that goes ahead, and for a peer that has
waited too long. One step can refuse many peers, one after the other, and each refusal finds the
engine as the one before it left it. So what is handed over in a step is listed with the engine at
that moment (`Host.handovers`).

## What is proved

`run_handovers`: what reaches the transport in a step, whether it takes it or not, is what is
listed, in the same order; and all that is listed is in order in the engine at that moment
(`Engine.AdmitsFor`). What the engine hands over by itself is a refusal, in a step that looks at the
deadlines, of a peer that has waited too long.

A request is judged by `Engine.admits_of_vet`. For the refusals, being in order is an invariant: the
refusal of one peer leaves those of the others in order (`admitsRefusal_refuseOverdue`).
-/

namespace NanHost

/-! ## What is handed over -/

/-- A command that is handed over, with the engine at that moment. -/
structure Handover where
  engine : Engine
  origin : Origin
  id : TransactionId
  command : Command

/-- It is the refusal of a peer by the engine itself, and in order. -/
structure Handover.Refuses (handover : Handover) (path : DataPathId) : Prop where
  origin : handover.origin = .engine
  command : handover.command =
    .respondDataPath (.refusal path) handover.engine.capabilities.snapshot
  admits : handover.engine.AdmitsRefusal path

/-- What the transport sees of it. -/
def Handover.sent (handover : Handover) : TransactionId × Command := (handover.id, handover.command)

/-- The command that reached the transport, if that is what the effect is. -/
def Effect.sent? : Effect → Option (TransactionId × Command)
  | issued id command => some (id, command)
  | refused id command _ => some (id, command)
  | told _ => none

/-- The commands that reached the transport, in order. -/
def sentIn (log : List Effect) : List (TransactionId × Command) := log.filterMap (·.sent?)

theorem sentIn_append (first second : List Effect) :
    sentIn (first ++ second) = sentIn first ++ sentIn second := List.filterMap_append

/-- Notifications do not reach the transport. -/
theorem sentIn_told (notices : List Notification) : sentIn (notices.map .told) = [] := by
  rw [sentIn, List.filterMap_map]
  exact List.filterMap_eq_nil_iff.mpr fun _ _ => rfl

namespace Host

variable {σ : Type} (host : Host σ)

/-- What issuing a command hands over: the command, if the ledger has room for it. -/
def handover (dispatch : Dispatch) (origin : Origin) : List Handover :=
  match host.engine.ledger.allocate dispatch.command.kind dispatch.context origin host.now with
  | .ok (id, _) => [⟨host.engine, origin, id, dispatch.command⟩]
  | .error _ => []

variable [Transport σ]

/-- What refusing peers hands over, one after the other. -/
def refusals (host : Host σ) : List DataPathId → List Handover
  | [] => []
  | path :: rest =>
    host.handover (host.refusal path) .engine ++ (host.refuseOverdue path).refusals rest

/-- What looking after the peers hands over. -/
def overdueRefusals : List Handover :=
  host.relieved.refusals (host.engine.paths.expireResponses host.now).1

omit [Transport σ] in
/-- What a request hands over: the command that carries it, if it can go ahead. -/
def requestHandovers (request : Request) : List Handover :=
  match host.engine.vet request with
  | .ok dispatch => host.handover dispatch .caller
  | .error _ => []

/-- What a step hands over, in order. -/
def handovers : Act σ → List Handover
  | .submit request => host.requestHandovers request
  | .expireResponses => host.overdueRefusals
  | .tick => host.expireTransactions.2.overdueRefusals
  | .handle _ | .expireTransactions | .shutdown | .advance _ | .replaceTransport _ => []

/-! ## What reaches the transport -/

omit [Transport σ] in
/-- What came out between two states reached the transport as listed. -/
def Hands (before after : Host σ) (handovers : List Handover) : Prop :=
  ∃ effects, after.effects.toList = before.effects.toList ++ effects ∧
    sentIn effects = handovers.map (·.sent)

namespace Hands

variable {host} {first second third : Host σ} {handovers : List Handover}

omit [Transport σ]

theorem append {later : List Handover} (before : first.Hands second handovers)
    (after : second.Hands third later) : first.Hands third (handovers ++ later) := by
  obtain ⟨effects, out, sent⟩ := before
  obtain ⟨effects', out', sent'⟩ := after
  refine ⟨effects ++ effects', ?_, ?_⟩
  · rw [out', out, List.append_assoc]
  · rw [sentIn_append, sent, sent', List.map_append]

/-- Nothing has come out. -/
theorem still (same : second.effects = first.effects) : first.Hands second [] :=
  ⟨[], by rw [same, List.append_nil], rfl⟩

/-- The engine has told something, and handed nothing over. -/
theorem react (host : Host σ) (reaction : Reaction) : host.Hands (host.react reaction) [] :=
  ⟨_, effects_react host reaction, sentIn_told _⟩

theorem tell (host : Host σ) (notification : Notification) :
    host.Hands (host.tell notification) [] :=
  ⟨[.told notification], Array.toList_push .., rfl⟩

end Hands

/-- **A command that is issued reaches the transport**, if the ledger has room for it. -/
theorem hands_issue (dispatch : Dispatch) (origin : Origin) :
    host.Hands (host.issue dispatch origin).2 (host.handover dispatch origin) := by
  unfold issue handover
  dsimp only
  cases host.engine.ledger.allocate dispatch.command.kind dispatch.context origin host.now with
  | error rejection => exact .still rfl
  | ok allocated =>
    obtain ⟨id, ledger⟩ := allocated
    dsimp only
    split
    · exact ⟨[.issued id dispatch.command], Array.toList_push .., rfl⟩
    next error _ _ => exact ⟨[.refused id dispatch.command error], Array.toList_push .., rfl⟩

theorem hands_submit (request : Request) :
    host.Hands (host.submit request).2 (host.requestHandovers request) := by
  cases vetted : host.engine.vet request with
  | error rejection =>
    simp only [submit, requestHandovers, vetted]
    exact .still rfl
  | ok dispatch =>
    have issued := host.hands_issue dispatch .caller
    simp only [submit, requestHandovers, vetted]
    generalize host.issue dispatch .caller = result at issued
    obtain ⟨answer, next⟩ := result
    cases answer with
    | error rejection => exact issued
    | ok id => exact issued

theorem hands_refuseOverdue (path : DataPathId) :
    host.Hands (host.refuseOverdue path) (host.handover (host.refusal path) .engine) := by
  have told := Hands.tell host (.dataPathTerminated path .responseTimeout)
  have issued := hands_issue (host.tell (.dataPathTerminated path .responseTimeout))
    (host.refusal path) .engine
  have both : host.Hands _ (host.handover (host.refusal path) .engine) := told.append issued
  unfold refuseOverdue
  dsimp only
  split
  next id next same =>
    have same : issue _ (host.refusal path) .engine = _ := same
    rw [same] at both
    exact both
  next rejection next same =>
    have same : issue _ (host.refusal path) .engine = _ := same
    rw [same] at both
    exact both

/-- So do the refusals of a number of peers, one after the other. -/
theorem hands_refusals (overdue : List DataPathId) :
    host.Hands (overdue.foldl refuseOverdue host) (host.refusals overdue) := by
  induction overdue generalizing host with
  | nil => exact .still rfl
  | cons path rest ih => exact (host.hands_refuseOverdue path).append (ih (host.refuseOverdue path))

theorem hands_expireResponses : host.Hands host.expireResponses.2 host.overdueRefusals :=
  host.relieved.hands_refusals _

/-- **What reaches the transport in a step is what the step hands over.** -/
theorem hands_step (act : Act σ) : host.Hands (host.step act) (host.handovers act) := by
  cases act with
  | submit request => exact host.hands_submit request
  | handle event => exact .react host _
  | expireTransactions => exact .react host (host.engine.expireTransactions host.now).2
  | shutdown => exact .react host _
  | advance | replaceTransport => exact .still rfl
  | expireResponses => exact host.hands_expireResponses
  | tick =>
    exact (Hands.react host (host.engine.expireTransactions host.now).2).append
      host.expireTransactions.2.hands_expireResponses

variable {host}

/-! ## What is handed over is in order -/

omit [Transport σ] in
/-- What issuing a command hands over is the command, in the engine as it is. -/
theorem eq_of_mem_handover {dispatch : Dispatch} {origin : Origin} {item : Handover}
    (member : item ∈ host.handover dispatch origin) :
    item.engine = host.engine ∧ item.origin = origin ∧ item.command = dispatch.command := by
  unfold handover at member
  split at member
  · obtain rfl := List.mem_singleton.mp member
    exact ⟨rfl, rfl, rfl⟩
  · cases member

/-- The refusal of a peer leaves the refusals of the others in order. -/
theorem admitsRefusal_refuseOverdue (filed : host.engine.ledger.WellFiled) {path other : DataPathId}
    (apart : other ≠ path) (admits : host.engine.AdmitsRefusal other) :
    (host.refuseOverdue path).engine.AdmitsRefusal other := by
  have interface : (host.refuseOverdue path).engine.interface = host.engine.interface := by
    have fate := refuseOverdue_refusal filed path
    generalize host.refuseOverdue path = next at fate
    cases fate <;> rfl
  have same := get?_refuseOverdue_of_ne filed apart
  obtain ⟨up, entry, found, rest⟩ := admits
  exact ⟨interface ▸ up, entry, same.trans found, rest⟩

/-- **Refusals of different peers are in order**, one after the other, if each of them is at
first. -/
theorem refuses_refusals {overdue : List DataPathId} (coherent : host.engine.Coherent)
    (distinct : overdue.Nodup) (admits : ∀ path ∈ overdue, host.engine.AdmitsRefusal path) :
    ∀ item ∈ host.refusals overdue, ∃ path ∈ overdue, item.Refuses path := by
  induction overdue generalizing host with
  | nil =>
    intro item member
    cases member
  | cons path rest ih =>
    intro item member
    obtain ⟨apart, distinct⟩ := List.nodup_cons.mp distinct
    have admitted := admits path (List.mem_cons_self ..)
    rcases List.mem_append.mp member with here | later
    · obtain ⟨engine, origin, command⟩ := eq_of_mem_handover here
      exact ⟨path, List.mem_cons_self .., origin, engine ▸ command, engine ▸ admitted⟩
    · obtain ⟨entry, found, _⟩ := admitted.path
      have next := refuseOverdue_coherent coherent ⟨entry, found⟩
      have admits : ∀ other ∈ rest, (host.refuseOverdue path).engine.AdmitsRefusal other := by
        intro other there
        exact admitsRefusal_refuseOverdue coherent.filed (fun same => apart (same ▸ there))
          (admits other (List.mem_cons_of_mem _ there))
      obtain ⟨other, there, refusal⟩ := ih next distinct admits item later
      exact ⟨other, List.mem_cons_of_mem _ there, refusal⟩

/-- Once the paths that are overdue have been taken down, their peers may be refused. -/
theorem Reachable.admitsRefusal (reachable : Reachable host) {id : DataPathId}
    (overdue : host.Overdue id) : host.relieved.engine.AdmitsRefusal id := by
  obtain ⟨path, found, late⟩ := overdue
  have consistent := reachable.consistent found
  obtain ⟨deadline, due, _⟩ := consistent.isOverdue_iff.mp late
  obtain ⟨waits, unanswered, notEnding⟩ := consistent.due.mp (Option.isSome_of_eq_some due)
  have idle := reachable.idle found (consistent.awaits.mpr (Option.isSome_of_eq_some due))
  constructor
  case up =>
    -- While the interface is down there is no path at all.
    have up : host.engine.interface.phase.isDown = false := by
      refine Bool.eq_false_iff.mpr fun down => ?_
      rw [(reachable.tidy.down down).2] at found
      simp [DataPathTable.new, DataPathTable.get?] at found
    have interface : host.relieved.engine.interface = host.engine.interface := rfl
    rw [interface]
    cases phase : host.engine.interface.phase <;> simp_all [InterfacePhase.isDown]
  case path =>
    refine ⟨path.terminated.withoutDeadline, ?_, ?_, rfl, unanswered, notEnding, idle⟩
    · show (host.engine.paths.expireResponses host.now).2.get? id = _
      rw [DataPathTable.get?_expireResponses, found, Option.map_some, if_pos late]
    · cases origin : path.origin with
      | peer => exact origin
      | here => exact absurd waits (consistent.here origin).1

/-- **What looking after the peers hands over is in order**: refusals of peers that have waited too
long. -/
theorem Reachable.refuses_overdue (reachable : Reachable host) :
    ∀ item ∈ host.overdueRefusals, ∃ path, host.Overdue path ∧ item.Refuses path := by
  have coherent := reachable.coherent
  have paths : host.engine.paths.Agrees _ := coherent.agrees .paths
  have overdue (path : DataPathId) :
      path ∈ (host.engine.paths.expireResponses host.now).1 ↔ host.Overdue path :=
    DataPathTable.mem_roster paths
  have relieved : host.relieved.engine.Coherent :=
    coherent.touchTable .paths (paths.expireResponses host.now)
  intro item member
  obtain ⟨path, late, refuses⟩ := refuses_refusals relieved (paths.overdue host.now).1
    (fun path late => reachable.admitsRefusal ((overdue path).mp late)) item member
  exact ⟨path, (overdue path).mp late, refuses⟩

omit [Transport σ] in
/-- What a request hands over, it hands over for the caller and in order. -/
theorem admits_requestHandovers {request : Request} :
    ∀ item ∈ host.requestHandovers request,
      item.origin = .caller ∧ item.engine.Admits item.command := by
  intro item member
  unfold requestHandovers at member
  split at member
  next dispatch admitted =>
    obtain ⟨engine, origin, command⟩ := eq_of_mem_handover member
    rw [engine, command]
    exact ⟨origin, Engine.admits_of_vet admitted⟩
  next => cases member

/-- **All that a step hands over is in order**: the command of a request, or the refusal of a peer
that has waited too long. -/
theorem Reachable.admits_handovers (reachable : Reachable host) {act : Act σ} {item : Handover}
    (member : item ∈ host.handovers act) :
    (item.origin = .caller ∧ item.engine.Admits item.command) ∨
      (act = .expireResponses ∨ act = .tick) ∧ ∃ path, host.Overdue path ∧ item.Refuses path := by
  cases act with
  | submit request => exact .inl (admits_requestHandovers item member)
  | expireResponses => exact .inr ⟨.inl rfl, reachable.refuses_overdue item member⟩
  | tick =>
    obtain ⟨path, late, refuses⟩ := (reachable.step .expireTransactions).refuses_overdue item member
    exact .inr ⟨.inr rfl, path, (reachable.overdue_expireTransactions path).mp late, refuses⟩
  | handle | expireTransactions | shutdown | advance | replaceTransport => cases member

/-! ## Runs -/

/-- Every command that reaches the transport is in order. -/
structure OrderlyHandovers (start : Host σ) : Prop where
  /-- What reaches the transport in a step, whether it is taken or not, is what is listed. -/
  complete : ∀ acts act,
    sentIn ((start.run acts).emitted [act]) = ((start.run acts).handovers act).map (·.sent)
  /-- What is listed is in order in the engine at that moment. -/
  admitted : ∀ acts act, ∀ item ∈ (start.run acts).handovers act,
    item.engine.AdmitsFor item.origin item.command
  /-- What the engine hands over by itself, it hands over in a step that looks at the deadlines, to
  refuse a peer that has waited too long. -/
  own : ∀ acts act, ∀ item ∈ (start.run acts).handovers act, item.origin = .engine →
    (act = .expireResponses ∨ act = .tick) ∧ ∃ path, (start.run acts).Overdue path ∧
      item.command = .respondDataPath (.refusal path) item.engine.capabilities.snapshot

/-- **Every command that reaches the transport is in order when it does**, in any run. -/
theorem run_handovers (config : EngineConfig) (transport : σ) (now : Timestamp) :
    (Host.new config transport now).OrderlyHandovers := by
  have reachable := Reachable.new config transport now
  generalize Host.new config transport now = start at reachable
  constructor
  case complete =>
    intro acts act
    obtain ⟨effects, out, sent⟩ := (start.run acts).hands_step act
    have emitted : (start.run acts).emitted [act] = effects := emitted_of_out out
    rw [emitted, sent]
  case admitted =>
    intro acts act item member
    rcases (reachable.run acts).admits_handovers member with
      ⟨origin, admits⟩ | ⟨_, path, _, refuses⟩
    · rw [origin]
      exact admits
    · rw [refuses.origin]
      exact ⟨path, refuses.command, refuses.admits⟩
  case own =>
    intro acts act item member origin
    rcases (reachable.run acts).admits_handovers member with
      ⟨caller, _⟩ | ⟨looks, path, late, refuses⟩
    · rw [caller] at origin
      cases origin
    · exact ⟨looks, path, late, refuses.command⟩

end Host

end NanHost
