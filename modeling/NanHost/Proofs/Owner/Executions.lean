import NanHost.Proofs.Engine.Hearing
import NanHost.Proofs.Host.Account
import NanHost.Proofs.Owner.Letters

/-!
# Executions — what the owner puts to the engine, and what it answers of its own

An answer that a caller gets comes from the engine, or it says that the engine has stopped. Those
that come from the engine are, in order, the answers to the requests that the owner has put to it;
these are all that was ever put to it, and each was put when no event was waiting. The others are
given when the owner stops, or after it has.

## What is proved

- `answers_run`, `submissions_acts`: the correspondence, in both directions.
- `executions_of_closed`: nothing is put to the engine any more once the owner was told to stop, has
  found that no more events can come, or has been left by all who had a handle.
- `answered_of_quietTurns`: a request is answered in as many turns without an event as there are
  letters up to it.
-/

namespace NanHost

/-- Whether an answer was given on a hearing. -/
def Answer.isHeard (answer : Answer) : Bool := answer.result ≠ .error .engineStopped

theorem filter_unheard (tickets : List Nat) :
    (tickets.map Answer.unheard).filter Answer.isHeard = [] := by
  simp [List.filter_eq_nil_iff, Answer.unheard, Answer.isHeard]

/-- The requests that are put to a host in a run, each with the host to which it is. -/
def Host.submissions {σ : Type} [Transport σ] (host : Host σ) :
    List (Act σ) → List (Request × Host σ)
  | [] => []
  | .submit request :: rest => (request, host) :: (host.step (.submit request)).submissions rest
  | act :: rest => (host.step act).submissions rest

theorem Host.submissions_append {σ : Type} [Transport σ] (host : Host σ)
    (first second : List (Act σ)) : host.submissions (first ++ second) =
      host.submissions first ++ (host.run first).submissions second := by
  induction first generalizing host with
  | nil => rfl
  | cons act rest ih =>
    have later := ih (host.step act)
    cases act with
    | submit => exact congrArg (_ :: ·) later
    | _ => exact later

/-- The requests that a run accepts are those put to the host that it accepts. -/
theorem Host.accepted_eq {σ : Type} [Transport σ] (host : Host σ) (acts : List (Act σ)) :
    host.accepted acts = (host.submissions acts).flatMap fun put =>
      acceptedBy put.1 (put.2.submit put.1).1 := by
  induction acts generalizing host with
  | nil => rfl
  | cons act rest ih =>
    rw [accepted, ih]
    cases act <;> rfl

/-- An owner that stops has answered every letter that was waiting. -/
theorem Owner.answered_stop {σ : Type} [FirmwareLink σ] (owner : Owner σ) :
    owner.stop.answered = owner.answered ++ owner.waiting := by
  rw [stop_eq]
  simp [answered, Answer.unheard, Function.comp_def]

namespace Office

variable {σ : Type} [FirmwareLink σ] {office : Office σ}

/-- **What is put to the engine** is the next letter, taken when there is no event and more may come. -/
inductive Executes (office : Office σ) : Deed σ → List (Execution σ) → Prop
  | none {deed : Deed σ} : Executes office deed []
  | letter {ticket : Nat} {request : Request} {rest : List Letter}
    (running : office.owner.running = true)
    (quiet : FirmwareLink.receive? office.owner.host.transport = none)
    (sounding : FirmwareLink.isSilenced office.owner.host.transport = false)
    (next : office.owner.inbox = .submit ticket request :: rest) :
    Executes office .turn [⟨ticket, request, office.owner.host⟩]

theorem executes_executed (office : Office σ) (deed : Deed σ) :
    office.Executes deed (office.executed deed) := by
  unfold executed
  split
  next =>
    split
    next ticket request rest chosen =>
      obtain ⟨running, chosen⟩ := Owner.chosen_of_choice? chosen
      cases chosen with
      | letter quiet sounding next => exact .letter running quiet sounding next
    next => exact .none
  next => exact .none

/-- What holds of every request that is put to the engine in the course of a schedule. -/
theorem forall_executions {kept : Office σ → Prop} {holds : Execution σ → Prop}
    (keep : ∀ office deed, kept office → kept (office.step deed))
    (each : ∀ office deed, kept office → ∀ execution ∈ office.executed deed, holds execution)
    (start : kept office) (deeds : List (Deed σ)) :
    ∀ execution ∈ office.executions deeds, holds execution := by
  induction deeds generalizing office with
  | nil => exact fun _ member => absurd member List.not_mem_nil
  | cons deed rest ih =>
    intro execution member
    rcases List.mem_append.mp member with now | later
    · exact each office deed start execution now
    · exact ih (keep office deed start) execution later

/-! ## Answers -/

/-- A deed adds answers, of which those given on a hearing answer what the deed put to the engine. -/
theorem answers_step (filed : office.owner.host.engine.ledger.WellFiled) (deed : Deed σ) :
    ∃ fresh, (office.step deed).owner.answers.toList = office.owner.answers.toList ++ fresh ∧
      fresh.filter Answer.isHeard = (office.executed deed).map (·.answer) := by
  have aside : ∃ fresh, office.owner.answers.toList = office.owner.answers.toList ++ fresh ∧
      fresh.filter Answer.isHeard = [] := ⟨[], (List.append_nil _).symm, rfl⟩
  have returned (ticket : Nat) : ∃ fresh, office.owner.answers.toList ++ [.unheard ticket] =
      office.owner.answers.toList ++ fresh ∧ fresh.filter Answer.isHeard = [] :=
    ⟨_, rfl, filter_unheard [ticket]⟩
  have stopped (owner : Owner σ) : ∃ fresh, owner.stop.answers.toList =
      owner.answers.toList ++ fresh ∧ fresh.filter Answer.isHeard = [] := by
    rw [Owner.stop_eq]
    exact ⟨_, Array.toList_append, filter_unheard owner.waiting⟩
  cases deed with
  | copy | drop =>
    rw [step]
    split <;> exact aside
  | move | wait => exact aside
  | request handle request =>
    rw [step]
    split
    next =>
      rw [Owner.request, Owner.post]
      split
      · exact aside
      · rw [Owner.returnLetter, Owner.answer, Array.toList_push]
        exact returned office.owner.nextTicket
    next => exact aside
  | shutdown handle =>
    rw [step]
    split
    next =>
      rw [Owner.post]
      split <;> exact aside
    next => exact aside
  | turn =>
    rw [step, executed, Owner.turn?]
    cases chosen : office.owner.choice? with
    | none => exact aside
    | some choice =>
      obtain ⟨_, chosen⟩ := Owner.chosen_of_choice? chosen
      cases chosen with
      | event | tick => exact aside
      | noMoreEvents | noMoreLetters => exact stopped office.owner
      | @letter letter rest _ _ next =>
        cases letter with
        | submit ticket request =>
          have heard := Host.heard_submit filed request
          refine ⟨[⟨ticket, (office.owner.host.submit request).1⟩], Array.toList_push .., ?_⟩
          rw [List.filter_cons_of_pos (by simpa [Answer.isHeard, Heard] using heard)]
          rfl
        | shutdown => exact stopped { office.owner with inbox := rest }

/-- **The answers given on a hearing are those to the requests that were put to the engine**, in
order. -/
theorem answers_run (reachable : office.owner.host.Reachable) (deeds : List (Deed σ)) :
    (office.run deeds).owner.answers.toList.filter Answer.isHeard =
      office.owner.answers.toList.filter Answer.isHeard ++
        (office.executions deeds).map (·.answer) := by
  induction deeds generalizing office with
  | nil => exact (List.append_nil _).symm
  | cons deed rest ih =>
    obtain ⟨fresh, answers, heard⟩ := answers_step reachable.coherent.filed deed
    have next : (office.step deed).owner.host.Reachable := by
      rw [host_step]
      exact reachable.run _
    rw [executions, List.map_append, ← List.append_assoc, ← heard, ← List.filter_append, ← answers]
    exact ih next

/-- In particular from an owner that has not answered anything. -/
theorem answers_of_unanswered (reachable : office.owner.host.Reachable)
    (unanswered : office.owner.answers = #[]) (deeds : List (Deed σ)) :
    (office.run deeds).owner.answers.toList.filter Answer.isHeard =
      (office.executions deeds).map (·.answer) := by
  rw [answers_run reachable deeds, unanswered]
  rfl

theorem submissions_actsOf (deed : Deed σ) :
    office.owner.host.submissions (office.actsOf deed) =
      (office.executed deed).map fun execution => (execution.request, execution.host) := by
  unfold actsOf executed
  cases deed with
  | turn =>
    cases office.owner.choice? with
    | none => rfl
    | some choice =>
      cases choice with
      | letter letter rest => cases letter <;> rfl
      | _ => rfl
  | _ => rfl

/-- **What is put to the engine is all that its host is asked**, and each request is put to the host
as it is then. -/
theorem submissions_acts (deeds : List (Deed σ)) :
    office.owner.host.submissions (office.acts deeds) =
      (office.executions deeds).map fun execution => (execution.request, execution.host) := by
  induction deeds generalizing office with
  | nil => rfl
  | cons deed rest ih =>
    rw [acts, executions, Host.submissions_append, List.map_append, submissions_actsOf, ← host_step,
      ih]

/-- A request that is put to the engine is one that was posted, under its own ticket. -/
theorem posted_of_executed (sound : office.Sound) {deed : Deed σ} {execution : Execution σ}
    (member : execution ∈ office.executed deed) :
    ∃ handle, office.calls[execution.ticket]? = some (handle, execution.request) := by
  have executes := office.executes_executed deed
  generalize office.executed deed = executed at executes member
  cases executes with
  | none => cases member
  | letter running quiet sounding next =>
    cases List.mem_singleton.mp member
    exact sound.requests _ _ (next ▸ List.mem_cons_self)

/-- What was posted stays on record. -/
theorem calls_step (deed : Deed σ) : office.calls <+: (office.step deed).calls := by
  cases deed with
  | request =>
    rw [step]
    split
    · exact List.prefix_append _ _
    · exact List.prefix_rfl
  | copy | drop | shutdown =>
    rw [step]
    split <;> exact List.prefix_rfl
  | move | wait | turn => exact List.prefix_rfl

theorem calls_run (deeds : List (Deed σ)) : office.calls <+: (office.run deeds).calls := by
  induction deeds generalizing office with
  | nil => exact List.prefix_rfl
  | cons deed rest ih => exact (calls_step deed).trans ih

/-- **Every request that is put to the engine was posted**, under its own ticket. -/
theorem posted_of_executions (sound : office.Sound) (deeds : List (Deed σ)) :
    ∀ execution ∈ office.executions deeds,
      ∃ handle, (office.run deeds).calls[execution.ticket]? = some (handle, execution.request) := by
  induction deeds generalizing office with
  | nil => exact fun _ member => absurd member List.not_mem_nil
  | cons deed rest ih =>
    intro execution member
    rcases List.mem_append.mp member with now | later
    · obtain ⟨handle, posted⟩ := posted_of_executed sound now
      obtain ⟨more, calls⟩ : office.calls <+: (office.run (deed :: rest)).calls := calls_run _
      refine ⟨handle, ?_⟩
      rw [← calls, List.getElem?_append_left (List.getElem?_eq_some_iff.mp posted).1, posted]
    · exact ih (sound.step deed) execution later

/-! ## The end -/

/-- Whether the work of the owner is at its end: it has stopped, or nobody is left who can write to
it. -/
def Closed (office : Office σ) : Prop := office.owner.running = false ∨ office.handles = []

/-- Only an owner stops itself. -/
theorem running_step {deed : Deed σ} (other : deed ≠ .turn) :
    (office.step deed).owner.running = office.owner.running := by
  cases deed with
  | request | shutdown =>
    rw [step]
    split
    · exact Owner.running_post _ _
    · rfl
  | copy | drop =>
    rw [step]
    split <;> rfl
  | move | wait => rfl
  | turn => exact absurd rfl other

/-- What brings the work of an owner to its end. -/
inductive Closes (office : Office σ) : Deed σ → Prop
  /-- It takes the word to stop. -/
  | told (rest : List Letter) (taken : office.owner.choice? = some (.letter .shutdown rest)) :
    Closes office .turn
  /-- It finds that no more events can come. -/
  | silenced (found : office.owner.choice? = some .noMoreEvents) : Closes office .turn
  /-- The last handle is dropped. -/
  | abandoned (handle : Nat) (left : (office.step (.drop handle)).handles = []) :
    Closes office (.drop handle)

theorem Closes.closed {deed : Deed σ} (closes : office.Closes deed) :
    (office.step deed).Closed := by
  have stopped (owner : Owner σ) : owner.stop.running = false := by rw [Owner.stop_eq]
  cases closes with
  | told rest taken =>
    refine .inl ?_
    rw [step, Owner.turn?, taken]
    exact stopped _
  | silenced found =>
    refine .inl ?_
    rw [step, Owner.turn?, found]
    exact stopped _
  | abandoned handle left => exact .inr left

theorem Closed.step (closed : office.Closed) (deed : Deed σ) : (office.step deed).Closed := by
  rcases closed with stopped | left
  · refine .inl ?_
    by_cases acts : deed = .turn
    · have still : office.owner.choice? = none := by rw [Owner.choice?, stopped]; rfl
      rw [acts, Office.step, Owner.turn?, still]
      exact stopped
    · rw [running_step acts, stopped]
  · refine .inr ?_
    cases deed with
    | drop =>
      rw [Office.step]
      split
      · exact left
      · simp [left]
    | _ => simp [Office.step, left]

/-- The request of a letter that waits was posted by a handle that is still there. -/
theorem Closed.executed (closed : office.Closed) (sound : office.Sound) (deed : Deed σ) :
    office.executed deed = [] := by
  have executes := office.executes_executed deed
  generalize office.executed deed = executed at executes
  cases executes with
  | none => rfl
  | @letter ticket request rest running quiet sounding next =>
    rcases closed with stopped | left
    · rw [running] at stopped
      cases stopped
    · have waits : ticket ∈ office.owner.waiting := by
        rw [Owner.waiting, next]
        exact List.mem_cons_self
      obtain ⟨call, posted, held⟩ := sound.held ticket waits
      rw [left] at held
      cases held

/-- **Nothing is put to the engine after the end.** -/
theorem executions_of_closed (closed : office.Closed) (sound : office.Sound)
    (deeds : List (Deed σ)) : office.executions deeds = [] := by
  induction deeds generalizing office with
  | nil => rfl
  | cons deed rest ih =>
    rw [executions, closed.executed sound deed, ih (closed.step deed) (sound.step deed)]
    rfl

/-! ## Progress -/

/-- Whether a deed is a turn that finds no event. -/
def isQuietTurn (office : Office σ) : Deed σ → Bool
  | .turn => (FirmwareLink.receive? office.owner.host.transport).isNone
  | _ => false

/-- How many turns of a schedule find no event. -/
def quietTurns (office : Office σ) : List (Deed σ) → Nat
  | [] => 0
  | deed :: rest => (office.isQuietTurn deed).toNat + (office.step deed).quietTurns rest

/-- A turn answers the letter, or takes one of those before it; or it takes an event. -/
theorem moves_turn (running : office.owner.running = true) {ahead behind : List Letter} {ticket : Nat}
    {request : Request} (inbox : office.owner.inbox = ahead ++ .submit ticket request :: behind) :
    ticket ∈ (office.step .turn).owner.answered ∨ ∃ ahead' behind',
      (office.step .turn).owner.inbox = ahead' ++ .submit ticket request :: behind' ∧
        ahead'.length + (office.isQuietTurn .turn).toNat = ahead.length := by
  have waits {letters : List Letter} (there : .submit ticket request ∈ letters) :
      ticket ∈ ({ office.owner with inbox := letters } : Owner σ).stop.answered := by
    rw [Owner.answered_stop]
    exact List.mem_append_right _ (List.mem_filterMap.mpr ⟨_, there, rfl⟩)
  have here : Letter.submit ticket request ∈ office.owner.inbox := by simp [inbox]
  rw [Office.step, isQuietTurn, Owner.turn?]
  cases received : FirmwareLink.receive? office.owner.host.transport with
  | some event =>
    have chosen : office.owner.choice? = some (.event event.1 event.2) := by
      rw [Owner.choice?, if_pos running, received]
    rw [chosen]
    exact .inr ⟨ahead, behind, inbox, rfl⟩
  | none =>
    have takes {letter : Letter} {rest : List Letter} (next : office.owner.inbox = letter :: rest) :=
      Owner.exists_choice? running received next
    cases ahead with
    | nil =>
      rcases takes inbox with chosen | chosen
      · rw [chosen]
        exact .inl (waits here)
      · rw [chosen]
        exact .inl (by simp [Owner.carryOut, Owner.answer, Owner.answered])
    | cons letter rest =>
      rcases takes inbox with chosen | chosen
      · rw [chosen]
        exact .inl (waits here)
      · rw [chosen]
        cases letter with
        | submit => exact .inr ⟨rest, behind, rfl, rfl⟩
        | shutdown => exact .inl (waits (by simp))

/-- **A letter moves up**: a deed either answers a request that waits, or leaves it waiting, with as many
letters before it, or one fewer if the deed is a turn without an event. -/
theorem Sound.moves (sound : office.Sound) {ahead behind : List Letter} {ticket : Nat}
    {request : Request} (inbox : office.owner.inbox = ahead ++ .submit ticket request :: behind)
    (deed : Deed σ) :
    ticket ∈ (office.step deed).owner.answered ∨ ∃ ahead' behind',
      (office.step deed).owner.inbox = ahead' ++ .submit ticket request :: behind' ∧
        ahead'.length + (office.isQuietTurn deed).toNat = ahead.length := by
  have running : office.owner.running = true := by
    cases runs : office.owner.running with
    | true => rfl
    | false =>
      rw [sound.stopped runs] at inbox
      simp at inbox
  have same {after : Office σ} (kept : after.owner.inbox = office.owner.inbox) :
      ∃ ahead' behind', after.owner.inbox = ahead' ++ .submit ticket request :: behind' ∧
        ahead'.length + 0 = ahead.length := ⟨ahead, behind, kept.trans inbox, rfl⟩
  have posted (letter : Letter) {after : Office σ}
      (put : after.owner.inbox = office.owner.inbox ++ [letter]) :
      ∃ ahead' behind', after.owner.inbox = ahead' ++ .submit ticket request :: behind' ∧
        ahead'.length + 0 = ahead.length := by
    refine ⟨ahead, behind ++ [letter], ?_, rfl⟩
    rw [put, inbox, List.append_assoc, List.cons_append]
  cases deed with
  | copy | drop =>
    refine .inr (same ?_)
    rw [Office.step]
    split <;> rfl
  | move | wait => exact .inr (same rfl)
  | request handle request =>
    rw [Office.step]
    split
    · refine .inr (posted (.submit office.owner.nextTicket request) ?_)
      rw [Owner.request, Owner.post, if_pos running]
    · exact .inr (same rfl)
  | shutdown handle =>
    rw [Office.step]
    split
    · refine .inr (posted .shutdown ?_)
      rw [Owner.post, if_pos running]
    · exact .inr (same rfl)
  | turn => exact moves_turn running inbox

/-- An answer that was given stays. -/
theorem answered_run (reachable : office.owner.host.Reachable) (deeds : List (Deed σ)) :
    office.owner.answered <+: (office.run deeds).owner.answered := by
  induction deeds generalizing office with
  | nil => exact List.prefix_rfl
  | cons deed rest ih =>
    obtain ⟨fresh, answers, _⟩ := answers_step reachable.coherent.filed deed
    have kept : office.owner.answered <+: (office.step deed).owner.answered := by
      rw [Owner.answered, Owner.answered, answers, List.map_append]
      exact List.prefix_append _ _
    refine kept.trans (ih ?_)
    rw [host_step]
    exact reachable.run _

/-- **A request is answered in time**: at the latest when the turns that found no event are more than
the letters that were before it. -/
theorem answered_of_quietTurns (reachable : office.owner.host.Reachable) (sound : office.Sound)
    {ahead behind : List Letter} {ticket : Nat} {request : Request}
    (inbox : office.owner.inbox = ahead ++ .submit ticket request :: behind)
    {deeds : List (Deed σ)} (enough : ahead.length < office.quietTurns deeds) :
    ticket ∈ (office.run deeds).owner.answered := by
  induction deeds generalizing office ahead behind with
  | nil => exact absurd enough (Nat.not_lt_zero _)
  | cons deed rest ih =>
    have next : (office.step deed).owner.host.Reachable := by
      rw [host_step]
      exact reachable.run _
    rcases sound.moves inbox deed with answered | ⟨ahead', behind', inbox', moved⟩
    · exact (answered_run next rest).mem answered
    · refine ih next (sound.step deed) inbox' ?_
      rw [quietTurns] at enough
      omega

end Office

end NanHost
