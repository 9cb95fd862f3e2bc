import NanHost.Proofs.Owner.Office

/-!
# Letters — each is answered once, in its turn

A letter that is posted waits in the owner's inbox until the owner takes it; the owner answers it
then, or when it stops. The tickets count the requests that were posted, so that those answered and
those waiting are, one after the other, all tickets given out.

## What is proved

`Sound` says this, and that no letter is left with an owner that has stopped. It holds after every
schedule (`Sound.run`). Since a handle is not dropped while its request waits, the last handle is
not dropped before every request has been answered (`Sound.waiting_of_no_handles`).
-/

namespace NanHost

namespace Office

variable {σ : Type} {office : Office σ}

/-- What holds between the letters, the answers and the handles. -/
structure Sound (office : Office σ) : Prop where
  tickets : office.owner.nextTicket = office.calls.length
  /-- Requests are answered in the order in which they were posted; those not answered wait. -/
  order : office.owner.answered ++ office.owner.waiting = List.range office.calls.length
  /-- A letter carries the request of its ticket. -/
  requests : ∀ ticket request, .submit ticket request ∈ office.owner.inbox →
    ∃ handle, office.calls[ticket]? = some (handle, request)
  /-- A handle is there as long as a request waits that was posted by it. -/
  held : ∀ ticket ∈ office.owner.waiting, ∃ call, office.calls[ticket]? = some call ∧
    call.1 ∈ office.handles
  /-- No letter is left with an owner that has stopped. -/
  stopped : office.owner.running = false → office.owner.inbox = []

theorem Sound.opened (host : Host σ) : (Office.opened host).Sound where
  tickets := rfl
  order := rfl
  requests := fun _ _ member => absurd member List.not_mem_nil
  held := fun _ member => absurd member List.not_mem_nil
  stopped := fun _ => rfl

namespace Sound

/-- A request that waits was posted and has not been answered. -/
theorem answer?_of_waiting (sound : office.Sound) {ticket : Nat}
    (waits : ticket ∈ office.owner.waiting) : office.owner.answer? ticket = none := by
  have distinct : (office.owner.answered ++ office.owner.waiting).Nodup :=
    sound.order ▸ List.nodup_range
  rw [Owner.answer?_eq_none_iff]
  exact fun answered => (List.nodup_append.mp distinct).2.2 ticket answered ticket waits rfl

/-- A handle whose request waits is in use. -/
theorem inUse_of_waiting (sound : office.Sound) {ticket : Nat}
    (waits : ticket ∈ office.owner.waiting) {call : Nat × Request}
    (posted : office.calls[ticket]? = some call) : office.inUse call.1 = true := by
  refine List.any_eq_true.mpr ⟨(call, ticket), List.mem_zipIdx_iff_getElem?.mpr posted, ?_⟩
  simp [sound.answer?_of_waiting waits]

/-- As long as the same requests wait for the same owner, nothing changes between the letters and the
answers. -/
theorem aside (sound : office.Sound) {owner : Owner σ} {handles : List Nat}
    (answers : owner.answers = office.owner.answers)
    (nextTicket : owner.nextTicket = office.owner.nextTicket)
    (waiting : owner.waiting = office.owner.waiting)
    (letters : ∀ ticket request, .submit ticket request ∈ owner.inbox →
      .submit ticket request ∈ office.owner.inbox)
    (stopped : owner.running = false → owner.inbox = [])
    (held : ∀ ticket ∈ office.owner.waiting, ∃ call, office.calls[ticket]? = some call ∧
      call.1 ∈ handles) :
    Sound { office with owner := owner, handles := handles } where
  tickets := nextTicket.trans sound.tickets
  order := by
    rw [← sound.order, ← waiting, Owner.answered, answers]
    rfl
  requests := fun ticket request member => sound.requests ticket request (letters _ _ member)
  held := waiting ▸ held
  stopped := stopped

/-- An owner that stops answers every letter. -/
theorem stop [FirmwareLink σ] (sound : office.Sound) : Sound { office with owner := office.owner.stop } := by
  rw [Owner.stop_eq]
  refine ⟨sound.tickets, ?_, fun _ _ member => absurd member List.not_mem_nil,
    fun _ member => absurd member List.not_mem_nil, fun _ => rfl⟩
  rw [← sound.order]
  simp [Owner.answered, Owner.waiting, Answer.unheard, Function.comp_def]

/-- The next letter may be answered. -/
theorem answer (sound : office.Sound) {ticket : Nat} {request : Request} {rest : List Letter}
    (next : office.owner.inbox = .submit ticket request :: rest) (host : Host σ)
    (result : Except Rejection TransactionId) :
    Sound { office with
      owner := { office.owner with host := host, inbox := rest }.answer ticket result } := by
  have waits : office.owner.waiting = ticket :: rest.filterMap (·.ticket?) := by
    rw [Owner.waiting, next]
    rfl
  refine ⟨sound.tickets, ?_, fun ticket request member => ?_, fun ticket member => ?_,
    fun halted => ?_⟩
  · rw [← sound.order, waits]
    simp [Owner.answered, Owner.waiting, Owner.answer]
  · exact sound.requests ticket request (next ▸ List.mem_cons_of_mem _ member)
  · exact sound.held ticket (waits ▸ List.mem_cons_of_mem _ member)
  · have empty := sound.stopped halted
    rw [next] at empty
    cases empty

/-- The word to stop may be posted. -/
theorem postShutdown (sound : office.Sound) :
    Sound { office with owner := office.owner.post .shutdown } := by
  unfold Owner.post
  split
  next running =>
    refine sound.aside rfl rfl ?_ (fun _ _ member => by simpa using member) (fun halted => ?_)
      sound.held
    · simp [Owner.waiting, Letter.ticket?]
    · exact absurd running (by simpa using halted)
  next => exact sound

/-- The word to stop may be taken. -/
theorem takeShutdown (sound : office.Sound) {rest : List Letter}
    (next : office.owner.inbox = .shutdown :: rest) :
    Sound { office with owner := { office.owner with inbox := rest } } := by
  refine sound.aside rfl rfl ?_ (fun _ _ member => next ▸ List.mem_cons_of_mem _ member)
    (fun halted => ?_) sound.held
  · rw [Owner.waiting, Owner.waiting, next]
    rfl
  · have empty := sound.stopped halted
    rw [next] at empty
    cases empty

/-- A request may be posted by a handle that there is. -/
theorem postRequest (sound : office.Sound) {handle : Nat} (there : handle ∈ office.handles)
    (request : Request) :
    Sound { office with
      owner := office.owner.request request
      calls := office.calls ++ [(handle, request)] } := by
  have kept {ticket : Nat} {call : Nat × Request} (posted : office.calls[ticket]? = some call) :
      (office.calls ++ [(handle, request)])[ticket]? = some call := by
    rw [List.getElem?_append_left (List.getElem?_eq_some_iff.mp posted).1]
    exact posted
  have latest : (office.calls ++ [(handle, request)])[office.owner.nextTicket]? =
      some (handle, request) := by rw [sound.tickets]; exact List.getElem?_concat_length
  have length : (office.calls ++ [(handle, request)]).length = office.calls.length + 1 :=
    List.length_append
  unfold Owner.request Owner.post
  split
  next running =>
    have waiting : Owner.waiting { office.owner with
        inbox := office.owner.inbox ++ [.submit office.owner.nextTicket request] } =
        office.owner.waiting ++ [office.owner.nextTicket] := by
      simp [Owner.waiting, Letter.ticket?]
    refine ⟨?_, ?_, fun ticket wanted member => ?_, fun ticket member => ?_, fun halted => ?_⟩
    · rw [length, ← sound.tickets]
    · rw [length, List.range_succ, ← sound.order, List.append_assoc, ← sound.tickets, ← waiting]
      rfl
    · rcases List.mem_append.mp member with before | now
      · obtain ⟨poster, posted⟩ := sound.requests ticket wanted before
        exact ⟨poster, kept posted⟩
      · cases List.mem_singleton.mp now
        exact ⟨handle, latest⟩
    · have member : ticket ∈ office.owner.waiting ++ [office.owner.nextTicket] := waiting ▸ member
      rcases List.mem_append.mp member with before | now
      · obtain ⟨call, posted, holds⟩ := sound.held ticket before
        exact ⟨call, kept posted, holds⟩
      · cases List.mem_singleton.mp now
        exact ⟨_, latest, there⟩
    · exact absurd running (by simpa using halted)
  next halted =>
    have empty := sound.stopped (by simpa using halted)
    have waiting : office.owner.waiting = [] := by rw [Owner.waiting, empty]; rfl
    have order := sound.order
    rw [waiting, List.append_nil] at order
    refine ⟨?_, ?_, fun ticket wanted member => ?_, fun ticket member => ?_, fun _ => empty⟩
    · rw [length, ← sound.tickets]
      rfl
    · have none : Owner.waiting { office.owner with nextTicket := office.owner.nextTicket + 1 } = [] :=
        waiting
      rw [length, List.range_succ, ← order, ← sound.tickets]
      simp [Owner.answered, Owner.returnLetter, Owner.answer, Owner.waiting, empty]
    · have member : Letter.submit ticket wanted ∈ office.owner.inbox := member
      rw [empty] at member
      cases member
    · have member : ticket ∈ office.owner.waiting := member
      rw [waiting] at member
      cases member

variable [FirmwareLink σ]

/-- **Every deed keeps letters and answers in order.** -/
theorem step (sound : office.Sound) (deed : Deed σ) : (office.step deed).Sound := by
  cases deed with
  | copy handle another =>
    rw [Office.step]
    split
    · refine sound.aside rfl rfl rfl (fun _ _ => id) sound.stopped fun ticket waits => ?_
      obtain ⟨call, posted, holds⟩ := sound.held ticket waits
      exact ⟨call, posted, List.mem_append_left _ holds⟩
    · exact sound
  | drop handle =>
    rw [Office.step]
    split
    · exact sound
    next unused =>
      refine sound.aside rfl rfl rfl (fun _ _ => id) sound.stopped fun ticket waits => ?_
      obtain ⟨call, posted, holds⟩ := sound.held ticket waits
      have differs : call.1 ≠ handle := fun same =>
        unused (same ▸ sound.inUse_of_waiting waits posted)
      exact ⟨call, posted, List.mem_filter.mpr ⟨holds, by simpa using differs⟩⟩
  | request handle request =>
    rw [Office.step]
    split
    next there => exact sound.postRequest there request
    next => exact sound
  | shutdown handle =>
    rw [Office.step]
    split
    · exact sound.postShutdown
    · exact sound
  | move | wait => exact sound.aside rfl rfl rfl (fun _ _ => id) sound.stopped sound.held
  | turn =>
    rw [Office.step, Owner.turn?]
    cases chosen : office.owner.choice? with
    | none => exact sound
    | some choice =>
      obtain ⟨_, chosen⟩ := Owner.chosen_of_choice? chosen
      cases chosen with
      | event | tick => exact sound.aside rfl rfl rfl (fun _ _ => id) sound.stopped sound.held
      | noMoreEvents | noMoreLetters => exact sound.stop
      | @letter letter rest _ _ next =>
        cases letter with
        | submit ticket request => exact sound.answer next _ _
        | shutdown =>
          exact (sound.takeShutdown next).stop

/-- **So does every schedule.** -/
theorem run (sound : office.Sound) (deeds : List (Deed σ)) : (office.run deeds).Sound := by
  induction deeds generalizing office with
  | nil => exact sound
  | cons deed rest ih => exact ih (sound.step deed)

end Sound

end Office

end NanHost
