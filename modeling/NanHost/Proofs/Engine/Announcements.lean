import NanHost.Proofs.Course
import NanHost.Proofs.Engine.Account
import NanHost.Proofs.Engine.Teardown

/-!
# Announcements — what is told as commands end

As a command ends, its settlement may tell something first, then its completion is told, and then, if
the command has given a path its number, what was held back for that path. Somebody who follows the
notifications and sees no more than these needs to know what comes together: that nothing is said to
be up in a reaction that takes entries away.

## What is proved

- `mem_announce`: the three parts of an announcement.
- `bleak_giveUpAll`: commands that are given up tell of nothing that is up, and of no success.
- `suits_settleByItself`: a command ends with a detail that suits what it was about.
- `Coherent.tells_handle`: so whatever event is handled, what is told comes in one of four ways. In
  none of them is an entry said to be up together with the end of another.
-/

namespace NanHost

/-- The entry that a notification says is up. -/
def Notification.raises? : Notification → Option Place
  | completed completion =>
    match completion.result with
    | .ok (.sessionStarted id _) => some (.session id)
    | _ => none
  | dataPathConfirmed id .. => some (.path id)
  | _ => none

/-- Whether a notification neither says that an entry is up nor reports a success. -/
def Notification.bleak : Notification → Bool
  | completed completion => !completion.isSuccess
  | dataPathConfirmed .. => false
  | _ => true

theorem Notification.raises?_of_bleak {notice : Notification} (bleak : notice.bleak = true) :
    notice.raises? = none := by
  cases notice with
  | completed completion =>
    obtain ⟨id, kind, result⟩ := completion
    cases result with
    | ok detail => cases bleak
    | error failure => rfl
  | dataPathConfirmed => cases bleak
  | _ => rfl

/-- A completion that is told in a bleak notification is no success. -/
theorem Notification.not_success_of_bleak {notices : List Notification}
    (bleak : ∀ notice ∈ notices, notice.bleak = true) {completion : Completion}
    (reported : completion ∈ completions notices) : completion.isSuccess = false := by
  obtain ⟨notice, member, same⟩ := List.mem_filterMap.mp reported
  cases notice with
  | completed other =>
    obtain rfl := Option.some.inj same
    simpa [Notification.bleak] using bleak _ member
  | _ => cases same

/-- Whether something is the beginning of an entry. -/
def CompletionDetail.begins : CompletionDetail → Bool
  | sessionStarted .. | dataPathInitiated _ => true
  | _ => false

/-- Whether a command is about an entry that has no number yet. -/
def PendingContext.isNew : PendingContext → Bool
  | newSession _ | newDataPath => true
  | _ => false

namespace Engine

variable {engine : Engine} {record : TransactionRecord} {notice : Notification}
  {completion : Completion}

/-! ## Parts of an announcement -/

/-- What is replayed for a path is told of that path. -/
theorem place?_replayHeld {id : DataPathId} (told : notice ∈ (engine.replayHeld id).2) :
    notice.place? = some (.path id) := by
  have replayed (engine : Engine) (event : HeldEvent) :
      ∀ notice ∈ (engine.replay id event).2, notice.place? = some (.path id) := by
    cases event with
    | confirmed =>
      unfold replay onPathConfirmed
      dsimp only
      split <;> simp [Notification.place?]
    | terminated =>
      unfold replay onPathTerminated
      dsimp only
      split <;> simp [Notification.place?]
  refine sweep_keeps
    (fun _ (told : List Notification) => ∀ notice ∈ told, notice.place? = some (.path id))
    (fun event before notice member => ?_) _ _ [] (fun _ => nofun) notice told
  rcases List.mem_append.mp member with told | now
  · exact before notice told
  · exact replayed _ event notice now

/-- **The parts of an announcement**: what the settlement tells, the completion, and what was held
back for the path that got its number. -/
theorem mem_announce {settlement : Settlement} (told : notice ∈ (announce record settlement).2) :
    notice ∈ settlement.notices ∨
      notice = .completed ⟨record.id, record.kind, settlement.result⟩ ∨
        ∃ id, settlement.result = .ok (.dataPathInitiated id) ∧
          notice ∈ (settlement.engine.replayHeld id).2 := by
  unfold announce at told
  dsimp only at told
  rw [List.mem_append, List.mem_cons] at told
  refine told.imp_right (Or.imp_right fun replayed => ?_)
  split at replayed
  next id initiated => exact ⟨id, initiated, replayed⟩
  next => cases replayed

/-- One completion is announced. -/
theorem completions_announce {settlement : Settlement} (silent : Silent settlement.notices) :
    completions (announce record settlement).2 = [⟨record.id, record.kind, settlement.result⟩] := by
  unfold announce
  dsimp only
  rw [completions_append, silent.completions_eq, List.nil_append, completions_cons]
  refine congrArg (List.cons _) ?_
  split
  · exact (replayHeld_silent _ _).completions_eq
  · rfl

/-! ## Commands that are given up -/

/-- The only thing that a settlement may tell beside is that a path could not be set up. -/
theorem bleak_settleByItself (engine : Engine) (record : TransactionRecord) (outcome : Outcome) :
    ∀ notice ∈ (engine.settleByItself record outcome).notices, notice.bleak = true := by
  have respond (path : DataPathId) :
      ∀ notice ∈ (engine.settleRespond record.id path outcome).notices, notice.bleak = true := by
    unfold settleRespond
    dsimp only
    split <;> simp [Notification.bleak]
  unfold settleByItself
  split
  next => unfold settleCapabilities; split <;> simp
  next => unfold settleConfigure; split <;> simp
  all_goals first | exact respond _ | exact fun _ => nofun

/-- A failure is announced bleakly. -/
theorem bleak_announce {settlement : Settlement} {failure : Failure}
    (failed : settlement.result = .error failure)
    (bleak : ∀ notice ∈ settlement.notices, notice.bleak = true) :
    ∀ notice ∈ (announce record settlement).2, notice.bleak = true := by
  intro notice told
  rcases mem_announce told with before | rfl | ⟨id, initiated, _⟩
  · exact bleak notice before
  · rw [failed]
    rfl
  · rw [failed] at initiated
    cases initiated

theorem bleak_giveUp (engine : Engine) (record : TransactionRecord) (failure : Failure) :
    ∀ notice ∈ (engine.giveUp record failure).2, notice.bleak = true := by
  unfold giveUp
  cases origin : record.origin with
  | engine =>
    rw [conclude_engine origin]
    unfold strikeOff
    split <;> exact fun _ => nofun
  | caller =>
    rw [conclude_caller origin]
    by_cases disable : record.kind = .disable
    · rw [settle_disable disable, settleDisable_failed]
      exact bleak_announce rfl fun _ => nofun
    · rw [settle_eq_settleByItself disable]
      obtain ⟨reason, failed⟩ := result_settleByItself_failed
        (engine.upon (engine.ledger.rollback record.id)) record failure
      exact bleak_announce failed (bleak_settleByItself _ record _)

/-- **Commands that are given up tell of nothing that is up, and of no success.** -/
theorem bleak_giveUpAll {records : List TransactionRecord} (onFile : engine.ledger.OnFile records)
    (failure : Failure) : ∀ notice ∈ (engine.giveUpAll records failure).2, notice.bleak = true := by
  refine kept_giveUpAll (fun _ notices => ∀ notice ∈ notices, notice.bleak = true) [] onFile
    (fun _ => nofun) ?_
  intro engine notices record _ _ before notice member
  rcases List.mem_append.mp member with told | now
  · exact before notice told
  · exact engine.bleak_giveUp record failure notice now

/-- What falls with the interface is told bleakly. -/
theorem bleak_cascade (engine : Engine) (reason : TerminationReason) :
    ∀ notice ∈ engine.cascade reason, notice.bleak = true := by
  intro notice member
  simp only [cascade, List.mem_append, List.mem_map] at member
  rcases member with (⟨record, _, rfl⟩ | ⟨entry, _, rfl⟩) | ⟨path, _, rfl⟩ <;> rfl

/-! ## Commands that are answered -/

/-- What a command that leaves the interface up may come to: it is a beginning only if the command is
about an entry that has no number yet. -/
def Suits (record : TransactionRecord) (result : Except Failure CompletionDetail) : Prop :=
  ∀ detail, result = .ok detail →
    detail ≠ .disabled ∧ (detail.begins = true → record.context.isNew = true)

namespace Suits

theorem error (failure : Failure) : Suits record (.error failure) := fun _ => nofun

theorem ok {detail : CompletionDetail} (notDisabled : detail ≠ .disabled)
    (begins : detail.begins = true → record.context.isNew = true) : Suits record (.ok detail) := by
  intro other same
  obtain rfl := Except.ok.inj same
  exact ⟨notDisabled, begins⟩

theorem map {α : Type} (result : Except Failure α) {detail : α → CompletionDetail}
    (notDisabled : ∀ value, detail value ≠ .disabled)
    (begins : ∀ value, (detail value).begins = true → record.context.isNew = true) :
    Suits record (result.map detail) := by
  cases result with
  | ok value => exact .ok (notDisabled value) (begins value)
  | error failure => exact .error failure

theorem achieving (outcome : Outcome) {detail : CompletionDetail} (notDisabled : detail ≠ .disabled)
    (begins : detail.begins = true → record.context.isNew = true) :
    Suits record (outcome.achieving detail) := by
  cases outcome with
  | ok payload => exact .ok notDisabled begins
  | error failure => exact .error failure

end Suits

/-- **What a command comes to that leaves the interface up suits it.** -/
theorem suits_settleByItself (engine : Engine) (record : TransactionRecord) (outcome : Outcome) :
    Suits record (engine.settleByItself record outcome).result := by
  have start (about : record.context.isNew = true) :
      Suits record (engine.settleStart record.id outcome).result :=
    .map _ (fun _ => nofun) fun _ _ => about
  have initiate (about : record.context.isNew = true) :
      Suits record (engine.settleInitiate record.id outcome).result :=
    .map _ (fun _ => nofun) fun _ _ => about
  unfold settleByItself
  split
  next =>
    unfold settleCapabilities
    split
    · exact .ok nofun nofun
    · exact .error _
    · exact .error _
  next =>
    unfold settleConfigure
    split
    · exact .achieving outcome nofun nofun
    · exact .error _
  next context => exact start (by rw [context]; rfl)
  next context => exact start (by rw [context]; rfl)
  next => exact .map _ (fun _ => nofun) fun _ => nofun
  next => exact .map _ (fun _ => nofun) fun _ => nofun
  next => exact .achieving outcome nofun nofun
  next => exact .achieving outcome nofun nofun
  next => exact .achieving outcome nofun nofun
  next => exact .achieving outcome nofun nofun
  next => exact .achieving outcome nofun nofun
  next context => exact initiate (by rw [context]; rfl)
  next => exact .map _ (fun _ => nofun) fun _ => nofun
  next => exact .achieving outcome nofun nofun
  next => exact .error _

/-- **What is told in a reaction**, as far as entries come and go with it. -/
inductive Tells (engine : Engine) : Reaction → Prop
  /-- No completion is told. -/
  | silently {reaction : Reaction} (silent : Silent reaction.2) : Tells engine reaction
  /-- Nothing is said to be up, and no success is told. -/
  | bleakly {reaction : Reaction} (bleak : ∀ notice ∈ reaction.2, notice.bleak = true) :
    Tells engine reaction
  /-- A command on file is answered. If an entry is said to be up, it has begun with that. -/
  | answered {reaction : Reaction} (record : TransactionRecord)
    (result : Except Failure CompletionDetail)
    (onFile : engine.ledger.get? record.id = some record) (suits : Suits record result)
    (only : completions reaction.2 = [⟨record.id, record.kind, result⟩])
    (rises : ∀ notice ∈ reaction.2, notice.raises? ≠ none →
      ∃ detail, result = .ok detail ∧ detail.begins = true) : Tells engine reaction
  /-- The interface was disabled, and all has fallen. -/
  | disabled {reaction : Reaction} (falls : ∀ notice ∈ reaction.2, notice.raises? = none)
    (fallen : ∃ condition, reaction.1 = engine.fallen condition) : Tells engine reaction

/-- A command that leaves the interface up. -/
theorem tells_announce {outcome : Outcome} (engine' : Engine)
    (onFile : engine.ledger.get? record.id = some record) :
    engine.Tells (announce record (engine'.settleByItself record outcome)) := by
  refine .answered record _ onFile (engine'.suits_settleByItself record outcome)
    (completions_announce (engine'.settleByItself_silent record outcome)) ?_
  intro notice told rises
  rcases mem_announce told with before | rfl | ⟨id, initiated, _⟩
  · exact absurd (Notification.raises?_of_bleak (engine'.bleak_settleByItself record _ notice before))
      rises
  · cases result : (engine'.settleByItself record outcome).result with
    | error failure => simp [Notification.raises?, result] at rises
    | ok detail =>
      refine ⟨detail, rfl, ?_⟩
      cases detail with
      | sessionStarted => rfl
      | _ => simp [Notification.raises?, result] at rises
  · exact ⟨_, initiated, rfl⟩

namespace Coherent

/-- The answer to a command. -/
theorem tells_onCompleted (coherent : engine.Coherent) (id : TransactionId)
    (outcome : Except FirmwareStatus AnswerPayload) :
    engine.Tells (engine.onCompleted id outcome) := by
  cases onFile : engine.ledger.get? id with
  | none =>
    rw [onCompleted_of_absent onFile]
    exact .silently fun _ => nofun
  | some record =>
    obtain rfl := coherent.filed.own onFile
    by_cases disable : record.kind = .disable
    · cases outcome with
      | ok payload =>
        rw [coherent.onCompleted_disable onFile disable payload]
        refine .disabled (fun notice member => ?_) ⟨_, rfl⟩
        rcases List.mem_append.mp member with falls | last
        · exact Notification.raises?_of_bleak (engine.bleak_cascade _ notice falls)
        · rw [List.mem_singleton.mp last]
          rfl
      | error status =>
        rw [onCompleted_of_onFile onFile]
        exact .bleakly (engine.bleak_giveUp record (.firmware status))
    · rw [onCompleted_of_onFile onFile]
      cases origin : record.origin with
      | engine =>
        rw [conclude_engine origin]
        refine .silently ?_
        unfold Engine.strikeOff
        split <;> exact fun _ => nofun
      | caller =>
        rw [conclude_caller origin, settle_eq_settleByItself disable]
        exact tells_announce _ onFile

/-- **What is told in a reaction to a report.** -/
theorem tells_handle (coherent : engine.Coherent) (now : Timestamp) (event : FirmwareEvent) :
    engine.Tells (engine.handle now event) := by
  by_cases ends : event.endsCommands = true
  · cases event with
    | commandCompleted id outcome => exact coherent.tells_onCompleted id outcome
    | interfaceDown status =>
      refine .bleakly ?_
      show ∀ notice ∈ (engine.onInterfaceDown status).2, notice.bleak = true
      by_cases down : engine.interface.phase = .disabled
      · rw [coherent.onInterfaceDown_of_down down]
        exact fun _ => nofun
      · rw [coherent.onInterfaceDown_exact down]
        intro notice member
        simp only [List.mem_append, List.mem_map, List.mem_singleton] at member
        rcases member with (⟨record, _, rfl⟩ | falls) | rfl
        · rfl
        · exact engine.bleak_cascade _ notice falls
        · rfl
    | _ => cases ends
  · rw [Bool.not_eq_true] at ends
    exact .silently (engine.handle_silent now ends).1

end Coherent

end Engine

end NanHost
