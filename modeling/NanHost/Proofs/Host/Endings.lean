import NanHost.Proofs.Engine.Announcements
import NanHost.Proofs.Host.Emissions
import NanHost.Proofs.Host.PathReports
import NanHost.Proofs.Host.Progress
import NanHost.Proofs.Host.Reuse

/-!
# Endings — paths whose end a caller has asked for

A caller who ends a path hears of it by the completion of that request. Until then the path may go
down for other reasons, and these are not to be told: the caller has asked for it. The firmware's own
report that the path has ended is kept back so, and with the interface or after a grace period the path
goes down silently too.

## What is proved

`run_endings`: while the end of a path is under way, its end is told for two reasons only. Either the
peer is reported to turn down a path that was accepted here and is not up yet, or the acceptance of a
path that is up fails; and if the firmware reports one of these, it is told. In no run is it told
twice.

## What is not

That it is told for no reason at all. Both reasons above leave out what `DataPathTable.onTerminated`
looks at, whether an end was asked for, and `run_endings_turnedDown` is a run in which the caller hears
that the path is gone while the end is still under way.
-/

namespace NanHost

/-- Whether a reason is that a path was not set up: the peer has turned it down, or its acceptance has
failed. -/
def TerminationReason.isSetback : TerminationReason → Bool
  | rejected _ | setupFailed => true
  | firmware _ | interfaceDisabled | interfaceDown | responseTimeout => false

/-- The command answers the peer that has asked for a path, at the request of a caller. -/
structure TransactionRecord.Answers (record : TransactionRecord) (id : DataPathId) : Prop where
  kind : record.kind = .respondDataPath
  context : record.context = .dataPath id
  origin : record.origin = .caller

/-! ## Paths on their way down -/

namespace DataPath

/-- The path is down, or its end was asked for and no answer is due any more. -/
def Ending (path : DataPath) : Prop :=
  path.state = .terminated ∨ path.endPending = true ∧ path.responseDeadline = none

variable {id : DataPathId} {now : Timestamp} {path next : DataPath} {effects : List Effect}
  {entry : Option DataPath}

theorem Ending.asked (ending : path.Ending) (live : path.state ≠ .terminated) :
    path.endPending = true ∧ path.responseDeadline = none := ending.resolve_left live

/-- What is left of a path that is down is down. -/
theorem ending_of_kept (down : path.state = .terminated) (left : path.kept = some next) :
    next.Ending := by
  obtain ⟨rfl, _⟩ := kept_eq_some.mp left
  exact .inl down

/-- **A path on its way down stays so**, and is only told to be down as it suffers a setback; if that is
that its acceptance has failed, it was up. -/
theorem Ending.move (ending : path.Ending) (move : Move id now path effects entry) :
    (∀ next, entry = some next → next.Ending) ∧
      ∀ reason, .told (.dataPathTerminated id reason) ∈ effects →
        reason.isSetback = true ∧ (reason = .setupFailed → path.state = .confirmed) := by
  have asked (live : path.state ≠ .terminated) : path.endPending = true := (ending.asked live).1
  cases move with
  | answered txn request known about awaits =>
    have open' : path.state = .awaitingLocalResponse ∧ path.endPending = false := by
      simp_all [awaitsAnswer]
    have ends := asked (by simp [open'.1])
    rw [open'.2] at ends
    cases ends
  | endAsked txn stage notAsked =>
    have ends := asked (by rcases stage with stage | stage <;> simp [stage])
    rw [notAsked] at ends
    cases ends
  | confirmed peerInterface appInfo confirmable =>
    have live : path.state ≠ .terminated := by
      intro gone
      simp [isConfirmable, gone] at confirmable
    refine ⟨fun next same => ?_, fun reason member => by simp at member⟩
    exact Option.some.inj same ▸ .inr (ending.asked live)
  | rejected status confirmable =>
    refine ⟨fun next left => ending_of_kept rfl left, fun reason member => ?_⟩
    obtain rfl : reason = .rejected status := by simpa using member
    exact ⟨rfl, fun failed => by cases failed⟩
  | ended status live =>
    have ends := asked (by simpa [isLive] using live)
    refine ⟨fun next left => ending_of_kept rfl left, fun reason member => ?_⟩
    simp [ends] at member
  | struck txn =>
    refine ⟨fun next left => ?_, fun reason member => by cases member⟩
    obtain ⟨rfl, _⟩ := kept_eq_some.mp left
    exact ending
  | failed txn given =>
    refine ⟨fun next left => ending_of_kept rfl left, fun reason member => ?_⟩
    split at member
    next up =>
      obtain rfl : reason = .setupFailed := by simpa using member
      exact ⟨rfl, fun _ => by simpa [isConfirmed] using up⟩
    next => cases member
  | endSettled txn ends =>
    exact ⟨fun next left => ending_of_kept rfl left, fun reason member => by cases member⟩
  | lapsed overdue | refused _ _ overdue =>
    have late : path.state = .awaitingLocalResponse ∧ path.responseDeadline ≠ none := by
      cases due : path.responseDeadline <;> simp_all [isOverdue]
    exact absurd (ending.asked (by simp [late.1])).2 late.2
  | fell reason =>
    have closed : path.isOpen = false := by
      by_cases gone : path.state = .terminated
      · simp [isOpen, isLive, gone]
      · simp [isOpen, asked gone]
    exact ⟨fun next same => (by cases same), fun reason member => by simp [closed] at member⟩

/-- The path was up, or is told to have come up. -/
def Rises (path : DataPath) (id : DataPathId) (effects : List Effect) : Prop :=
  path.state = .confirmed ∨
    ∃ peerInterface appInfo, .told (.dataPathConfirmed id peerInterface appInfo) ∈ effects

theorem Rises.append {later : List Effect} (rises : path.Rises id effects) :
    path.Rises id (effects ++ later) :=
  rises.imp_right fun ⟨peerInterface, appInfo, member⟩ =>
    ⟨peerInterface, appInfo, List.mem_append_left _ member⟩

/-- The path is told to be down as it suffers setbacks only; if one is that its acceptance has failed, it
was up or has come up. -/
def Suffers (path : DataPath) (id : DataPathId) (effects : List Effect) : Prop :=
  ∀ reason, .told (.dataPathTerminated id reason) ∈ effects →
    reason.isSetback = true ∧ (reason = .setupFailed → path.Rises id effects)

theorem Suffers.append {later : List Effect} (suffers : path.Suffers id effects)
    (after : ∀ reason, .told (.dataPathTerminated id reason) ∈ later →
      reason.isSetback = true ∧ (reason = .setupFailed → path.Rises id effects)) :
    path.Suffers id (effects ++ later) := by
  intro reason member
  have told : reason.isSetback = true ∧ (reason = .setupFailed → path.Rises id effects) := by
    rcases List.mem_append.mp member with before | now
    · exact suffers reason before
    · exact after reason now
  exact ⟨told.1, fun failed => (told.2 failed).append⟩

/-- So it is with all that becomes of it. -/
theorem Ending.course (ending : path.Ending)
    (course : Course (.path id) (Move id now) (some path) effects entry) :
    path.Suffers id effects := by
  -- On the way the path is ending, and if it is up, it was so or has come up.
  have kept := course.keeps
    (fun entry log => (∀ next, entry = some next →
      next.Ending ∧ (next.state = .confirmed → path.Rises id log)) ∧ path.Suffers id log)
    ?_ ?_ [] ⟨fun next same => Option.some.inj same ▸ ⟨ending, .inl⟩,
      fun reason member => absurd member List.not_mem_nil⟩
  · exact kept.2
  · rintro entry log effects quiet ⟨ending, suffers⟩
    refine ⟨fun next same => ?_, suffers.append fun reason member => absurd rfl (quiet _ member)⟩
    obtain ⟨ending, rises⟩ := ending next same
    exact ⟨ending, fun up => (rises up).append⟩
  · rintro last log effects next moved ⟨ending, suffers⟩
    obtain ⟨ending, rises⟩ := ending last rfl
    obtain ⟨goesOn, told⟩ := ending.move moved
    refine ⟨?_, suffers.append fun reason member => ?_⟩
    · rintro after rfl
      refine ⟨goesOn after rfl, fun up => ?_⟩
      rcases moved.up up with before | ⟨peerInterface, appInfo, member⟩
      · exact (rises before).append
      · exact .inr ⟨peerInterface, appInfo, List.mem_append_right _ member⟩
    · obtain ⟨setback, wasUp⟩ := told reason member
      exact ⟨setback, fun failed => rises (wasUp failed)⟩

end DataPath

/-! ## Who tells of a setback -/

namespace Engine

variable {engine : Engine} {record : TransactionRecord} {id : DataPathId} {path : DataPath}
  {reason : TerminationReason} {failure : Failure}

/-- An answer that has failed takes a path down that was up, unless it was given up, and this is
told. -/
theorem notices_settleRespond (found : engine.paths.get? id = some path)
    (up : path.state = .confirmed) (txn : TransactionId) (failed : failure ≠ .aborted) :
    (engine.settleRespond txn id (.error failure)).notices =
      [.dataPathTerminated id .setupFailed] := by
  have resolved : engine.paths.resolveRespond id txn (.error failure) =
      (.error failure, (engine.paths.put id (path.detach txn).terminated).purge id) := by
    unfold DataPathTable.resolveRespond
    simp only [found]
  have down : (((engine.paths.put id (path.detach txn).terminated).purge id).get? id).any
      (·.isLive) = false := by
    cases left : ((engine.paths.put id (path.detach txn).terminated).purge id).get? id with
    | none => rfl
    | some last =>
      rw [DataPathTable.eq_of_get?_put_purge left]
      simp [DataPath.isLive, DataPath.terminated]
  unfold settleRespond
  simp [Outcome.plain, resolved, found, DataPath.isConfirmed, up, down, Except.isOk, Except.toBool]

/-- What a settlement tells beside its result, it tells for this reason. -/
theorem mem_notices_settleRespond {txn : TransactionId} {outcome : Outcome} {notice : Notification}
    (told : notice ∈ (engine.settleRespond txn id outcome).notices) :
    notice = .dataPathTerminated id .setupFailed ∧
      (∃ path, engine.paths.get? id = some path ∧ path.state = .confirmed) ∧
      ∃ failure, outcome = .error failure ∧ failure ≠ .aborted := by
  have only : notice = .dataPathTerminated id .setupFailed ∧
      (engine.paths.get? id).any (·.isConfirmed) = true := by
    unfold settleRespond at told
    dsimp only at told
    split at told
    next condition =>
      rw [Bool.and_eq_true, Bool.and_eq_true] at condition
      exact ⟨List.mem_singleton.mp told, condition.1.2⟩
    next => cases told
  obtain ⟨same, up⟩ := only
  rw [Option.any_eq_true] at up
  obtain ⟨path, found, up⟩ := up
  have up : path.state = .confirmed := by simpa [DataPath.isConfirmed] using up
  refine ⟨same, ⟨path, found, up⟩, ?_⟩
  cases outcome with
  | ok payload =>
    -- The path is live, so its acceptance went well.
    unfold settleRespond DataPathTable.resolveRespond at told
    simp [Outcome.plain, found, DataPath.isLive, up, Except.isOk, Except.toBool] at told
  | error failure =>
    refine ⟨failure, rfl, ?_⟩
    rintro rfl
    rw [settleRespond_aborted found] at told
    cases told

/-- The notice is that a path could not be set up: its acceptance has failed, and it was up. -/
def TellsSetback (engine : Engine) (record : TransactionRecord) (outcome : Outcome)
    (notice : Notification) : Prop :=
  ∃ id path failure, notice = .dataPathTerminated id .setupFailed ∧
    record.kind = .respondDataPath ∧ record.context = .dataPath id ∧
    engine.paths.get? id = some path ∧ path.state = .confirmed ∧ outcome = .error failure ∧
    failure ≠ .aborted

theorem tellsSetback_of_settleByItself {outcome : Outcome} {notice : Notification}
    (told : notice ∈ (engine.settleByItself record outcome).notices) :
    engine.TellsSetback record outcome notice := by
  unfold settleByItself at told
  split at told
  next => unfold settleCapabilities at told; split at told <;> cases told
  next => unfold settleConfigure at told; split at told <;> cases told
  case h_13 id kind context =>
    obtain ⟨same, ⟨path, found, up⟩, failure, failed, notAborted⟩ := mem_notices_settleRespond told
    exact ⟨id, path, failure, same, kind, context, found, up, failed, notAborted⟩
  all_goals cases told

/-- The end of a path is told with the end of a command as a setback, or because the path has just
got its number. -/
theorem tellsSetback_of_announce {settlement : Settlement}
    (told : .dataPathTerminated id reason ∈ (announce record settlement).2) :
    .dataPathTerminated id reason ∈ settlement.notices ∨
      settlement.result = .ok (.dataPathInitiated id) := by
  rcases mem_announce told with told | same | ⟨path, initiated, replayed⟩
  · exact .inl told
  · cases same
  · have about := place?_replayHeld replayed
    obtain rfl : id = path := by simpa [Notification.place?] using about
    exact .inr initiated

/-- **A command that is given up tells the end of a path only as a setback.** -/
theorem tellsSetback_of_giveUp
    (told : .dataPathTerminated id reason ∈ (engine.giveUp record failure).2) :
    reason = .setupFailed ∧ record.Answers id ∧ failure ≠ .aborted := by
  unfold giveUp at told
  cases origin : record.origin with
  | engine =>
    rw [conclude_engine origin] at told
    unfold strikeOff at told
    split at told <;> cases told
  | caller =>
    rw [conclude_caller origin] at told
    by_cases disable : record.kind = .disable
    · rw [settle_disable disable, settleDisable_failed] at told
      rcases tellsSetback_of_announce told with told | initiated
      · cases told
      · cases initiated
    · rw [settle_eq_settleByItself disable] at told
      rcases tellsSetback_of_announce told with told | initiated
      · obtain ⟨id', path, failure', same, kind, context, _, _, failed, notAborted⟩ :=
          tellsSetback_of_settleByItself told
        obtain ⟨rfl, rfl⟩ : id = id' ∧ reason = .setupFailed := by simpa using same
        exact ⟨rfl, ⟨kind, context, origin⟩, Except.error.inj failed ▸ notAborted⟩
      · obtain ⟨reason, failed⟩ := result_settleByItself_failed
          (engine.upon (engine.ledger.rollback record.id)) record failure
        rw [failed] at initiated
        cases initiated

/-- So does a batch of commands that is given up. -/
theorem tellsSetback_of_giveUpAll {records : List TransactionRecord}
    (onFile : engine.ledger.OnFile records)
    (told : .dataPathTerminated id reason ∈ (engine.giveUpAll records failure).2) :
    reason = .setupFailed ∧ failure ≠ .aborted ∧ ∃ record ∈ records, record.Answers id := by
  refine kept_giveUpAll (fun _ notices => .dataPathTerminated id reason ∈ notices →
    reason = .setupFailed ∧ failure ≠ .aborted ∧ ∃ record ∈ records, record.Answers id) []
    onFile nofun ?_ told
  intro engine notices record member _ before told
  rcases List.mem_append.mp told with told | now
  · exact before told
  · obtain ⟨setup, answers, notAborted⟩ := tellsSetback_of_giveUp now
    exact ⟨setup, notAborted, record, member, answers⟩

end Engine

/-! ## Steps -/

namespace Host

variable {σ : Type} [Transport σ] {host : Host σ} {id : DataPathId} {txn : TransactionId}
  {reason : TerminationReason}

/-- While the end of a path is under way, the path is there, on its way down. -/
theorem Reachable.ending (reachable : Reachable host)
    (awaits : host.engine.ledger.awaitsClosing (.path id) txn = true) :
    ∃ path, host.engine.paths.get? id = some path ∧ path.Ending := by
  obtain ⟨record, onFile, closes⟩ := Ledger.awaitsClosing_iff.mp awaits
  obtain ⟨kind, context⟩ := TransactionRecord.closes?_path.mp closes
  have out : host.engine.ledger.docket .paths txn = some record :=
    Ledger.docket_eq_some.mpr ⟨onFile, by rw [context]; rfl⟩
  have paths : host.engine.paths.Agrees _ := reachable.coherent.agrees .paths
  obtain ⟨path, found, agrees⟩ := paths.path_of_out out context
  refine ⟨path, found, ?_⟩
  rcases agrees.ending out context kind with asked | gone
  · refine .inr ⟨asked, ?_⟩
    have due := (reachable.consistent found).due
    cases deadline : path.responseDeadline with
    | none => rfl
    | some until' => simp_all
  · exact .inl gone

/-- **While the end of a path is under way it is told to be down as a setback only.** -/
theorem Reachable.isSetback (reachable : Reachable host)
    (awaits : host.engine.ledger.awaitsClosing (.path id) txn = true) {act : Act σ}
    (told : .dataPathTerminated id reason ∈ host.told [act]) : reason.isSetback = true := by
  obtain ⟨path, found, ending⟩ := reachable.ending awaits
  have passage := (reachable.passages_emitted act).path id
  rw [found] at passage
  exact (ending.course passage.of_some reason (mem_told.mp told)).1

/-- What makes the caller hear that a path is down whose end is under way. -/
inductive Setback (host : Host σ) (id : DataPathId) : Act σ → TerminationReason → Prop
  /-- The path was accepted, but the peer turns it down. -/
  | turnedDown (path : DataPath) (found : host.engine.paths.get? id = some path)
    (confirmable : path.isConfirmable = true) (peerInterface : MacAddress) (appInfo : ByteArray)
    (status : FirmwareStatus) :
    Setback host id (.handle (.dataPathConfirmed id false peerInterface appInfo status))
      (.rejected status)
  /-- The path is up, but its acceptance has failed. -/
  | failed (record : TransactionRecord) (path : DataPath)
    (onFile : host.engine.ledger.get? record.id = some record) (answers : record.Answers id)
    (found : host.engine.paths.get? id = some path) (up : path.state = .confirmed)
    (status : FirmwareStatus) :
    Setback host id (.handle (.commandCompleted record.id (.error status))) .setupFailed
  /-- The path is up, but the time of its acceptance is over. -/
  | unanswered (record : TransactionRecord) (path : DataPath) (act : Act σ)
    (onFile : host.engine.ledger.get? record.id = some record) (answers : record.Answers id)
    (found : host.engine.paths.get? id = some path) (up : path.state = .confirmed)
    (due : record.deadline ≤ host.now) (looks : act = .expireTransactions ∨ act = .tick) :
    Setback host id act .setupFailed

/-- Commands whose time is over. -/
theorem Reachable.setback_of_expireTransactions (reachable : Reachable host)
    (awaits : host.engine.ledger.awaitsClosing (.path id) txn = true) {act : Act σ}
    (looks : act = .expireTransactions ∨ act = .tick)
    (told : .dataPathTerminated id reason ∈ host.told [.expireTransactions]) :
    host.Setback id act reason := by
  have filed := reachable.coherent.filed
  obtain ⟨path, found, ending⟩ := reachable.ending awaits
  have passage := (reachable.passages_emitted .expireTransactions).path id
  rw [found] at passage
  have rises := (ending.course passage.of_some reason (mem_told.mp told)).2
  have given : host.told [.expireTransactions] = (host.engine.giveUpAll
      (host.engine.ledger.records.filter (·.deadline ≤ host.now)) .timeout).2 := by
    have out : host.told [.expireTransactions] =
      (host.engine.expireTransactions host.now).2.2 := told_react rfl
    rw [out, Engine.expireTransactions_eq filed]
  rw [given] at told
  obtain ⟨rfl, _, record, member, answers⟩ :=
    Engine.tellsSetback_of_giveUpAll (filed.onFile_filter _) told
  obtain ⟨there, due⟩ := List.mem_filter.mp member
  refine .unanswered record path act (filed.onFile_records.found record there) answers found ?_
    (by simpa using due) looks
  rcases rises rfl with up | ⟨peerInterface, appInfo, comesUp⟩
  · exact up
  · -- Commands that are given up bring no path up.
    rw [← mem_told, given] at comesUp
    cases Engine.bleak_giveUpAll (filed.onFile_filter _) .timeout _ comesUp

/-- The answer to a command. -/
theorem Reachable.setback_of_onCompleted (reachable : Reachable host)
    (there : host.engine.holds (.path id) = true) (setback : reason.isSetback = true)
    {number : TransactionId} {outcome : Except FirmwareStatus AnswerPayload}
    (told : .dataPathTerminated id reason ∈ (host.engine.onCompleted number outcome).2) :
    host.Setback id (.handle (.commandCompleted number outcome)) reason := by
  have coherent := reachable.coherent
  cases onFile : host.engine.ledger.get? number with
  | none =>
    rw [Engine.onCompleted_of_absent onFile] at told
    cases told
  | some record =>
    obtain rfl := coherent.filed.own onFile
    by_cases disabled : record.kind = .disable ∧ ∃ payload, outcome = .ok payload
    · -- What falls with the interface is told so.
      obtain ⟨disable, payload, rfl⟩ := disabled
      rw [coherent.onCompleted_disable onFile disable payload] at told
      have fell : reason = .interfaceDisabled := by
        simp only [Engine.cascade, List.mem_append, List.mem_map, List.mem_singleton] at told
        grind [TransactionRecord.failed]
      rw [fell] at setback
      cases setback
    · have opened := @Reachable.opened σ _ host reachable
        (.handle (.commandCompleted record.id outcome)) (.path id)
      rw [emitted_handle, Engine.handle] at opened
      rw [Engine.onCompleted_of_onFile onFile] at told opened
      cases origin : record.origin with
      | engine =>
        rw [Engine.conclude_engine origin] at told
        unfold Engine.strikeOff at told
        split at told <;> cases told
      | caller =>
        rw [Engine.conclude_caller origin] at told opened
        by_cases disable : record.kind = .disable
        · cases outcome with
          | ok payload => exact absurd ⟨disable, payload, rfl⟩ disabled
          | error status =>
            rw [Engine.settle_disable disable] at told
            have failed := Engine.settleDisable_failed
              (host.engine.upon (host.engine.ledger.rollback record.id)) (.firmware status)
            rw [show (Except.error status : Except FirmwareStatus AnswerPayload).mapError
              Failure.firmware = .error (.firmware status) from rfl, failed] at told
            rcases Engine.tellsSetback_of_announce told with told | initiated
            · cases told
            · cases initiated
        · rw [Engine.settle_eq_settleByItself disable] at told opened
          rcases Engine.tellsSetback_of_announce told with told | initiated
          · obtain ⟨id', path, failure, same, kind, context, found, up, failed, _⟩ :=
              Engine.tellsSetback_of_settleByItself told
            obtain ⟨rfl, rfl⟩ : id = id' ∧ reason = .setupFailed := by simpa using same
            cases outcome with
            | ok payload => cases failed
            | error status => exact .failed record path onFile ⟨kind, context, origin⟩ found up status
          · -- A path that is there does not get its number now.
            have tells : (Effect.told (.completed ⟨record.id, record.kind,
                .ok (.dataPathInitiated id)⟩)).opens? = some (.path id) := rfl
            refine absurd (opened ?_ tells).1 (by simp [there])
            rw [← initiated]
            exact List.mem_map_of_mem (List.mem_append_right _ (List.mem_cons_self ..))

/-- A report of the firmware. -/
theorem Reachable.setback_of_handle (reachable : Reachable host)
    (there : host.engine.holds (.path id) = true) (setback : reason.isSetback = true)
    {event : FirmwareEvent}
    (told : .dataPathTerminated id reason ∈ (host.engine.handle host.now event).2) :
    host.Setback id (.handle event) reason := by
  cases event with
  | commandCompleted number outcome => exact reachable.setback_of_onCompleted there setback told
  | dataPathConfirmed other accepted peerInterface appInfo status =>
    unfold Engine.handle Engine.onPathConfirmed DataPathTable.onConfirmed at told
    cases found' : host.engine.paths.get? other with
    | none => cases idle : host.engine.paths.initiating.isEmpty <;> simp [found', idle] at told
    | some path' =>
      cases confirmable : path'.isConfirmable with
      | false => simp [found', confirmable] at told
      | true =>
        cases accepted with
        | true => simp [found', confirmable] at told
        | false =>
          obtain ⟨rfl, rfl⟩ : id = other ∧ reason = .rejected status := by
            simpa [found', confirmable] using told
          exact .turnedDown path' found' confirmable peerInterface appInfo status
  | dataPathTerminated other status =>
    unfold Engine.handle Engine.onPathTerminated at told
    dsimp only at told
    split at told
    · obtain ⟨rfl, rfl⟩ : id = other ∧ reason = .firmware status := by simpa using told
      cases setback
    · cases told
    · cases told
    · cases told
  | interfaceDown status =>
    simp only [Engine.handle] at told
    by_cases down : host.engine.interface.phase = .disabled
    · rw [reachable.coherent.onInterfaceDown_of_down down] at told
      cases told
    · rw [reachable.coherent.onInterfaceDown_exact down] at told
      have fell : reason = .interfaceDown := by
        simp only [Engine.cascade, List.mem_append, List.mem_map, List.mem_singleton] at told
        grind [TransactionRecord.failed]
      rw [fell] at setback
      cases setback
  | sessionMatched =>
    simp only [Engine.handle, Engine.onMatched] at told
    split at told <;> simp at told
  | messageReceived =>
    simp only [Engine.handle, Engine.onMessage] at told
    split at told <;> simp at told
  | sessionTerminated =>
    simp only [Engine.handle, Engine.onSessionTerminated] at told
    split at told <;> simp at told
  | dataPathRequested =>
    simp only [Engine.handle, Engine.onPathRequested] at told
    split at told
    · split at told <;> simp at told
    · cases told
  | identityChanged =>
    simp only [Engine.handle] at told
    split at told <;> simp at told

/-- **Only a setback makes the caller hear that a path is down whose end is under way.** -/
theorem Reachable.setback (reachable : Reachable host)
    (awaits : host.engine.ledger.awaitsClosing (.path id) txn = true) (act : Act σ)
    (told : .dataPathTerminated id reason ∈ host.told [act]) : host.Setback id act reason := by
  have setback := reachable.isSetback awaits told
  have coherent := reachable.coherent
  have there : host.engine.holds (.path id) = true := by
    obtain ⟨record, onFile, closes⟩ := Ledger.awaitsClosing_iff.mp awaits
    exact (coherent.closes onFile closes).2
  -- Looking after the peers tells of lapses, and a lapse is no setback.
  have noLapse {host : Host σ} (coherent : host.engine.Coherent)
      (member : .told (.dataPathTerminated id reason) ∈ host.emitted [.expireResponses]) : False := by
    have turnsAway := emitted_expireResponses coherent _ member
    cases turnsAway
    cases setback
  cases act with
  | submit request =>
    rw [Host.told, told_submit coherent.filed] at told
    cases told
  | handle event =>
    rw [told_react rfl] at told
    exact reachable.setback_of_handle there setback told
  | expireTransactions =>
    exact reachable.setback_of_expireTransactions awaits (.inl rfl) told
  | expireResponses => exact (noLapse coherent (mem_told.mp told)).elim
  | tick =>
    rw [mem_told, reachable.emitted_tick, List.mem_append] at told
    rcases told with first | second
    · exact reachable.setback_of_expireTransactions awaits (.inr rfl) (mem_told.mpr first)
    · exact (noLapse (reachable.step .expireTransactions).coherent second).elim
  | shutdown =>
    rw [told_react rfl, Engine.shutdown_eq coherent.filed] at told
    exact absurd rfl (Engine.tellsSetback_of_giveUpAll coherent.filed.onFile_records told).2.1
  | advance | replaceTransport =>
    rw [mem_told, emitted_of_out (List.append_nil _).symm] at told
    cases told

/-- A setback that the firmware reports is told. -/
theorem told_of_setback {event : FirmwareEvent}
    (setback : host.Setback id (.handle event) reason) :
    .dataPathTerminated id reason ∈ host.told [.handle event] := by
  rw [told_react rfl]
  cases setback with
  | turnedDown path found confirmable peerInterface appInfo status =>
    unfold Engine.handle Engine.onPathConfirmed DataPathTable.onConfirmed
    simp [found, confirmable]
  | failed record path onFile answers found up status =>
    have notDisable : record.kind ≠ .disable := by simp [answers.kind]
    have found' : (host.engine.upon (host.engine.ledger.rollback record.id)).paths.get? id =
        some path := found
    have notAborted : Failure.firmware status ≠ .aborted := nofun
    have notices := Engine.notices_settleRespond found' up record.id notAborted
    simp only [Engine.handle]
    rw [Engine.onCompleted_of_onFile onFile, Engine.conclude_caller answers.origin,
      Engine.settle_eq_settleByItself notDisable,
      Engine.settleByItself_respond answers.kind answers.context]
    refine List.mem_append_left _ ?_
    rw [show (Except.error status : Except FirmwareStatus AnswerPayload).mapError
      Failure.firmware = .error (.firmware status) from rfl, notices]
    exact List.mem_singleton_self _
  | unanswered record path act onFile answers found up due looks => rcases looks with looks | looks <;> cases looks

/-! ## Runs -/

/-- A request that is taken to end an entry is on file from then on, and tells nothing. -/
theorem Reachable.awaitsClosing_submit (reachable : Reachable host) {request : Request}
    {place : Place} (closes : request.closes? = some place)
    (accepted : (host.submit request).1 = .ok txn) :
    host.told [.submit request] = [] ∧
      (host.step (.submit request)).engine.ledger.awaitsClosing place txn = true := by
  refine ⟨told_submit reachable.coherent.filed request, ?_⟩
  have fate := submit_submission reachable.coherent.filed request
  show (host.submit request).2.engine.ledger.awaitsClosing place txn = true
  generalize host.submit request = outcome at fate accepted
  cases fate with
  | unfit | full | refused => cases accepted
  | taken dispatch transport admitted opens sent =>
    obtain rfl := Except.ok.inj accepted
    rw [Ledger.awaitsClosing_iff]
    refine ⟨host.recordFor dispatch .caller, ?_, ?_⟩
    · dsimp only
      rw [ledger_stage, Engine.ledger_upon, Ledger.get?_file, if_pos rfl]
    · rw [(Engine.closes?_of_vet admitted).2 _ opens.kind opens.context]
      exact closes

/-- An end stays on file until it is reported. -/
theorem Reachable.awaitsClosing_step (reachable : Reachable host) {place : Place}
    (awaits : host.engine.ledger.awaitsClosing place txn = true) (act : Act σ) :
    (host.step act).engine.ledger.awaitsClosing place txn = false ↔
      ∃ completion, .completed completion ∈ host.told [act] ∧ completion.id = txn := by
  have reported : (∃ completion, .completed completion ∈ host.told [act] ∧ completion.id = txn) ↔
      txn ∈ host.closedAt place act := by
    unfold closedAt
    simp only [List.mem_filter, List.mem_map, mem_completionsIn, mem_told, awaits, and_true]
  -- A step that takes a request reports nothing.
  have apart : host.closings place [act] = [] ∨ host.closedAt place act = [] := by
    cases act with
    | submit request =>
      refine .inr ?_
      unfold closedAt completionsIn
      rw [told_submit reachable.coherent.filed]
      rfl
    | _ => exact .inl rfl
  have balance := reachable.closed_balance_step place act txn
  rw [show host.owing place txn = 1 from congrArg Bool.toNat awaits, Host.owing] at balance
  rw [reported, ← List.count_pos_iff]
  have few := Bool.toNat_le ((host.step act).engine.ledger.awaitsClosing place txn)
  have off : (host.step act).engine.ledger.awaitsClosing place txn = false ↔
      ((host.step act).engine.ledger.awaitsClosing place txn).toNat = 0 :=
    Bool.toNat_eq_zero.symm
  rw [off]
  rcases apart with none' | none'
  · rw [none', List.count_nil] at balance
    omega
  · rw [none', List.count_nil] at balance ⊢
    omega

/-- Paths whose end a caller has asked for are told to be down by setbacks alone, and once. -/
structure Endings (start : Host σ) : Prop where
  /-- A request to end a path that is accepted is under way from then on, and tells nothing. -/
  begun : ∀ acts id txn, ((start.run acts).submit (.endDataPath id)).1 = .ok txn →
    (start.run acts).told [.submit (.endDataPath id)] = [] ∧
      (start.run (acts ++ [.submit (.endDataPath id)])).engine.ledger.awaitsClosing (.path id) txn =
        true
  /-- It is under way until its completion is told. -/
  lasting : ∀ acts act id txn,
    (start.run acts).engine.ledger.awaitsClosing (.path id) txn = true →
      ((start.run (acts ++ [act])).engine.ledger.awaitsClosing (.path id) txn = false ↔
        ∃ completion, .completed completion ∈ (start.run acts).told [act] ∧ completion.id = txn)
  /-- While it is under way, the caller is told that the path is down only if a path that was accepted
  is turned down by the peer, or if the acceptance of a path that is up fails. -/
  cause : ∀ acts act id txn reason,
    (start.run acts).engine.ledger.awaitsClosing (.path id) txn = true →
      .dataPathTerminated id reason ∈ (start.run acts).told [act] →
        (start.run acts).Setback id act reason
  /-- If the firmware reports one of these, it is told. -/
  reported : ∀ acts event id txn reason,
    (start.run acts).engine.ledger.awaitsClosing (.path id) txn = true →
      (start.run acts).Setback id (.handle event) reason →
        .dataPathTerminated id reason ∈ (start.run acts).told [.handle event]
  /-- From the step that files the request to the step that takes it off it is told once at most. -/
  once : ∀ acts span record id, (start.run acts).Outstanding record span →
    record.closes? = some (.path id) →
      (DataPath.reportsIn id ((start.run acts).emitted span)).count .down ≤ 1

/-- **A path whose end a caller has asked for is told to be down only as it suffers a setback**, in any
run. -/
theorem run_endings (config : EngineConfig) (transport : σ) (now : Timestamp) :
    (Host.new config transport now).Endings := by
  have reachable := Reachable.new config transport now
  have vacant (place : Place) : (Host.new config transport now).engine.holds place = false :=
    Engine.holds_new config place
  generalize Host.new config transport now = start at reachable vacant
  constructor
  case begun =>
    intro acts id txn accepted
    rw [run_append]
    exact (reachable.run acts).awaitsClosing_submit rfl accepted
  case lasting =>
    intro acts act id txn awaits
    rw [run_append]
    exact (reachable.run acts).awaitsClosing_step awaits act
  case cause =>
    intro acts act id txn reason awaits told
    exact (reachable.run acts).setback awaits act told
  case reported =>
    intro acts event id txn reason _ setback
    exact told_of_setback setback
  case once =>
    intro acts span record id outstanding closes
    have context : record.context.place? = some (.path id) := by
      rw [(TransactionRecord.closes?_path.mp closes).2]
      rfl
    have there := outstanding.holds (reachable.run acts) context
    obtain ⟨before, life, rfl, lifetime⟩ := reachable.lifetime_of_holds (vacant _) there
    rw [run_append] at outstanding ⊢
    have whole := outstanding.lifetime rfl ((reachable.run before).run life) lifetime context
    have told := (((reachable.run before).account whole).inOrder).count_le .down
    rw [(reachable.run before).emitted_append, DataPath.reportsIn_append, List.count_append] at told
    have one : ([.up, .down] : List PathReport).count .down = 1 := rfl
    omega

/-- A peer asks for a path and is accepted, the caller asks for the end, and then the peer is reported
to turn the path down: the caller is told that it is gone, with the end still under way. -/
theorem run_endings_turnedDown :
    let acts : List (Act Recorder) :=
      [.submit (.enable .standard), .handle (.commandCompleted ⟨1⟩ (.ok .empty)),
        .submit (.createInterface "nan0"), .handle (.commandCompleted ⟨2⟩ (.ok .empty)),
        .handle (.dataPathRequested ⟨5⟩ ⟨0⟩ .zero .empty),
        .submit (.respondDataPath ⟨⟨5⟩, true, "nan0", .empty, .unsecured⟩)]
    let host := (Host.new .standard Recorder.new ⟨0⟩).run acts
    let report : Act Recorder := .handle (.dataPathConfirmed ⟨5⟩ false .zero .empty ⟨7⟩)
    (host.submit (.endDataPath ⟨5⟩)).1 = .ok ⟨4⟩ ∧
      (host.step (.submit (.endDataPath ⟨5⟩))).told [report] =
        [.dataPathTerminated ⟨5⟩ (.rejected ⟨7⟩)] ∧
      (host.run [.submit (.endDataPath ⟨5⟩), report]).engine.ledger.awaitsClosing (.path ⟨5⟩) ⟨4⟩ =
        true := by
  decide +kernel

end Host

end NanHost
