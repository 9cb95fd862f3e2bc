import NanHost.Proofs.Engine.Occupancy
import NanHost.Proofs.Host.Deadlines
import NanHost.Proofs.Host.Limits

/-!
# Commitments — places for paths that are given away without looking

The firmware carries a limited number of paths. The caller takes places in two ways: by asking a peer
for a path, and by accepting a peer that asks for one. A request for a path is refused when no place
is left, and what counts there includes the peers that were accepted. An acceptance is not: whether
there is a place for it is not looked at.

## What is proved

- `Reachable.counted_own` and `Reachable.counted_committed`: no step but an acceptance takes a place
  unless one is left.
- `Reachable.committed_accepting`: an acceptance takes one place, always.
- `run_commitments`: so the paths that were asked for from here never take more places than there are,
  and with those that were accepted they do so just if a peer is accepted when no place is left.
- `run_commitments_overbooked`: it can happen.
-/

namespace NanHost

/-- Whether a request asks a peer for a path. -/
def Request.initiates : Request → Bool
  | initiateDataPath _ => true
  | _ => false

/-- Whether a request answers a peer that asks for a path. -/
def Request.answersPeer : Request → Bool
  | respondDataPath _ => true
  | _ => false

/-- Whether a request accepts such a peer. -/
def Request.acceptsPeer : Request → Bool
  | respondDataPath request => request.accept
  | _ => false

/-- An acceptance is an answer. -/
theorem Request.answersPeer_of_acceptsPeer {request : Request}
    (accepts : request.acceptsPeer = true) : request.answersPeer = true := by
  cases request with
  | respondDataPath => rfl
  | _ => cases accepts

namespace DataPath

variable {path : DataPath} {request : RespondRequest} {txn : TransactionId}

/-- The path of a peer is never one that was asked for from here. -/
theorem not_isOwn_of_peer (peer : path.origin = .peer) : path.isOwn = false := by
  simp [isOwn, peer]

/-- The answer leaves it the peer's. -/
theorem origin_answered (path : DataPath) (request : RespondRequest) :
    (path.answered request).origin = path.origin := by
  unfold answered
  split <;> rfl

/-- An acceptance commits the caller to the path. -/
theorem isCommitted_accepted (live : path.isLive = true) (accepts : request.accept = true) :
    ((path.attach txn).answered request).isCommitted = true := by
  have live : path.state ≠ .terminated := by simpa [isLive] using live
  simp [isCommitted, isLive, answered, attach, accepts, live]

/-- A refusal does not. -/
theorem isCommitted_refused (refuses : request.accept = false) :
    ((path.attach txn).answered request).isCommitted = false := by
  simp [isCommitted, isLive, answered, refuses]

end DataPath

namespace Host

variable {σ : Type} [Transport σ] {host : Host σ} {act : Act σ}

/-! ## Steps -/

/-- **A step in which no peer is answered takes a place for a path only if one is left.** -/
theorem Reachable.counted_load (reachable : Reachable host) {sort : DataPath → Bool}
    (claim : DataPath.IsClaim sort) (nobody : ¬host.Takes Request.answersPeer act) :
    Counted (host.Takes Request.initiates act)
      (host.engine.capabilities.snapshot.map (·.maxDataPaths.toNat))
      (host.engine.paths.load sort) ((host.step act).engine.paths.load sort) := by
  have progress := reachable.progress act
  generalize host.told [act] = notices at progress
  generalize (host.step act).engine = next at progress
  cases progress with
  | taken request dispatch record admitted opens taken =>
    rw [takes_iff_of_taken taken] at nobody
    cases request with
    | initiateDataPath request =>
      have admits := Engine.admits_of_vetInitiate admitted
      refine .grown ((takes_iff_of_taken taken).mpr rfl)
        (host.engine.paths.load_beginInitiate_le record.id request sort) ?_
      intro most limit
      obtain ⟨known, reported, rfl⟩ := Option.map_eq_some_iff.mp limit
      calc host.engine.paths.load sort
          ≤ host.engine.paths.toList.countP (·.isLive) + host.engine.paths.initiatingCount :=
            host.engine.paths.load_le_live claim
        _ < known.maxDataPaths.toNat := admits.room known reported
    | respondDataPath => exact absurd rfl nobody
    | endDataPath id =>
      have ending : host.engine.paths.Abides (host.engine.paths.beginEnd id record.id) :=
        .beginEnd _ id record.id
      exact .kept (ending.load_le claim)
    | _ => exact .kept (Nat.le_refl _)
  | granted txn outcome reaction granted => cases granted <;> exact .kept (Nat.le_refl _)
  | sighted => exact .kept (Nat.le_refl _)
  | reported event id report => exact .kept ((host.engine.replay_abides id report).load_le claim)
  | changed act nobody changes => exact .kept (changes.load_le claim)

/-- **A step in which a peer is answered** puts the answered path in the place of one that was
waiting. -/
theorem Reachable.answered_step (reachable : Reachable host)
    (answers : host.Takes Request.answersPeer act) :
    ∃ request txn path, host.acceptedAt act = [(.respondDataPath request, txn)] ∧
      host.engine.paths.get? request.pathId = some path ∧ path.origin = .peer ∧
      path.isLive = true ∧ path.response = none ∧
      (host.step act).engine.paths =
        host.engine.paths.put request.pathId ((path.attach txn).answered request) := by
  have progress := reachable.progress act
  generalize host.told [act] = notices at progress
  generalize (host.step act).engine = next at progress
  cases progress with
  | taken request dispatch record admitted opens taken =>
    rw [takes_iff_of_taken taken] at answers
    cases request with
    | respondDataPath request =>
      obtain ⟨path, found, waits, unanswered, _⟩ := (Engine.admits_of_vetRespond admitted).waits
      have peer : path.origin = .peer := by
        cases origin : path.origin with
        | peer => rfl
        | here => exact absurd waits ((reachable.consistent found).here origin).1
      refine ⟨request, record.id, path, taken, found, peer, ?_, unanswered, ?_⟩
      · simp [DataPath.isLive, waits]
      · exact DataPathTable.update_eq_put found _
    | _ => cases answers
  | granted | sighted | reported =>
    obtain ⟨_, member, _⟩ := answers
    cases member
  | changed act nobody changes =>
    obtain ⟨_, member, _⟩ := answers
    rw [nobody] at member
    cases member

/-- **The paths that were asked for from here take one more place only if one is left.** -/
theorem Reachable.counted_own (reachable : Reachable host) (act : Act σ) :
    Counted (host.Takes Request.initiates act)
      (host.engine.capabilities.snapshot.map (·.maxDataPaths.toNat))
      (host.engine.paths.load DataPath.isOwn) ((host.step act).engine.paths.load DataPath.isOwn) := by
  by_cases answers : host.Takes Request.answersPeer act
  · obtain ⟨request, txn, path, _, found, peer, _, _, put⟩ := reachable.answered_step answers
    have counted :=
      DataPathTable.load_put found ((path.attach txn).answered request) DataPath.isOwn
    have peer' : ((path.attach txn).answered request).origin = .peer :=
      (DataPath.origin_answered _ request).trans peer
    rw [DataPath.not_isOwn_of_peer peer, DataPath.not_isOwn_of_peer peer', ← put] at counted
    exact .kept (Nat.le_of_eq counted)
  · exact reachable.counted_load DataPath.isOwn_isClaim answers

/-- **So it is with all paths that the caller is committed to**, unless a peer is accepted. -/
theorem Reachable.counted_committed (reachable : Reachable host)
    (nobody : ¬host.Takes Request.acceptsPeer act) :
    Counted (host.Takes Request.initiates act)
      (host.engine.capabilities.snapshot.map (·.maxDataPaths.toNat))
      (host.engine.paths.load DataPath.isCommitted)
      ((host.step act).engine.paths.load DataPath.isCommitted) := by
  by_cases answers : host.Takes Request.answersPeer act
  · obtain ⟨request, txn, path, taken, found, _, _, _, put⟩ := reachable.answered_step answers
    have refuses : request.accept = false := by
      rw [takes_iff_of_taken taken] at nobody
      exact Bool.eq_false_iff.mpr nobody
    have counted :=
      DataPathTable.load_put found ((path.attach txn).answered request) DataPath.isCommitted
    rw [DataPath.isCommitted_refused refuses, ← put] at counted
    refine .kept ?_
    calc (host.step act).engine.paths.load DataPath.isCommitted
        ≤ _ := Nat.le_add_right _ _
      _ = host.engine.paths.load DataPath.isCommitted := counted
  · exact reachable.counted_load DataPath.isCommitted_isClaim answers

/-- **A peer that is accepted takes one more place**, whether there is one or not. -/
theorem Reachable.committed_accepting (reachable : Reachable host)
    (accepts : host.Takes Request.acceptsPeer act) :
    (host.step act).engine.paths.load DataPath.isCommitted =
      host.engine.paths.load DataPath.isCommitted + 1 := by
  have answers : host.Takes Request.answersPeer act := by
    obtain ⟨accepted, member, accepts⟩ := accepts
    exact ⟨accepted, member, Request.answersPeer_of_acceptsPeer accepts⟩
  obtain ⟨request, txn, path, taken, found, peer, live, unanswered, put⟩ :=
    reachable.answered_step answers
  have accepts : request.accept = true := (takes_iff_of_taken taken).mp accepts
  have counted :=
    DataPathTable.load_put found ((path.attach txn).answered request) DataPath.isCommitted
  have free : path.isCommitted = false := by simp [DataPath.isCommitted, peer, unanswered]
  rw [DataPath.isCommitted_accepted live accepts, free, ← put] at counted
  exact counted

/-! ## Runs -/

variable {known : Capabilities}

/-- Where the caller neither asks for a path nor accepts a peer, no place is taken. -/
theorem Reachable.uncommitted_run (reachable : Reachable host)
    (none : host.engine.paths.load DataPath.isCommitted = 0) {acts : List (Act σ)}
    (uncommitted : ∀ accepted ∈ host.accepted acts,
      accepted.1.initiates = false ∧ accepted.1.acceptsPeer = false) :
    (host.run acts).engine.paths.load DataPath.isCommitted = 0 := by
  induction acts generalizing host with
  | nil => exact none
  | cons act rest ih =>
    have initiates : ¬host.Takes Request.initiates act := by
      rintro ⟨accepted, member, initiates⟩
      rw [(uncommitted accepted (List.mem_append_left _ member)).1] at initiates
      cases initiates
    have accepts : ¬host.Takes Request.acceptsPeer act := by
      rintro ⟨accepted, member, accepts⟩
      rw [(uncommitted accepted (List.mem_append_left _ member)).2] at accepts
      cases accepts
    apply ih (reachable.step act)
    · exact (reachable.counted_committed accepts).zero initiates none
    · intro accepted member
      exact uncommitted accepted (List.mem_append_right _ member)

section

variable (reachable : Reachable host) {acts : List (Act σ)}
  (cached : ∃ report, host.engine.capabilities.snapshot = some report ∧
    report.maxDataPaths.toNat = known.maxDataPaths.toNat)
  (steady : ∀ report ∈ surveys (host.told acts),
    report.maxDataPaths.toNat = known.maxDataPaths.toNat)

include reachable cached steady

/-- The paths that were asked for from here never take more places than there are. -/
theorem Reachable.own_within_run
    (within : host.engine.paths.load DataPath.isOwn ≤ known.maxDataPaths.toNat) :
    (host.run acts).engine.paths.load DataPath.isOwn ≤ known.maxDataPaths.toNat := by
  apply reachable.kept_within (·.maxDataPaths.toNat) (·.engine.paths.load DataPath.isOwn) within
    cached steady
  intro before act _ _ limit
  exact ((reachable.run before).counted_own act).within limit

/-- Neither do all that the caller is committed to, if no peer is accepted when no place is left. -/
theorem Reachable.committed_within_run
    (within : host.engine.paths.load DataPath.isCommitted ≤ known.maxDataPaths.toNat)
    (careful : ∀ before act after, acts = before ++ act :: after →
      (host.run before).Takes Request.acceptsPeer act →
        (host.run before).engine.paths.load DataPath.isCommitted < known.maxDataPaths.toNat) :
    (host.run acts).engine.paths.load DataPath.isCommitted ≤ known.maxDataPaths.toNat := by
  apply reachable.kept_within (·.maxDataPaths.toNat) (·.engine.paths.load DataPath.isCommitted)
    within cached steady
  intro before act after split limit within
  by_cases accepts : (host.run before).Takes Request.acceptsPeer act
  · rw [(reachable.run before).committed_accepting accepts]
    exact careful before act after split accepts
  · exact ((reachable.run before).counted_committed accepts).within limit within

end

/-- **What a run commits the caller to.** The paths that were asked for from here, with the
initiations under way, never take more than the given number of places. With the peers that were
accepted they do so just if a peer is accepted when no place is left. -/
structure Commitments (start : Host σ) (most : Nat) (acts : List (Act σ)) : Prop where
  own : ∀ before after, acts = before ++ after →
    (start.run before).engine.paths.load DataPath.isOwn ≤ most
  committed : (∀ before after, acts = before ++ after →
      (start.run before).engine.paths.load DataPath.isCommitted ≤ most) ↔
    ∀ before act after, acts = before ++ act :: after →
      (start.run before).Takes Request.acceptsPeer act →
        (start.run before).engine.paths.load DataPath.isCommitted < most

/-- **The firmware is overbooked only by the acceptance of a peer**, and by every acceptance when no
place is left, once a report is there before the caller takes a place and as long as all later
reports give the same number of places. -/
theorem run_commitments (config : EngineConfig) (transport : σ) (now : Timestamp)
    (prior rest : List (Act σ))
    (cached : ((Host.new config transport now).run prior).engine.capabilities.snapshot = some known)
    (uncommitted : ∀ accepted ∈ (Host.new config transport now).accepted prior,
      accepted.1.initiates = false ∧ accepted.1.acceptsPeer = false)
    (steady : ∀ report ∈ surveys (((Host.new config transport now).run prior).told rest),
      report.maxDataPaths = known.maxDataPaths) :
    (Host.new config transport now).Commitments known.maxDataPaths.toNat (prior ++ rest) := by
  have fresh : Reachable (Host.new config transport now) := .new config transport now
  have nothing : (Host.new config transport now).engine.paths.load DataPath.isCommitted = 0 := rfl
  generalize Host.new config transport now = start at fresh nothing cached uncommitted steady
  have reached : Reachable (start.run prior) := fresh.run prior
  have cached : ∃ report, (start.run prior).engine.capabilities.snapshot = some report ∧
      report.maxDataPaths.toNat = known.maxDataPaths.toNat := ⟨known, cached, rfl⟩
  have steady (since after : List (Act σ)) (split : rest = since ++ after) :
      ∀ report ∈ surveys ((start.run prior).told since),
        report.maxDataPaths.toNat = known.maxDataPaths.toNat := by
    intro report member
    apply congrArg UInt32.toNat
    apply steady report
    rw [split, reached.told_append, surveys_append]
    exact List.mem_append_left _ member
  have idle (before after : List (Act σ)) (split : prior = before ++ after) :
      (start.run before).engine.paths.load DataPath.isCommitted ≤ known.maxDataPaths.toNat := by
    have none : (start.run before).engine.paths.load DataPath.isCommitted = 0 := by
      apply fresh.uncommitted_run nothing
      intro accepted member
      apply uncommitted accepted
      rw [split, accepted_append]
      exact List.mem_append_left _ member
    rw [none]
    exact Nat.zero_le _
  have idleOwn (before after : List (Act σ)) (split : prior = before ++ after) :
      (start.run before).engine.paths.load DataPath.isOwn ≤ known.maxDataPaths.toNat :=
    Nat.le_trans (start.run before).engine.paths.load_isOwn_le (idle before after split)
  have whole : prior = prior ++ [] := (List.append_nil prior).symm
  constructor
  case own =>
    intro before after split
    rcases List.append_eq_append_iff.mp split with ⟨since, rfl, later⟩ | ⟨since, earlier, _⟩
    · rw [run_append]
      exact reached.own_within_run cached (steady since after later) (idleOwn prior [] whole)
    · exact idleOwn before since earlier
  case committed =>
    constructor
    · intro kept before act after split accepts
      have next := kept (before ++ [act]) after (by rw [split, List.append_assoc]; rfl)
      rw [run_append] at next
      have one : ((start.run before).run [act]).engine.paths.load DataPath.isCommitted = _ :=
        (fresh.run before).committed_accepting accepts
      rw [one] at next
      exact next
    · intro careful before after split
      rcases List.append_eq_append_iff.mp split with ⟨since, rfl, later⟩ | ⟨since, earlier, _⟩
      · rw [run_append]
        apply reached.committed_within_run cached (steady since after later) (idle prior [] whole)
        intro first act last split accepts
        rw [← run_append] at accepts ⊢
        exact careful (prior ++ first) act (last ++ after) (by simp [later, split]) accepts
      · exact idle before since earlier

/-- A report of a chip that carries one path. -/
def onePath : Capabilities := { Capabilities.standard with maxDataPaths := 1 }

/-- A run that asks for it. -/
def askingForPaths : List (Act Recorder) :=
  [.submit .getCapabilities, .handle (.commandCompleted ⟨1⟩ (.ok (.capabilities onePath)))]

/-- A run in which two peers ask for a path, with an interface for paths to run over. -/
def twoPeers : List (Act Recorder) :=
  [.submit (.enable .standard), .handle (.commandCompleted ⟨2⟩ (.ok .empty)),
    .submit (.createInterface "nan0"), .handle (.commandCompleted ⟨3⟩ (.ok .empty)),
    .handle (.dataPathRequested ⟨5⟩ ⟨9⟩ .zero .empty),
    .handle (.dataPathRequested ⟨6⟩ ⟨9⟩ .zero .empty)]

/-- The acceptance of a peer. -/
def accepting (id : DataPathId) : Act Recorder :=
  .submit (.respondDataPath ⟨id, true, "nan0", .empty, .unsecured⟩)

/-- With one peer accepted every place is taken, and none is given away any more to a request. -/
theorem run_commitments_onePath :
    let start := Host.new .standard Recorder.new ⟨0⟩
    let initiating : Act Recorder :=
      .submit (.initiateDataPath ⟨⟨0⟩, .zero, .available, none, "nan0", .empty, .unsecured⟩)
    let rest := twoPeers ++ [accepting ⟨5⟩, initiating]
    ((start.run askingForPaths).engine.capabilities.snapshot = some onePath ∧
      (∀ accepted ∈ start.accepted askingForPaths,
        accepted.1.initiates = false ∧ accepted.1.acceptsPeer = false) ∧
      ∀ report ∈ surveys ((start.run askingForPaths).told rest),
        report.maxDataPaths = onePath.maxDataPaths) ∧
    (start.run (askingForPaths ++ rest)).engine.paths.load DataPath.isCommitted = 1 ∧
    start.Commitments 1 (askingForPaths ++ rest) := by
  intro start initiating rest
  have cached : (start.run askingForPaths).engine.capabilities.snapshot = some onePath := by
    decide +kernel
  have uncommitted : ∀ accepted ∈ start.accepted askingForPaths,
      accepted.1.initiates = false ∧ accepted.1.acceptsPeer = false := by decide +kernel
  have silent : surveys ((start.run askingForPaths).told rest) = [] := by decide +kernel
  have steady : ∀ report ∈ surveys ((start.run askingForPaths).told rest),
      report.maxDataPaths = onePath.maxDataPaths := by simp [silent]
  exact ⟨⟨cached, uncommitted, steady⟩, by decide +kernel,
    run_commitments .standard Recorder.new ⟨0⟩ askingForPaths rest cached uncommitted steady⟩

/-- **The firmware can be overbooked**: both peers are accepted, and there is one place. -/
theorem run_commitments_overbooked :
    let start := Host.new .standard Recorder.new ⟨0⟩
    let rest := twoPeers ++ [accepting ⟨5⟩, accepting ⟨6⟩]
    (start.run askingForPaths).engine.capabilities.snapshot = some onePath ∧
      (start.run askingForPaths).engine.paths.isEmpty = true ∧
      surveys ((start.run askingForPaths).told rest) = [] ∧
      ¬(start.run (askingForPaths ++ rest)).engine.paths.load DataPath.isCommitted ≤
        onePath.maxDataPaths.toNat := by
  decide +kernel

end Host

end NanHost
