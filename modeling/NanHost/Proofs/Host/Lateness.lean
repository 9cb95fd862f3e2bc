import Mathlib.Data.List.Forall2
import NanHost.Proofs.Host.Endings

/-!
# Lateness — what is told of commands whose time is up

Commands whose time is up are given up together, one after the other, and each may change what the
next one finds. What is told of all of them is read off the state in which none has been given up yet.

## What is proved

- `Coherent.giveUp_late`: a command whose time is up is reported as failed, once, if a caller asked for
  it. Nothing else is told but that a path is down, just before, if the command was to accept the path
  and the path was up already.
- `Coherent.lateTold_giveUpAll`: so is each of a batch, in the order given. A command that is given up
  makes no session active and none inactive, and it brings no path up.
- `Coherent.giveUpAll_late`: which paths are reported can be read off beforehand. A command that is given
  up leaves the path alone that a later one is to accept, as the acceptance of a path is the first that
  is asked of it (`Ledger.AnswersFirst`).
-/

namespace NanHost

/-- The acceptance of a path that is on file was filed before all else about the path that is. -/
structure Ledger.AnswersFirst (ledger : Ledger) : Prop where
  before : ∀ {id path record other}, ledger.get? record.id = some record → record.Answers path →
    ledger.get? id = some other → other.context = .dataPath path → id ≠ record.id →
      record.sequence < other.sequence

/-! ## Paths that are up -/

namespace DataPathTable

variable {table : DataPathTable} {id other : DataPathId} {path : DataPath}

/-- A path that changes, and may be forgotten then, brings none up unless it comes up itself. -/
theorem confirmed_of_put_purge (found : table.get? id = some path) {changed : DataPath}
    (lowers : changed.isConfirmed = true → path.isConfirmed = true)
    (up : (((table.put id changed).purge id).get? other).any (·.isConfirmed) = true) :
    (table.get? other).any (·.isConfirmed) = true := by
  rw [get?_purge] at up
  split at up
  next here =>
    rw [get?_put, if_pos rfl] at up
    obtain ⟨left, kept, up⟩ := Option.any_eq_true .. |>.mp up
    obtain ⟨same, _⟩ := Option.filter_eq_some_iff.mp kept
    obtain rfl := Option.some.inj same
    rw [here, found]
    exact lowers up
  next apart =>
    rwa [get?_put, if_neg apart] at up

/-- An answer to a peer that has ended brings no path up, however it has ended. -/
theorem confirmed_of_resolveRespond (found : table.get? id = some path) (txn : TransactionId)
    (outcome : Except Failure Unit)
    (up : ((table.resolveRespond id txn outcome).2.get? other).any (·.isConfirmed) = true) :
    (table.get? other).any (·.isConfirmed) = true := by
  have struckOff (same : (path.detach txn).isConfirmed = true) : path.isConfirmed = true := same
  unfold resolveRespond at up
  rw [found] at up
  dsimp only at up
  split at up
  · exact confirmed_of_put_purge found struckOff up
  · exact confirmed_of_put_purge found struckOff up
  · exact confirmed_of_put_purge found (fun down => by cases down) up

end DataPathTable

namespace Engine

variable {engine : Engine} {record other : TransactionRecord} {report : List Notification}

/-- Why a command is reported as failed whose time is up. What a session was to take on is not missed if
the session is not active any more. -/
def lateFailure (engine : Engine) (record : TransactionRecord) : Failure :=
  match record.kind, record.context with
  | .publish, .session session | .subscribe, .session session =>
    if (engine.sessions.activeAt session).isSome then .timeout else .aborted
  | _, _ => .timeout

/-- What is told before: a path is down that was up, since its acceptance has failed. -/
def lateSetback (engine : Engine) (record : TransactionRecord) : List Notification :=
  match record.kind, record.context with
  | .respondDataPath, .dataPath path =>
    if (engine.paths.get? path).any (·.isConfirmed) then [.dataPathTerminated path .setupFailed]
    else []
  | _, _ => []

/-- What is told of a command whose time is up. -/
def lateReport (engine : Engine) (record : TransactionRecord) : List Notification :=
  if record.origin = .caller then
    engine.lateSetback record ++ [record.failed (engine.lateFailure record)]
  else []

/-- What may be told of a command whose time is up, whatever else was given up before it. -/
inductive LateTold (engine : Engine) (record : TransactionRecord) : List Notification → Prop
  /-- Nobody has asked for it. -/
  | nothing (origin : record.origin = .engine) : LateTold engine record []
  /-- It has failed. -/
  | failed (origin : record.origin = .caller) :
    LateTold engine record [record.failed (engine.lateFailure record)]
  /-- It has failed, and this takes down the path that it was to accept, which is up. -/
  | setback {path : DataPathId} (answers : record.Answers path)
    (up : (engine.paths.get? path).any (·.isConfirmed) = true) :
    LateTold engine record
      [.dataPathTerminated path .setupFailed, record.failed (engine.lateFailure record)]

/-- What is told of a command by itself is one of these. -/
theorem lateTold_lateReport (engine : Engine) (record : TransactionRecord) :
    engine.LateTold record (engine.lateReport record) := by
  unfold lateReport
  split
  next origin =>
    unfold lateSetback
    split
    next path kind context =>
      split
      next up => exact .setback ⟨kind, context, origin⟩ up
      next => exact .failed origin
    next => exact .failed origin
  next notCaller =>
    refine .nothing ?_
    cases origin : record.origin with
    | engine => rfl
    | caller => exact absurd origin notCaller

/-! ## One command -/

/-- An answer whose time is up takes its path down, and this is told if the path was up. -/
theorem notices_settleRespond_timeout {path : DataPathId} {entry : DataPath}
    (found : engine.paths.get? path = some entry) (txn : TransactionId) :
    (engine.settleRespond txn path (.error .timeout)).notices =
      if entry.isConfirmed then [.dataPathTerminated path .setupFailed] else [] := by
  by_cases up : entry.state = .confirmed
  · rw [if_pos (by simp [DataPath.isConfirmed, up])]
    exact notices_settleRespond found up txn (by rintro ⟨⟩)
  · rw [if_neg (by simp [DataPath.isConfirmed, up])]
    apply List.eq_nil_iff_forall_not_mem.mpr
    intro notice told
    obtain ⟨_, ⟨confirmed, found', up'⟩, _⟩ := mem_notices_settleRespond told
    rw [found] at found'
    exact up (Option.some.inj found' ▸ up')

namespace Coherent

/-- A configuration that is on file is one that the interface waits for. -/
theorem completeEnable_isSome (coherent : engine.Coherent)
    (onFile : engine.ledger.get? record.id = some record) (configure : record.kind = .configure)
    (success : Bool) : ∃ initial, (engine.interface.completeEnable success).1 = some initial := by
  have awaited := coherent.awaited_of_onFile onFile (.inl configure)
  rw [configure] at awaited
  unfold Interface.completeEnable
  cases phase : engine.interface.phase <;> simp_all [InterfacePhase.awaited]

/-- How a command settles whose time is up. -/
theorem settleByItself_late (coherent : engine.Coherent)
    (onFile : engine.ledger.get? record.id = some record) (notDisable : record.kind ≠ .disable) :
    ∃ settled, (engine.upon (engine.ledger.rollback record.id)).settleByItself record
        (.error .timeout) = settled ∧
      settled.result = .error (engine.lateFailure record) ∧
      settled.notices = engine.lateSetback record := by
  have commission : Commission record.kind record.context record.origin :=
    coherent.commissioned onFile
  have out {subject : Subject} (about : record.context.subject = subject) :
      engine.ledger.docket subject record.id = some record :=
    Ledger.docket_eq_some.mpr ⟨onFile, about⟩
  have sessions : engine.sessions.Agrees _ := coherent.agrees .sessions
  have paths : engine.paths.Agrees _ := coherent.agrees .paths
  have configured (configure : record.kind = .configure) :=
    coherent.completeEnable_isSome onFile configure false
  refine ⟨_, rfl, ?_⟩
  unfold lateFailure lateSetback
  generalize kind : record.kind = kind', context : record.context = context',
    origin : record.origin = origin' at commission
  cases commission with
  | capabilities =>
    rw [settleByItself_capabilities kind]
    exact ⟨rfl, rfl⟩
  | configure =>
    obtain ⟨initial, awaited⟩ := configured kind
    rw [settleByItself_configure kind]
    unfold settleConfigure
    split
    next => exact ⟨rfl, rfl⟩
    next missing =>
      have missing : (engine.interface.completeEnable false).1 = none := congrArg Prod.fst missing
      rw [awaited] at missing
      cases missing
  | disable => exact absurd kind notDisable
  | start role =>
    rw [settleByItself_start kind context]
    obtain ⟨config, starting, _⟩ := sessions.starting_of_out (out (by rw [context]; rfl)) context
    have failed : (engine.sessions.resolveNew record.id (.error .timeout)).1 = .error .timeout := by
      unfold SessionRegistry.resolveNew
      rw [starting]
    refine ⟨(congrArg (Except.map _) failed).trans ?_, ?_⟩ <;> cases role <;> rfl
  | update role session =>
    rw [settleByItself_update kind context]
    obtain ⟨entry, found, _⟩ := sessions.session_of_out (out (by rw [context]; rfl)) context
    have active : (engine.sessions.activeAt session).isSome = entry.isActive := by
      rw [SessionRegistry.activeAt, found]
      cases isActive : entry.isActive <;> simp [isActive]
    have failed : (engine.sessions.resolveUpdate session record.id (.error .timeout)).1 =
        .error (if entry.isActive then .timeout else .aborted) := by
      unfold SessionRegistry.resolveUpdate
      rw [found]
      dsimp only
      split <;> rfl
    have result : (engine.settleUpdate record.id session (.error .timeout)).result =
        .error (if (engine.sessions.activeAt session).isSome then .timeout else .aborted) := by
      rw [active]
      exact congrArg (Except.map _) failed
    cases role <;> exact ⟨result, rfl⟩
  | message session =>
    rw [settleByItself_message kind context]
    exact ⟨rfl, rfl⟩
  | stop role session =>
    rw [settleByItself_stop kind context]
    cases role <;> exact ⟨rfl, rfl⟩
  | create name =>
    rw [settleByItself_create kind context]
    exact ⟨rfl, rfl⟩
  | delete name =>
    rw [settleByItself_delete kind context]
    exact ⟨rfl, rfl⟩
  | initiate =>
    rw [settleByItself_initiate kind context]
    obtain ⟨request, initiating⟩ := paths.initiating_of_out (out (by rw [context]; rfl)) context
    have failed : (engine.paths.resolveInitiate record.id (.error .timeout)).1 =
        .error .timeout := by
      unfold DataPathTable.resolveInitiate
      rw [initiating]
      rfl
    exact ⟨congrArg (Except.map _) failed, rfl⟩
  | respond path origin =>
    rw [settleByItself_respond kind context]
    obtain ⟨entry, found, _⟩ := paths.path_of_out (out (by rw [context]; rfl)) context
    have failed : (engine.paths.resolveRespond path record.id (.error .timeout)).1 =
        .error .timeout := by
      unfold DataPathTable.resolveRespond
      rw [found]
    refine ⟨congrArg (Except.map _) failed, ?_⟩
    have found' : (engine.upon (engine.ledger.rollback record.id)).paths.get? path = some entry :=
      found
    dsimp only
    rw [notices_settleRespond_timeout found', found]
    rfl
  | close path =>
    rw [settleByItself_close kind context]
    exact ⟨rfl, rfl⟩

/-- **A command whose time is up** is reported as failed if a caller asked for it, and a path that it
takes down is reported before. -/
theorem giveUp_late (coherent : engine.Coherent)
    (onFile : engine.ledger.get? record.id = some record) :
    (engine.giveUp record .timeout).2 = engine.lateReport record := by
  unfold Engine.giveUp lateReport
  cases origin : record.origin with
  | engine =>
    rw [conclude_engine origin, if_neg nofun]
    unfold Engine.strikeOff
    split <;> rfl
  | caller =>
    rw [conclude_caller origin, if_pos rfl]
    by_cases disable : record.kind = .disable
    · rw [settle_disable disable, settleDisable_failed, announce_of_ne record fun path => by simp]
      simp only [lateFailure, lateSetback, TransactionRecord.failed, disable]
    · obtain ⟨settled, same, result, notices⟩ := coherent.settleByItself_late onFile disable
      rw [settle_eq_settleByItself disable, same, announce_of_ne record fun path => by simp [result]]
      show settled.notices ++ [.completed ⟨record.id, record.kind, settled.result⟩] = _
      rw [notices, result]
      rfl

/-! ## What the others find -/

/-- **A command that is given up makes no session active**, and none inactive. -/
theorem activeAt_giveUp (coherent : engine.Coherent)
    (onFile : engine.ledger.get? record.id = some record) (failure : Failure)
    (session : SessionId) :
    (engine.giveUp record failure).1.sessions.activeAt session =
      engine.sessions.activeAt session := by
  have commission : Commission record.kind record.context record.origin :=
    coherent.commissioned onFile
  have out {subject : Subject} (about : record.context.subject = subject) :
      engine.ledger.docket subject record.id = some record :=
    Ledger.docket_eq_some.mpr ⟨onFile, about⟩
  have sessions : engine.sessions.Agrees _ := coherent.agrees .sessions
  have settled (notDisable : record.kind ≠ .disable) :
      ((engine.upon (engine.ledger.rollback record.id)).settleByItself record
        (.error failure)).engine.sessions.activeAt session = engine.sessions.activeAt session := by
    generalize kind : record.kind = kind', context : record.context = context',
      origin : record.origin = origin' at commission
    cases commission with
    | capabilities =>
      rw [settleByItself_capabilities kind]
      rfl
    | configure =>
      rw [settleByItself_configure kind, engine_settleConfigure]
      rfl
    | disable => exact absurd kind notDisable
    | start role =>
      rw [settleByItself_start kind context]
      exact SessionRegistry.activeAt_resolveNew record.id failure session
    | update role id =>
      rw [settleByItself_update kind context]
      obtain ⟨entry, found, _⟩ := sessions.session_of_out (out (by rw [context]; rfl)) context
      exact SessionRegistry.activeAt_resolveUpdate found record.id failure session
    | message id =>
      rw [settleByItself_message kind context]
      obtain ⟨entry, found, _⟩ := sessions.session_of_out (out (by rw [context]; rfl)) context
      exact SessionRegistry.activeAt_detach found record.id session
    | stop role id =>
      rw [settleByItself_stop kind context]
      obtain ⟨entry, found, local', _⟩ := sessions.session_of_out (out (by rw [context]; rfl)) context
      have stopping := local'.stopping (out (by rw [context]; rfl)) context kind
      exact SessionRegistry.activeAt_resolveStop found stopping record.id session
    | create name =>
      rw [settleByItself_create kind context]
      rfl
    | delete name =>
      rw [settleByItself_delete kind context]
      rfl
    | initiate =>
      rw [settleByItself_initiate kind context]
      rfl
    | respond path =>
      rw [settleByItself_respond kind context]
      rfl
    | close path =>
      rw [settleByItself_close kind context]
      rfl
  unfold Engine.giveUp
  cases origin : record.origin with
  | engine =>
    rw [conclude_engine origin]
    unfold Engine.strikeOff
    split <;> rfl
  | caller =>
    rw [conclude_caller origin]
    by_cases disable : record.kind = .disable
    · rw [settle_disable disable, settleDisable_failed, announce_failed record rfl]
      rfl
    · obtain ⟨reason, failed⟩ := result_settleByItself_failed
        (engine.upon (engine.ledger.rollback record.id)) record failure
      rw [settle_eq_settleByItself disable, announce_failed record failed]
      exact settled disable

/-- So the reason for which another command has failed is the same before and after. -/
theorem lateFailure_giveUp (coherent : engine.Coherent)
    (onFile : engine.ledger.get? record.id = some record) (failure : Failure)
    (other : TransactionRecord) :
    (engine.giveUp record failure).1.lateFailure other = engine.lateFailure other := by
  unfold lateFailure
  simp only [coherent.activeAt_giveUp onFile failure]

/-- **A command that is given up brings no path up.** -/
theorem confirmed_of_giveUp (coherent : engine.Coherent)
    (onFile : engine.ledger.get? record.id = some record) (failure : Failure) {path : DataPathId}
    (up : ((engine.giveUp record failure).1.paths.get? path).any (·.isConfirmed) = true) :
    (engine.paths.get? path).any (·.isConfirmed) = true := by
  by_cases about : record.context = .dataPath path
  case neg => rwa [coherent.get?_giveUp onFile about failure] at up
  case pos =>
    have paths : engine.paths.Agrees _ := coherent.agrees .paths
    obtain ⟨entry, found, _⟩ := paths.path_of_out
      (Ledger.docket_eq_some.mpr ⟨onFile, by rw [about]; rfl⟩) about
    have lowered {change : DataPath → DataPath}
        (lowers : (change entry).isConfirmed = true → entry.isConfirmed = true)
        (up : (((engine.paths.update path change).purge path).get? path).any (·.isConfirmed) = true) :
        (engine.paths.get? path).any (·.isConfirmed) = true := by
      rw [DataPathTable.update_eq_put found] at up
      exact DataPathTable.confirmed_of_put_purge found lowers up
    unfold Engine.giveUp at up
    cases origin : record.origin with
    | engine =>
      rw [conclude_engine origin, Engine.strikeOff, about] at up
      exact lowered id up
    | caller =>
      have commission : Commission record.kind record.context record.origin :=
        coherent.commissioned onFile
      obtain ⟨reason, failed⟩ := result_settleByItself_failed
        (engine.upon (engine.ledger.rollback record.id)) record failure
      generalize kind : record.kind = kind' at commission
      rw [about, origin] at commission
      rw [conclude_caller origin] at up
      cases commission with
      | respond =>
        rw [settle_eq_settleByItself (by simp [kind]), announce_failed record failed,
          settleByItself_respond kind about] at up
        exact DataPathTable.confirmed_of_resolveRespond found record.id _ up
      | close =>
        rw [settle_eq_settleByItself (by simp [kind]), announce_failed record failed,
          settleByItself_close kind about] at up
        exact lowered (fun down => by cases down) up

/-- So what may be told of another command afterwards may be told of it before. -/
theorem lateTold_of_giveUp (coherent : engine.Coherent)
    (onFile : engine.ledger.get? record.id = some record) {failure : Failure}
    (told : (engine.giveUp record failure).1.LateTold other report) :
    engine.LateTold other report := by
  cases told with
  | nothing origin => exact .nothing origin
  | failed origin =>
    rw [coherent.lateFailure_giveUp onFile]
    exact .failed origin
  | setback answers up =>
    rw [coherent.lateFailure_giveUp onFile]
    exact .setback answers (coherent.confirmed_of_giveUp onFile failure up)

/-- **What is told of a batch whose time is up** is told of one after the other. -/
theorem lateTold_giveUpAll {records : List TransactionRecord} (coherent : engine.Coherent)
    (onFile : engine.ledger.OnFile records) :
    ∃ reports, List.Forall₂ engine.LateTold records reports ∧
      (engine.giveUpAll records .timeout).2 = reports.flatten := by
  unfold Engine.giveUpAll
  induction records generalizing engine with
  | nil => exact ⟨[], .nil, rfl⟩
  | cons record rest ih =>
    have onFile' : (engine.giveUp record .timeout).1.ledger.OnFile rest := by
      rw [ledger_giveUp]
      exact onFile.tail
    obtain ⟨reports, told, flat⟩ := ih (coherent.giveUp onFile.head .timeout) onFile'
    refine ⟨engine.lateReport record :: reports, .cons (engine.lateTold_lateReport record) ?_, ?_⟩
    · exact told.imp fun _ _ => coherent.lateTold_of_giveUp onFile.head
    · rw [sweep_cons, coherent.giveUp_late onFile.head, flat]
      rfl

/-- What is told of another command is the same before and after, unless the one that is given up is
about the path that the other is to accept. -/
theorem lateReport_giveUp (coherent : engine.Coherent)
    (onFile : engine.ledger.get? record.id = some record) (failure : Failure)
    (apart : ∀ path, other.Answers path → record.context ≠ .dataPath path) :
    (engine.giveUp record failure).1.lateReport other = engine.lateReport other := by
  have setback (caller : other.origin = .caller) :
      (engine.giveUp record failure).1.lateSetback other = engine.lateSetback other := by
    unfold lateSetback
    split
    next path kind context =>
      rw [coherent.get?_giveUp onFile (apart path ⟨kind, context, caller⟩) failure]
    next => rfl
  unfold lateReport
  by_cases caller : other.origin = .caller
  · rw [if_pos caller, if_pos caller, setback caller, coherent.lateFailure_giveUp onFile]
  · rw [if_neg caller, if_neg caller]

/-- **What is told of a batch whose time is up** is told of each by itself, in the order given. -/
theorem giveUpAll_late {records : List TransactionRecord} (coherent : engine.Coherent)
    (onFile : engine.ledger.OnFile records)
    (apart : records.Pairwise fun first second =>
      ∀ path, second.Answers path → first.context ≠ .dataPath path) :
    (engine.giveUpAll records .timeout).2 = records.flatMap engine.lateReport := by
  unfold Engine.giveUpAll
  induction records generalizing engine with
  | nil => rfl
  | cons record rest ih =>
    obtain ⟨first, apart⟩ := List.pairwise_cons.mp apart
    have onFile' : (engine.giveUp record .timeout).1.ledger.OnFile rest := by
      rw [ledger_giveUp]
      exact onFile.tail
    have later := ih (coherent.giveUp onFile.head .timeout) onFile' apart
    rw [sweep_cons, List.flatMap_cons, coherent.giveUp_late onFile.head, later]
    refine congrArg _ (congrArg List.flatten (List.map_congr_left fun other member => ?_))
    exact coherent.lateReport_giveUp onFile.head .timeout (first other member)

/-! ## The order of what is asked of a path -/

/-- In the order of issue nothing about a path comes before its acceptance. -/
theorem apart_of_answersFirst (coherent : engine.Coherent)
    (answersFirst : engine.ledger.AnswersFirst) (condition : TransactionRecord → Bool) :
    (engine.ledger.records.filter condition).Pairwise fun first second =>
      ∀ path, second.Answers path → first.context ≠ .dataPath path := by
  have filed := coherent.filed
  have ordered : (engine.ledger.records.filter condition).Pairwise
      fun first second => first.sequence ≤ second.sequence :=
    (TransactionRecord.inOrderOfIssue_pairwise _).sublist List.filter_sublist
  have distinct : (engine.ledger.records.filter condition).Pairwise
      fun first second => first.id ≠ second.id :=
    List.pairwise_map.mp (filed.nodup_ids.sublist (List.filter_sublist.map _))
  refine (ordered.and distinct).imp_of_mem ?_
  intro first second member member' ⟨before, differs⟩ path answers about
  have found := (filed.onFile_filter condition).found
  have after := answersFirst.before (found second member') answers (found first member) about differs
  exact UInt64.not_lt.mpr before after

/-- **What is told of all commands whose time is up** is told of one after the other, in the order of
issue. -/
theorem lateTold_expireTransactions (coherent : engine.Coherent) (now : Timestamp) :
    ∃ reports, List.Forall₂ engine.LateTold (engine.ledger.records.filter (·.deadline ≤ now)) reports ∧
      (engine.expireTransactions now).2.2 = reports.flatten := by
  rw [expireTransactions_eq coherent.filed]
  exact coherent.lateTold_giveUpAll (coherent.filed.onFile_filter _)

/-- **What is told of all commands whose time is up.** -/
theorem told_expireTransactions (coherent : engine.Coherent)
    (answersFirst : engine.ledger.AnswersFirst) (now : Timestamp) :
    (engine.expireTransactions now).2.2 =
      (engine.ledger.records.filter (·.deadline ≤ now)).flatMap engine.lateReport := by
  rw [expireTransactions_eq coherent.filed]
  exact coherent.giveUpAll_late (coherent.filed.onFile_filter _)
    (coherent.apart_of_answersFirst answersFirst _)

end Coherent

end Engine

end NanHost
