import NanHost.Proofs.Engine.Admissible
import NanHost.Proofs.Host.Cascade
import NanHost.Proofs.Host.Emissions
import NanHost.Proofs.Host.Lateness
import NanHost.Proofs.Host.Progress

/-!
# Timeliness — looking after the deadlines once is enough

A tick gives up the commands whose time is up, and then refuses the peers that have waited too long.
Giving a command up may take paths down, and refusing a peer files a new command, with a deadline of its
own. None of this leaves anything overdue.

## What is proved

`run_timeliness`, for every state after a run, whatever the transport makes of the refusals: what a tick
takes off the ledger, what it tells and in which order, that nothing is overdue after it, and that a
second tick at the same time does nothing at all.

- `Reachable.lateTold_tick`: what a tick tells is told of one command after the other, and then of one
  peer after the other.
- `Reachable.answersFirst`: what is told of the commands does not depend on their being given up in one
  batch, since the acceptance of a path is the first command about it.
- `Dismissed`: what the refusals of peers add to a host, one after the other.
- `Prompt.tick`: where nothing is overdue, a tick does nothing.
-/

namespace NanHost

/-! ## The acceptance of a path comes first -/

namespace Ledger

variable {ledger rest : Ledger} {record : TransactionRecord}

theorem AnswersFirst.mono (first : ledger.AnswersFirst)
    (fewer : ∀ {id record}, rest.get? id = some record → ledger.get? id = some record) :
    rest.AnswersFirst where
  before onFile answers onFile' := first.before (fewer onFile) answers (fewer onFile')

/-- A command that is filed comes after all others, and so may be about a path that is to be accepted.
The acceptance itself is filed while nothing else about its path is on file. -/
theorem AnswersFirst.file (first : ledger.AnswersFirst)
    (above : ∀ {id other}, ledger.get? id = some other → other.sequence < record.sequence)
    (alone : ∀ {path id other}, record.Answers path → ledger.get? id = some other →
      other.context ≠ .dataPath path) : (ledger.file record).AnswersFirst where
  before {id path answer other} onFile answers onFile' about differs := by
    rcases cases_file onFile with ⟨same, rfl⟩ | before <;>
      rcases cases_file onFile' with ⟨same', rfl⟩ | before'
    · exact absurd same' differs
    · exact absurd about (alone answers before')
    · exact above before
    · exact first.before before answers before' about differs

end Ledger

namespace Host

variable {σ : Type} {host after : Host σ}

/-! ## What is overdue -/

/-- The commands whose time is up, in the order of issue. -/
def late (host : Host σ) : List TransactionRecord :=
  host.engine.ledger.records.filter (·.deadline ≤ host.now)

/-- Whether a caller's command is on file under the number whose time is up. -/
def isLate (host : Host σ) (txn : TransactionId) : Bool :=
  (host.engine.ledger.get? txn).any fun record =>
    record.origin = .caller && record.deadline ≤ host.now

/-- The paths whose peers have waited too long, in ascending order. -/
def lapsing (host : Host σ) : List DataPathId :=
  host.engine.paths.roster (·.isOverdue host.now)

/-! ## Peers that are refused -/

/-- The record is that of the refusal of a peer, filed now. -/
structure Dismisses (host : Host σ) (path : DataPathId) (record : TransactionRecord) : Prop where
  kind : record.kind = .respondDataPath
  context : record.context = .dataPath path
  origin : record.origin = .engine
  issuedAt : record.issuedAt = host.now
  deadline : record.deadline = host.now.addMillis host.engine.ledger.timeoutMs

/-- What a host comes to as it refuses peers, one after the other. -/
structure Dismissed (before : Host σ) (paths : List DataPathId) (after : Host σ) : Prop where
  now : after.now = before.now
  timeoutMs : after.engine.ledger.timeoutMs = before.engine.ledger.timeoutMs
  /-- Every command that was on file is so still. -/
  stays : ∀ {id record}, before.engine.ledger.get? id = some record →
    after.engine.ledger.get? id = some record
  /-- What else is on file is the refusal of one of the peers. -/
  filed : ∀ {id record}, after.engine.ledger.get? id = some record →
    before.engine.ledger.get? id = some record ∨ ∃ path ∈ paths, before.Dismisses path record
  /-- No peer is given another deadline. -/
  due : ∀ {id path}, after.engine.paths.get? id = some path →
    ∃ earlier, before.engine.paths.get? id = some earlier ∧
      path.responseDeadline = earlier.responseDeadline
  /-- The caller is told of each peer, in order. -/
  told : after.notifications.toList =
    before.notifications.toList ++ paths.map (.dataPathTerminated · .responseTimeout)

namespace Dismissed

variable {before middle after : Host σ} {path : DataPathId} {first second : List DataPathId}

theorem refl (host : Host σ) : host.Dismissed [] host :=
  ⟨rfl, rfl, id, .inl, fun found => ⟨_, found, rfl⟩, (List.append_nil _).symm⟩

theorem trans (one : before.Dismissed first middle) (two : middle.Dismissed second after) :
    before.Dismissed (first ++ second) after where
  now := two.now.trans one.now
  timeoutMs := two.timeoutMs.trans one.timeoutMs
  stays onFile := two.stays (one.stays onFile)
  filed onFile := by
    rcases two.filed onFile with earlier | ⟨path, member, dismisses⟩
    · rcases one.filed earlier with earlier | ⟨path, member, dismisses⟩
      · exact .inl earlier
      · exact .inr ⟨path, List.mem_append_left _ member, dismisses⟩
    · refine .inr ⟨path, List.mem_append_right _ member, ?_⟩
      have issuedAt := dismisses.issuedAt
      have deadline := dismisses.deadline
      rw [one.now] at issuedAt deadline
      rw [one.timeoutMs] at deadline
      exact ⟨dismisses.kind, dismisses.context, dismisses.origin, issuedAt, deadline⟩
  due found := by
    obtain ⟨path, found, same⟩ := two.due found
    obtain ⟨earlier, found, same'⟩ := one.due found
    exact ⟨earlier, found, same.trans same'⟩
  told := by
    rw [two.told, one.told, List.map_append, List.append_assoc]

end Dismissed

/-- A path that is forgotten if it is done with leaves the others as they were. -/
theorem due_purge {table : DataPathTable} {path id : DataPathId} {entry : DataPath}
    (found : (table.purge path).get? id = some entry) :
    ∃ earlier, table.get? id = some earlier ∧
      entry.responseDeadline = earlier.responseDeadline := by
  rw [DataPathTable.get?_purge] at found
  split at found
  next here =>
    exact ⟨entry, here ▸ (Option.filter_eq_some_iff.mp found).1, rfl⟩
  next => exact ⟨entry, found, rfl⟩

/-- So does a command that is noted with a path. -/
theorem due_attach {table : DataPathTable} {path id : DataPathId} {txn : TransactionId}
    {entry : DataPath} (found : (table.attach path txn).get? id = some entry) :
    ∃ earlier, table.get? id = some earlier ∧
      entry.responseDeadline = earlier.responseDeadline := by
  rw [DataPathTable.attach, DataPathTable.get?_update] at found
  split at found
  next here =>
    obtain ⟨earlier, found', rfl⟩ := Option.map_eq_some_iff.mp found
    exact ⟨earlier, here ▸ found', rfl⟩
  next => exact ⟨entry, found, rfl⟩

/-! ## The commands about a path in order -/

/-- As long as there were places for all the commands that were filed, the acceptance of a path comes
first. -/
def AnswersFirst (host : Host σ) : Prop :=
  host.filings < UInt64.size → host.engine.ledger.AnswersFirst

theorem AnswersFirst.react (first : host.AnswersFirst) {reaction : Reaction}
    (keeps : ∃ condition, reaction.1.ledger = host.engine.ledger.keep condition) :
    (host.react reaction).AnswersFirst := by
  obtain ⟨condition, keeps⟩ := keeps
  intro bound
  rw [filings_react] at bound
  rw [engine_react, keeps]
  refine (first bound).mono fun {id record} onFile => ?_
  rw [Ledger.get?_keep] at onFile
  exact (Option.filter_eq_some_iff.mp onFile).1

/-- A command that is filed takes a place that is above all others. -/
theorem AnswersFirst.file {accepted : List (Request × TransactionId)} {dispatch : Dispatch}
    {origin : Origin} (first : host.AnswersFirst) (inOrder : host.InOrder accepted)
    (ledger : after.engine.ledger = host.engine.ledger.file (host.recordFor dispatch origin))
    (filings : after.filings = host.filings + 1)
    (alone : ∀ {path id other}, (host.recordFor dispatch origin).Answers path →
      host.engine.ledger.get? id = some other → other.context ≠ .dataPath path) :
    after.AnswersFirst := by
  intro bound
  rw [filings] at bound
  have bound : host.filings < UInt64.size := by omega
  rw [ledger]
  refine (first bound).file (fun {id other} onFile => ?_) alone
  have below := (inOrder bound).below onFile
  rw [← (inOrder bound).next] at below
  exact UInt64.lt_iff_toNat_lt.mpr below

/-- A command that is filed and taken off again leaves the others as they were. -/
theorem AnswersFirst.refile {record : TransactionRecord} (first : host.AnswersFirst)
    (fresh : host.engine.ledger.get? record.id = none)
    (ledger : after.engine.ledger = (host.engine.ledger.file record).rollback record.id)
    (filings : after.filings = host.filings + 1) : after.AnswersFirst := by
  intro bound
  rw [filings] at bound
  rw [ledger]
  refine (first (by omega)).mono fun {id other} onFile => ?_
  rwa [Ledger.get?, Ledger.pending_rollback_file record fresh] at onFile

theorem AnswersFirst.tell (first : host.AnswersFirst) (notification : Notification) :
    (host.tell notification).AnswersFirst := by
  have same : (host.tell notification).filings = host.filings :=
    filings_react host (host.engine, [notification])
  intro bound
  rw [same] at bound
  exact first bound

variable [Transport σ]

/-- While a peer waits for its answer nothing about its path is on file. -/
theorem Reachable.alone (reachable : Reachable host) {dispatch : Dispatch} {request : Request}
    (admitted : host.engine.vet request = .ok dispatch) {path : DataPathId} {id : TransactionId}
    {other : TransactionRecord} (answers : (host.recordFor dispatch .caller).Answers path)
    (onFile : host.engine.ledger.get? id = some other) : other.context ≠ .dataPath path := by
  intro about
  have kind : request.kind = .respondDataPath :=
    (Engine.kind_of_vet admitted).symm.trans answers.kind
  cases request with
  | respondDataPath answer =>
    obtain ⟨entry, found, waits, unanswered, notEnding⟩ :=
      (Engine.admits_of_vetRespond admitted).waits
    have context : dispatch.context = .dataPath path := answers.context
    obtain rfl : answer.pathId = path := by
      rw [(Engine.vetRespond_ok admitted).1] at context
      exact PendingContext.dataPath.inj context
    have idle := reachable.idle found (by simp [DataPath.awaitsAnswer, waits, unanswered, notEnding])
    have paths : host.engine.paths.Agrees _ := reachable.coherent.agrees .paths
    have out : id ∈ entry.inFlight := (paths.path found).inFlight_iff.mpr
      ⟨other, Ledger.docket_eq_some.mpr ⟨onFile, by rw [about]; rfl⟩, about⟩
    rw [idle] at out
    simp at out
  | _ => cases kind

theorem submit_answersFirst (reachable : Reachable host)
    {accepted : List (Request × TransactionId)} (inOrder : host.InOrder accepted)
    (first : host.AnswersFirst) (request : Request) : (host.submit request).2.AnswersFirst := by
  have fate := submit_submission reachable.coherent.filed request
  generalize host.submit request = outcome at fate
  cases fate with
  | unfit | full => exact first
  | taken dispatch transport admitted opens sent =>
    exact first.file inOrder (ledger_stage _ _ _) (filings_push rfl rfl) (reachable.alone admitted)
  | refused dispatch transport error admitted opens sent =>
    exact first.refile opens.fresh rfl (filings_push rfl rfl)

/-- The refusal of a peer is nobody's acceptance. -/
theorem refuseOverdue_answersFirst {accepted : List (Request × TransactionId)}
    (filed : host.engine.ledger.WellFiled) (path : DataPathId) (inOrder : host.InOrder accepted)
    (first : host.AnswersFirst) : (host.refuseOverdue path).AnswersFirst := by
  have told := first.tell (.dataPathTerminated path .responseTimeout)
  have inOrder := inOrder.tell (.dataPathTerminated path .responseTimeout)
  have fate := refuseOverdue_refusal filed path
  generalize host.refuseOverdue path = next at fate
  cases fate with
  | full noRoom => exact told
  | taken transport opens sent =>
    exact told.file inOrder rfl (filings_push rfl rfl) fun answers _ => nomatch answers.origin
  | refused transport error opens sent => exact told.refile opens.fresh rfl (filings_push rfl rfl)

theorem expireResponses_answersFirst {accepted : List (Request × TransactionId)}
    (coherent : host.engine.Coherent) (inOrder : host.InOrder accepted)
    (first : host.AnswersFirst) : host.expireResponses.2.AnswersFirst :=
  (expireResponses_keeps (fun next => next.InOrder accepted ∧ next.AnswersFirst) coherent
    ⟨inOrder, first⟩ fun _ path coherent kept =>
      ⟨refuseOverdue_inOrder coherent.filed path kept.1,
        refuseOverdue_answersFirst coherent.filed path kept.1 kept.2⟩).2.2

/-- Every state has its order. -/
theorem Reachable.inOrder (reachable : Reachable host) : ∃ accepted, host.InOrder accepted := by
  induction reachable with
  | new config transport now => exact ⟨[], fun _ => Ledger.inOrder_new _ _⟩
  | step act reachable ih =>
    obtain ⟨accepted, inOrder⟩ := ih
    exact ⟨_, step_inOrder reachable.coherent inOrder act⟩

/-- **The acceptance of a path is the first command about it**, in every state. -/
theorem Reachable.answersFirst (reachable : Reachable host) : host.AnswersFirst := by
  induction reachable with
  | new config transport now => exact fun _ => ⟨fun onFile => by simp [Host.new, Engine.new] at onFile⟩
  | @step host act reachable first =>
    have coherent := reachable.coherent
    obtain ⟨accepted, inOrder⟩ := reachable.inOrder
    have expired : host.expireTransactions.2.AnswersFirst :=
      first.react (coherent.expireTransactions_keeps host.now)
    cases act with
    | submit request => exact submit_answersFirst reachable inOrder first request
    | handle event => exact first.react (coherent.handle_keeps host.now event)
    | expireTransactions => exact expired
    | expireResponses => exact expireResponses_answersFirst coherent inOrder first
    | tick =>
      exact expireResponses_answersFirst (expireTransactions_coherent coherent)
        (expireTransactions_inOrder coherent inOrder) expired
    | shutdown => exact first.react coherent.shutdown_keeps
    | advance | replaceTransport => exact first

/-! ## Looking after the peers -/

/-- **The refusal of a peer**, whatever the transport makes of it. -/
theorem Refusal.dismissed {path : DataPathId} {next : Host σ} (fate : host.Refusal path next) :
    host.Dismissed [path] next := by
  have told {effects : Array Effect} (same : next.effects = effects)
      (silent : effects.toList.filterMap (·.notification?) =
        (host.effectsTold path).toList.filterMap (·.notification?)) :
      next.notifications.toList =
        host.notifications.toList ++ [.dataPathTerminated path .responseTimeout] := by
    rw [notifications, same, Array.toList_filterMap, silent, effectsTold, Array.toList_push,
      List.filterMap_append, notifications, Array.toList_filterMap]
    rfl
  have unsaid (effect : Effect) (silent : effect.notification? = none) :
      ((host.effectsTold path).push effect).toList.filterMap (·.notification?) =
        (host.effectsTold path).toList.filterMap (·.notification?) := by
    rw [Array.toList_push, List.filterMap_append, List.filterMap_cons, silent]
    simp
  cases fate with
  | full noRoom => exact ⟨rfl, rfl, id, .inl, due_purge, told rfl rfl⟩
  | taken transport opens sent =>
    refine ⟨rfl, rfl, fun {id record} onFile => ?_, fun {id record} onFile => ?_, due_attach,
      told rfl (unsaid _ rfl)⟩
    · have differs : id ≠ (host.recordFor (host.refusal path) .engine).id := by
        rintro rfl
        rw [opens.fresh] at onFile
        cases onFile
      exact (Ledger.get?_file ..).trans ((if_neg differs).trans onFile)
    · rcases Ledger.cases_file onFile with ⟨_, rfl⟩ | earlier
      · exact .inr ⟨path, List.mem_singleton_self path, rfl, rfl, rfl, rfl, rfl⟩
      · exact .inl earlier
  | refused transport error opens sent =>
    have same := Ledger.pending_rollback_file _ opens.fresh
    refine ⟨rfl, rfl, fun {id record} onFile => ?_, fun {id record} onFile => ?_, due_purge,
      told rfl (unsaid _ rfl)⟩
    · rwa [Ledger.get?, same]
    · rw [Ledger.get?, same] at onFile
      exact .inl onFile

/-- So do the refusals of different peers, one after the other. -/
theorem dismissed_refusals {paths : List DataPathId} (coherent : host.engine.Coherent)
    (distinct : paths.Nodup)
    (present : ∀ path ∈ paths, ∃ entry, host.engine.paths.get? path = some entry) :
    host.Dismissed paths (paths.foldl refuseOverdue host) := by
  induction paths generalizing host with
  | nil => exact .refl host
  | cons path rest ih =>
    obtain ⟨apart, distinct⟩ := List.nodup_cons.mp distinct
    have one := (refuseOverdue_refusal coherent.filed path).dismissed
    have present' := present_refuseOverdue coherent.filed apart fun other member =>
      present other (List.mem_cons_of_mem _ member)
    exact one.trans (ih (refuseOverdue_coherent coherent (present path (by simp))) distinct present')

/-- **Looking after the peers** refuses those that have waited too long. -/
theorem dismissed_expireResponses (coherent : host.engine.Coherent) :
    host.relieved.Dismissed host.lapsing host.expireResponses.2 := by
  have paths : host.engine.paths.Agrees _ := coherent.agrees .paths
  obtain ⟨distinct, present⟩ := paths.overdue host.now
  have relieved : host.relieved.engine.Coherent :=
    coherent.touchTable .paths (paths.expireResponses host.now)
  exact dismissed_refusals relieved distinct present

/-! ## When nothing is overdue -/

/-- Nothing is overdue: the time of every command is to come, and no peer has waited too long. -/
structure Prompt (host : Host σ) : Prop where
  commands : ∀ {id record}, host.engine.ledger.get? id = some record → ¬record.deadline ≤ host.now
  peers : ∀ {id path}, host.engine.paths.get? id = some path → path.isOverdue host.now = false

omit [Transport σ] in
/-- Where no command is overdue none is given up. -/
theorem Prompt.expireTransactions (prompt : host.Prompt) : host.expireTransactions.2 = host := by
  have nobody : (host.engine.ledger.pending.toList.filter fun row =>
      decide (row.2.deadline ≤ host.now)) = [] := by
    apply List.filter_eq_nil_iff.mpr
    intro row member
    have onFile : host.engine.ledger.get? row.1 = some row.2 :=
      Std.ExtTreeMap.mem_toList_iff_getElem?_eq_some.mp member
    simpa using prompt.commands onFile
  have expired : host.engine.ledger.expire host.now = ([], host.engine.ledger) := by
    unfold Ledger.expire Ledger.drainWhere
    dsimp only
    rw [nobody, List.map_nil, TransactionRecord.inOrderOfIssue, List.mergeSort_nil]
    rfl
  unfold Host.expireTransactions Engine.expireTransactions
  rw [expired]
  rfl

/-- Where no peer is overdue nobody is refused. -/
theorem Prompt.expireResponses (prompt : host.Prompt) : host.expireResponses.2 = host := by
  have nobody : host.engine.paths.toList.filter (·.isOverdue host.now) = [] := by
    apply List.filter_eq_nil_iff.mpr
    intro path member
    obtain ⟨row, there, rfl⟩ := List.mem_map.mp member
    have found : host.engine.paths.get? row.1 = some row.2 :=
      Std.ExtTreeMap.mem_toList_iff_getElem?_eq_some.mp there
    simp [prompt.peers found]
  have unchanged : host.engine.paths.paths.map (fun _ path =>
      if path.isOverdue host.now then path.terminated.withoutDeadline else path) =
        host.engine.paths.paths := by
    apply Std.ExtTreeMap.ext_getElem?
    intro id
    rw [Std.ExtTreeMap.getElem?_map]
    cases found : host.engine.paths.paths[id]? with
    | none => rfl
    | some path => simp [prompt.peers found]
  have expired : host.engine.paths.expireResponses host.now = ([], host.engine.paths) := by
    unfold DataPathTable.expireResponses
    rw [nobody, unchanged]
    rfl
  unfold Host.expireResponses
  rw [expired]
  rfl

/-- **Where nothing is overdue a tick does nothing.** -/
theorem Prompt.tick (prompt : host.Prompt) : host.step .tick = host := by
  show host.expireTransactions.2.expireResponses.2 = host
  rw [prompt.expireTransactions, prompt.expireResponses]

/-! ## A tick -/

omit [Transport σ] in
/-- A command that is filed now is not overdue at once. -/
theorem not_addMillis_le {now : Timestamp} {millis : UInt64} (some' : millis ≠ 0)
    (before : now ≠ .last) : ¬now.addMillis millis ≤ now := by
  intro late
  have late : (now.addMillis millis).millis.toNat ≤ now.millis.toNat := UInt64.le_iff_toNat_le.mp late
  rw [Timestamp.toNat_addMillis] at late
  have positive : millis.toNat ≠ 0 := by
    intro zero
    exact some' (UInt64.toNat_inj.mp zero)
  have below : now.millis.toNat ≠ UInt64.size - 1 := by
    intro same
    apply before
    have last : now.millis = Timestamp.last.millis := UInt64.toNat_inj.mp same
    cases now
    exact congrArg Timestamp.mk last
  have bound := now.millis.toNat_lt_size
  omega

omit [Transport σ] in
/-- A reaction leaves it to the commands how long they are given. -/
theorem timeoutMs_react {reaction : Reaction}
    (keeps : ∃ condition, reaction.1.ledger = host.engine.ledger.keep condition) :
    (host.react reaction).engine.ledger.timeoutMs = host.engine.ledger.timeoutMs := by
  obtain ⟨condition, keeps⟩ := keeps
  rw [engine_react, keeps]
  rfl

omit [Transport σ] in
theorem timeoutMs_expireTransactions (coherent : host.engine.Coherent) :
    host.expireTransactions.2.engine.ledger.timeoutMs = host.engine.ledger.timeoutMs :=
  timeoutMs_react (coherent.expireTransactions_keeps host.now)

namespace Reachable

/-- The commands on file once those are given up whose time is up. -/
theorem get?_expireTransactions (reachable : Reachable host) (id : TransactionId) :
    host.expireTransactions.2.engine.ledger.get? id =
      (host.engine.ledger.get? id).filter fun record => !decide (record.deadline ≤ host.now) := by
  have engine : host.expireTransactions.2.engine = (host.engine.expireTransactions host.now).2.1 :=
    engine_react ..
  rw [engine, Engine.expireTransactions_eq reachable.coherent.filed,
    reachable.coherent.giveUpAll_keeps, Ledger.get?_keep]

/-- The same peers are refused. -/
theorem lapsing_expireTransactions (reachable : Reachable host) :
    host.expireTransactions.2.lapsing = host.lapsing := by
  have before : host.engine.paths.Agrees _ := reachable.coherent.agrees .paths
  have after : host.expireTransactions.2.engine.paths.Agrees _ :=
    (expireTransactions_coherent reachable.coherent).agrees .paths
  refine DataPathTable.roster_congr before after fun id => ?_
  have same := reachable.overdue_expireTransactions id
  rw [Bool.eq_iff_iff, Option.any_eq_true, Option.any_eq_true]
  exact same

/-- What a tick makes of the host once the commands are given up whose time is up. -/
theorem dismissed_tick (reachable : Reachable host) :
    host.expireTransactions.2.relieved.Dismissed host.lapsing (host.step .tick) := by
  rw [← reachable.lapsing_expireTransactions]
  exact dismissed_expireResponses (expireTransactions_coherent reachable.coherent)

/-- What a tick tells of commands comes first, and then what it tells of peers. -/
theorem told_tick_eq (reachable : Reachable host) :
    host.told [.tick] = (host.engine.expireTransactions host.now).2.2 ++
      host.lapsing.map (.dataPathTerminated · .responseTimeout) := by
  have commands : host.told [.expireTransactions] = (host.engine.expireTransactions host.now).2.2 :=
    told_react rfl
  have peers : (host.step .expireTransactions).told [.expireResponses] =
      host.lapsing.map (.dataPathTerminated · .responseTimeout) :=
    (reachable.step .expireTransactions).told_of_notifications reachable.dismissed_tick.told
  rw [← commands, ← peers, told, told, told, reachable.emitted_tick, List.filterMap_append]

/-- **What a tick tells**: of each command whose time is up, then of each peer. -/
theorem lateTold_tick (reachable : Reachable host) :
    ∃ reports, List.Forall₂ host.engine.LateTold host.late reports ∧
      host.told [.tick] =
        reports.flatten ++ host.lapsing.map (.dataPathTerminated · .responseTimeout) := by
  obtain ⟨reports, told, flat⟩ := reachable.coherent.lateTold_expireTransactions host.now
  exact ⟨reports, told, by rw [reachable.told_tick_eq, flat]⟩

/-- What is told of a command is known beforehand. -/
theorem told_tick (reachable : Reachable host) (bound : host.filings < UInt64.size) :
    host.told [.tick] = host.late.flatMap host.engine.lateReport ++
      host.lapsing.map (.dataPathTerminated · .responseTimeout) := by
  rw [reachable.told_tick_eq,
    reachable.coherent.told_expireTransactions (reachable.answersFirst bound) host.now]
  rfl

/-- No answer is overdue once the paths have been taken down whose peers have waited too long. -/
theorem due_relieved (reachable : Reachable host) {id : DataPathId} {path : DataPath}
    (found : host.relieved.engine.paths.get? id = some path) {deadline : Timestamp}
    (due : path.responseDeadline = some deadline) : ¬deadline ≤ host.now := by
  have found : (host.engine.paths.expireResponses host.now).2.get? id = some path := found
  rw [DataPathTable.get?_expireResponses] at found
  obtain ⟨entry, there, rfl⟩ := Option.map_eq_some_iff.mp found
  split at due
  next => cases due
  next notOverdue =>
    intro late
    exact notOverdue ((reachable.consistent there).isOverdue_iff.mpr ⟨deadline, due, late⟩)

/-- **After a tick nothing is overdue**, if commands are given any time at all and the clock has not
stopped. -/
theorem prompt_tick (reachable : Reachable host) (given : host.engine.ledger.timeoutMs ≠ 0)
    (running : host.now ≠ .last) : (host.step .tick).Prompt := by
  have dismissed := reachable.dismissed_tick
  have expired : host.expireTransactions.2.now = host.now := congrArg (·.now) (react_eq host _)
  have now : (host.step .tick).now = host.now := dismissed.now.trans expired
  constructor
  case commands =>
    intro id record onFile
    rw [now]
    rcases dismissed.filed onFile with earlier | ⟨path, _, dismisses⟩
    · have stayed := (reachable.get?_expireTransactions id).symm.trans earlier
      simpa using (Option.filter_eq_some_iff.mp stayed).2
    · have deadline : record.deadline = host.now.addMillis host.engine.ledger.timeoutMs := by
        rw [← expired, ← timeoutMs_expireTransactions reachable.coherent]
        exact dismisses.deadline
      rw [deadline]
      exact not_addMillis_le given running
  case peers =>
    intro id path found
    obtain ⟨earlier, there, same⟩ := dismissed.due found
    apply Bool.eq_false_iff.mpr
    intro overdue
    obtain ⟨deadline, due, late⟩ :=
      ((reachable.step .tick).consistent found).isOverdue_iff.mp overdue
    rw [now, ← expired] at late
    exact (reachable.step .expireTransactions).due_relieved there (same ▸ due) late

/-- How long commands are given never changes. -/
theorem timeoutMs_step (reachable : Reachable host) (act : Act σ) :
    (host.step act).engine.ledger.timeoutMs = host.engine.ledger.timeoutMs := by
  have coherent := reachable.coherent
  have peers {host : Host σ} (coherent : host.engine.Coherent) :
      host.expireResponses.2.engine.ledger.timeoutMs = host.engine.ledger.timeoutMs :=
    (dismissed_expireResponses coherent).timeoutMs
  cases act with
  | submit request =>
    have fate := submit_submission coherent.filed request
    show (host.submit request).2.engine.ledger.timeoutMs = _
    generalize host.submit request = outcome at fate
    cases fate with
    | unfit | full | refused => rfl
    | taken => exact congrArg (·.timeoutMs) (ledger_stage _ _ _)
  | handle event => exact timeoutMs_react (coherent.handle_keeps host.now event)
  | expireTransactions => exact timeoutMs_expireTransactions coherent
  | expireResponses => exact peers coherent
  | tick =>
    exact (peers (expireTransactions_coherent coherent)).trans
      (timeoutMs_expireTransactions coherent)
  | shutdown => exact timeoutMs_react coherent.shutdown_keeps
  | advance | replaceTransport => rfl

theorem timeoutMs_run (reachable : Reachable host) (acts : List (Act σ)) :
    (host.run acts).engine.ledger.timeoutMs = host.engine.ledger.timeoutMs := by
  induction acts generalizing host with
  | nil => rfl
  | cons act rest ih => exact (ih (reachable.step act)).trans (reachable.timeoutMs_step act)

/-- **The peers that have waited too long** are those who were not answered by their deadlines. -/
theorem mem_lapsing (reachable : Reachable host) {id : DataPathId} :
    id ∈ host.lapsing ↔ ∃ path deadline, host.engine.paths.get? id = some path ∧
      path.state = .awaitingLocalResponse ∧ path.response = none ∧ path.endPending = false ∧
        path.responseDeadline = some deadline ∧ deadline ≤ host.now := by
  have paths : host.engine.paths.Agrees _ := reachable.coherent.agrees .paths
  rw [Host.lapsing, DataPathTable.mem_roster paths]
  constructor
  · rintro ⟨path, found, overdue⟩
    have consistent := reachable.consistent found
    obtain ⟨deadline, due, late⟩ := consistent.isOverdue_iff.mp overdue
    obtain ⟨waits, unanswered, notEnding⟩ := consistent.due.mp (Option.isSome_of_eq_some due)
    exact ⟨path, deadline, found, waits, unanswered, notEnding, due, late⟩
  · rintro ⟨path, deadline, found, _, _, _, due, late⟩
    exact ⟨path, found, (reachable.consistent found).isOverdue_iff.mpr ⟨deadline, due, late⟩⟩

end Reachable

omit [Transport σ] in
/-- The late commands stand in the order in which they were accepted. -/
theorem late_inOrder (filed : host.engine.ledger.WellFiled) {filings : Nat}
    {accepted : List TransactionId} (inOrder : host.engine.ledger.InOrder filings accepted) :
    (host.late.filter (·.origin = .caller)).map (·.id) = accepted.dedup.filter host.isLate := by
  have kept := (inOrder.keep filed (·.deadline ≤ host.now)).order
  rw [Ledger.callers, Ledger.records_keep] at kept
  refine kept.trans (congrArg (List.filter · _) (funext fun txn => ?_))
  rw [Ledger.awaitsCaller, Ledger.get?_keep, isLate]
  cases onFile : host.engine.ledger.get? txn with
  | none => rfl
  | some record => by_cases late : record.deadline ≤ host.now <;> simp [Option.filter_some, late]

/-! ## Runs -/

/-- A tick does all that is due, exactly, and leaves nothing to do. The requests so far accepted are
given in their order. -/
structure Timely (host : Host σ) (accepted : List (Request × TransactionId)) : Prop where
  /-- Of the commands on file those leave whose time is up, and no others. -/
  leaves : ∀ id record, host.engine.ledger.get? id = some record →
    ((host.step .tick).engine.ledger.get? id = some record ↔ ¬record.deadline ≤ host.now)
  /-- What is on file afterwards was so before, or refuses a peer that has waited too long. -/
  filed : ∀ id record, (host.step .tick).engine.ledger.get? id = some record →
    host.engine.ledger.get? id = some record ∨ ∃ path ∈ host.lapsing, host.Dismisses path record
  /-- Each of the commands that leave is reported, each peer after them, and nothing else is told: of a
  command that a caller has asked for that it has failed, and just before it that the path is down which
  it was to accept, if it was up; of the others nothing. -/
  told : ∃ reports, List.Forall₂ host.engine.LateTold host.late reports ∧
    host.told [.tick] = reports.flatten ++ host.lapsing.map (.dataPathTerminated · .responseTimeout)
  /-- The path is told to be down just if it was up before the tick, as long as no sequence number has
  been given twice. -/
  setbacks : host.filings < UInt64.size → host.told [.tick] =
    host.late.flatMap host.engine.lateReport ++
      host.lapsing.map (.dataPathTerminated · .responseTimeout)
  /-- No command is reported twice. -/
  once : (host.late.map (·.id)).Nodup
  /-- Commands are reported in the order in which they were accepted. -/
  order : host.filings < UInt64.size → (host.late.filter (·.origin = .caller)).map (·.id) =
    (accepted.map (·.2)).dedup.filter host.isLate
  /-- The peers that have waited too long are those who were not answered by their deadlines. -/
  lapsing : ∀ id, id ∈ host.lapsing ↔ ∃ path deadline, host.engine.paths.get? id = some path ∧
    path.state = .awaitingLocalResponse ∧ path.response = none ∧ path.endPending = false ∧
      path.responseDeadline = some deadline ∧ deadline ≤ host.now
  /-- They are reported in ascending order. -/
  ascending : host.lapsing.Pairwise fun first second => compare first second = .lt
  /-- Afterwards no command is overdue. -/
  commands : ∀ id record, (host.step .tick).engine.ledger.get? id = some record →
    ¬record.deadline ≤ (host.step .tick).now
  /-- Nor is any answer to a peer. -/
  peers : ∀ id path deadline, (host.step .tick).engine.paths.get? id = some path →
    path.responseDeadline = some deadline → ¬deadline ≤ (host.step .tick).now
  /-- A second tick at the same time does nothing: it tells nothing, hands nothing over, and leaves all
  as it is. -/
  again : (host.step .tick).step .tick = host.step .tick

/-- **A tick does all that is due, exactly, and leaves nothing to do**, in every state after a run,
whatever the transport makes of it. -/
theorem run_timeliness (config : EngineConfig) (transport : σ) (now : Timestamp)
    (acts : List (Act σ)) (given : config.transactionTimeoutMs ≠ 0)
    (running : ((Host.new config transport now).run acts).now ≠ .last) :
    ((Host.new config transport now).run acts).Timely
      ((Host.new config transport now).accepted acts) := by
  have reachable := (Reachable.new config transport now).run acts
  have fresh : (Host.new config transport now).InOrder [] := fun _ => Ledger.inOrder_new _ _
  have inOrder := run_inOrder (Engine.Coherent.new config) fresh acts
  have given : ((Host.new config transport now).run acts).engine.ledger.timeoutMs ≠ 0 := by
    rw [(Reachable.new config transport now).timeoutMs_run acts]
    exact given
  rw [List.nil_append] at inOrder
  generalize (Host.new config transport now).accepted acts = accepted at inOrder
  generalize (Host.new config transport now).run acts = host at *
  have coherent := reachable.coherent
  have paths : host.engine.paths.Agrees _ := coherent.agrees .paths
  have dismissed := reachable.dismissed_tick
  have prompt := reachable.prompt_tick given running
  have expired : host.expireTransactions.2.now = host.now := congrArg (·.now) (react_eq host _)
  have now : (host.step .tick).now = host.now := dismissed.now.trans expired
  constructor
  case leaves =>
    intro id record onFile
    constructor
    · intro stayed
      rw [← now]
      exact prompt.commands stayed
    · intro inTime
      have stayed : host.expireTransactions.2.engine.ledger.get? id = some record := by
        rw [reachable.get?_expireTransactions, onFile]
        exact Option.filter_some_pos (by simpa using inTime)
      exact dismissed.stays stayed
  case filed =>
    intro id record onFile
    rcases dismissed.filed onFile with earlier | ⟨path, member, dismisses⟩
    · have stayed := (reachable.get?_expireTransactions id).symm.trans earlier
      exact .inl (Option.filter_eq_some_iff.mp stayed).1
    · refine .inr ⟨path, member, dismisses.kind, dismisses.context, dismisses.origin, ?_, ?_⟩
      · exact dismisses.issuedAt.trans expired
      · rw [← expired, ← timeoutMs_expireTransactions coherent]
        exact dismisses.deadline
  case told => exact reachable.lateTold_tick
  case setbacks => exact reachable.told_tick
  case once => exact coherent.filed.nodup_ids.sublist (List.filter_sublist.map _)
  case order => exact fun bound => late_inOrder coherent.filed (inOrder bound)
  case lapsing => exact fun _ => reachable.mem_lapsing
  case ascending => exact DataPathTable.roster_ascending paths _
  case commands => exact fun _ _ => prompt.commands
  case peers =>
    intro id path deadline found due late
    have overdue := ((reachable.step .tick).consistent found).isOverdue_iff.mpr ⟨deadline, due, late⟩
    rw [prompt.peers found] at overdue
    cases overdue
  case again => exact prompt.tick

/-- A run after which two peers are overdue: the acceptance of the first has not been answered, though
its path was confirmed, and the second has not been answered. -/
def overdueTwice : List (Act Recorder) :=
  [.submit (.enable .standard), .handle (.commandCompleted ⟨1⟩ (.ok .empty)),
    .submit (.createInterface "nan0"), .handle (.commandCompleted ⟨2⟩ (.ok .empty)),
    .handle (.dataPathRequested ⟨5⟩ ⟨9⟩ .zero .empty),
    .handle (.dataPathRequested ⟨6⟩ ⟨9⟩ .zero .empty),
    .submit (.respondDataPath ⟨⟨5⟩, true, "nan0", .empty, .unsecured⟩),
    .handle (.dataPathConfirmed ⟨5⟩ true .zero .empty ⟨0⟩), .advance 20000]

/-- The tick that follows gives up the first path, and then the second. -/
theorem run_timeliness_overdueTwice :
    let start := Host.new .standard Recorder.new ⟨0⟩
    let host := start.run overdueTwice
    (EngineConfig.standard.transactionTimeoutMs ≠ 0 ∧ host.now ≠ .last) ∧
      host.told [.tick] = [.dataPathTerminated ⟨5⟩ .setupFailed,
        .completed ⟨⟨3⟩, .respondDataPath, .error .timeout⟩,
        .dataPathTerminated ⟨6⟩ .responseTimeout] ∧
      host.Timely (start.accepted overdueTwice) := by
  intro start host
  have given : EngineConfig.standard.transactionTimeoutMs ≠ 0 := by decide
  have running : host.now ≠ .last := by decide +kernel
  exact ⟨⟨given, running⟩, by decide +kernel,
    run_timeliness .standard Recorder.new ⟨0⟩ overdueTwice given running⟩

end Host

end NanHost
