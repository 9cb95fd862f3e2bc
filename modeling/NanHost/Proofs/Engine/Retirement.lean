import NanHost.Engine.Event
import NanHost.Proofs.Engine.Settlement
import NanHost.Proofs.Ledger.Filing

/-!
# Retirement — commands that leave the ledger without an answer

Commands are given up in batches: all whose time is up, all about sessions and paths when the
interface goes down, all there are at shutdown. A batch leaves the ledger first, and is concluded
afterwards, record by record.

## What is proved

- Concluding a failed command does not look at the ledger and does not change it
  (`conclude_failed_upon`). The one conclusion that does is that of a disabling that went well.
- So a batch may as well be given up one record at a time, each leaving the ledger just before it
  is concluded (`abandon_drained`). What one record leaves behind, a batch leaves behind, by
  induction over the batch (`Ledger.OnFile.tail`).
-/

namespace NanHost

/-! ## Batches on file -/

/-- All records of a list are on file, each under its own number and under no number twice. -/
structure Ledger.OnFile (ledger : Ledger) (records : List TransactionRecord) : Prop where
  distinct : (records.map (·.id)).Nodup
  found : ∀ record ∈ records, ledger.get? record.id = some record

namespace Ledger.OnFile

variable {ledger : Ledger} {record : TransactionRecord} {rest : List TransactionRecord}

theorem head (onFile : ledger.OnFile (record :: rest)) : ledger.get? record.id = some record :=
  onFile.found record (by simp)

/-- When the first record of a batch leaves, the others stay on file. -/
theorem tail (onFile : ledger.OnFile (record :: rest)) :
    (ledger.rollback record.id).OnFile rest := by
  obtain ⟨differs, distinct⟩ := List.nodup_cons.mp onFile.distinct
  refine ⟨distinct, fun other member => ?_⟩
  have apart : other.id ≠ record.id := fun same =>
    differs (List.mem_map.mpr ⟨other, member, same⟩)
  rw [get?_rollback, if_neg apart]
  exact onFile.found other (List.mem_cons_of_mem _ member)

end Ledger.OnFile

theorem Ledger.WellFiled.onFile_records {ledger : Ledger} (filed : ledger.WellFiled) :
    ledger.OnFile ledger.records where
  distinct := filed.nodup_ids
  found := by
    intro record member
    obtain ⟨id, found⟩ := ledger.mem_records.mp member
    rw [filed.own found]
    exact found

/-- So are those of them that satisfy a condition. -/
theorem Ledger.WellFiled.onFile_filter {ledger : Ledger} (filed : ledger.WellFiled)
    (condition : TransactionRecord → Bool) :
    ledger.OnFile (ledger.records.filter condition) where
  distinct := filed.nodup_ids.sublist (List.filter_sublist.map _)
  found record member := filed.onFile_records.found record (List.mem_filter.mp member).1

/-! ## The ledger apart from the tables -/

/-- The engine over another ledger. -/
def Engine.upon (engine : Engine) (ledger : Ledger) : Engine := { engine with ledger := ledger }

/-- A reaction over another ledger. -/
def Reaction.upon (reaction : Reaction) (ledger : Ledger) : Reaction :=
  (reaction.1.upon ledger, reaction.2)

/-- A settlement over another ledger. -/
def Settlement.upon (settlement : Settlement) (ledger : Ledger) : Settlement :=
  { settlement with engine := settlement.engine.upon ledger }

namespace Engine

variable (engine : Engine) (ledger : Ledger)

@[simp] theorem ledger_upon : (engine.upon ledger).ledger = ledger := rfl

/-- Replaying an event leaves the ledger alone. -/
theorem replay_upon (id : DataPathId) (event : HeldEvent) :
    (engine.upon ledger).replay id event = (engine.replay id event).upon ledger := by
  cases event <;> rfl

/-- Replaying what was held back leaves the ledger alone. -/
theorem replayHeld_upon (id : DataPathId) :
    (engine.upon ledger).replayHeld id = (engine.replayHeld id).upon ledger := by
  have replayed (events : List HeldEvent) (start : Engine) :
      (start.upon ledger).sweep events (fun engine event => engine.replay id event) =
        (start.sweep events fun engine event => engine.replay id event).upon ledger := by
    induction events generalizing start with
    | nil => rfl
    | cons event rest ih =>
      rw [sweep_cons, sweep_cons, replay_upon]
      simp only [Reaction.upon, ih]
  exact replayed _ { engine with paths := (engine.paths.takeHeld id).2 }

/-- Settling a command leaves the ledger alone, unless it took the interface down. -/
theorem settleByItself_upon (record : TransactionRecord) (outcome : Outcome) :
    (engine.upon ledger).settleByItself record outcome =
      (engine.settleByItself record outcome).upon ledger := by
  unfold settleByItself
  split
  next =>
    unfold settleCapabilities
    split <;> rfl
  next =>
    unfold settleConfigure
    simp only [upon]
    split <;> rfl
  all_goals rfl

theorem announce_upon (record : TransactionRecord) (settlement : Settlement) :
    announce record (settlement.upon ledger) = (announce record settlement).upon ledger := by
  obtain ⟨result, settled, notices⟩ := settlement
  unfold announce Settlement.upon
  rcases result with failure | detail
  · rfl
  · cases detail <;> try rfl
    simp only [replayHeld_upon]
    rfl

theorem strikeOff_upon (record : TransactionRecord) :
    (engine.upon ledger).strikeOff record = (engine.strikeOff record).upon ledger := by
  unfold strikeOff
  split <;> rfl

theorem ledger_settleByItself (record : TransactionRecord) (outcome : Outcome) :
    (engine.settleByItself record outcome).engine.ledger = engine.ledger := by
  have settled := congrArg (·.engine.ledger)
    (engine.settleByItself_upon engine.ledger record outcome)
  exact settled

theorem ledger_announce (record : TransactionRecord) (settlement : Settlement) :
    (announce record settlement).1.ledger = settlement.engine.ledger := by
  have announced := congrArg (·.1.ledger) (announce_upon settlement.engine.ledger record settlement)
  exact announced

theorem ledger_strikeOff (record : TransactionRecord) :
    (engine.strikeOff record).1.ledger = engine.ledger := by
  have struck := congrArg (·.1.ledger) (engine.strikeOff_upon engine.ledger record)
  exact struck

/-- A disabling that failed takes nothing down. -/
theorem settleDisable_failed (failure : Failure) :
    engine.settleDisable (.error failure) =
      ⟨.error failure,
        { engine with interface := (engine.interface.completeDisable false).2 }, []⟩ := by
  unfold settleDisable Interface.completeDisable
  by_cases phase : engine.interface.phase = .disabling <;>
    simp [phase, Except.isOk, Except.toBool]

/-- **Concluding a failed command leaves the ledger alone.** -/
theorem conclude_failed_upon (record : TransactionRecord) (failure : Failure) :
    (engine.upon ledger).conclude record (.error failure) =
      (engine.conclude record (.error failure)).upon ledger := by
  unfold conclude settle
  split
  · exact engine.strikeOff_upon ledger record
  · split
    · rw [settleDisable_failed, settleDisable_failed]
      rfl
    · rw [settleByItself_upon, announce_upon]

/-! ## Giving up -/

/-- What a command leaves behind that is given up: its record leaves the ledger, and it is concluded
with the failure. -/
def giveUp (record : TransactionRecord) (failure : Failure) : Reaction :=
  (engine.upon (engine.ledger.rollback record.id)).conclude record (.error failure)

/-- The commands of a batch are given up in the order given. -/
def giveUpAll (records : List TransactionRecord) (failure : Failure) : Reaction :=
  engine.sweep records fun engine record => engine.giveUp record failure

theorem ledger_giveUp (record : TransactionRecord) (failure : Failure) :
    (engine.giveUp record failure).1.ledger = engine.ledger.rollback record.id := by
  rw [giveUp, conclude_failed_upon]
  rfl

/-- **What every command that is given up keeps**, of the engine and of all that was told, a batch of
commands on file keeps. -/
theorem kept_giveUpAll (kept : Engine → List Notification → Prop) {failure : Failure}
    {records : List TransactionRecord} {engine : Engine} (told : List Notification)
    (onFile : engine.ledger.OnFile records) (start : kept engine told)
    (keeps : ∀ {engine told record}, record ∈ records → engine.ledger.get? record.id = some record →
      kept engine told →
        kept (engine.giveUp record failure).1 (told ++ (engine.giveUp record failure).2)) :
    kept (engine.giveUpAll records failure).1 (told ++ (engine.giveUpAll records failure).2) := by
  unfold giveUpAll
  induction records generalizing engine told with
  | nil => simpa [quiet] using start
  | cons record rest ih =>
    rw [sweep_cons, ← List.append_assoc]
    refine ih _ ?_ (keeps (by simp) onFile.head start) fun member =>
      keeps (List.mem_cons_of_mem _ member)
    rw [ledger_giveUp]
    exact onFile.tail

/-- A batch that has left the ledger is concluded as if its records left one at a time. -/
theorem abandon_upon (records : List TransactionRecord) (failure : Failure) :
    (engine.upon ((records.map (·.id)).foldl Ledger.rollback engine.ledger)).abandon
      (records.map (·.retired)) failure = engine.giveUpAll records failure := by
  unfold abandon giveUpAll
  induction records generalizing engine with
  | nil => rfl
  | cons record rest ih =>
    simp only [List.map_cons, List.foldl_cons, sweep_cons]
    have next : (engine.giveUp record failure).1 =
        (engine.conclude record (.error failure)).1.upon
          (engine.ledger.rollback record.id) := by
      rw [giveUp, conclude_failed_upon]
      rfl
    have told : (engine.giveUp record failure).2 =
        (engine.conclude record (.error failure)).2 := by
      rw [giveUp, conclude_failed_upon]
      rfl
    rw [conclude_retired, conclude_failed_upon, ← ih, next, told]
    rfl

/-- **A batch may as well be given up one record at a time**, each leaving the ledger just before it
is concluded. -/
theorem abandon_drained (filed : engine.ledger.WellFiled) (condition : TransactionRecord → Bool)
    (failure : Failure) :
    (engine.upon (engine.ledger.drainWhere condition).2).abandon
      (engine.ledger.drainWhere condition).1 failure =
        engine.giveUpAll (engine.ledger.records.filter condition) failure := by
  rw [filed.drainWhere_snd_eq, Ledger.map_id_drainWhere, Ledger.drainWhere_fst, abandon_upon]

/-- Two sweeps that react alike to every item are one. -/
theorem sweep_congr {α : Type} {items : List α} {react react' : Engine → α → Reaction}
    (alike : ∀ item ∈ items, ∀ engine, react engine item = react' engine item) :
    engine.sweep items react = engine.sweep items react' := by
  induction items generalizing engine with
  | nil => rfl
  | cons item rest ih =>
    rw [sweep_cons, sweep_cons, alike item (by simp),
      ih _ fun other member => alike other (List.mem_cons_of_mem _ member)]

/-- What a teardown gives up first: the commands about sessions and data paths. -/
def abandonSessionsAndPaths : Reaction :=
  engine.giveUpAll (engine.ledger.records.filter (·.context.isSessionOrPath)) .aborted

/-- A teardown gives up the commands about sessions and data paths, then ends the sessions and the
paths that are left. -/
theorem teardown_eq (filed : engine.ledger.WellFiled)
    (byItself : ∀ {id record}, engine.ledger.get? id = some record →
      record.context.isSessionOrPath = true → record.kind ≠ .disable)
    (reason : TerminationReason) :
    engine.teardown reason =
      let settled := engine.abandonSessionsAndPaths
      ({ settled.1 with
          sessions := settled.1.sessions.terminateAll.2
          paths := settled.1.paths.terminateAll.2 },
        settled.2 ++
          settled.1.sessions.terminateAll.1.map
            (fun entry => .sessionTerminated entry.1 entry.2 reason) ++
          settled.1.paths.terminateAll.1.map fun path => .dataPathTerminated path reason) := by
  have swept : (engine.upon (engine.ledger.drainWhere (·.context.isSessionOrPath)).2).sweep
      (engine.ledger.drainWhere (·.context.isSessionOrPath)).1
      (fun engine record => engine.concludeByItself record (.error .aborted)) =
        engine.abandonSessionsAndPaths := by
    rw [abandonSessionsAndPaths, ← engine.abandon_drained filed, abandon]
    refine sweep_congr _ fun record member engine' => (conclude_eq_concludeByItself ?_ _).symm
    rw [Ledger.drainWhere_fst, List.mem_map] at member
    obtain ⟨onFile, member, rfl⟩ := member
    obtain ⟨there, about⟩ := List.mem_filter.mp member
    obtain ⟨id, found⟩ := engine.ledger.mem_records.mp there
    have notDisable : onFile.kind ≠ .disable := byItself found about
    exact notDisable
  rw [← swept]
  rfl

end Engine

end NanHost
