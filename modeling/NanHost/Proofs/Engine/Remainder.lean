import NanHost.Proofs.Engine.Teardown

/-!
# Remainders — a reaction files no command

Commands are filed by requests and by the refusal of peers, which are the host's. An engine that
reacts lets commands leave: what is on file afterwards is what was on file before, less those that
left, each as it was.

## What is proved

`Coherent.handle_keeps`, `Coherent.expireTransactions_keeps` and `Coherent.shutdown_keeps`. For what
callers are owed, it is enough that their commands on file are none but those that were there
(`Ledger.NothingNew`).
-/

namespace NanHost

/-- What callers have on file afterwards was on file before. -/
def Ledger.NothingNew (before after : Ledger) : Prop :=
  ∀ txn record, after.get? txn = some record → record.origin = .caller →
    before.get? txn = some record

namespace Ledger.NothingNew

variable {first second third : Ledger}

theorem refl (ledger : Ledger) : ledger.NothingNew ledger :=
  fun _ _ onFile _ => onFile

theorem trans (before : first.NothingNew second) (after : second.NothingNew third) :
    first.NothingNew third :=
  fun txn record onFile origin => before txn record (after txn record onFile origin) origin

/-- A ledger that some commands have left. -/
theorem of_keeps (keeps : ∃ condition, second = first.keep condition) :
    first.NothingNew second := by
  obtain ⟨condition, rfl⟩ := keeps
  intro txn record onFile _
  rw [get?_keep, Option.filter_eq_some_iff] at onFile
  exact onFile.1

/-- A ledger with the same commands on file. -/
theorem of_pending (same : second.pending = first.pending) : first.NothingNew second := by
  intro txn record onFile _
  unfold get? at onFile ⊢
  rw [← same]
  exact onFile

end Ledger.NothingNew

namespace Engine

variable {engine : Engine}

namespace Coherent

/-- A batch that is given up leaves the ledger to the others. -/
theorem giveUpAll_keeps (coherent : engine.Coherent) (condition : TransactionRecord → Bool)
    (failure : Failure) :
    (engine.giveUpAll (engine.ledger.records.filter condition) failure).1.ledger =
      engine.ledger.keep (!condition ·) := by
  rw [ledger_giveUpAll, ← Ledger.map_id_drainWhere, ← coherent.filed.drainWhere_snd_eq,
    Ledger.drainWhere_snd_eq_keep]

theorem expireTransactions_keeps (coherent : engine.Coherent) (now : Timestamp) :
    ∃ condition, (engine.expireTransactions now).2.1.ledger = engine.ledger.keep condition := by
  rw [expireTransactions_eq coherent.filed]
  exact ⟨_, coherent.giveUpAll_keeps _ .timeout⟩

theorem shutdown_keeps (coherent : engine.Coherent) :
    ∃ condition, engine.shutdown.1.ledger = engine.ledger.keep condition := by
  have all := coherent.giveUpAll_keeps (fun _ => true) .aborted
  rw [List.filter_eq_self.mpr fun _ _ => rfl, ← shutdown_eq coherent.filed] at all
  exact ⟨_, all⟩

/-- The answer to a command takes it off, and with it what it tears down. -/
theorem onCompleted_drops (coherent : engine.Coherent) (id : TransactionId)
    (outcome : Except FirmwareStatus AnswerPayload) :
    ∃ condition, (engine.onCompleted id outcome).1.ledger = engine.ledger.keep condition ∧
      ∀ record, engine.ledger.get? id = some record → condition record = false := by
  cases onFile : engine.ledger.get? id with
  | none =>
    refine ⟨fun _ => true, ?_, nofun⟩
    rw [Ledger.keep_true, onCompleted_of_absent onFile]
    rfl
  | some record =>
    have own : record.id = id := coherent.filed.own onFile
    by_cases torn : record.kind = .disable ∧ ∃ payload, outcome = .ok payload
    · obtain ⟨disable, payload, rfl⟩ := torn
      rw [coherent.onCompleted_disable onFile disable payload]
      exact ⟨_, rfl, fun other same => by simp [← Option.some.inj same, own]⟩
    · refine ⟨(·.id ≠ id), ?_, fun other same => by simp [← Option.some.inj same, own]⟩
      rw [← coherent.filed.rollback_eq_keep, onCompleted_of_onFile onFile]
      cases origin : record.origin with
      | engine => rw [conclude_engine origin, ledger_strikeOff, ledger_upon]
      | caller =>
        rw [conclude_caller origin, ledger_announce]
        by_cases disable : record.kind = .disable
        · cases outcome with
          | ok payload => exact absurd ⟨disable, payload, rfl⟩ torn
          | error status =>
            rw [settle_disable disable]
            show ((engine.upon _).settleDisable (.error _)).engine.ledger = _
            rw [settleDisable_failed]
            rfl
        · rw [settle_eq_settleByItself disable, ledger_settleByItself, ledger_upon]

theorem onCompleted_keeps (coherent : engine.Coherent) (id : TransactionId)
    (outcome : Except FirmwareStatus AnswerPayload) :
    ∃ condition, (engine.onCompleted id outcome).1.ledger = engine.ledger.keep condition := by
  obtain ⟨condition, kept, _⟩ := coherent.onCompleted_drops id outcome
  exact ⟨condition, kept⟩

/-- So once a command was answered it is not on file. -/
theorem get?_onCompleted (coherent : engine.Coherent) (id : TransactionId)
    (outcome : Except FirmwareStatus AnswerPayload) :
    (engine.onCompleted id outcome).1.ledger.get? id = none := by
  obtain ⟨condition, kept, drops⟩ := coherent.onCompleted_drops id outcome
  rw [kept, Ledger.get?_keep, Option.filter_eq_none_iff]
  intro record onFile
  simp [drops record onFile]

/-- **A report of the firmware files no command.** -/
theorem handle_keeps (coherent : engine.Coherent) (now : Timestamp) (event : FirmwareEvent) :
    ∃ condition, (engine.handle now event).1.ledger = engine.ledger.keep condition := by
  have untouched {next : Engine} (same : next.ledger = engine.ledger) :
      ∃ condition, next.ledger = engine.ledger.keep condition :=
    ⟨fun _ => true, by rw [same, Ledger.keep_true]⟩
  cases event with
  | commandCompleted id outcome => exact coherent.onCompleted_keeps id outcome
  | interfaceDown status =>
    by_cases down : engine.interface.phase = .disabled
    · refine untouched ?_
      show (engine.onInterfaceDown status).1.ledger = _
      rw [coherent.onInterfaceDown_of_down down]
      rfl
    · show ∃ condition, (engine.onInterfaceDown status).1.ledger = _
      rw [coherent.onInterfaceDown_exact down]
      exact ⟨_, rfl⟩
  | dataPathRequested path peer address appInfo =>
    refine untouched ?_
    show (engine.onPathRequested path peer address appInfo now).1.ledger = _
    unfold Engine.onPathRequested
    split <;> rfl
  | _ => exact untouched rfl

end Coherent

end Engine

end NanHost
