import NanHost.Proofs.Agreement.Interfaces
import NanHost.Proofs.Agreement.Paths
import NanHost.Proofs.Agreement.Sessions
import NanHost.Proofs.Engine.Retirement

/-!
# Coherence — the tables agree with the ledger

An engine is *coherent* if its ledger is well filed, every record on file is of a form in which
commands are issued, and each of the four tables agrees with the commands that are out about it.

## What is proved

Three kinds of change keep an engine coherent: a command leaves and its own table settles it
(`Coherent.leave`), a command is filed and its own table takes it on (`Coherent.join`), or an event
changes tables and no command leaves or joins (`Coherent.touch`). In each the other tables are as
they were, and that is all there is to say about them (`agrees_withTable_of_ne`).
-/

namespace NanHost

/-- A record that can be put on file: under a number that is free, and of a form in which commands
are issued. -/
structure Ledger.Fileable (ledger : Ledger) (record : TransactionRecord) : Prop where
  fresh : ledger.get? record.id = none
  nonzero : record.id.raw ≠ 0
  awaiting : record.awaitingCompletion = true
  commissioned : record.Commissioned

namespace Engine

variable {engine next : Engine} {record : TransactionRecord} {id : TransactionId}

/-- The table of a subject agrees with the docket. -/
def Agrees (engine : Engine) : Subject → Docket → Prop
  | .interface, docket => engine.interface.Agrees docket
  | .dataInterfaces, docket => engine.dataInterfaces.Agrees docket
  | .sessions, docket => engine.sessions.Agrees docket
  | .paths, docket => engine.paths.Agrees docket

/-- The tables agree with the ledger. -/
structure Coherent (engine : Engine) : Prop where
  filed : engine.ledger.WellFiled
  commissioned : ∀ {id record}, engine.ledger.get? id = some record → record.Commissioned
  agrees : ∀ subject, engine.Agrees subject (engine.ledger.docket subject)

namespace Coherent

/-- A fresh engine is coherent. -/
theorem new (config : EngineConfig) : (Engine.new config).Coherent where
  filed := Ledger.wellFiled_new _ _
  commissioned onFile := by simp [Engine.new] at onFile
  agrees subject := by
    have idle := Ledger.docket_new config.maxPendingTransactions config.transactionTimeoutMs subject
    have none (txn : TransactionId) : (Engine.new config).ledger.docket subject txn = none := by
      simp only [Engine.new, idle]
    cases subject with
    | interface => exact .down fun out => by simp [none] at out
    | dataInterfaces => exact .empty none
    | sessions => exact .empty none
    | paths => exact .new _ none

/-- **A command has left, and its table has settled it.** -/
theorem leave (coherent : engine.Coherent) (onFile : engine.ledger.get? id = some record)
    (ledger : next.ledger = engine.ledger.rollback id)
    (settled : next.Agrees record.context.subject
      ((engine.ledger.docket record.context.subject).strike id))
    (others : ∀ subject, record.context.subject ≠ subject → next.Agrees subject =
      engine.Agrees subject) : next.Coherent where
  filed := ledger ▸ coherent.filed.rollback id
  commissioned onFile' := by
    rw [ledger, Ledger.get?_rollback] at onFile'
    split at onFile'
    · cases onFile'
    · exact coherent.commissioned onFile'
  agrees subject := by
    rw [ledger]
    by_cases own : record.context.subject = subject
    · rw [Ledger.docket_rollback, ← own]
      exact settled
    · rw [Ledger.docket_rollback_of_subject onFile own, others subject own]
      exact coherent.agrees subject

/-- **A command has been filed, and its table has taken it on.** -/
theorem join (coherent : engine.Coherent) (fileable : engine.ledger.Fileable record)
    (ledger : next.ledger = engine.ledger.file record)
    (engaged : next.Agrees record.context.subject
      ((engine.ledger.docket record.context.subject).enter record))
    (others : ∀ subject, record.context.subject ≠ subject → next.Agrees subject =
      engine.Agrees subject) : next.Coherent where
  filed := ledger ▸ coherent.filed.file fileable.awaiting fileable.nonzero
  commissioned onFile := by
    rw [ledger] at onFile
    rcases Ledger.cases_file onFile with ⟨_, rfl⟩ | before
    · exact fileable.commissioned
    · exact coherent.commissioned before
  agrees subject := by
    rw [ledger]
    by_cases own : record.context.subject = subject
    · rw [Ledger.docket_file engine.ledger own]
      subst own
      exact engaged
    · rw [Ledger.docket_file_of_subject fileable.fresh own, others subject own]
      exact coherent.agrees subject

/-- A ledger that has the same records on file is as good. -/
theorem refile (coherent : engine.Coherent) {ledger : Ledger}
    (same : ledger.pending = engine.ledger.pending)
    (capacity : ledger.capacity = engine.ledger.capacity) : (engine.upon ledger).Coherent where
  filed := coherent.filed.mono (fun onFile => by rwa [Ledger.get?, ← same]) capacity
  commissioned onFile := coherent.commissioned (by rwa [Ledger.get?, ← same])
  agrees subject := by
    have docket : ledger.docket subject = engine.ledger.docket subject := by
      unfold Ledger.docket Ledger.get?
      rw [same]
    rw [ledger_upon, docket]
    cases subject with
    | interface => exact coherent.agrees .interface
    | dataInterfaces => exact coherent.agrees .dataInterfaces
    | sessions => exact coherent.agrees .sessions
    | paths => exact coherent.agrees .paths

/-- **An event has changed tables**, each of which still agrees with what is out. -/
theorem touch (coherent : engine.Coherent) (ledger : next.ledger = engine.ledger)
    (agrees : ∀ subject, next.Agrees subject (engine.ledger.docket subject)) :
    next.Coherent where
  filed := ledger ▸ coherent.filed
  commissioned onFile := coherent.commissioned (ledger ▸ onFile)
  agrees subject := ledger ▸ agrees subject

end Coherent

/-! ## One table at a time -/

/-- The table that is kept about a subject. -/
abbrev Table : Subject → Type
  | .interface => Interface
  | .dataInterfaces => DataInterfaceTable
  | .sessions => SessionRegistry
  | .paths => DataPathTable

/-- The engine with another table about a subject. -/
def withTable (engine : Engine) : (subject : Subject) → Table subject → Engine
  | .interface, table => { engine with interface := table }
  | .dataInterfaces, table => { engine with dataInterfaces := table }
  | .sessions, table => { engine with sessions := table }
  | .paths, table => { engine with paths := table }

theorem ledger_withTable (engine : Engine) (subject : Subject) (table : Table subject) :
    (engine.withTable subject table).ledger = engine.ledger := by
  cases subject <;> rfl

/-- The table of a subject does not depend on what else there is. -/
theorem agrees_withTable (engine next : Engine) (subject : Subject) (table : Table subject) :
    (engine.withTable subject table).Agrees subject =
      (next.withTable subject table).Agrees subject := by
  cases subject <;> rfl

/-- The other tables are as they were. -/
theorem agrees_withTable_of_ne (engine : Engine) {subject other : Subject} (apart : subject ≠ other)
    (table : Table subject) :
    (engine.withTable subject table).Agrees other = engine.Agrees other := by
  cases subject <;> cases other <;> first | rfl | contradiction

namespace Coherent

variable (subject : Subject) {table : Table subject}

/-- A command has left, and only its own table has changed. -/
theorem leaveTable (coherent : engine.Coherent) (onFile : engine.ledger.get? id = some record)
    (about : record.context.subject = subject)
    (settled : (engine.withTable subject table).Agrees subject
      ((engine.ledger.docket subject).strike id)) :
    ((engine.upon (engine.ledger.rollback id)).withTable subject table).Coherent := by
  subst about
  apply coherent.leave onFile (ledger_withTable _ _ _)
  · rw [agrees_withTable _ engine]
    exact settled
  · intro other apart
    exact agrees_withTable_of_ne _ apart table

/-- A command has been filed, and only its own table has changed. -/
theorem joinTable (coherent : engine.Coherent) (fileable : engine.ledger.Fileable record)
    (about : record.context.subject = subject)
    (engaged : (engine.withTable subject table).Agrees subject
      ((engine.ledger.docket subject).enter record)) :
    ((engine.upon (engine.ledger.file record)).withTable subject table).Coherent := by
  subst about
  apply coherent.join fileable (ledger_withTable _ _ _)
  · rw [agrees_withTable _ engine]
    exact engaged
  · intro other apart
    exact agrees_withTable_of_ne _ apart table

/-- An event has changed one table. -/
theorem touchTable (coherent : engine.Coherent)
    (agrees : (engine.withTable subject table).Agrees subject (engine.ledger.docket subject)) :
    (engine.withTable subject table).Coherent := by
  apply coherent.touch (ledger_withTable _ _ _)
  intro other
  by_cases own : subject = other
  · subst own
    exact agrees
  · rw [agrees_withTable_of_ne engine own]
    exact coherent.agrees other

end Coherent

end Engine

end NanHost
