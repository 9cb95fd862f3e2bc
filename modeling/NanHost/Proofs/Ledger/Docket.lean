import NanHost.Proofs.Ledger.Filing

/-!
# Dockets — the commands that are out about one subject

The engine keeps four tables: the interface, the data interfaces, the sessions and the data paths.
Every command is about one of them, and each table has to agree with the commands that are out
about it, whatever else is out. So the ledger is cut into four **dockets**, one for each subject,
and a table is compared with its own docket alone.

## What is proved

- `Ledger.docket_rollback` and `Ledger.docket_file`: a command that leaves or enters changes one
  docket, its own, and by that command only. The three other tables have nothing to prove.
- `Commission` lists which kind of command is issued about what, and on whose behalf;
  `Engine.vet` issues no other (`NanHost.Proofs.Engine.Admission`). A record on file is of one of
  these twelve forms, which is what every case split on a record goes by.
-/

namespace NanHost

/-! ## Subjects -/

/-- The table that a command is about. -/
inductive Subject where
  | interface
  | dataInterfaces
  | sessions
  | paths
  deriving DecidableEq

/-- The table that a command of this context is about. -/
def PendingContext.subject : PendingContext → Subject
  | interface => .interface
  | dataInterface _ => .dataInterfaces
  | newSession _ | session _ => .sessions
  | newDataPath | dataPath _ => .paths

theorem PendingContext.isSessionOrPath_iff (context : PendingContext) :
    context.isSessionOrPath = true ↔ context.subject = .sessions ∨ context.subject = .paths := by
  cases context <;> simp [isSessionOrPath, subject]

/-! ## Dockets -/

/-- The commands that are out about one subject, by their numbers. -/
abbrev Docket := TransactionId → Option TransactionRecord

namespace Docket

/-- The docket after a command was entered. -/
def enter (docket : Docket) (record : TransactionRecord) : Docket :=
  fun id => if id = record.id then some record else docket id

/-- The docket after the command of a number was struck off. -/
def strike (docket : Docket) (id : TransactionId) : Docket :=
  fun other => if other = id then none else docket other

variable {docket : Docket} {record other : TransactionRecord} {id : TransactionId}

/-- Striking off what is not there changes nothing. -/
theorem strike_of_eq_none (absent : docket id = none) : docket.strike id = docket := by
  funext other
  unfold strike
  split
  next same => rw [same, absent]
  next => rfl

theorem strike_eq_some {number : TransactionId} :
    docket.strike id number = some record ↔ number ≠ id ∧ docket number = some record := by
  unfold strike
  split <;> simp_all

/-- After a command was entered, the docket holds it and what it held before. -/
theorem enter_eq_some (fresh : docket other.id = none) :
    docket.enter other id = some record ↔
      (id = other.id ∧ record = other) ∨ docket id = some record := by
  unfold enter
  split
  next same =>
    subst same
    simp only [Option.some.injEq, true_and, fresh, reduceCtorEq, or_false]
    exact eq_comm
  next differ => simp [differ]

/-- Two dockets hold the same commands of a context. -/
def SameAbout (context : PendingContext) (before after : Docket) : Prop :=
  ∀ {id record}, record.context = context → (after id = some record ↔ before id = some record)

theorem SameAbout.refl (context : PendingContext) (docket : Docket) :
    SameAbout context docket docket :=
  fun _ => Iff.rfl

/-- Striking a command off concerns no other context than its own. -/
theorem sameAbout_strike {context : PendingContext} (out : docket id = some record)
    (elsewhere : record.context ≠ context) : SameAbout context docket (docket.strike id) := by
  intro number other about
  rw [strike_eq_some]
  refine ⟨And.right, fun there => ⟨?_, there⟩⟩
  rintro rfl
  obtain rfl := Option.some.inj (out.symm.trans there)
  exact elsewhere about

/-- Entering a command concerns no other context than its own. -/
theorem sameAbout_enter {context : PendingContext} (fresh : docket other.id = none)
    (elsewhere : other.context ≠ context) : SameAbout context docket (docket.enter other) := by
  intro number record about
  rw [enter_eq_some fresh]
  refine ⟨fun there => there.resolve_left ?_, .inr⟩
  rintro ⟨_, rfl⟩
  exact elsewhere about

end Docket

namespace Ledger

variable {ledger : Ledger} {record : TransactionRecord} {id : TransactionId} {subject : Subject}

/-- The commands that are out about a subject. -/
def docket (ledger : Ledger) (subject : Subject) : Docket :=
  fun id => (ledger.get? id).filter fun record => record.context.subject = subject

theorem docket_eq_some :
    ledger.docket subject id = some record ↔
      ledger.get? id = some record ∧ record.context.subject = subject := by
  simp only [docket, Option.filter_eq_some_iff, decide_eq_true_eq]

theorem docket_eq_none_of_get? (absent : ledger.get? id = none) :
    ledger.docket subject id = none := by
  simp only [docket, absent, Option.filter_none]

/-- A command is on no docket but that of its own subject. -/
theorem docket_eq_none_of_subject (onFile : ledger.get? id = some record)
    (elsewhere : record.context.subject ≠ subject) : ledger.docket subject id = none := by
  simp only [docket, onFile, Option.filter_some, elsewhere, decide_false, Bool.false_eq_true,
    ↓reduceIte]

/-- **A command that leaves is struck off its docket.** -/
theorem docket_rollback (ledger : Ledger) (id : TransactionId) (subject : Subject) :
    (ledger.rollback id).docket subject = (ledger.docket subject).strike id := by
  funext other
  simp only [docket, get?_rollback, Docket.strike]
  split <;> rfl

/-- The dockets of other subjects are as they were. -/
theorem docket_rollback_of_subject (onFile : ledger.get? id = some record)
    (elsewhere : record.context.subject ≠ subject) :
    (ledger.rollback id).docket subject = ledger.docket subject := by
  rw [docket_rollback, Docket.strike_of_eq_none (docket_eq_none_of_subject onFile elsewhere)]

/-- **A command that is filed is entered into its docket.** -/
theorem docket_file (ledger : Ledger) (about : record.context.subject = subject) :
    (ledger.file record).docket subject = (ledger.docket subject).enter record := by
  funext other
  simp only [docket, get?_file, Docket.enter]
  split
  · simp [about]
  · rfl

/-- The dockets of other subjects are as they were. -/
theorem docket_file_of_subject (fresh : ledger.get? record.id = none)
    (elsewhere : record.context.subject ≠ subject) :
    (ledger.file record).docket subject = ledger.docket subject := by
  funext other
  simp only [docket, get?_file]
  split
  next same => simp [same, fresh, elsewhere]
  next => rfl

/-- A docket that holds none of those who leave is as it was. -/
theorem docket_drainWhere_of_stays {condition : TransactionRecord → Bool}
    (stays : ∀ {id record}, ledger.docket subject id = some record → condition record = false) :
    (ledger.drainWhere condition).2.docket subject = ledger.docket subject := by
  funext id
  have narrowed : (ledger.drainWhere condition).2.docket subject id =
      (ledger.docket subject id).filter fun record => !condition record := by
    simp only [docket, get?_drainWhere, Option.filter_filter, Bool.and_comm]
  rw [narrowed]
  cases out : ledger.docket subject id with
  | none => rfl
  | some record => exact Option.filter_some_pos (by simp [stays out])

/-- Nothing on file that was to leave is on a docket afterwards. -/
theorem docket_drainWhere_eq_some {condition : TransactionRecord → Bool} :
    (ledger.drainWhere condition).2.docket subject id = some record ↔
      ledger.docket subject id = some record ∧ condition record = false := by
  rw [docket_eq_some, docket_eq_some, get?_drainWhere, Option.filter_eq_some_iff]
  simp only [Bool.not_eq_true', and_right_comm]

theorem docket_new (capacity timeoutMs : UInt64) (subject : Subject) :
    (new capacity timeoutMs).docket subject = fun _ => none := by
  funext id
  exact docket_eq_none_of_get? (get?_new capacity timeoutMs id)

end Ledger

/-! ## Commissions -/

/-- Which kind of command is issued, about what, and on whose behalf. The engine issues nothing of
its own accord but answers to peers. -/
inductive Commission : CommandKind → PendingContext → Origin → Prop
  | capabilities : Commission .capabilities .interface .caller
  | configure : Commission .configure .interface .caller
  | disable : Commission .disable .interface .caller
  | start (role : SessionRole) : Commission role.startKind (.newSession role) .caller
  | update (role : SessionRole) (id : SessionId) :
    Commission role.startKind (.session id) .caller
  | message (id : SessionId) : Commission .sendMessage (.session id) .caller
  | stop (role : SessionRole) (id : SessionId) : Commission role.stopKind (.session id) .caller
  | create (name : String) : Commission .createInterface (.dataInterface name) .caller
  | delete (name : String) : Commission .deleteInterface (.dataInterface name) .caller
  | initiate : Commission .initiateDataPath .newDataPath .caller
  | respond (id : DataPathId) (origin : Origin) :
    Commission .respondDataPath (.dataPath id) origin
  | close (id : DataPathId) : Commission .endDataPath (.dataPath id) .caller

namespace Commission

variable {kind : CommandKind} {context : PendingContext} {origin : Origin}

/-- The commands about the interface are those of three kinds. -/
theorem interface_iff (commission : Commission kind context origin) :
    context = .interface ↔ kind = .capabilities ∨ kind = .configure ∨ kind = .disable := by
  cases commission with
  | start role | update role | stop role =>
    cases role <;> simp [SessionRole.startKind, SessionRole.stopKind]
  | _ => simp

/-- A caller asked for every command but for some of the answers to peers. -/
theorem caller_of_ne (commission : Commission kind context origin)
    (notAnswer : ∀ path, context ≠ .dataPath path) : origin = .caller := by
  cases commission with
  | respond path => exact absurd rfl (notAnswer path)
  | _ => rfl

end Commission

/-- Whether a record is of a command that the engine issues. -/
def TransactionRecord.Commissioned (record : TransactionRecord) : Prop :=
  Commission record.kind record.context record.origin

end NanHost
