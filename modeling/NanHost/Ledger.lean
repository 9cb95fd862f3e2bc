import NanHost.Failure
import NanHost.Rejection
import NanHost.Timestamp

/-!
# The ledger of transactions

Every command that is out with the firmware has a record here, filed under the number by which the
firmware will answer it. A record leaves the ledger once: its answer arrives (`resolve`), its time
is up (`expire`), what it was for is gone (`drainWhere`), or the way to the firmware refused it
(`rollback`).

Numbers are handed out in cyclic order, zero and the numbers on file left out, so that a number
just retired comes up again as late as possible. Records that leave together leave in the order in
which they were issued, which their sequence numbers keep.
-/

namespace NanHost

/-- What a command is about, and so what its end will be applied to. -/
inductive PendingContext where
  | interface
  | newSession (role : SessionRole)
  | session (id : SessionId)
  | dataInterface (name : String)
  | newDataPath
  | dataPath (id : DataPathId)
  deriving DecidableEq

/-- Whether the command is about a session or a data path, present or to come. Such commands do not
outlive the interface being up. -/
def PendingContext.isSessionOrPath : PendingContext → Bool
  | newSession _ | session _ | newDataPath | dataPath _ => true
  | interface | dataInterface _ => false

/-- On whose behalf a command was issued. -/
inductive Origin where
  /-- A caller asked for it, and will be told how it ends. -/
  | caller
  /-- The engine issued it of its own accord. -/
  | engine
  deriving DecidableEq

/-- A command that is out with the firmware. -/
structure TransactionRecord where
  id : TransactionId
  kind : CommandKind
  issuedAt : Timestamp
  deadline : Timestamp
  /-- Whether the record is still on file; cleared when it leaves. -/
  awaitingCompletion : Bool
  /-- The place of the command among all that were ever issued. -/
  sequence : UInt64
  context : PendingContext
  origin : Origin
  deriving DecidableEq

namespace TransactionRecord

/-- The record as it leaves the ledger. -/
def retired (record : TransactionRecord) : TransactionRecord :=
  { record with awaitingCompletion := false }

/-- Records in the order in which they were issued. -/
def inOrderOfIssue (records : List TransactionRecord) : List TransactionRecord :=
  records.mergeSort fun a b => a.sequence ≤ b.sequence

end TransactionRecord

/-- The commands that are out with the firmware. -/
structure Ledger where
  pending : Std.ExtTreeMap TransactionId TransactionRecord
  /-- Where the search for the next number starts. -/
  nextId : UInt16
  nextSequence : UInt64
  /-- How many records may be on file at once. -/
  capacity : Nat
  timeoutMs : UInt64
  deriving DecidableEq

namespace Ledger

/-- How many transaction numbers there are: all of sixteen bits except zero. -/
def idCount : Nat := 65535

/-- An empty ledger. The capacity is brought into the range from one to the number of numbers. -/
def new (capacity timeoutMs : UInt64) : Ledger where
  pending := ∅
  nextId := 1
  nextSequence := 0
  capacity := max 1 (min capacity.toNat idCount)
  timeoutMs := timeoutMs

/-- How many records are on file. -/
def size (ledger : Ledger) : Nat := ledger.pending.size

/-- Whether no record is on file. -/
def isEmpty (ledger : Ledger) : Bool := ledger.pending.isEmpty

/-- The record on file under a number. -/
def get? (ledger : Ledger) (id : TransactionId) : Option TransactionRecord := ledger.pending[id]?

/-- Whether a record is on file under the number. -/
def isPending (ledger : Ledger) (id : TransactionId) : Bool := ledger.pending.contains id

/-- All records on file, in the order in which they were issued. -/
def records (ledger : Ledger) : List TransactionRecord :=
  TransactionRecord.inOrderOfIssue (ledger.pending.toList.map (·.2))

/-- Whether a number may be handed out: it is not zero and not on file. -/
def isFree (ledger : Ledger) (raw : UInt16) : Bool :=
  raw ≠ 0 && !ledger.pending.contains ⟨raw⟩

/-- The first free number among the `count` numbers from `raw` on, in cyclic order. -/
def searchFree (ledger : Ledger) : Nat → UInt16 → UInt16
  | 0, raw => raw
  | count + 1, raw => if ledger.isFree raw then raw else ledger.searchFree count (raw + 1)

/-- The next number to hand out. One lap around all sixteen-bit numbers finds it whenever the
ledger is not full. -/
def nextFree (ledger : Ledger) : UInt16 := ledger.searchFree (idCount + 1) ledger.nextId

/-- The record of a command that is about to be filed under the next free number. -/
def newRecord (ledger : Ledger) (kind : CommandKind) (context : PendingContext) (origin : Origin)
    (now : Timestamp) : TransactionRecord where
  id := ⟨ledger.nextFree⟩
  kind := kind
  issuedAt := now
  deadline := now.addMillis ledger.timeoutMs
  awaitingCompletion := true
  sequence := ledger.nextSequence
  context := context
  origin := origin

/-- Puts a record on file. The next search starts behind its number. -/
def file (ledger : Ledger) (record : TransactionRecord) : Ledger :=
  { ledger with
    pending := ledger.pending.insert record.id record
    nextId := record.id.raw + 1
    nextSequence := ledger.nextSequence + 1 }

/-- Files a command and hands out its number, unless the ledger is full. -/
def allocate (ledger : Ledger) (kind : CommandKind) (context : PendingContext) (origin : Origin)
    (now : Timestamp) : Except Rejection (TransactionId × Ledger) :=
  if ledger.capacity ≤ ledger.size then
    .error (.exhaustedIdSpace ledger.size)
  else
    let record := ledger.newRecord kind context origin now
    .ok (record.id, ledger.file record)

/-- Forgets a command that never reached the firmware. Its number and its place are not given
back. -/
def rollback (ledger : Ledger) (id : TransactionId) : Ledger :=
  { ledger with pending := ledger.pending.erase id }

/-- Takes out the record that an answer is for. -/
def resolve (ledger : Ledger) (id : TransactionId) :
    Except StaleTransaction (TransactionRecord × Ledger) :=
  match ledger.pending[id]? with
  | some record => .ok (record.retired, ledger.rollback id)
  | none => .error ⟨id⟩

/-- Takes out every record that satisfies the condition, in the order of issue. -/
def drainWhere (ledger : Ledger) (condition : TransactionRecord → Bool) :
    List TransactionRecord × Ledger :=
  let leaving := ledger.pending.toList.filter fun row => condition row.2
  (TransactionRecord.inOrderOfIssue (leaving.map fun row => row.2.retired),
    leaving.foldl (fun rest row => rest.rollback row.1) ledger)

/-- Takes out every record whose deadline has come. -/
def expire (ledger : Ledger) (now : Timestamp) : List TransactionRecord × Ledger :=
  ledger.drainWhere fun record => record.deadline ≤ now

/-- Takes out every record. -/
def drainAll (ledger : Ledger) : List TransactionRecord × Ledger :=
  ledger.drainWhere fun _ => true

end Ledger

end NanHost
