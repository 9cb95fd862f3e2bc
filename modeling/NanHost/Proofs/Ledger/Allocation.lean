import NanHost.Proofs.Ledger.Operations

/-!
# Allocation — how the next number is found, up to the last one

The search for a number has no bound of its own. It goes from number to number, past zero and past the
numbers on file, and behind the last number it starts again from zero. It ends because there are more
numbers than records: zero is never on file, so a ledger with room has a free number somewhere on the
lap.

## What is proved

The search is stated as it goes (`Finds`), without a count of rounds. It has at most one end
(`Finds.unique`), which is the first free number in cyclic order (`Finds.first`), and in a ledger with
room it gets there (`WellFiled.finds`).

`run_allocates` collects what holds after any sequence of calls on a new ledger, whatever was asked
for: the records are in order, a command is turned away exactly if the ledger holds as many as it may,
and any other command is filed under the number that the search finds.
-/

namespace NanHost

namespace Ledger

variable {ledger : Ledger} {raw last other : UInt16}

/-! ## The search -/

/-- Whether the search goes past a number: it is zero, or a record is on file under it. -/
def Taken (ledger : Ledger) (raw : UInt16) : Prop :=
  raw = 0 ∨ (ledger.get? ⟨raw⟩).isSome = true

/-- A search that starts from a number ends at `last`. -/
inductive Finds (ledger : Ledger) (last : UInt16) : UInt16 → Prop
  /-- It ends at a number that may be handed out. -/
  | here (free : ¬ledger.Taken last) : Finds ledger last last
  /-- It goes on behind one that may not. -/
  | passed {raw : UInt16} (taken : ledger.Taken raw) (rest : Finds ledger last (raw + 1)) :
    Finds ledger last raw

theorem not_taken_iff : ¬ledger.Taken raw ↔ raw ≠ 0 ∧ ledger.get? ⟨raw⟩ = none := by
  unfold Taken
  rw [not_or, Option.not_isSome_iff_eq_none]

theorem isFree_eq_true_iff : ledger.isFree raw = true ↔ ¬ledger.Taken raw := by
  rw [isFree_iff, not_taken_iff]

/-- A search that ends within its rounds has gone the way of the search without bound. -/
theorem finds_searchFree (count : Nat) (raw : UInt16)
    (free : ledger.isFree (ledger.searchFree count raw) = true) :
    ledger.Finds (ledger.searchFree count raw) raw := by
  induction count generalizing raw with
  | zero => exact .here (isFree_eq_true_iff.mp free)
  | succ count ih =>
    rw [searchFree] at free ⊢
    by_cases here : ledger.isFree raw = true
    · rw [if_pos here]
      exact .here (isFree_eq_true_iff.mp here)
    · rw [if_neg here] at free ⊢
      apply Finds.passed
      · apply Classical.byContradiction
        intro notTaken
        exact here (isFree_eq_true_iff.mpr notTaken)
      · exact ih (raw + 1) free

/-- A search has one end only. -/
theorem Finds.unique (finds : ledger.Finds last raw) (finds' : ledger.Finds other raw) :
    other = last := by
  induction finds with
  | here free =>
    cases finds' with
    | here => rfl
    | passed taken => exact absurd taken free
  | passed taken _ ih =>
    cases finds' with
    | here free => exact absurd taken free
    | passed _ rest => exact ih rest

/-- **The end of a search is the first free number** at or behind its start: all that lie between
are taken. -/
theorem Finds.first (finds : ledger.Finds last raw) :
    ∃ k, last = raw + UInt16.ofNat k ∧ ∀ j < k, ledger.Taken (raw + UInt16.ofNat j) := by
  induction finds with
  | here free =>
    refine ⟨0, (UInt16.add_zero last).symm, ?_⟩
    intro j below
    omega
  | @passed raw taken _ ih =>
    obtain ⟨k, last_eq, between⟩ := ih
    refine ⟨k + 1, ?_, ?_⟩
    · rw [add_ofNat_succ]
      exact last_eq
    · intro j below
      cases j with
      | zero =>
        show ledger.Taken (raw + 0)
        rw [UInt16.add_zero]
        exact taken
      | succ j =>
        rw [add_ofNat_succ]
        exact between j (by omega)

/-- **A ledger with room has a next number**, and the search finds it. -/
theorem WellFiled.finds (filed : ledger.WellFiled) (room : ledger.size < ledger.capacity) :
    ledger.Finds ledger.nextFree ledger.nextId := by
  have bound := filed.capacity_le
  exact finds_searchFree _ _ (ledger.nextFree_isFree (by omega))

/-! ## Allocation -/

variable {kind : CommandKind} {context : PendingContext} {origin : Origin} {now : Timestamp}
  {id : TransactionId} {next : Ledger} {timeoutMs : UInt64}

/-- **A command that is filed**: what its number and its record are, and what becomes of the ledger. -/
structure Allotment (ledger : Ledger) (timeoutMs : UInt64) (kind : CommandKind)
    (context : PendingContext) (origin : Origin) (now : Timestamp) (id : TransactionId)
    (next : Ledger) : Prop where
  /-- The search ends at the number, and nowhere else. -/
  search : ∀ last, ledger.Finds last ledger.nextId ↔ last = id.raw
  /-- The number may be handed out. -/
  free : id.raw ≠ 0 ∧ ledger.get? id = none
  /-- It is the first such number, in cyclic order from where the search starts. -/
  first : ∃ k, id.raw = ledger.nextId + UInt16.ofNat k ∧
    ∀ j < k, ledger.nextId + UInt16.ofNat j = 0 ∨
      (ledger.get? ⟨ledger.nextId + UInt16.ofNat j⟩).isSome = true
  /-- The command is on file under it, with what it is about, whose it is and when it was issued. -/
  record : ∃ record, next.get? id = some record ∧ record.id = id ∧ record.kind = kind ∧
    record.context = context ∧ record.origin = origin ∧ record.issuedAt = now ∧
    record.sequence = ledger.nextSequence ∧ record.awaitingCompletion = true ∧
    record.deadline.millis.toNat =
      min (now.millis.toNat + timeoutMs.toNat) (UInt64.size - 1)
  /-- All other records stay as they are. -/
  others : ∀ other, other ≠ id → next.get? other = ledger.get? other
  /-- If the command is rolled back, what is on file is what was on file before. -/
  rollback : (next.rollback id).pending = ledger.pending

/-- **A command that finds room is filed under the next number.** -/
theorem WellFiled.allotment (filed : ledger.WellFiled) (room : ledger.size < ledger.capacity)
    (kind : CommandKind) (context : PendingContext) (origin : Origin) (now : Timestamp) :
    ledger.Allotment ledger.timeoutMs kind context origin now
      (ledger.newRecord kind context origin now).id
      (ledger.file (ledger.newRecord kind context origin now)) := by
  have finds := filed.finds room
  have free := filed.newRecord_isFree room kind context origin now
  constructor
  case search =>
    intro last
    constructor
    · exact finds.unique
    · rintro rfl
      exact finds
  case free => exact free
  case first => exact finds.first
  case record =>
    refine ⟨ledger.newRecord kind context origin now, ?_, rfl, rfl, rfl, rfl, rfl, rfl, rfl, ?_⟩
    · rw [get?_file, if_pos rfl]
    · exact Timestamp.toNat_addMillis now ledger.timeoutMs
  case others =>
    intro other apart
    rw [get?_file, if_neg apart]
  case rollback => exact pending_rollback_file _ free.2

/-! ## Runs -/

/-- How many records a ledger holds at most that was asked to hold `capacity`. -/
def bound (capacity : UInt64) : Nat := max 1 (min capacity.toNat 65535)

/-- **What holds of a ledger** that takes `capacity` records for `timeoutMs` each, after it has filed
so many commands. -/
structure Allocates (ledger : Ledger) (capacity timeoutMs : UInt64) (filings : Nat) : Prop where
  /-- Every record lies under its own number, which is not zero, and waits for its answer. -/
  filed : ∀ id record, ledger.get? id = some record →
    record.id = id ∧ id.raw ≠ 0 ∧ record.awaitingCompletion = true
  /-- No two records have one place in the order of issue, as long as there were places. -/
  places : filings < UInt64.size → ∀ id id' record record', ledger.get? id = some record →
    ledger.get? id' = some record' → record.sequence = record'.sequence → id = id'
  /-- There are never more records than the ledger may hold. -/
  size_le : ledger.size ≤ bound capacity
  /-- A command is turned away exactly if the ledger is full. -/
  full : ∀ kind context origin now,
    (∃ rejection, ledger.allocate kind context origin now = .error rejection) ↔
      ledger.size = bound capacity
  /-- Then the caller learns how many records there are, and nothing changes. -/
  refusal : ∀ kind context origin now rejection,
    ledger.allocate kind context origin now = .error rejection →
      rejection = .exhaustedIdSpace ledger.size ∧
        ledger.step (.allocate kind context origin now) = ledger
  /-- Any other command is filed. -/
  allotment : ∀ kind context origin now, ledger.size ≠ bound capacity →
    ∃ id next, ledger.allocate kind context origin now = .ok (id, next) ∧
      ledger.Allotment timeoutMs kind context origin now id next

theorem WellFiled.allocates {capacity timeoutMs : UInt64} {filings : Nat}
    (filed : ledger.WellFiled) (holds : ledger.capacity = bound capacity)
    (waits : ledger.timeoutMs = timeoutMs) (within : ledger.size ≤ ledger.capacity)
    (sequenced : filings < UInt64.size → ledger.Sequenced filings) :
    ledger.Allocates capacity timeoutMs filings := by
  have refused (full : ledger.size = bound capacity) (kind context origin now) :
      ledger.allocate kind context origin now = .error (.exhaustedIdSpace ledger.size) := by
    unfold allocate
    rw [if_pos (by omega)]
  have taken (room : ledger.size ≠ bound capacity) (kind context origin now) :
      ledger.allocate kind context origin now =
        .ok ((ledger.newRecord kind context origin now).id,
          ledger.file (ledger.newRecord kind context origin now)) := by
    unfold allocate
    rw [if_neg (by omega)]
  have full (kind context origin now) :
      (∃ rejection, ledger.allocate kind context origin now = .error rejection) ↔
        ledger.size = bound capacity := by
    constructor
    · rintro ⟨rejection, turnedAway⟩
      apply Classical.byContradiction
      intro room
      rw [taken room] at turnedAway
      cases turnedAway
    · intro full
      exact ⟨_, refused full kind context origin now⟩
  constructor
  case filed =>
    intro id record onFile
    exact ⟨filed.own onFile, filed.nonzero onFile, filed.awaiting onFile⟩
  case places =>
    intro places id id' record record' onFile onFile' same
    exact (sequenced places).distinct onFile onFile' same
  case size_le => rwa [← holds]
  case full => exact full
  case refusal =>
    intro kind context origin now rejection turnedAway
    have noRoom := (full kind context origin now).mp ⟨rejection, turnedAway⟩
    rw [refused noRoom] at turnedAway
    refine ⟨(Except.error.inj turnedAway).symm, ?_⟩
    simp only [step, refused noRoom]
  case allotment =>
    intro kind context origin now room
    refine ⟨_, _, taken room kind context origin now, ?_⟩
    rw [← waits]
    exact filed.allotment (by omega) kind context origin now

/-- **Allocation is correct after any sequence of calls**, whatever capacity and waiting time the
ledger was made for. -/
theorem run_allocates (capacity timeoutMs : UInt64) (operations : List Operation) :
    ((new capacity timeoutMs).run operations).Allocates capacity timeoutMs
      ((new capacity timeoutMs).handedOut operations).length := by
  have filed := wellFiled_new capacity timeoutMs
  obtain ⟨holds, waits⟩ := filed.frame_run operations
  apply (filed.run operations).allocates
  · exact holds
  · exact waits
  · rw [holds]
    exact filed.size_run_le (Nat.zero_le _) operations
  · exact filed.sequenced_run (sequenced_new capacity timeoutMs) operations

end Ledger

end NanHost
