import Mathlib.Data.List.Dedup
import NanHost.Proofs.Ledger.Filing

/-!
# Order — records stand in the order in which they were filed

What is on file is listed by sequence numbers. Whether this is the order in which the commands were
accepted is a question about the past: a number on file may have been handed out before, to commands
that have left since. The past is a list of numbers, the oldest first, and a command on file stands
for the last place of its number in it. `List.dedup` leaves every number at its last place.

Sequence numbers start again from zero after the last of them, so all this holds as long as they
have not been used up.

## What is proved

`InOrder` says that the callers' commands on file are those of the past that still wait, in its
order. It is kept when records leave (`InOrder.keep`) and when one is filed (`InOrder.file`), which
lengthens the past if a caller asked for the command. The reason is that a record that is filed
comes last (`records_file`).
-/

namespace NanHost

/-- The past grows by a number that does not wait: it now does, and comes last. -/
theorem filter_dedup_append_singleton {α : Type} [DecidableEq α] {past : List α} {last : α}
    {before after : α → Bool} (fresh : before last = false)
    (same : ∀ value, after value = (decide (value = last) || before value)) :
    (past ++ [last]).dedup.filter after = past.dedup.filter before ++ [last] := by
  induction past with
  | nil => simp [same]
  | cons value rest ih =>
    rw [List.cons_append]
    by_cases later : value ∈ rest
    · rw [List.dedup_cons_of_mem later, List.dedup_cons_of_mem (List.mem_append_left _ later), ih]
    · rw [List.dedup_cons_of_notMem later]
      by_cases here : value = last
      · -- The earlier place of the number counts neither before nor after.
        subst here
        rw [List.dedup_cons_of_mem (by simp), List.filter_cons, fresh, ih]
        rfl
      · have absent : value ∉ rest ++ [last] := by simp [later, here]
        rw [List.dedup_cons_of_notMem absent, List.filter_cons, List.filter_cons, same, ih]
        cases before value <;> simp [here]

namespace Ledger

variable {ledger next : Ledger} {record : TransactionRecord} {accepted : List TransactionId}
  {filings : Nat}

/-- Whether a caller's command is on file under a number. -/
def awaitsCaller (ledger : Ledger) (txn : TransactionId) : Bool :=
  (ledger.get? txn).any (·.origin = .caller)

/-- The numbers of the callers' commands on file, in the order of the records. -/
def callers (ledger : Ledger) : List TransactionId :=
  (ledger.records.filter (·.origin = .caller)).map (·.id)

/-- So far `filings` commands were filed, among them those that callers were given the numbers
`accepted` for; and those of them that are on file are so in that order. -/
structure InOrder (ledger : Ledger) (filings : Nat) (accepted : List TransactionId) : Prop where
  /-- The next command takes the place behind all that were filed. -/
  next : ledger.nextSequence.toNat = filings
  below : ∀ {id record}, ledger.get? id = some record → record.sequence.toNat < filings
  order : ledger.callers = accepted.dedup.filter ledger.awaitsCaller

theorem inOrder_new (capacity timeoutMs : UInt64) : (new capacity timeoutMs).InOrder 0 [] where
  next := rfl
  below onFile := by simp at onFile
  order := by
    have empty : (new capacity timeoutMs).records = [] := by
      apply List.eq_nil_iff_forall_not_mem.mpr
      intro record member
      obtain ⟨id, onFile⟩ := (mem_records _).mp member
      simp at onFile
    rw [callers, empty]
    rfl

/-! ## Records that leave -/

/-- **Records that leave do not disturb the order of the others.** -/
theorem InOrder.keep (inOrder : ledger.InOrder filings accepted) (filed : ledger.WellFiled)
    (condition : TransactionRecord → Bool) : (ledger.keep condition).InOrder filings accepted where
  next := inOrder.next
  below onFile := by
    rw [get?_keep, Option.filter_eq_some_iff] at onFile
    exact inOrder.below onFile.1
  order := by
    have kept : ∀ record ∈ ledger.records,
        (ledger.keep condition).awaitsCaller record.id =
          (decide (record.origin = .caller) && condition record) := by
      intro record member
      obtain ⟨id, onFile⟩ := (mem_records _).mp member
      obtain rfl := filed.own onFile
      rw [awaitsCaller, get?_keep, onFile, Option.filter_some]
      cases condition record <;> simp
    have fewer (txn : TransactionId) : ((ledger.keep condition).awaitsCaller txn &&
        ledger.awaitsCaller txn) = (ledger.keep condition).awaitsCaller txn := by
      unfold awaitsCaller
      rw [get?_keep]
      cases ledger.get? txn with
      | none => rfl
      | some record => cases meant : condition record <;> simp [Option.filter_some, meant]
    have before := congrArg (List.filter (ledger.keep condition).awaitsCaller) inOrder.order
    rw [List.filter_filter, List.filter_congr fun txn _ => fewer txn] at before
    rw [← before, callers, callers, records_keep, List.filter_map, List.filter_filter,
      List.filter_filter]
    refine congrArg (List.map TransactionRecord.id) (List.filter_congr fun record member => ?_)
    rw [Function.comp_apply, kept record member, Bool.and_assoc, Bool.and_comm (condition record),
      ← Bool.and_assoc, Bool.and_self]

/-- A command that is filed and taken off again has used a place, and that is all. -/
theorem InOrder.refile (inOrder : ledger.InOrder filings accepted)
    (same : next.pending = ledger.pending) (place : next.nextSequence = ledger.nextSequence + 1)
    (bound : filings + 1 < UInt64.size) : next.InOrder (filings + 1) accepted where
  next := by
    have before := inOrder.next
    rw [place, UInt64.toNat_add, before]
    exact Nat.mod_eq_of_lt bound
  below {id record} onFile := by
    have onFile : ledger.get? id = some record := by rwa [get?, same] at onFile
    exact Nat.lt_succ_of_lt (inOrder.below onFile)
  order := by
    have records : next.records = ledger.records := by rw [Ledger.records, same, Ledger.records]
    have awaits : next.awaitsCaller = ledger.awaitsCaller := by
      funext txn
      rw [awaitsCaller, get?, same, awaitsCaller, get?]
    rw [callers, records, awaits]
    exact inOrder.order

/-! ## A record that is filed -/

/-- In a list by sequence numbers, the record whose number is above all others comes last. -/
theorem eq_filter_append_of_above {all : List TransactionRecord} (member : record ∈ all)
    (sorted : all.Pairwise fun a b => a.sequence ≤ b.sequence)
    (distinct : (all.map (·.id)).Nodup)
    (above : ∀ other ∈ all, other.id ≠ record.id → other.sequence < record.sequence) :
    all = all.filter (·.id ≠ record.id) ++ [record] := by
  obtain ⟨earlier, later, rfl⟩ := List.append_of_mem member
  rw [List.map_append, List.map_cons, List.nodup_append, List.nodup_cons] at distinct
  obtain ⟨_, ⟨behind, _⟩, across⟩ := distinct
  have apart : ∀ other ∈ earlier, other.id ≠ record.id := by
    intro other there
    exact across other.id (List.mem_map_of_mem there) record.id (by simp)
  have nothing : later = [] := by
    apply List.eq_nil_iff_forall_not_mem.mpr
    intro other there
    have differs : other.id ≠ record.id := by
      intro same
      exact behind (same ▸ List.mem_map_of_mem there)
    have before := above other (by simp [there]) differs
    have after : record.sequence ≤ other.sequence :=
      (List.pairwise_cons.mp (List.pairwise_append.mp sorted).2.1).1 other there
    exact absurd before (UInt64.not_lt.mpr after)
  have kept : earlier.filter (·.id ≠ record.id) = earlier :=
    List.filter_eq_self.mpr fun other there => decide_eq_true (apart other there)
  rw [nothing, List.filter_append, kept, List.filter_singleton]
  simp

/-- **A record that is filed comes last**, as its sequence number is above all others. -/
theorem records_file (filed : (ledger.file record).WellFiled)
    (fresh : ledger.get? record.id = none)
    (above : ∀ {id other}, ledger.get? id = some other → other.sequence < record.sequence) :
    (ledger.file record).records = ledger.records ++ [record] := by
  have others : (ledger.file record).records.filter (·.id ≠ record.id) = ledger.records := by
    have same : ((ledger.file record).keep (·.id ≠ record.id)).pending = ledger.pending := by
      rw [← filed.rollback_eq_keep]
      exact pending_rollback_file record fresh
    rw [← records_keep, records, same, records]
  rw [← others]
  apply eq_filter_append_of_above
  · exact (mem_records _).mpr ⟨record.id, by rw [get?_file, if_pos rfl]⟩
  · exact TransactionRecord.inOrderOfIssue_pairwise _
  · exact filed.nodup_ids
  · intro other there differs
    obtain ⟨id, onFile⟩ := (mem_records _).mp there
    obtain rfl := filed.own onFile
    rw [get?_file, if_neg differs] at onFile
    exact above onFile

theorem awaitsCaller_file (fresh : ledger.get? record.id = none) (txn : TransactionId) :
    (ledger.file record).awaitsCaller txn =
      (decide (txn = record.id) && decide (record.origin = .caller) ||
        ledger.awaitsCaller txn) := by
  rw [awaitsCaller, get?_file]
  by_cases here : txn = record.id
  · rw [if_pos here, here, awaitsCaller, fresh]
    simp
  · rw [if_neg here, decide_eq_false here]
    rfl

/-- **A caller's command that is filed** comes last among those that callers await; a command of the
engine's own leaves them as they are. -/
theorem InOrder.file (inOrder : ledger.InOrder filings accepted)
    (filed : (ledger.file record).WellFiled) (fresh : ledger.get? record.id = none)
    (place : record.sequence = ledger.nextSequence) (bound : filings + 1 < UInt64.size) :
    (ledger.file record).InOrder (filings + 1)
      (if record.origin = .caller then accepted ++ [record.id] else accepted) where
  next := by
    have before := inOrder.next
    show (ledger.nextSequence + 1).toNat = filings + 1
    rw [UInt64.toNat_add, before]
    exact Nat.mod_eq_of_lt bound
  below {id other} onFile := by
    rcases cases_file onFile with ⟨_, rfl⟩ | before
    · rw [place, inOrder.next]
      exact Nat.lt_succ_self filings
    · exact Nat.lt_succ_of_lt (inOrder.below before)
  order := by
    have last : (ledger.file record).records = ledger.records ++ [record] := by
      apply records_file filed fresh
      intro id other onFile
      rw [UInt64.lt_iff_toNat_lt, place, inOrder.next]
      exact inOrder.below onFile
    rw [callers, last, List.filter_append, List.map_append]
    have idle : ledger.awaitsCaller record.id = false := by rw [awaitsCaller, fresh]; rfl
    cases origin : record.origin with
    | caller =>
      rw [if_pos rfl, filter_dedup_append_singleton idle, ← inOrder.order]
      · simp [callers, origin]
      · intro txn
        rw [awaitsCaller_file fresh, origin]
        simp
    | engine =>
      have same : (ledger.file record).awaitsCaller = ledger.awaitsCaller := by
        funext txn
        rw [awaitsCaller_file fresh, origin]
        simp
      rw [if_neg (by simp), same, ← inOrder.order]
      simp [callers, origin]

end Ledger

end NanHost
