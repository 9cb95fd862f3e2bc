import NanHost.Proofs.Ledger.Filing

/-!
# Operations — a ledger through any sequence of calls

The engine calls the ledger in the order in which things happen to it. Here a ledger stands alone, and
its calls come in any order: numbers that are not on file are rolled back and resolved, records leave
by any condition, and commands are filed until there is no room.

## What is proved

A call does one of two things (`WellFiled.transition`): a command is filed under the next free number,
or some records leave. So what a sequence of calls keeps is looked for in two places
(`WellFiled.run_keeps`): records stay well filed (`WellFiled.run`), there are never more of them than
the ledger may hold (`WellFiled.size_run_le`), and no two have one place in the order of issue as long
as the places have not been used up (`WellFiled.sequenced_run`).
-/

namespace NanHost

namespace Ledger

/-! ## Calls -/

/-- A call on a ledger. -/
inductive Operation where
  | allocate (kind : CommandKind) (context : PendingContext) (origin : Origin) (now : Timestamp)
  | rollback (id : TransactionId)
  | resolve (id : TransactionId)
  | expire (now : Timestamp)
  | drainWhere (condition : TransactionRecord → Bool)
  | drainAll

/-- The ledger after a call. A call that fails leaves it as it was. -/
def step (ledger : Ledger) : Operation → Ledger
  | .allocate kind context origin now =>
    match ledger.allocate kind context origin now with
    | .ok (_, next) => next
    | .error _ => ledger
  | .rollback id => ledger.rollback id
  | .resolve id =>
    match ledger.resolve id with
    | .ok (_, next) => next
    | .error _ => ledger
  | .expire now => (ledger.expire now).2
  | .drainWhere condition => (ledger.drainWhere condition).2
  | .drainAll => ledger.drainAll.2

/-- The number that a call hands out. -/
def handsOut? (ledger : Ledger) : Operation → Option TransactionId
  | .allocate kind context origin now =>
    match ledger.allocate kind context origin now with
    | .ok (id, _) => some id
    | .error _ => none
  | _ => none

/-- The ledger after a number of calls. -/
def run (ledger : Ledger) (operations : List Operation) : Ledger := operations.foldl step ledger

/-- The numbers that a number of calls hand out, the first one first. -/
def handedOut (ledger : Ledger) : List Operation → List TransactionId
  | [] => []
  | operation :: rest =>
    (ledger.handsOut? operation).toList ++ (ledger.step operation).handedOut rest

variable {ledger next : Ledger} {handed : Option TransactionId} {past : List TransactionId}

theorem run_append (ledger : Ledger) (first second : List Operation) :
    ledger.run (first ++ second) = (ledger.run first).run second :=
  List.foldl_append

theorem handedOut_append (ledger : Ledger) (first second : List Operation) :
    ledger.handedOut (first ++ second) =
      ledger.handedOut first ++ (ledger.run first).handedOut second := by
  induction first generalizing ledger with
  | nil => rfl
  | cons operation rest ih =>
    rw [List.cons_append, handedOut, handedOut, ih, List.append_assoc]
    rfl

/-! ## What a call does -/

/-- What a call makes of a ledger, and the number that it hands out. -/
inductive Transition (ledger : Ledger) : Ledger → Option TransactionId → Prop
  /-- There is room, and a command is filed. -/
  | filed (kind : CommandKind) (context : PendingContext) (origin : Origin) (now : Timestamp)
    (room : ledger.size < ledger.capacity) :
    Transition ledger (ledger.file (ledger.newRecord kind context origin now))
      (some (ledger.newRecord kind context origin now).id)
  /-- Some records leave, or none does. -/
  | kept (condition : TransactionRecord → Bool) : Transition ledger (ledger.keep condition) none

theorem Transition.unchanged (ledger : Ledger) : ledger.Transition ledger none := by
  have kept : ledger.Transition (ledger.keep fun _ => true) none := .kept _
  rwa [keep_true] at kept

theorem Transition.drained (ledger : Ledger) (condition : TransactionRecord → Bool) :
    ledger.Transition (ledger.drainWhere condition).2 none := by
  rw [drainWhere_snd_eq_keep]
  exact .kept _

/-- **A call files a command, or it lets records leave.** -/
theorem WellFiled.transition (filed : ledger.WellFiled) (operation : Operation) :
    ledger.Transition (ledger.step operation) (ledger.handsOut? operation) := by
  have rolledBack (id : TransactionId) : ledger.Transition (ledger.rollback id) none := by
    rw [filed.rollback_eq_keep]
    exact .kept _
  cases operation with
  | allocate kind context origin now =>
    unfold step handsOut? allocate
    by_cases full : ledger.capacity ≤ ledger.size
    · simp only [if_pos full]
      exact .unchanged ledger
    · simp only [if_neg full]
      exact .filed kind context origin now (Nat.lt_of_not_le full)
  | rollback id => exact rolledBack id
  | resolve id =>
    unfold step handsOut?
    simp only [resolve_eq]
    cases ledger.get? id with
    | none => exact .unchanged ledger
    | some record => exact rolledBack id
  | expire now => exact .drained ledger _
  | drainWhere condition => exact .drained ledger condition
  | drainAll => exact .drained ledger _

/-! ## What calls keep -/

/-- The number that the next command gets is free. -/
theorem WellFiled.newRecord_isFree (filed : ledger.WellFiled) (room : ledger.size < ledger.capacity)
    (kind : CommandKind) (context : PendingContext) (origin : Origin) (now : Timestamp) :
    (ledger.newRecord kind context origin now).id.raw ≠ 0 ∧
      ledger.get? (ledger.newRecord kind context origin now).id = none := by
  have bound := filed.capacity_le
  exact (ledger.isFree_iff _).mp (ledger.nextFree_isFree (by omega))

theorem WellFiled.keep (filed : ledger.WellFiled) (condition : TransactionRecord → Bool) :
    (ledger.keep condition).WellFiled := by
  refine filed.mono (fun onFile => ?_) rfl
  rw [get?_keep, Option.filter_eq_some_iff] at onFile
  exact onFile.1

theorem WellFiled.after (filed : ledger.WellFiled) (transition : ledger.Transition next handed) :
    next.WellFiled := by
  cases transition with
  | filed kind context origin now room =>
    exact filed.file rfl (filed.newRecord_isFree room kind context origin now).1
  | kept condition => exact filed.keep condition

/-- **What every filing and every leaving keeps, a sequence of calls keeps.** It may be about the
numbers that were handed out so far. -/
theorem WellFiled.run_keeps {motive : Ledger → List TransactionId → Prop}
    (filed : ledger.WellFiled) (past : List TransactionId) (here : motive ledger past)
    (keeps : ∀ {ledger next handed past}, ledger.WellFiled → motive ledger past →
      ledger.Transition next handed → motive next (past ++ handed.toList))
    (operations : List Operation) :
    motive (ledger.run operations) (past ++ ledger.handedOut operations) := by
  induction operations generalizing ledger past with
  | nil =>
    rw [handedOut, List.append_nil]
    exact here
  | cons operation rest ih =>
    have transition := filed.transition operation
    rw [handedOut, ← List.append_assoc]
    exact ih (filed.after transition) _ (keeps filed here transition)

theorem WellFiled.run (filed : ledger.WellFiled) (operations : List Operation) :
    (ledger.run operations).WellFiled := by
  apply filed.run_keeps (motive := fun ledger _ => ledger.WellFiled) [] filed
  intro ledger next handed past filed _ transition
  exact filed.after transition

/-- What a ledger may hold, and for how long, does not change. -/
theorem Transition.frame (transition : ledger.Transition next handed) :
    next.capacity = ledger.capacity ∧ next.timeoutMs = ledger.timeoutMs := by
  cases transition <;> exact ⟨rfl, rfl⟩

theorem WellFiled.frame_run (filed : ledger.WellFiled) (operations : List Operation) :
    (ledger.run operations).capacity = ledger.capacity ∧
      (ledger.run operations).timeoutMs = ledger.timeoutMs := by
  apply filed.run_keeps
    (motive := fun next _ => next.capacity = ledger.capacity ∧ next.timeoutMs = ledger.timeoutMs)
    [] ⟨rfl, rfl⟩
  intro middle next handed past _ before transition
  obtain ⟨capacity, timeoutMs⟩ := transition.frame
  exact ⟨capacity.trans before.1, timeoutMs.trans before.2⟩

/-! ## How many records are on file -/

theorem size_file {record : TransactionRecord} (fresh : ledger.get? record.id = none) :
    (ledger.file record).size = ledger.size + 1 := by
  have onFile : (ledger.file record).get? record.id = some record := by
    rw [get?_file, if_pos rfl]
  have erased : (ledger.file record).pending.erase record.id = ledger.pending :=
    pending_rollback_file record fresh
  have counted := Tables.size_eq_erase onFile
  rwa [erased] at counted

theorem size_keep_le (ledger : Ledger) (condition : TransactionRecord → Bool) :
    (ledger.keep condition).size ≤ ledger.size := by
  apply Tables.size_le
  intro id record onFile
  have view := get?_keep ledger condition id
  rw [get?, onFile] at view
  exact (Option.filter_eq_some_iff.mp view.symm).1

/-- **There are never more records than the ledger may hold.** -/
theorem WellFiled.size_run_le (filed : ledger.WellFiled) (room : ledger.size ≤ ledger.capacity)
    (operations : List Operation) : (ledger.run operations).size ≤ ledger.capacity := by
  rw [← (filed.frame_run operations).1]
  apply filed.run_keeps (motive := fun ledger _ => ledger.size ≤ ledger.capacity) [] room
  intro ledger next handed past filed within transition
  cases transition with
  | filed kind context origin now room =>
    rw [size_file (filed.newRecord_isFree room kind context origin now).2]
    exact room
  | kept condition => exact Nat.le_trans (ledger.size_keep_le condition) within

/-! ## Places in the order of issue -/

/-- So far `filings` commands were filed. Those on file have their places below, each one its own. -/
structure Sequenced (ledger : Ledger) (filings : Nat) : Prop where
  next : ledger.nextSequence.toNat = filings
  below : ∀ {id record}, ledger.get? id = some record → record.sequence.toNat < filings
  distinct : ∀ {id id' record record'}, ledger.get? id = some record →
    ledger.get? id' = some record' → record.sequence = record'.sequence → id = id'

variable {filings : Nat} {record : TransactionRecord}

theorem sequenced_new (capacity timeoutMs : UInt64) : (new capacity timeoutMs).Sequenced 0 where
  next := rfl
  below onFile := by simp at onFile
  distinct onFile := by simp at onFile

/-- Records that leave keep the others at their places. -/
theorem Sequenced.keep (sequenced : ledger.Sequenced filings)
    (condition : TransactionRecord → Bool) : (ledger.keep condition).Sequenced filings := by
  have before {id : TransactionId} {record : TransactionRecord}
      (onFile : (ledger.keep condition).get? id = some record) : ledger.get? id = some record := by
    rw [get?_keep, Option.filter_eq_some_iff] at onFile
    exact onFile.1
  exact ⟨sequenced.next, fun onFile => sequenced.below (before onFile),
    fun onFile onFile' => sequenced.distinct (before onFile) (before onFile')⟩

/-- A record that is filed takes a place above all others. -/
theorem Sequenced.file (sequenced : ledger.Sequenced filings)
    (place : record.sequence = ledger.nextSequence) (bound : filings + 1 < UInt64.size) :
    (ledger.file record).Sequenced (filings + 1) where
  next := by
    show (ledger.nextSequence + 1).toNat = filings + 1
    rw [UInt64.toNat_add, sequenced.next]
    exact Nat.mod_eq_of_lt bound
  below {id other} onFile := by
    rcases cases_file onFile with ⟨_, rfl⟩ | before
    · rw [place, sequenced.next]
      omega
    · exact Nat.lt_succ_of_lt (sequenced.below before)
  distinct {id id' first second} onFile onFile' same := by
    -- A record that was there before stands below the new one.
    have apart {id : TransactionId} {other : TransactionRecord}
        (before : ledger.get? id = some other) : other.sequence ≠ record.sequence := by
      intro same
      have below := sequenced.below before
      rw [same, place, sequenced.next] at below
      omega
    rcases cases_file onFile with ⟨here, rfl⟩ | before <;>
      rcases cases_file onFile' with ⟨here', rfl⟩ | before'
    · exact here.trans here'.symm
    · exact absurd same.symm (apart before')
    · exact absurd same (apart before)
    · exact sequenced.distinct before before' same

/-- **No two records on file have one place**, as long as fewer commands were filed than there are
places. -/
theorem WellFiled.sequenced_run (filed : ledger.WellFiled) (sequenced : ledger.Sequenced 0)
    (operations : List Operation) (bound : (ledger.handedOut operations).length < UInt64.size) :
    (ledger.run operations).Sequenced (ledger.handedOut operations).length := by
  have kept := filed.run_keeps
    (motive := fun ledger past => past.length < UInt64.size → ledger.Sequenced past.length)
    [] (fun _ => sequenced) ?_ operations
  · exact kept bound
  intro ledger next handed past filed before transition bound
  cases transition with
  | filed kind context origin now room =>
    rw [Option.toList_some, List.length_append, List.length_singleton] at bound ⊢
    exact (before (by omega)).file rfl bound
  | kept condition =>
    rw [Option.toList_none, List.append_nil] at bound ⊢
    exact (before bound).keep condition

end Ledger

end NanHost
