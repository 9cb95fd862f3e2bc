import Mathlib.Data.List.Basic
import NanHost.Proofs.Ledger.Operations

/-!
# Batches — records that leave together leave in the order of issue

The table of the records on file may list them in any order, and in another one whenever it is asked.
A batch is looked for in that order: the numbers of the records that are meant are gathered, the records
are taken off one after the other, and what was taken off is put into the order of issue. No two records
have one place in that order, so there is one way to put them into it, and the listing is forgotten.

Places are used up after the last sequence number; what is said of the order holds as long as they last.

## What is proved

- `inOrderOfIssue_congr`: records of places of their own are put into one order, however they are listed.
- `drainListed_eq`: a batch is the same in every listing, and so is the ledger that it leaves behind.
- `WellFiled.unfolds_iff`: whatever the listings are in a sequence of calls, it ends in the same ledger.
- `run_retires` collects what leaves, what stays and in which order, after any sequence of calls on a new
  ledger.
-/

namespace NanHost

/-- **There is one way to put records into the order of issue** if no two of them have one place. -/
theorem TransactionRecord.inOrderOfIssue_congr {first second : List TransactionRecord}
    (same : first.Perm second)
    (distinct : ∀ a ∈ first, ∀ b ∈ first, a.sequence = b.sequence → a = b) :
    inOrderOfIssue first = inOrderOfIssue second := by
  have ordered := inOrderOfIssue_perm first
  have ordered' := (inOrderOfIssue_perm second).trans same.symm
  refine List.Perm.eq_of_pairwise ?_ (inOrderOfIssue_pairwise first)
    (inOrderOfIssue_pairwise second) (ordered.trans ordered'.symm)
  intro a b member member' before after
  exact distinct a (ordered.mem_iff.mp member) b (ordered'.mem_iff.mp member')
    (UInt64.le_antisymm before after)

namespace Ledger

open TransactionRecord (inOrderOfIssue inOrderOfIssue_congr inOrderOfIssue_pairwise retired)

variable {ledger : Ledger} {rows : List TransactionRecord} {record : TransactionRecord}
  {filings : Nat}

/-! ## Listings -/

/-- A listing of the records on file: each of them once, in some order. -/
def Lists (ledger : Ledger) (rows : List TransactionRecord) : Prop :=
  rows.Perm (ledger.pending.toList.map (·.2))

/-- Takes off the records of some numbers, one after the other: those that were there, and what is left
of the ledger. -/
def takeOff (ledger : Ledger) : List TransactionId → List TransactionRecord × Ledger
  | [] => ([], ledger)
  | id :: rest =>
    let (taken, left) := (ledger.rollback id).takeOff rest
    ((ledger.get? id).toList ++ taken, left)

/-- Takes out every record that satisfies the condition, as they come in a listing. -/
def drainListed (ledger : Ledger) (rows : List TransactionRecord)
    (condition : TransactionRecord → Bool) : List TransactionRecord × Ledger :=
  let (taken, left) := ledger.takeOff ((rows.filter condition).map (·.id))
  (inOrderOfIssue (taken.map retired), left)

theorem Lists.mem_iff (lists : ledger.Lists rows) :
    record ∈ rows ↔ ∃ id, ledger.get? id = some record := by
  rw [List.Perm.mem_iff lists, List.mem_map]
  simp only [Prod.exists, Std.ExtTreeMap.mem_toList_iff_getElem?_eq_some, exists_eq_right, get?]

theorem Lists.nodup_ids (lists : ledger.Lists rows) (filed : ledger.WellFiled) :
    (rows.map (·.id)).Nodup := by
  have distinct : ((ledger.pending.toList.map (·.2)).map (·.id)).Nodup :=
    Tables.nodup_values filed.own
  exact (List.Perm.map _ lists).nodup_iff.mpr distinct

theorem lists_records (ledger : Ledger) : ledger.Lists ledger.records :=
  TransactionRecord.inOrderOfIssue_perm _

/-! ## One record after the other -/

/-- What is taken off a number that comes once is what was there before any was taken off. -/
theorem takeOff_fst {ids : List TransactionId} (once : ids.Nodup) (ledger : Ledger) :
    (ledger.takeOff ids).1 = ids.filterMap ledger.get? := by
  induction ids generalizing ledger with
  | nil => rfl
  | cons id rest ih =>
    obtain ⟨apart, once⟩ := List.nodup_cons.mp once
    have later : rest.filterMap (ledger.rollback id).get? = rest.filterMap ledger.get? := by
      refine List.filterMap_congr fun other member => ?_
      rw [get?_rollback, if_neg]
      rintro rfl
      exact apart member
    show (ledger.get? id).toList ++ ((ledger.rollback id).takeOff rest).1 = _
    rw [ih once, later]
    cases found : ledger.get? id with
    | none => rw [List.filterMap_cons_none found]; rfl
    | some record => rw [List.filterMap_cons_some found]; rfl

theorem takeOff_snd (ids : List TransactionId) (ledger : Ledger) :
    (ledger.takeOff ids).2 = ids.foldl rollback ledger := by
  induction ids generalizing ledger with
  | nil => rfl
  | cons id rest ih => exact ih (ledger.rollback id)

/-- Records on file are found under their numbers, in the order in which these are looked up. -/
theorem WellFiled.filterMap_get? (filed : ledger.WellFiled)
    (onFile : ∀ record ∈ rows, ∃ id, ledger.get? id = some record) :
    (rows.map (·.id)).filterMap ledger.get? = rows := by
  rw [List.filterMap_map]
  have found : rows.filterMap (ledger.get? ∘ (·.id)) = rows.filterMap some := by
    refine List.filterMap_congr fun record member => ?_
    obtain ⟨id, here⟩ := onFile record member
    obtain rfl := filed.own here
    exact here
  rw [found, List.filterMap_some]

/-! ## Batches in any listing -/

/-- No two records on file have one place in the order of issue. -/
theorem Sequenced.eq_of_sequence (sequenced : ledger.Sequenced filings) {id id' : TransactionId}
    {first second : TransactionRecord} (onFile : ledger.get? id = some first)
    (onFile' : ledger.get? id' = some second) (same : first.sequence = second.sequence) :
    first = second := by
  obtain rfl := sequenced.distinct onFile onFile' same
  exact Option.some.inj (onFile.symm.trans onFile')

/-- What a listing leaves of a ledger is what there was of it, without the records that are meant. -/
theorem WellFiled.drainListed_snd (filed : ledger.WellFiled) (lists : ledger.Lists rows)
    (condition : TransactionRecord → Bool) :
    (ledger.drainListed rows condition).2 = (ledger.drainWhere condition).2 := by
  show (ledger.takeOff ((rows.filter condition).map (·.id))).2 = _
  have frame := foldl_rollback_frame ((rows.filter condition).map (·.id)) ledger
  have frame' := ledger.drainWhere_frame condition
  rw [takeOff_snd, filed.drainWhere_snd_eq]
  have frame'' := foldl_rollback_frame ((ledger.drainWhere condition).1.map (·.id)) ledger
  refine ext_get? (fun id => ?_) ?_ ?_ ?_ ?_
  · have alike : id ∈ (rows.filter condition).map (·.id) ↔
        id ∈ (ledger.drainWhere condition).1.map (·.id) := by
      simp only [map_id_drainWhere, List.mem_map, List.mem_filter, mem_records, lists.mem_iff]
    rw [get?_foldl_rollback, get?_foldl_rollback]
    simp only [alike]
  all_goals rw [frame, frame'']

/-- **A batch is the same in every listing**, and so is the ledger that it leaves behind. -/
theorem drainListed_eq (filed : ledger.WellFiled) (sequenced : ledger.Sequenced filings)
    (lists : ledger.Lists rows) (condition : TransactionRecord → Bool) :
    ledger.drainListed rows condition = ledger.drainWhere condition := by
  refine Prod.ext ?_ (filed.drainListed_snd lists condition)
  have once : ((rows.filter condition).map (·.id)).Nodup :=
    (lists.nodup_ids filed).sublist (List.filter_sublist.map _)
  have taken : (ledger.takeOff ((rows.filter condition).map (·.id))).1 = rows.filter condition := by
    rw [takeOff_fst once, filed.filterMap_get?]
    intro record member
    exact lists.mem_iff.mp (List.mem_filter.mp member).1
  show inOrderOfIssue
    ((ledger.takeOff ((rows.filter condition).map (·.id))).1.map retired) = inOrderOfIssue _
  rw [taken]
  apply inOrderOfIssue_congr
  · have leaving := (List.Perm.filter condition lists).map retired
    rwa [List.filter_map, List.map_map] at leaving
  · rintro _ member _ member' same
    obtain ⟨first, chosen, rfl⟩ := List.mem_map.mp member
    obtain ⟨second, chosen', rfl⟩ := List.mem_map.mp member'
    obtain ⟨id, onFile⟩ := lists.mem_iff.mp (List.mem_filter.mp chosen).1
    obtain ⟨id', onFile'⟩ := lists.mem_iff.mp (List.mem_filter.mp chosen').1
    exact congrArg retired (sequenced.eq_of_sequence onFile onFile' same)

/-- So are the records on file, put into order. -/
theorem inOrderOfIssue_listed (sequenced : ledger.Sequenced filings) (lists : ledger.Lists rows) :
    inOrderOfIssue rows = ledger.records := by
  apply inOrderOfIssue_congr lists
  intro first member second member' same
  obtain ⟨id, onFile⟩ := lists.mem_iff.mp member
  obtain ⟨id', onFile'⟩ := lists.mem_iff.mp member'
  exact sequenced.eq_of_sequence onFile onFile' same

/-! ## Calls in any listing -/

/-- The ledger after a call, if its table lists the records on file as in `rows` just then. -/
def stepListed (ledger : Ledger) (rows : List TransactionRecord) : Operation → Ledger
  | .expire now => (ledger.drainListed rows fun record => record.deadline ≤ now).2
  | .drainWhere condition => (ledger.drainListed rows condition).2
  | .drainAll => (ledger.drainListed rows fun _ => true).2
  | operation => ledger.step operation

/-- What a number of calls may lead to, with one listing or another at each of them. -/
inductive Unfolds : Ledger → List Operation → Ledger → Prop
  | nil (ledger : Ledger) : Unfolds ledger [] ledger
  | cons {ledger last : Ledger} {rows : List TransactionRecord} {operation : Operation}
    {rest : List Operation} (lists : ledger.Lists rows)
    (unfolds : Unfolds (ledger.stepListed rows operation) rest last) :
    Unfolds ledger (operation :: rest) last

theorem WellFiled.stepListed_eq (filed : ledger.WellFiled) (lists : ledger.Lists rows)
    (operation : Operation) : ledger.stepListed rows operation = ledger.step operation := by
  cases operation with
  | expire | drainWhere | drainAll => exact filed.drainListed_snd lists _
  | _ => rfl

/-- **The listings are forgotten**: whatever they are, the calls lead to the same ledger. -/
theorem WellFiled.unfolds_iff (filed : ledger.WellFiled) (operations : List Operation)
    {last : Ledger} : ledger.Unfolds operations last ↔ last = ledger.run operations := by
  induction operations generalizing ledger with
  | nil =>
    constructor
    · intro unfolds
      cases unfolds
      rfl
    · rintro rfl
      exact .nil _
  | cons operation rest ih =>
    have ih := ih (filed.after (filed.transition operation))
    constructor
    · intro unfolds
      cases unfolds with
      | cons lists unfolds =>
        rw [filed.stepListed_eq lists] at unfolds
        exact ih.mp unfolds
    · intro reached
      refine .cons ledger.lists_records ?_
      rw [filed.stepListed_eq ledger.lists_records]
      exact ih.mpr reached

/-! ## What leaves and what stays -/

/-- The records on file stand in strictly ascending order. -/
theorem WellFiled.records_ascending (filed : ledger.WellFiled)
    (sequenced : ledger.Sequenced filings) :
    ledger.records.Pairwise fun a b => a.sequence < b.sequence := by
  have ordered : ledger.records.Pairwise fun a b => a.sequence ≤ b.sequence :=
    inOrderOfIssue_pairwise _
  have distinct := List.pairwise_map.mp filed.nodup_ids
  refine (ordered.and distinct).imp_of_mem fun {first second} member member' both => ?_
  obtain ⟨before, differ⟩ := both
  obtain ⟨id, onFile⟩ := (mem_records ledger).mp member
  obtain ⟨id', onFile'⟩ := (mem_records ledger).mp member'
  refine UInt64.lt_of_le_of_ne before fun same => differ ?_
  rw [sequenced.eq_of_sequence onFile onFile' same]

/-- **How records leave a ledger together.** -/
structure Retires (ledger : Ledger) : Prop where
  /-- Those leave that are meant; they do not wait any more, and are else as they were. -/
  leave : ∀ condition record, record ∈ (ledger.drainWhere condition).1 ↔
    ∃ id original, ledger.get? id = some original ∧ condition original = true ∧
      record = { original with awaitingCompletion := false }
  /-- Each of them leaves once. -/
  once : ∀ condition, ((ledger.drainWhere condition).1.map (·.id)).Nodup
  /-- They leave in the order of issue. -/
  ascending : ∀ condition,
    (ledger.drainWhere condition).1.Pairwise fun a b => a.sequence < b.sequence
  /-- All others stay. -/
  stay : ∀ condition id record, (ledger.drainWhere condition).2.get? id = some record ↔
    ledger.get? id = some record ∧ condition record = false
  frame : ∀ condition, (ledger.drainWhere condition).2.nextId = ledger.nextId ∧
    (ledger.drainWhere condition).2.nextSequence = ledger.nextSequence ∧
    (ledger.drainWhere condition).2.capacity = ledger.capacity ∧
    (ledger.drainWhere condition).2.timeoutMs = ledger.timeoutMs
  /-- What is overdue are the records whose deadline has come. -/
  overdue : ∀ now, ledger.expire now =
    ledger.drainWhere fun record => record.deadline.millis.toNat ≤ now.millis.toNat
  /-- Everything can leave together. -/
  all : ledger.drainAll = ledger.drainWhere fun _ => true
  /-- What is on file is listed in the order of issue. -/
  records : (∀ record, record ∈ ledger.records ↔ ∃ id, ledger.get? id = some record) ∧
    ledger.records.Pairwise fun a b => a.sequence < b.sequence
  /-- It makes no difference how the table lists the records. -/
  listing : ∀ rows, ledger.Lists rows → inOrderOfIssue rows = ledger.records ∧
    ∀ condition, ledger.drainListed rows condition = ledger.drainWhere condition

theorem WellFiled.retires (filed : ledger.WellFiled) (sequenced : ledger.Sequenced filings) :
    ledger.Retires := by
  have ascending := filed.records_ascending sequenced
  constructor
  case leave =>
    intro condition record
    rw [drainWhere_fst, List.mem_map]
    constructor
    · rintro ⟨original, chosen, rfl⟩
      obtain ⟨member, meant⟩ := List.mem_filter.mp chosen
      obtain ⟨id, onFile⟩ := (mem_records ledger).mp member
      exact ⟨id, original, onFile, meant, rfl⟩
    · rintro ⟨id, original, onFile, meant, rfl⟩
      exact ⟨original, List.mem_filter.mpr ⟨(mem_records ledger).mpr ⟨id, onFile⟩, meant⟩, rfl⟩
  case once =>
    intro condition
    rw [map_id_drainWhere]
    exact filed.nodup_ids.sublist (List.filter_sublist.map _)
  case ascending =>
    intro condition
    rw [drainWhere_fst]
    exact List.pairwise_map.mpr (ascending.filter condition)
  case stay =>
    intro condition id record
    rw [get?_drainWhere, Option.filter_eq_some_iff, Bool.not_eq_true']
  case frame =>
    intro condition
    rw [drainWhere_snd_eq_keep]
    exact ⟨rfl, rfl, rfl, rfl⟩
  case overdue =>
    intro now
    rfl
  case all => rfl
  case records => exact ⟨fun record => mem_records ledger, ascending⟩
  case listing =>
    intro rows lists
    exact ⟨inOrderOfIssue_listed sequenced lists, drainListed_eq filed sequenced lists⟩

/-- **Records leave in the order of issue**, however the table lists them and has listed them before,
after any sequence of calls on a new ledger. -/
theorem run_retires (capacity timeoutMs : UInt64) (operations : List Operation)
    (few : ((new capacity timeoutMs).handedOut operations).length < UInt64.size) :
    (∀ last, (new capacity timeoutMs).Unfolds operations last ↔
        last = (new capacity timeoutMs).run operations) ∧
      ((new capacity timeoutMs).run operations).Retires := by
  have filed := wellFiled_new capacity timeoutMs
  refine ⟨fun last => filed.unfolds_iff operations, ?_⟩
  exact (filed.run operations).retires
    (filed.sequenced_run (sequenced_new capacity timeoutMs) operations few)

/-- Three commands that have one tenth of a second each, filed at different times. -/
def threeFiled : List Operation :=
  [.allocate .capabilities .interface .caller ⟨0⟩, .allocate .capabilities .interface .caller ⟨10⟩,
    .allocate .capabilities .interface .caller ⟨500⟩]

/-- The two that are overdue leave in their order, also if the table lists them backwards. -/
theorem run_retires_twoOverdue :
    let start := new 16 100
    let ledger := start.run threeFiled
    (start.handedOut threeFiled).length < UInt64.size ∧ ledger.Retires ∧
      (ledger.expire ⟨110⟩).1.map (·.id) = [⟨1⟩, ⟨2⟩] ∧
      ledger.Lists ledger.records.reverse ∧
      ledger.drainListed ledger.records.reverse (fun record => record.deadline.millis.toNat ≤ 110) =
        ledger.expire ⟨110⟩ := by
  intro start ledger
  have few : (start.handedOut threeFiled).length < UInt64.size := by decide +kernel
  have retires : ledger.Retires := (run_retires 16 100 threeFiled few).2
  have lists : ledger.Lists ledger.records.reverse :=
    (List.reverse_perm _).trans ledger.lists_records
  have inOrder : ledger.records = ledger.pending.toList.map (·.2) :=
    List.mergeSort_of_pairwise (by decide +kernel)
  refine ⟨few, retires, ?_, lists, ?_⟩
  · rw [expire, map_id_drainWhere, inOrder]
    decide +kernel
  · rw [retires.overdue]
    exact (retires.listing _ lists).2 _

end Ledger

end NanHost
