import NanHost.Ledger
import NanHost.Proofs.Tables

/-!
# Filing — what the ledger's operations do to what is on file

A ledger is read through one view, `Ledger.get?`. Every operation is stated here as a change of
that view, once, and nothing after this module opens an operation again.

## What is proved

- `Ledger.nextFree_isFree`: the search for a number ends at one that may be handed out whenever
  the ledger is not full. The search takes one lap, so it meets a free number if there is one, and
  there is one because fewer records are on file than there are numbers (`exists_isFree`, the
  pigeonhole).
- `Ledger.allocate_ok`: a number that is handed out is not zero and was not on file.
- `Ledger.WellFiled`: each record lies under its own number and still waits; kept by every
  operation.
- `Ledger.drainWhere_fst` and `Ledger.get?_drainWhere`: records that leave together are the ones
  meant, in order, and the others stay.
- `Ledger.WellFiled.drainWhere_snd_eq`: they may as well leave one at a time.
- `Ledger.records_keep`: those that stay are in the order in which they were.
-/

namespace NanHost

/-! ## The order of issue -/

namespace TransactionRecord

theorem inOrderOfIssue_perm (records : List TransactionRecord) :
    (inOrderOfIssue records).Perm records :=
  List.mergeSort_perm _ _

theorem sequence_trans (a b c : TransactionRecord)
    (before : decide (a.sequence ≤ b.sequence) = true)
    (after : decide (b.sequence ≤ c.sequence) = true) :
    decide (a.sequence ≤ c.sequence) = true :=
  decide_eq_true (UInt64.le_trans (of_decide_eq_true before) (of_decide_eq_true after))

theorem sequence_total (a b : TransactionRecord) :
    (decide (a.sequence ≤ b.sequence) || decide (b.sequence ≤ a.sequence)) = true := by
  simpa using UInt64.le_total a.sequence b.sequence

theorem inOrderOfIssue_pairwise (records : List TransactionRecord) :
    (inOrderOfIssue records).Pairwise fun a b => a.sequence ≤ b.sequence :=
  (List.pairwise_mergeSort sequence_trans sequence_total records).imp of_decide_eq_true

theorem map_retired_inOrderOfIssue (records : List TransactionRecord) :
    (inOrderOfIssue records).map retired = inOrderOfIssue (records.map retired) :=
  List.map_mergeSort fun _ _ _ _ => rfl

/-- A list that a condition splits in two is split by it in one way only. -/
theorem append_eq_of_split {p : TransactionRecord → Bool} {a b c d : List TransactionRecord}
    (same : a ++ b = c ++ d) (ha : ∀ x ∈ a, p x = true) (hb : ∀ x ∈ b, p x = false)
    (hc : ∀ x ∈ c, p x = true) (hd : ∀ x ∈ d, p x = false) : a = c ∧ b = d := by
  have first := congrArg (List.filter p) same
  have second := congrArg (List.filter fun x => !p x) same
  rw [List.filter_append, List.filter_append, List.filter_eq_self.mpr ha,
    List.filter_eq_self.mpr hc, List.filter_eq_nil_iff.mpr fun x hx => by simp [hb x hx],
    List.filter_eq_nil_iff.mpr fun x hx => by simp [hd x hx], List.append_nil,
    List.append_nil] at first
  rw [first] at same
  exact ⟨first, List.append_cancel_left same⟩

/-- Picking records out and putting them into order can be done in either order: records of one
place keep the places they have. -/
theorem filter_inOrderOfIssue (records : List TransactionRecord) (p : TransactionRecord → Bool) :
    (inOrderOfIssue records).filter p = inOrderOfIssue (records.filter p) := by
  unfold inOrderOfIssue
  induction records with
  | nil => simp
  | cons record rest ih =>
    obtain ⟨before, after, placed, others, earlier⟩ :=
      List.mergeSort_cons sequence_trans sequence_total record rest
    have sorted := List.pairwise_mergeSort sequence_trans sequence_total (record :: rest)
    rw [placed] at sorted
    have later : ∀ b ∈ after, decide (record.sequence ≤ b.sequence) = true :=
      (List.pairwise_cons.mp (List.pairwise_append.mp sorted).2.1).1
    rw [others, List.filter_append] at ih
    rw [placed, List.filter_append, List.filter_cons, List.filter_cons]
    by_cases chosen : p record = true
    · obtain ⟨before', after', placed', others', earlier'⟩ :=
        List.mergeSort_cons sequence_trans sequence_total record (rest.filter p)
      have sorted' :=
        List.pairwise_mergeSort sequence_trans sequence_total (record :: rest.filter p)
      rw [placed'] at sorted'
      have later' : ∀ b ∈ after', decide (record.sequence ≤ b.sequence) = true :=
        (List.pairwise_cons.mp (List.pairwise_append.mp sorted').2.1).1
      rw [others'] at ih
      obtain ⟨same, same'⟩ := append_eq_of_split
        (p := fun b => !decide (record.sequence ≤ b.sequence)) ih
        (fun b hb => earlier b (List.mem_filter.mp hb).1)
        (fun b hb => by simpa using later b (List.mem_filter.mp hb).1)
        earlier' (fun b hb => by simpa using later' b hb)
      rw [if_pos chosen, if_pos chosen, placed', same, same']
    · rw [if_neg chosen, if_neg chosen, ih]

end TransactionRecord

namespace Ledger

variable {ledger : Ledger}

/-! ## Single records -/

/-- Two ledgers that agree on what is on file and on their counters are one. -/
theorem ext_get? {a b : Ledger} (records : ∀ id, a.get? id = b.get? id)
    (nextId : a.nextId = b.nextId) (nextSequence : a.nextSequence = b.nextSequence)
    (capacity : a.capacity = b.capacity) (timeoutMs : a.timeoutMs = b.timeoutMs) : a = b := by
  obtain ⟨pending, _, _, _, _⟩ := a
  obtain ⟨_, _, _, _, _⟩ := b
  simp only [mk.injEq]
  exact ⟨Std.ExtTreeMap.ext_getElem? records, nextId, nextSequence, capacity, timeoutMs⟩

@[simp] theorem get?_rollback (ledger : Ledger) (id other : TransactionId) :
    (ledger.rollback id).get? other = if other = id then none else ledger.get? other :=
  Tables.getElem?_erase ledger.pending id other

@[simp] theorem get?_file (ledger : Ledger) (record : TransactionRecord) (other : TransactionId) :
    (ledger.file record).get? other =
      if other = record.id then some record else ledger.get? other :=
  Tables.getElem?_insert ledger.pending record.id other record

/-- What is on file is the record that was filed, or it was on file before. -/
theorem cases_file {ledger : Ledger} {record other : TransactionRecord} {id : TransactionId}
    (onFile : (ledger.file record).get? id = some other) :
    id = record.id ∧ other = record ∨ ledger.get? id = some other := by
  rw [get?_file] at onFile
  split at onFile
  next same => exact .inl ⟨same, (Option.some.inj onFile).symm⟩
  next => exact .inr onFile

@[simp] theorem get?_new (capacity timeoutMs : UInt64) (id : TransactionId) :
    (new capacity timeoutMs).get? id = none := by
  simp [get?, new]

theorem isPending_eq_isSome (ledger : Ledger) (id : TransactionId) :
    ledger.isPending id = (ledger.get? id).isSome :=
  Std.ExtTreeMap.contains_eq_isSome_getElem?

/-- A record that is filed and taken off again has been there for nothing: what is on file is what
was on file before. -/
theorem pending_rollback_file (record : TransactionRecord)
    (fresh : ledger.get? record.id = none) :
    ((ledger.file record).rollback record.id).pending = ledger.pending :=
  Tables.erase_insert_of_absent fresh record

/-- Only the counters have moved on. -/
theorem rollback_file (record : TransactionRecord) (fresh : ledger.get? record.id = none) :
    (ledger.file record).rollback record.id =
      { ledger with nextId := record.id.raw + 1, nextSequence := ledger.nextSequence + 1 } :=
  ext_get? (fun id => by rw [get?, pending_rollback_file record fresh]; rfl) rfl rfl rfl rfl

/-! ## Free numbers -/

theorem isFree_iff (ledger : Ledger) (raw : UInt16) :
    ledger.isFree raw = true ↔ raw ≠ 0 ∧ ledger.get? ⟨raw⟩ = none := by
  simp only [isFree, Bool.and_eq_true, decide_eq_true_eq, Bool.not_eq_true',
    Std.ExtTreeMap.contains_eq_isSome_getElem?, Option.isSome_eq_false_iff,
    Option.isNone_iff_eq_none, get?]

theorem add_ofNat_succ (raw : UInt16) (k : Nat) :
    raw + UInt16.ofNat (k + 1) = raw + 1 + UInt16.ofNat k := by
  rw [UInt16.ofNat_add, UInt16.ofNat_one, UInt16.add_comm (UInt16.ofNat k), UInt16.add_assoc]

/-- A search meets a free number that lies within its reach, or an earlier one. -/
theorem searchFree_isFree (count : Nat) (raw : UInt16)
    (within : ∃ k, k < count ∧ ledger.isFree (raw + UInt16.ofNat k) = true) :
    ledger.isFree (ledger.searchFree count raw) = true := by
  induction count generalizing raw with
  | zero =>
    obtain ⟨_, impossible, _⟩ := within
    omega
  | succ count ih =>
    unfold searchFree
    split
    next free => exact free
    next taken =>
      obtain ⟨k, reach, free⟩ := within
      cases k with
      | zero => simp [taken] at free
      | succ k =>
        rw [add_ofNat_succ] at free
        exact ih (raw + 1) ⟨k, by omega, free⟩

/-- `count` numbers from `raw` on, in cyclic order. -/
def lap (raw : UInt16) (count : Nat) : List UInt16 :=
  (List.range count).map fun k => raw + UInt16.ofNat k

theorem mem_lap {raw other : UInt16} {count : Nat} :
    other ∈ lap raw count ↔ ∃ k < count, raw + UInt16.ofNat k = other := by
  simp only [lap, List.mem_map, List.mem_range]

theorem length_lap (raw : UInt16) (count : Nat) : (lap raw count).length = count := by
  rw [lap, List.length_map, List.length_range]

/-- Up to one lap, no number comes twice. -/
theorem nodup_lap (raw : UInt16) {count : Nat} (bound : count ≤ UInt16.size) :
    (lap raw count).Nodup := by
  refine List.pairwise_map.mpr (List.nodup_range.imp_of_mem ?_)
  intro a b ha hb differ same
  rw [UInt16.add_right_inj, ← UInt16.toNat_inj, UInt16.toNat_ofNat', UInt16.toNat_ofNat'] at same
  rw [List.mem_range] at ha hb
  rw [Nat.mod_eq_of_lt (Nat.lt_of_lt_of_le ha bound),
    Nat.mod_eq_of_lt (Nat.lt_of_lt_of_le hb bound)] at same
  exact differ same

/-- There are more numbers than records on file, so one of the numbers is free. -/
theorem exists_isFree (room : ledger.size < idCount) : ∃ raw, ledger.isFree raw = true := by
  apply Classical.byContradiction
  intro none
  let numbers := (lap 1 idCount).map TransactionId.mk
  have distinct : numbers.Nodup :=
    List.pairwise_map.mpr ((nodup_lap 1 (by decide)).imp fun differ same =>
      differ (TransactionId.mk.inj same))
  have taken : numbers ⊆ ledger.pending.keys := by
    intro id member
    obtain ⟨raw, onLap, rfl⟩ := List.mem_map.mp member
    obtain ⟨k, below, rfl⟩ := mem_lap.mp onLap
    refine Std.ExtTreeMap.mem_keys.mpr (Classical.byContradiction fun absent => ?_)
    refine none ⟨_, (ledger.isFree_iff _).mpr ⟨?_, Std.ExtTreeMap.getElem?_eq_none absent⟩⟩
    intro zero
    rw [← UInt16.toNat_inj, UInt16.toNat_add, UInt16.toNat_ofNat'] at zero
    simp only [idCount, UInt16.toNat_one, UInt16.toNat_zero] at below zero
    omega
  have bound := distinct.length_le_of_subset taken
  rw [List.length_map, length_lap, Std.ExtTreeMap.length_keys] at bound
  exact Nat.not_lt.mpr bound room

/-- **The next number is free** whenever fewer records are on file than there are numbers. One lap
visits every number, so it visits a free one. -/
theorem nextFree_isFree (room : ledger.size < idCount) :
    ledger.isFree ledger.nextFree = true := by
  obtain ⟨raw, free⟩ := ledger.exists_isFree room
  refine searchFree_isFree _ _ ⟨(raw - ledger.nextId).toNat, ?_, ?_⟩
  · have bound := (raw - ledger.nextId).toNat_lt
    simp only [idCount]
    omega
  · rwa [UInt16.ofNat_toNat, UInt16.add_comm, UInt16.sub_add_cancel]

/-! ## Well-filed ledgers -/

/-- Every record lies under its own number, which is not zero, and still waits for its answer; and
the ledger never takes on more records than there are numbers. -/
structure WellFiled (ledger : Ledger) : Prop where
  own : ∀ {id record}, ledger.get? id = some record → record.id = id
  awaiting : ∀ {id record}, ledger.get? id = some record → record.awaitingCompletion = true
  nonzero : ∀ {id record}, ledger.get? id = some record → id.raw ≠ 0
  capacity_le : ledger.capacity ≤ idCount

theorem wellFiled_new (capacity timeoutMs : UInt64) : (new capacity timeoutMs).WellFiled where
  own onFile := by simp at onFile
  awaiting onFile := by simp at onFile
  nonzero onFile := by simp at onFile
  capacity_le := by simp only [new, idCount]; omega

/-- Taking records off leaves the others well filed. -/
theorem WellFiled.mono {rest : Ledger} (filed : ledger.WellFiled)
    (fewer : ∀ {id record}, rest.get? id = some record → ledger.get? id = some record)
    (capacity : rest.capacity = ledger.capacity) : rest.WellFiled where
  own onFile := filed.own (fewer onFile)
  awaiting onFile := filed.awaiting (fewer onFile)
  nonzero onFile := filed.nonzero (fewer onFile)
  capacity_le := capacity ▸ filed.capacity_le

theorem WellFiled.rollback (filed : ledger.WellFiled) (id : TransactionId) :
    (ledger.rollback id).WellFiled := by
  refine filed.mono (fun {other record} onFile => ?_) rfl
  rw [get?_rollback] at onFile
  split at onFile
  · cases onFile
  · exact onFile

theorem WellFiled.file {record : TransactionRecord} (filed : ledger.WellFiled)
    (awaiting : record.awaitingCompletion = true) (nonzero : record.id.raw ≠ 0) :
    (ledger.file record).WellFiled := by
  refine ⟨fun onFile => ?_, fun onFile => ?_, fun onFile => ?_, filed.capacity_le⟩
  · rcases cases_file onFile with ⟨same, rfl⟩ | before
    · exact same.symm
    · exact filed.own before
  · rcases cases_file onFile with ⟨_, rfl⟩ | before
    · exact awaiting
    · exact filed.awaiting before
  · rcases cases_file onFile with ⟨same, _⟩ | before
    · exact same ▸ nonzero
    · exact filed.nonzero before

/-- What handing out a number comes to: it is not zero, nothing was on file under it, and now the
new record is. -/
theorem allocate_ok {kind : CommandKind} {context : PendingContext} {origin : Origin}
    {now : Timestamp} {id : TransactionId} {next : Ledger} (filed : ledger.WellFiled)
    (allocated : ledger.allocate kind context origin now = .ok (id, next)) :
    id = (ledger.newRecord kind context origin now).id ∧ id.raw ≠ 0 ∧ ledger.get? id = none ∧
      next = ledger.file (ledger.newRecord kind context origin now) := by
  unfold allocate at allocated
  split at allocated
  next => cases allocated
  next room =>
    simp only [Except.ok.injEq, Prod.mk.injEq] at allocated
    obtain ⟨rfl, rfl⟩ := allocated
    have bound := filed.capacity_le
    have free := ledger.nextFree_isFree (by omega)
    obtain ⟨nonzero, fresh⟩ := (ledger.isFree_iff _).mp free
    exact ⟨rfl, nonzero, fresh, rfl⟩

/-- What an answer finds: the record on file under its number, or nothing. -/
theorem resolve_eq (ledger : Ledger) (id : TransactionId) :
    ledger.resolve id = match ledger.get? id with
      | some record => .ok (record.retired, ledger.rollback id)
      | none => .error ⟨id⟩ := rfl

/-! ## Records that leave together -/

open TransactionRecord (inOrderOfIssue_perm filter_inOrderOfIssue map_retired_inOrderOfIssue)

@[simp] theorem mem_records {record : TransactionRecord} (ledger : Ledger) :
    record ∈ ledger.records ↔ ∃ id, ledger.get? id = some record := by
  simp only [records, (inOrderOfIssue_perm _).mem_iff, List.mem_map, Prod.exists,
    Std.ExtTreeMap.mem_toList_iff_getElem?_eq_some, exists_eq_right, get?]

/-- The records that leave together are those meant among the ones on file, in the same order. -/
theorem drainWhere_fst (ledger : Ledger) (condition : TransactionRecord → Bool) :
    (ledger.drainWhere condition).1 =
      (ledger.records.filter condition).map TransactionRecord.retired := by
  rw [records, filter_inOrderOfIssue, map_retired_inOrderOfIssue, List.filter_map, List.map_map]
  rfl

/-- Records that leave together take off their numbers one after the other. -/
theorem get?_foldl_rollback (ids : List TransactionId) (ledger : Ledger) (id : TransactionId) :
    (ids.foldl rollback ledger).get? id = if id ∈ ids then none else ledger.get? id := by
  induction ids generalizing ledger with
  | nil => simp
  | cons first rest ih =>
    rw [List.foldl_cons, ih, get?_rollback]
    by_cases same : id = first <;> by_cases later : id ∈ rest <;> simp [same, later]

/-- Taking records off touches nothing but what is on file. -/
theorem foldl_rollback_frame (ids : List TransactionId) (ledger : Ledger) :
    ids.foldl rollback ledger =
      { ledger with pending := (ids.foldl rollback ledger).pending } := by
  induction ids generalizing ledger with
  | nil => rfl
  | cons first rest ih => rw [List.foldl_cons, ih]; rfl

theorem drainWhere_snd (ledger : Ledger) (condition : TransactionRecord → Bool) :
    (ledger.drainWhere condition).2 =
      ((ledger.pending.toList.filter fun row => condition row.2).map (·.1)).foldl rollback
        ledger := by
  simp only [drainWhere, List.foldl_map]

theorem get?_drainWhere (ledger : Ledger) (condition : TransactionRecord → Bool)
    (id : TransactionId) :
    (ledger.drainWhere condition).2.get? id =
      (ledger.get? id).filter fun record => !condition record := by
  rw [drainWhere_snd, get?_foldl_rollback]
  have member : id ∈ (ledger.pending.toList.filter fun row => condition row.2).map (·.1) ↔
      ∃ record, ledger.get? id = some record ∧ condition record = true := by
    simp only [List.mem_map, List.mem_filter, Prod.exists, exists_eq_right, get?,
      Std.ExtTreeMap.mem_toList_iff_getElem?_eq_some, exists_and_right]
  cases found : ledger.get? id with
  | none => simp
  | some record =>
    by_cases meant : condition record = true
    · rw [if_pos (member.mpr ⟨record, found, meant⟩), Option.filter_some_neg]
      simp [meant]
    · have stays : ¬∃ other, ledger.get? id = some other ∧ condition other = true := by
        rintro ⟨other, found', meant'⟩
        rw [found] at found'
        exact meant (Option.some.inj found' ▸ meant')
      rw [if_neg (fun leaves => stays (member.mp leaves)), Option.filter_some_pos]
      simp [meant]

/-- The numbers that leave together. -/
theorem map_id_drainWhere (ledger : Ledger) (condition : TransactionRecord → Bool) :
    (ledger.drainWhere condition).1.map (·.id) =
      (ledger.records.filter condition).map (·.id) := by
  rw [drainWhere_fst, List.map_map]
  rfl

/-- Records that leave touch nothing but what is on file. -/
theorem drainWhere_frame (ledger : Ledger) (condition : TransactionRecord → Bool) :
    (ledger.drainWhere condition).2 =
      { ledger with pending := (ledger.drainWhere condition).2.pending } := by
  rw [drainWhere_snd]
  exact foldl_rollback_frame _ ledger

/-- A number is among those that leave exactly if the record on file under it is meant. -/
theorem WellFiled.mem_ids_drainWhere (filed : ledger.WellFiled)
    (condition : TransactionRecord → Bool) (id : TransactionId) :
    id ∈ (ledger.drainWhere condition).1.map (·.id) ↔
      ∃ record, ledger.get? id = some record ∧ condition record = true := by
  simp only [map_id_drainWhere, List.mem_map, List.mem_filter, mem_records]
  constructor
  · rintro ⟨record, ⟨⟨other, found⟩, meant⟩, rfl⟩
    exact ⟨record, (filed.own found).symm ▸ found, meant⟩
  · rintro ⟨record, found, meant⟩
    exact ⟨record, ⟨⟨id, found⟩, meant⟩, filed.own found⟩

/-- **Leaving together is leaving one at a time**: what is on file after a batch has left is what
is on file after its records have left one after the other. -/
theorem WellFiled.drainWhere_snd_eq (filed : ledger.WellFiled)
    (condition : TransactionRecord → Bool) :
    (ledger.drainWhere condition).2 =
      ((ledger.drainWhere condition).1.map (·.id)).foldl Ledger.rollback ledger := by
  have frame := foldl_rollback_frame ((ledger.drainWhere condition).1.map (·.id)) ledger
  have frame' := ledger.drainWhere_frame condition
  refine ext_get? (fun id => ?_) ?_ ?_ ?_ ?_
  · rw [get?_drainWhere, get?_foldl_rollback]
    by_cases leaves : id ∈ (ledger.drainWhere condition).1.map (·.id)
    · obtain ⟨record, found, meant⟩ := (filed.mem_ids_drainWhere condition id).mp leaves
      rw [if_pos leaves, found, Option.filter_some_neg (by simp [meant])]
    · rw [if_neg leaves]
      cases found : ledger.get? id with
      | none => rfl
      | some record =>
        refine Option.filter_some_pos ?_
        have stays : ¬condition record = true := fun meant =>
          leaves ((filed.mem_ids_drainWhere condition id).mpr ⟨record, found, meant⟩)
        simp [stays]
  all_goals rw [frame, frame']

/-- No two records on file have one number. -/
theorem WellFiled.nodup_ids (filed : ledger.WellFiled) :
    (ledger.records.map (·.id)).Nodup := by
  have distinct : ((ledger.pending.toList.map (·.2)).map (·.id)).Nodup :=
    Tables.nodup_values filed.own
  have numbers := (inOrderOfIssue_perm (ledger.pending.toList.map (·.2))).map (·.id)
  exact numbers.nodup_iff.mpr distinct

/-! ## What stays -/

/-- The ledger with those records alone that satisfy a condition. -/
def keep (ledger : Ledger) (condition : TransactionRecord → Bool) : Ledger :=
  { ledger with pending := ledger.pending.filter fun _ record => condition record }

@[simp] theorem get?_keep (ledger : Ledger) (condition : TransactionRecord → Bool)
    (id : TransactionId) : (ledger.keep condition).get? id = (ledger.get? id).filter condition :=
  Std.ExtTreeMap.getElem?_filter'

/-- What is kept is in the order in which it was before. -/
theorem records_keep (ledger : Ledger) (condition : TransactionRecord → Bool) :
    (ledger.keep condition).records = ledger.records.filter condition := by
  rw [records, records, filter_inOrderOfIssue, List.filter_map, keep,
    Std.ExtTreeMap.toList_filter]
  rfl

theorem keep_true (ledger : Ledger) : ledger.keep (fun _ => true) = ledger := by
  refine ext_get? (fun id => ?_) rfl rfl rfl rfl
  rw [get?_keep]
  cases ledger.get? id <;> rfl

theorem keep_keep (ledger : Ledger) (first second : TransactionRecord → Bool) :
    (ledger.keep first).keep second = ledger.keep fun record => first record && second record := by
  refine ext_get? (fun id => ?_) rfl rfl rfl rfl
  rw [get?_keep, get?_keep, get?_keep, Option.filter_filter]

theorem drainWhere_snd_eq_keep (ledger : Ledger) (condition : TransactionRecord → Bool) :
    (ledger.drainWhere condition).2 = ledger.keep (!condition ·) := by
  have frame := ledger.drainWhere_frame condition
  refine ext_get? (fun id => ?_) ?_ ?_ ?_ ?_
  · rw [get?_drainWhere, get?_keep]
  all_goals rw [frame]; rfl

theorem WellFiled.rollback_eq_keep (filed : ledger.WellFiled) (id : TransactionId) :
    ledger.rollback id = ledger.keep (·.id ≠ id) := by
  refine ext_get? (fun other => ?_) rfl rfl rfl rfl
  rw [get?_rollback, get?_keep]
  cases found : ledger.get? other with
  | none => split <;> rfl
  | some record =>
    have own := filed.own found
    by_cases same : other = id <;> simp [Option.filter_some, own, same]

end Ledger

end NanHost
