import NanHost.Proofs.Ledger.Allocation

/-!
# Recurrence — a number comes again after a lap, and not before

The search for a number starts behind the one that was handed out last, so it comes back to a number
once it has gone round. On its way it passes every other number, and it passes none that it could have
handed out. A number that it passed is zero, or a record was on file under it: then it was handed out
on this very lap, or the record has been there since the lap began. Of the last kind there are no more
than the ledger holds. So all others were handed out on the lap.

The lap begins when the number is handed out, not when its command leaves. A command that stays on
file for nearly a lap may leave just before its number is next, and is then followed at once.

## What is proved

`Lap` says how far the search has come since a number was handed out. It begins with the number
(`lap_file`), and goes on while commands are filed and while they leave (`Lap.file`, `Lap.keep`). When
the search is back, every number is accounted for (`Lap.whole`), and counting them gives the bound
(`le_of_accounted`).

`run_recurs` draws the conclusions for any sequence of calls on a new ledger: how far two commands of
one number lie apart, and how long an answer that comes too late meets no record.
-/

namespace NanHost

namespace Ledger

variable {ledger : Ledger} {record : TransactionRecord} {id : TransactionId}
  {since waiting : List TransactionId} {distance : Nat} {raw last : UInt16}

/-! ## A lap -/

/-- Why the search did not stay at a number: it is zero, or it was handed out `since`, or it is one of
those that were `waiting` when the lap began. -/
def Accounted (since waiting : List TransactionId) (raw : UInt16) : Prop :=
  raw = 0 ∨ ⟨raw⟩ ∈ since ∨ ⟨raw⟩ ∈ waiting

theorem Accounted.later (accounted : Accounted since waiting raw) (other : TransactionId) :
    Accounted (since ++ [other]) waiting raw := by
  rcases accounted with zero | handed | waited
  · exact .inl zero
  · exact .inr (.inl (List.mem_append_left _ handed))
  · exact .inr (.inr waited)

/-- Since `id` was handed out, the search has gone past `distance` numbers, and all of them are
accounted for, as are those on file. -/
structure Lap (ledger : Ledger) (id : TransactionId) (since waiting : List TransactionId)
    (distance : Nat) : Prop where
  next : ledger.nextId = id.raw + 1 + UInt16.ofNat distance
  passed : ∀ k < distance, Accounted since waiting (id.raw + 1 + UInt16.ofNat k)
  onFile : ∀ {other record}, ledger.get? other = some record → other ∈ since ∨ other ∈ waiting

theorem mem_keys_of_onFile (onFile : ledger.get? id = some record) : id ∈ ledger.pending.keys := by
  apply Std.ExtTreeMap.mem_keys.mpr
  apply Std.ExtTreeMap.mem_iff_isSome_getElem?.mpr
  exact Option.isSome_iff_exists.mpr ⟨record, onFile⟩

/-- **A lap begins** when a number is handed out. What waits then is what is on file. -/
theorem lap_file (ledger : Ledger) (record : TransactionRecord) :
    (ledger.file record).Lap record.id [] (ledger.file record).pending.keys 0 where
  next := (UInt16.add_zero _).symm
  passed k below := by omega
  onFile {other found} onFile := by
    right
    exact mem_keys_of_onFile onFile

namespace Lap

/-- A number past which the search goes is accounted for. -/
theorem accounted (lap : ledger.Lap id since waiting distance) (taken : ledger.Taken raw) :
    Accounted since waiting raw := by
  rcases taken with zero | there
  · exact .inl zero
  · obtain ⟨record, onFile⟩ := Option.isSome_iff_exists.mp there
    exact .inr (lap.onFile onFile)

/-- So are all numbers from the beginning of the lap to the next one that the search finds. -/
theorem reaches (lap : ledger.Lap id since waiting distance)
    (finds : ledger.Finds last ledger.nextId) :
    ∃ distance', last = id.raw + 1 + UInt16.ofNat distance' ∧
      ∀ k < distance', Accounted since waiting (id.raw + 1 + UInt16.ofNat k) := by
  obtain ⟨j, last_eq, between⟩ := finds.first
  have position (i : Nat) :
      ledger.nextId + UInt16.ofNat i = id.raw + 1 + UInt16.ofNat (distance + i) := by
    rw [lap.next, UInt16.add_assoc, UInt16.ofNat_add]
  refine ⟨distance + j, ?_, ?_⟩
  · rw [last_eq, position]
  · intro k below
    by_cases before : k < distance
    · exact lap.passed k before
    · have taken := between (k - distance) (by omega)
      rw [position, Nat.add_sub_cancel' (Nat.le_of_not_lt before)] at taken
      exact lap.accounted taken

/-- **A lap goes on** while commands are filed. -/
theorem file (lap : ledger.Lap id since waiting distance)
    (finds : ledger.Finds record.id.raw ledger.nextId) :
    ∃ distance', (ledger.file record).Lap id (since ++ [record.id]) waiting distance' := by
  obtain ⟨distance', number, passed⟩ := lap.reaches finds
  refine ⟨distance' + 1, ?_, ?_, ?_⟩
  · show record.id.raw + 1 = _
    rw [number, UInt16.ofNat_add, UInt16.ofNat_one, UInt16.add_assoc _ (UInt16.ofNat distance')]
  · intro k below
    by_cases before : k < distance'
    · exact (passed k before).later record.id
    · obtain rfl : k = distance' := by omega
      rw [← number]
      exact .inr (.inl (List.mem_append_right _ (List.mem_singleton.mpr rfl)))
  · intro other found onFile
    rcases cases_file onFile with ⟨rfl, _⟩ | before
    · left
      exact List.mem_append_right _ (List.mem_singleton.mpr rfl)
    · rcases lap.onFile before with handed | waited
      · exact .inl (List.mem_append_left _ handed)
      · exact .inr waited

/-- And while they leave. -/
theorem keep (lap : ledger.Lap id since waiting distance)
    (condition : TransactionRecord → Bool) :
    (ledger.keep condition).Lap id since waiting distance := by
  refine ⟨lap.next, lap.passed, ?_⟩
  intro other record onFile
  rw [get?_keep, Option.filter_eq_some_iff] at onFile
  exact lap.onFile onFile.1

/-- **When the search is back, all other numbers are accounted for.** -/
theorem whole (lap : ledger.Lap id since waiting distance)
    (finds : ledger.Finds id.raw ledger.nextId) :
    ∀ k < idCount, Accounted since waiting (id.raw + 1 + UInt16.ofNat k) := by
  obtain ⟨distance', back, passed⟩ := lap.reaches finds
  have far : idCount ≤ distance' := by
    rw [← UInt16.toNat_inj, UInt16.toNat_add, UInt16.toNat_add, UInt16.toNat_ofNat',
      UInt16.toNat_one] at back
    have small := id.raw.toNat_lt
    unfold idCount
    omega
  intro k below
  exact passed k (Nat.lt_of_lt_of_le below far)

end Lap

/-! ## Counting -/

/-- No other number is `id` itself. -/
theorem add_one_add_ne (raw : UInt16) {k : Nat} (below : k < idCount) :
    raw + 1 + UInt16.ofNat k ≠ raw := by
  intro same
  rw [← UInt16.toNat_inj, UInt16.toNat_add, UInt16.toNat_add, UInt16.toNat_ofNat',
    UInt16.toNat_one] at same
  have small := raw.toNat_lt
  unfold idCount at below
  omega

/-- **If all other numbers are accounted for, all but those that waited were handed out.** The number
itself is one of those that waited, and zero takes its place. -/
theorem le_of_accounted (waited : id ∈ waiting)
    (accounted : ∀ k < idCount, Accounted since waiting (id.raw + 1 + UInt16.ofNat k)) :
    idCount ≤ since.countP (· ≠ id) + waiting.length := by
  let places := (since.filter (· ≠ id) ++ waiting.erase id).map TransactionId.raw
  have subset : lap (id.raw + 1) idCount ⊆ 0 :: places := by
    intro raw onLap
    obtain ⟨k, below, rfl⟩ := mem_lap.mp onLap
    have apart : (⟨id.raw + 1 + UInt16.ofNat k⟩ : TransactionId) ≠ id := by
      intro same
      exact add_one_add_ne id.raw below (congrArg TransactionId.raw same)
    rcases accounted k below with zero | handed | waits
    · rw [zero]
      exact List.mem_cons_self
    · have other : _ ∈ since.filter (· ≠ id) :=
        List.mem_filter.mpr ⟨handed, decide_eq_true apart⟩
      exact List.mem_cons_of_mem _ (List.mem_map_of_mem (List.mem_append_left _ other))
    · have other := (List.mem_erase_of_ne apart).mpr waits
      exact List.mem_cons_of_mem _ (List.mem_map_of_mem (List.mem_append_right _ other))
  have counted := (nodup_lap (id.raw + 1) (by decide)).length_le_of_subset subset
  have one := List.length_pos_of_mem waited
  rw [length_lap, List.length_cons, List.length_map, List.length_append,
    ← List.countP_eq_length_filter, List.length_erase_of_mem waited] at counted
  omega

/-! ## Runs -/

/-- A lap goes on through any sequence of calls. -/
theorem WellFiled.lap_run (filed : ledger.WellFiled) (lap : ledger.Lap id since waiting distance)
    (operations : List Operation) :
    ∃ distance', (ledger.run operations).Lap id (since ++ ledger.handedOut operations) waiting
      distance' := by
  apply filed.run_keeps (motive := fun ledger past => ∃ distance, ledger.Lap id past waiting distance)
    since ⟨distance, lap⟩
  rintro ledger next handed past filed ⟨distance, lap⟩ transition
  cases transition with
  | filed kind context origin now room => exact lap.file (filed.finds room)
  | kept condition =>
    rw [Option.toList_none, List.append_nil]
    exact ⟨distance, lap.keep condition⟩

/-- A number that calls hand out is handed out by one of them. -/
theorem exists_handsOut {operations : List Operation} {first rest : List TransactionId}
    (handed : ledger.handedOut operations = first ++ id :: rest) :
    ∃ before operation after, operations = before ++ operation :: after ∧
      ledger.handedOut before = first ∧ (ledger.run before).handsOut? operation = some id ∧
      ((ledger.run before).step operation).handedOut after = rest := by
  induction operations generalizing ledger first with
  | nil =>
    rw [handedOut] at handed
    simp at handed
  | cons operation operations ih =>
    rw [handedOut] at handed
    cases out : ledger.handsOut? operation with
    | none =>
      rw [out, Option.toList_none, List.nil_append] at handed
      obtain ⟨before, operation', after, rfl, hands, one, others⟩ := ih handed
      refine ⟨operation :: before, operation', after, rfl, ?_, one, others⟩
      rw [handedOut, out]
      exact hands
    | some other =>
      rw [out, Option.toList_some, List.singleton_append] at handed
      cases first with
      | nil =>
        obtain ⟨rfl, others⟩ := List.cons.inj handed
        exact ⟨[], operation, operations, rfl, rfl, out, others⟩
      | cons earlier first =>
        obtain ⟨rfl, later⟩ := List.cons.inj handed
        obtain ⟨before, operation', after, rfl, hands, one, others⟩ := ih later
        refine ⟨operation :: before, operation', after, rfl, ?_, one, others⟩
        rw [handedOut, out, hands]
        rfl

/-- A call that hands out a number files a command under it, which the search has found. -/
theorem WellFiled.filed_of_handsOut (filed : ledger.WellFiled) {operation : Operation}
    (hands : ledger.handsOut? operation = some id) :
    ∃ record, record.id = id ∧ ledger.size < ledger.capacity ∧
      ledger.Finds id.raw ledger.nextId ∧ ledger.get? id = none ∧
      ledger.step operation = ledger.file record := by
  have transition := filed.transition operation
  rw [hands] at transition
  generalize after : ledger.step operation = next at transition
  cases transition with
  | filed kind context origin now room =>
    exact ⟨_, rfl, room, filed.finds room,
      (filed.newRecord_isFree room kind context origin now).2, rfl⟩

/-- **Two commands of one number** have so many others between them that, with those that may be on
file, they make up all the numbers. -/
theorem WellFiled.le_countP_between (filed : ledger.WellFiled) {operations : List Operation}
    {first middle rest : List TransactionId}
    (handed : ledger.handedOut operations = first ++ id :: (middle ++ id :: rest)) :
    idCount ≤ middle.countP (· ≠ id) + ledger.capacity := by
  obtain ⟨before, operation, after, rfl, -, hands, others⟩ := exists_handsOut handed
  have filed' := filed.run before
  obtain ⟨record, rfl, room, finds, fresh, stepped⟩ := filed'.filed_of_handsOut hands
  have filed'' := filed'.after (filed'.transition operation)
  rw [stepped] at others filed''
  obtain ⟨between, operation', _, rfl, rfl, hands', -⟩ := exists_handsOut others
  obtain ⟨distance, lap⟩ := filed''.lap_run (lap_file (ledger.run before) record) between
  obtain ⟨-, -, -, finds', -, -⟩ := (filed''.run between).filed_of_handsOut hands'
  have accounted := lap.whole finds'
  rw [List.nil_append] at accounted
  have onFile : ((ledger.run before).file record).get? record.id = some record := by
    rw [get?_file, if_pos rfl]
  have counted := le_of_accounted (mem_keys_of_onFile onFile) accounted
  rw [Std.ExtTreeMap.length_keys] at counted
  have grown : ((ledger.run before).file record).pending.size = (ledger.run before).size + 1 :=
    size_file fresh
  have holds := (filed.frame_run before).1
  omega

/-- A number that is not on file and is not handed out does not come on file. -/
theorem WellFiled.get?_run_eq_none (filed : ledger.WellFiled) (absent : ledger.get? id = none)
    {operations : List Operation} (unused : id ∉ ledger.handedOut operations) :
    (ledger.run operations).get? id = none := by
  have kept := filed.run_keeps
    (motive := fun ledger past => id ∉ past → ledger.get? id = none) [] (fun _ => absent) ?_ operations
  · exact kept unused
  intro ledger next handed past filed before transition unused
  rw [List.mem_append, not_or] at unused
  have absent := before unused.1
  cases transition with
  | filed kind context origin now room =>
    rw [Option.toList_some, List.mem_singleton] at unused
    rw [get?_file, if_neg unused.2]
    exact absent
  | kept condition =>
    rw [get?_keep, absent]
    rfl

/-- **How soon a number comes again** in a ledger that was made to hold `capacity` records for
`timeoutMs` each, whatever it is called to do. -/
structure Recurs (capacity timeoutMs : UInt64) : Prop where
  /-- Between two commands of one number, so many others were filed. -/
  apart : ∀ operations first id middle rest,
    (new capacity timeoutMs).handedOut operations = first ++ id :: (middle ++ id :: rest) →
      65535 - bound capacity ≤ middle.countP (· ≠ id)
  /-- Once a command has left, an answer to it meets no record, as long as fewer commands than that
  were filed after it. -/
  stale : ∀ operations later first id since,
    (new capacity timeoutMs).handedOut operations = first ++ id :: since →
      ((new capacity timeoutMs).run operations).get? id = none →
        (since ++ ((new capacity timeoutMs).run operations).handedOut later).length <
            65535 - bound capacity →
          ((new capacity timeoutMs).run (operations ++ later)).resolve id = .error ⟨id⟩

/-- The same number does not come again until so many commands were filed. -/
theorem WellFiled.get?_run_of_few (filed : ledger.WellFiled) {operations later : List Operation}
    {first : List TransactionId} (handed : ledger.handedOut operations = first ++ id :: since)
    (absent : (ledger.run operations).get? id = none)
    (few : (since ++ (ledger.run operations).handedOut later).length < idCount - ledger.capacity) :
    (ledger.run (operations ++ later)).get? id = none := by
  rw [run_append]
  apply (filed.run operations).get?_run_eq_none absent
  intro again
  obtain ⟨between, rest, split⟩ := List.append_of_mem again
  have both : ledger.handedOut (operations ++ later) =
      first ++ id :: ((since ++ between) ++ id :: rest) := by
    rw [handedOut_append, handed, split]
    simp only [List.append_assoc, List.cons_append]
  have many := filed.le_countP_between both
  have within : (since ++ between).countP (· ≠ id) ≤ (since ++ between).length :=
    List.countP_le_length
  rw [split] at few
  simp only [List.length_append, List.length_cons] at few within
  omega

/-- **A number comes again after a lap, and not before**, in any sequence of calls on a new ledger. -/
theorem run_recurs (capacity timeoutMs : UInt64) : Recurs capacity timeoutMs := by
  have filed := wellFiled_new capacity timeoutMs
  constructor
  case apart =>
    intro operations first id middle rest handed
    have many : idCount ≤ middle.countP (· ≠ id) + bound capacity := filed.le_countP_between handed
    exact Nat.sub_le_of_le_add many
  case stale =>
    intro operations later first id since handed absent few
    rw [resolve_eq, filed.get?_run_of_few handed absent few]

end Ledger

end NanHost
