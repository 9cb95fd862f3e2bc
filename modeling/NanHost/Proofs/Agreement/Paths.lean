import NanHost.DataPath.Table
import NanHost.Proofs.Ledger.Docket

/-!
# Data paths — the table agrees with the commands that are out

A path lists the commands about it that are unanswered and remembers whether its end was asked for;
an initiation under way is entered under its command. `DataPathTable.Agrees` says that the table
repeats the docket of the commands about data paths faithfully. As with sessions it is stated of one
path first (`DataPath.Agrees`), and `Agrees.put` is the only place that goes through the table.

## What is proved

Every operation of the table comes with the change of the docket that goes with it, and keeps the
agreement. Events that were held back and the grace period play no part in it (`Agrees.reheld`).
-/

namespace NanHost

/-! ## One path -/

namespace DataPath

variable {path next : DataPath} {id : DataPathId} {docket : Docket} {record : TransactionRecord}
  {txn : TransactionId}

theorem mem_attach {other : TransactionId} :
    other ∈ (path.attach txn).inFlight ↔ other = txn ∨ other ∈ path.inFlight :=
  Tables.mem_insert_iff

theorem mem_detach {other : TransactionId} :
    other ∈ (path.detach txn).inFlight ↔ other ≠ txn ∧ other ∈ path.inFlight :=
  Tables.mem_erase_iff

/-- A path is done when it is terminated and no command is out about it. -/
theorem isDone_iff :
    path.isDone = true ↔ path.state = .terminated ∧ ∀ txn, txn ∉ path.inFlight := by
  simp only [isDone, Bool.and_eq_true, decide_eq_true_eq, Std.ExtTreeSet.isEmpty_iff,
    Std.ExtTreeSet.eq_empty_iff_forall_not_mem]

/-- The path of a number repeats what is out about it. -/
structure Agrees (path : DataPath) (id : DataPathId) (docket : Docket) : Prop where
  own : path.id = id
  inFlight_iff : ∀ {txn}, txn ∈ path.inFlight ↔
    ∃ record, docket txn = some record ∧ record.context = .dataPath id
  end_out : path.state ≠ .terminated → path.endPending = true →
    ∃ txn record, docket txn = some record ∧ record.context = .dataPath id ∧
      record.kind = .endDataPath
  ending : ∀ {txn record}, docket txn = some record → record.context = .dataPath id →
    record.kind = .endDataPath → path.endPending = true ∨ path.state = .terminated

namespace Agrees

/-- Commands about anything else play no part. -/
theorem congr {after : Docket} (agrees : path.Agrees id docket)
    (same : Docket.SameAbout (.dataPath id) docket after) : path.Agrees id after where
  own := agrees.own
  inFlight_iff := by
    intro txn
    rw [agrees.inFlight_iff]
    constructor <;> rintro ⟨record, out, about⟩
    · exact ⟨record, (same about).mpr out, about⟩
    · exact ⟨record, (same about).mp out, about⟩
  end_out live pending := by
    obtain ⟨txn, record, out, about, kind⟩ := agrees.end_out live pending
    exact ⟨txn, record, (same about).mpr out, about, kind⟩
  ending out about := agrees.ending ((same about).mp out) about

/-- A new path under a number that nothing is out about. -/
theorem fresh (own : path.id = id) (quiet : path.inFlight = ∅) (open' : path.endPending = false)
    (idle : ∀ {txn record}, docket txn = some record → record.context ≠ .dataPath id) :
    path.Agrees id docket where
  own := own
  inFlight_iff := by
    intro txn
    refine ⟨fun member => absurd member (by simp [quiet]), ?_⟩
    rintro ⟨record, out, about⟩
    exact absurd about (idle out)
  end_out _ pending := by rw [open'] at pending; cases pending
  ending out about := absurd about (idle out)

/-- **A path that events have changed**: what is out about it is as it was, and a terminated path
stays terminated. -/
theorem touch (agrees : path.Agrees id docket) (sameId : next.id = path.id)
    (inFlight : next.inFlight = path.inFlight) (endPending : next.endPending = path.endPending)
    (state : next.state = .terminated ∨ path.state ≠ .terminated) : next.Agrees id docket where
  own := sameId.trans agrees.own
  inFlight_iff := inFlight ▸ agrees.inFlight_iff
  end_out live pending :=
    agrees.end_out (state.resolve_left live) (endPending ▸ pending)
  ending out about kind := by
    rcases state with gone | live
    · exact .inr gone
    · rw [endPending]
      exact .inl ((agrees.ending out about kind).resolve_right live)

/-- **One command less is out about the path.** If it was the end, the path is terminated. -/
theorem settle (agrees : path.Agrees id docket) (out : docket txn = some record)
    (sameId : next.id = path.id)
    (inFlight : ∀ {other}, other ∈ next.inFlight ↔ other ≠ txn ∧ other ∈ path.inFlight)
    (state : next.state = .terminated ∨ next.state = path.state ∧
      next.endPending = path.endPending ∧ record.kind ≠ .endDataPath) :
    next.Agrees id (docket.strike txn) where
  own := sameId.trans agrees.own
  inFlight_iff := by
    intro other
    simp only [inFlight, agrees.inFlight_iff, Docket.strike_eq_some, and_assoc, exists_and_left]
  end_out live pending := by
    obtain ⟨sameState, sameEnd, notEnd⟩ := state.resolve_left live
    obtain ⟨number, entry, out', about', kind⟩ :=
      agrees.end_out (sameState ▸ live) (sameEnd ▸ pending)
    have differs : number ≠ txn := by
      rintro rfl
      obtain rfl := Option.some.inj (out.symm.trans out')
      exact notEnd kind
    exact ⟨number, entry, Docket.strike_eq_some.mpr ⟨differs, out'⟩, about', kind⟩
  ending out' about' kind := by
    rcases state with gone | ⟨sameState, sameEnd, _⟩
    · exact .inr gone
    · rw [sameState, sameEnd]
      exact agrees.ending (Docket.strike_eq_some.mp out').2 about' kind

/-- A path that a command other than an end is struck off from stays as it is otherwise. -/
theorem detach (agrees : path.Agrees id docket) (out : docket txn = some record)
    (notEnd : record.kind ≠ .endDataPath) : (path.detach txn).Agrees id (docket.strike txn) :=
  agrees.settle out rfl mem_detach (.inr ⟨rfl, rfl, notEnd⟩)

/-- **One command more is out about the path.** It is an end exactly if the path is marked so. -/
theorem engage (agrees : path.Agrees id docket) (fresh : docket record.id = none)
    (about : record.context = .dataPath id) (sameId : next.id = path.id)
    (inFlight : ∀ {other}, other ∈ next.inFlight ↔ other = record.id ∨ other ∈ path.inFlight)
    (state : record.kind = .endDataPath ∧ next.endPending = true ∨
      record.kind ≠ .endDataPath ∧ next.endPending = path.endPending ∧
        (next.state = path.state ∨ next.state = .terminated)) :
    next.Agrees id (docket.enter record) where
  own := sameId.trans agrees.own
  inFlight_iff := by
    intro other
    simp only [inFlight, agrees.inFlight_iff, Docket.enter_eq_some fresh]
    constructor
    · rintro (rfl | ⟨entry, out, about'⟩)
      · exact ⟨record, .inl ⟨rfl, rfl⟩, about⟩
      · exact ⟨entry, .inr out, about'⟩
    · rintro ⟨entry, ⟨same, _⟩ | out, about'⟩
      · exact .inl same
      · exact .inr ⟨entry, out, about'⟩
  end_out live pending := by
    rcases state with ⟨kind, _⟩ | ⟨_, sameEnd, sameState⟩
    · exact ⟨record.id, record, (Docket.enter_eq_some fresh).mpr (.inl ⟨rfl, rfl⟩), about, kind⟩
    · obtain ⟨number, entry, out', rest⟩ :=
        agrees.end_out (sameState.resolve_right live ▸ live) (sameEnd ▸ pending)
      exact ⟨number, entry, (Docket.enter_eq_some fresh).mpr (.inr out'), rest⟩
  ending out' about' kind := by
    rcases state with ⟨_, marked⟩ | ⟨notEnd, sameEnd, sameState⟩
    · exact .inl marked
    · rcases (Docket.enter_eq_some fresh).mp out' with ⟨_, rfl⟩ | before
      · exact absurd kind notEnd
      · rcases sameState with same | gone
        · rw [same, sameEnd]
          exact agrees.ending before about' kind
        · exact .inr gone

end Agrees

end DataPath

/-! ## The table -/

namespace DataPathTable

variable {table : DataPathTable} {docket : Docket} {record : TransactionRecord}
  {id : DataPathId} {path next : DataPath} {txn : TransactionId}

@[simp] theorem get?_put (table : DataPathTable) (id other : DataPathId) (path : DataPath) :
    (table.put id path).get? other = if other = id then some path else table.get? other :=
  Tables.getElem?_insert table.paths id other path

theorem get?_update (table : DataPathTable) (id other : DataPathId)
    (change : DataPath → DataPath) :
    (table.update id change).get? other =
      if other = id then (table.get? id).map change else table.get? other :=
  Tables.getElem?_modify table.paths id other change

theorem contains_paths (table : DataPathTable) (id : DataPathId) :
    table.paths.contains id = (table.get? id).isSome :=
  Std.ExtTreeMap.contains_eq_isSome_getElem?

/-- The paths that are listed are those that are on record. -/
theorem mem_toList {entry : DataPath} :
    entry ∈ table.toList ↔ ∃ id, table.get? id = some entry := by
  simp only [toList, get?, List.mem_map, Prod.exists, exists_eq_right,
    Std.ExtTreeMap.mem_toList_iff_getElem?_eq_some]

theorem get?_expireResponses (table : DataPathTable) (now : Timestamp) (id : DataPathId) :
    (table.expireResponses now).2.get? id =
      (table.get? id).map fun path =>
        if path.isOverdue now then path.terminated.withoutDeadline else path := by
  simp only [expireResponses, get?, Std.ExtTreeMap.getElem?_map]

/-- Changing a path that is there is putting the changed one in its place. -/
theorem update_eq_put (found : table.get? id = some path) (change : DataPath → DataPath) :
    table.update id change = table.put id (change path) := by
  rw [update, put, Tables.modify_eq_insert found]

theorem purge_eq (table : DataPathTable) (id : DataPathId) :
    table.purge id = { table with paths := Tables.clear table.paths id (·.isDone) } := by
  unfold purge get? Tables.clear
  cases table.paths[id]? with
  | none => rfl
  | some path => cases done : path.isDone <;> simp [done]

/-- What a purge leaves was there before, and what it takes was done. -/
theorem get?_purge (table : DataPathTable) (id other : DataPathId) :
    (table.purge id).get? other =
      if other = id then (table.get? id).filter (!·.isDone) else table.get? other := by
  rw [purge_eq]
  exact Tables.getElem?_clear table.paths id other (·.isDone)

/-- What is on record under a number after a new state was put there, and perhaps purged, is that
state. -/
theorem eq_of_get?_put_purge {left : DataPath}
    (found : ((table.put id path).purge id).get? id = some left) : left = path := by
  rw [get?_purge, if_pos rfl, get?_put, if_pos rfl, Option.filter_eq_some_iff] at found
  exact (Option.some.inj found.1).symm

/-- The table repeats what is out about data paths, no more and no less. -/
structure Agrees (table : DataPathTable) (docket : Docket) : Prop where
  path : ∀ {id path}, table.get? id = some path → path.Agrees id docket
  assigned : ∀ {id path}, table.get? id = some path → id.isAssigned = true
  present : ∀ {txn record id}, docket txn = some record → record.context = .dataPath id →
    ∃ path, table.get? id = some path
  out_of_initiating : ∀ {txn request}, table.initiating[txn]? = some request →
    ∃ record, docket txn = some record ∧ record.context = .newDataPath
  initiating_of_out : ∀ {txn record}, docket txn = some record →
    record.context = .newDataPath → ∃ request, table.initiating[txn]? = some request

namespace Agrees

/-- A table with nothing in it agrees if nothing is out. -/
theorem new (graceMs : UInt64) (idle : ∀ txn, docket txn = none) :
    (DataPathTable.new graceMs).Agrees docket where
  path found := by simp [DataPathTable.new, get?] at found
  assigned found := by simp [DataPathTable.new, get?] at found
  present out := by simp [idle] at out
  out_of_initiating found := by simp [DataPathTable.new] at found
  initiating_of_out out := by simp [idle] at out

/-- Which events are held back plays no part. -/
theorem reheld (agrees : table.Agrees docket)
    (held : Std.ExtTreeMap DataPathId (List HeldEvent)) :
    { table with held := held }.Agrees docket :=
  ⟨agrees.path, agrees.assigned, agrees.present, agrees.out_of_initiating,
    agrees.initiating_of_out⟩

/-- **One path is put in its place**: only the commands about that path may be others. -/
theorem put {after : Docket} (agrees : table.Agrees docket) (assigned : id.isAssigned = true)
    (local' : next.Agrees id after)
    (same : ∀ context, context ≠ .dataPath id → Docket.SameAbout context docket after) :
    (table.put id next).Agrees after := by
  refine ⟨fun {other entry} there => ?_, fun {other entry} there => ?_,
    fun {number record other} out about => ?_, fun there => ?_, fun out about => ?_⟩
  · rw [get?_put] at there
    split at there
    next here =>
      obtain rfl := Option.some.inj there
      exact here ▸ local'
    next elsewhere =>
      refine (agrees.path there).congr (same _ ?_)
      simpa using elsewhere
  · rw [get?_put] at there
    split at there
    next here => exact here ▸ assigned
    next => exact agrees.assigned there
  · rw [get?_put]
    split
    next => exact ⟨next, rfl⟩
    next elsewhere =>
      refine agrees.present ((same _ ?_ about).mp out) about
      simpa using elsewhere
  · obtain ⟨record, out, about⟩ := agrees.out_of_initiating there
    exact ⟨record, (same _ (by simp) about).mpr out, about⟩
  · exact agrees.initiating_of_out ((same _ (by simp) about).mp out) about

/-- Forgetting a path that is done keeps the agreement: no command is out about it. -/
theorem purge (agrees : table.Agrees docket) (id : DataPathId) :
    (table.purge id).Agrees docket := by
  have kept {other entry} (there : (table.purge id).get? other = some entry) :
      table.get? other = some entry := by
    rw [get?_purge] at there
    split at there
    next same => exact same ▸ (Option.filter_eq_some_iff.mp there).1
    next => exact there
  have initiating : (table.purge id).initiating = table.initiating := by rw [purge_eq]
  refine ⟨fun there => agrees.path (kept there), fun there => agrees.assigned (kept there),
    fun {number record other} out about => ?_, fun there => ?_, fun out about => ?_⟩
  · obtain ⟨entry, there⟩ := agrees.present out about
    have busy : entry.isDone = false := by
      rw [Bool.eq_false_iff, ne_eq, DataPath.isDone_iff]
      exact fun done => done.2 number ((agrees.path there).inFlight_iff.mpr ⟨record, out, about⟩)
    rw [get?_purge]
    split
    next here =>
      subst here
      exact ⟨entry, by rw [there, Option.filter_some_pos (by simp [busy])]⟩
    next => exact ⟨entry, there⟩
  · exact agrees.out_of_initiating (initiating ▸ there)
  · rw [initiating]
    exact agrees.initiating_of_out out about

/-- The path that a command is about. -/
theorem path_of_out (agrees : table.Agrees docket) (out : docket txn = some record)
    (about : record.context = .dataPath id) :
    ∃ path, table.get? id = some path ∧ path.Agrees id docket := by
  obtain ⟨path, found⟩ := agrees.present out about
  exact ⟨path, found, agrees.path found⟩

/-- The table after one path was changed by events. -/
theorem touch (agrees : table.Agrees docket) (found : table.get? id = some path)
    (local' : next.Agrees id docket) : (table.put id next).Agrees docket :=
  agrees.put (agrees.assigned found) local' fun context _ => Docket.SameAbout.refl context _

/-- The table after one path took on one command more. -/
theorem engage (agrees : table.Agrees docket) (found : table.get? id = some path)
    (fresh : docket record.id = none) (about : record.context = .dataPath id)
    (local' : next.Agrees id (docket.enter record)) :
    (table.put id next).Agrees (docket.enter record) :=
  agrees.put (agrees.assigned found) local' fun _ other =>
    Docket.sameAbout_enter fresh (about ▸ other.symm)

/-- The table after one path took on that a command about it has ended. -/
theorem settle (agrees : table.Agrees docket) (found : table.get? id = some path)
    (out : docket txn = some record) (about : record.context = .dataPath id)
    (local' : next.Agrees id (docket.strike txn)) :
    ((table.put id next).purge id).Agrees (docket.strike txn) :=
  (agrees.put (agrees.assigned found) local' fun _ other =>
    Docket.sameAbout_strike out (about ▸ other.symm)).purge id

/-! ### Initiations -/

theorem beginInitiate (agrees : table.Agrees docket) (request : InitiateRequest)
    (fresh : docket record.id = none) (about : record.context = .newDataPath) :
    (table.beginInitiate record.id request).Agrees (docket.enter record) where
  path there := (agrees.path there).congr (Docket.sameAbout_enter fresh (by simp [about]))
  assigned there := agrees.assigned there
  present out about' := by
    rcases (Docket.enter_eq_some fresh).mp out with ⟨_, rfl⟩ | before
    · rw [about] at about'
      cases about'
    · exact agrees.present before about'
  out_of_initiating {number entry} there := by
    simp only [DataPathTable.beginInitiate, Tables.getElem?_insert] at there
    split at there
    next same => exact ⟨record, (Docket.enter_eq_some fresh).mpr (.inl ⟨same, rfl⟩), about⟩
    next =>
      obtain ⟨other, out, about'⟩ := agrees.out_of_initiating there
      exact ⟨other, (Docket.enter_eq_some fresh).mpr (.inr out), about'⟩
  initiating_of_out {number other} out about' := by
    simp only [DataPathTable.beginInitiate, Tables.getElem?_insert]
    rcases (Docket.enter_eq_some fresh).mp out with ⟨same, _⟩ | before
    · rw [if_pos same]
      exact ⟨request, rfl⟩
    · have differs : number ≠ record.id := fun same => by simp [same, fresh] at before
      rw [if_neg differs]
      exact agrees.initiating_of_out before about'

/-- The initiation is struck off, and nothing else. -/
theorem strike_initiating (agrees : table.Agrees docket) (out : docket txn = some record)
    (about : record.context = .newDataPath) :
    { table with initiating := table.initiating.erase txn }.Agrees (docket.strike txn) where
  path there := (agrees.path there).congr (Docket.sameAbout_strike out (by simp [about]))
  assigned there := agrees.assigned there
  present out' about' := agrees.present (Docket.strike_eq_some.mp out').2 about'
  out_of_initiating {number entry} there := by
    rw [Tables.getElem?_erase] at there
    split at there
    next => cases there
    next differs =>
      obtain ⟨other, out', about'⟩ := agrees.out_of_initiating there
      exact ⟨other, Docket.strike_eq_some.mpr ⟨differs, out'⟩, about'⟩
  initiating_of_out {number other} out' about' := by
    obtain ⟨differs, before⟩ := Docket.strike_eq_some.mp out'
    simp only [Tables.getElem?_erase, if_neg differs]
    exact agrees.initiating_of_out before about'

/-- Nothing is out about a number that is not in the table. -/
theorem idle_of_get? (agrees : table.Agrees docket) (free : table.get? id = none)
    (out : docket txn = some record) : record.context ≠ .dataPath id := by
  intro about
  obtain ⟨path, there⟩ := agrees.present out about
  rw [free] at there
  cases there

theorem enterInitiated (agrees : table.Agrees docket) (request : InitiateRequest)
    (assigned : Except Failure DataPathId) :
    (table.enterInitiated request assigned).2.Agrees docket := by
  unfold DataPathTable.enterInitiated
  cases assigned with
  | error failure => exact agrees
  | ok number =>
    simp only
    split
    next => exact agrees
    next isAssigned =>
      split
      next => exact agrees
      next taken =>
        have free : table.get? number = none := by simpa [contains_paths] using taken
        exact agrees.put (by simpa using isAssigned)
          (.fresh rfl rfl rfl (agrees.idle_of_get? free))
          fun context _ => Docket.SameAbout.refl context _

theorem resolveInitiate (agrees : table.Agrees docket) (out : docket txn = some record)
    (about : record.context = .newDataPath) (assigned : Except Failure DataPathId) :
    (table.resolveInitiate txn assigned).2.Agrees (docket.strike txn) := by
  obtain ⟨request, found⟩ := agrees.initiating_of_out out about
  have entered := (agrees.strike_initiating out about).enterInitiated request assigned
  unfold DataPathTable.resolveInitiate
  rw [found]
  simp only
  split
  · exact entered.reheld _
  · exact entered

/-! ### Requests of peers -/

theorem onRequest (agrees : table.Agrees docket) (id : DataPathId) (peerId : PeerId)
    (peerAddress : MacAddress) (appInfo : ByteArray) (now : Timestamp) :
    (table.onRequest id peerId peerAddress appInfo now).2.Agrees docket := by
  unfold DataPathTable.onRequest
  split
  next => exact agrees
  next accepted =>
    simp only [Bool.or_eq_true, Bool.not_eq_true', not_or, Bool.not_eq_false, contains_paths,
      Option.not_isSome_iff_eq_none] at accepted
    obtain ⟨assigned, free⟩ := accepted
    exact agrees.put assigned (.fresh rfl rfl rfl (agrees.idle_of_get? free))
      fun context _ => Docket.SameAbout.refl context _

theorem beginRespond (agrees : table.Agrees docket) {request : RespondRequest}
    (found : table.get? request.pathId = some path) (fresh : docket record.id = none)
    (about : record.context = .dataPath request.pathId) (kind : record.kind = .respondDataPath) :
    (table.beginRespond record.id request).Agrees (docket.enter record) := by
  rw [DataPathTable.beginRespond, update_eq_put found]
  have notEnd : record.kind ≠ .endDataPath := by simp [kind]
  refine agrees.engage found fresh about ((agrees.path found).engage fresh about ?_ ?_
    (.inr ⟨notEnd, ?_, ?_⟩))
  all_goals unfold DataPath.answered
  · split <;> rfl
  · intro other
    split <;> exact DataPath.mem_attach
  · split <;> rfl
  · split
    · exact .inl rfl
    · exact .inr rfl

theorem resolveRespond (agrees : table.Agrees docket) (out : docket txn = some record)
    (about : record.context = .dataPath id) (kind : record.kind = .respondDataPath)
    (outcome : Except Failure Unit) :
    (table.resolveRespond id txn outcome).2.Agrees (docket.strike txn) := by
  obtain ⟨path, found, local'⟩ := agrees.path_of_out out about
  have kept := agrees.settle found out about (local'.detach out (by simp [kind]))
  unfold DataPathTable.resolveRespond
  rw [found]
  simp only
  split
  · exact kept
  · exact kept
  · exact agrees.settle found out about (local'.settle out rfl DataPath.mem_detach (.inl rfl))

theorem expireResponses (agrees : table.Agrees docket) (now : Timestamp) :
    (table.expireResponses now).2.Agrees docket := by
  have view := table.get?_expireResponses now
  refine ⟨fun {other entry} there => ?_, fun {other entry} there => ?_,
    fun {number record other} out about => ?_, agrees.out_of_initiating,
    agrees.initiating_of_out⟩
  · rw [view] at there
    obtain ⟨path, before, rfl⟩ := Option.map_eq_some_iff.mp there
    split
    · exact (agrees.path before).touch rfl rfl rfl (.inl rfl)
    · exact agrees.path before
  · rw [view] at there
    obtain ⟨path, before, _⟩ := Option.map_eq_some_iff.mp there
    exact agrees.assigned before
  · obtain ⟨path, before⟩ := agrees.present out about
    exact ⟨_, by rw [view, before]; rfl⟩

/-! ### Reports of the firmware -/

/-- The table after one path was changed by events, and forgotten if that was its end. -/
theorem touch_purge (agrees : table.Agrees docket) (found : table.get? id = some path)
    (local' : next.Agrees id docket) : ((table.put id next).purge id).Agrees docket :=
  (agrees.touch found local').purge id

theorem onConfirmed (agrees : table.Agrees docket) (id : DataPathId) (accepted : Bool)
    (peerInterface : MacAddress) (appInfo : ByteArray) (status : FirmwareStatus) :
    (table.onConfirmed id accepted peerInterface appInfo status).2.Agrees docket := by
  unfold DataPathTable.onConfirmed
  split
  next =>
    split
    · exact agrees
    · exact agrees.reheld _
  next path found =>
    split
    next => exact agrees
    next confirmable =>
      have live : path.state ≠ .terminated := by
        intro gone
        simp [DataPath.isConfirmable, gone] at confirmable
      split
      · exact agrees.touch found ((agrees.path found).touch rfl rfl rfl (.inr live))
      · exact agrees.touch_purge found ((agrees.path found).touch rfl rfl rfl (.inl rfl))

theorem onTerminated (agrees : table.Agrees docket) (id : DataPathId) (status : FirmwareStatus) :
    (table.onTerminated id status).2.Agrees docket := by
  unfold DataPathTable.onTerminated
  split
  next =>
    split
    · exact agrees
    · exact agrees.reheld _
  next path found =>
    split
    · exact agrees
    · exact agrees.touch_purge found ((agrees.path found).touch rfl rfl rfl (.inl rfl))

/-! ### Ends, and other commands about a path -/

theorem beginEnd (agrees : table.Agrees docket) (found : table.get? id = some path)
    (fresh : docket record.id = none) (about : record.context = .dataPath id)
    (kind : record.kind = .endDataPath) :
    (table.beginEnd id record.id).Agrees (docket.enter record) := by
  rw [DataPathTable.beginEnd, update_eq_put found]
  exact agrees.engage found fresh about ((agrees.path found).engage fresh about rfl
    DataPath.mem_attach (.inl ⟨kind, rfl⟩))

theorem resolveEnd (agrees : table.Agrees docket) (out : docket txn = some record)
    (about : record.context = .dataPath id) :
    (table.resolveEnd id txn).2.Agrees (docket.strike txn) := by
  obtain ⟨path, found, local'⟩ := agrees.path_of_out out about
  rw [DataPathTable.resolveEnd, update_eq_put found]
  exact agrees.settle found out about (local'.settle out rfl DataPath.mem_detach (.inl rfl))

theorem attach (agrees : table.Agrees docket) (found : table.get? id = some path)
    (fresh : docket record.id = none) (about : record.context = .dataPath id)
    (kind : record.kind = .respondDataPath) :
    (table.attach id record.id).Agrees (docket.enter record) := by
  rw [DataPathTable.attach, update_eq_put found]
  exact agrees.engage found fresh about ((agrees.path found).engage fresh about rfl
    DataPath.mem_attach (.inr ⟨by simp [kind], rfl, .inl rfl⟩))

theorem detach (agrees : table.Agrees docket) (out : docket txn = some record)
    (about : record.context = .dataPath id) (kind : record.kind = .respondDataPath) :
    (table.detach id txn).Agrees (docket.strike txn) := by
  obtain ⟨path, found, local'⟩ := agrees.path_of_out out about
  rw [DataPathTable.detach, update_eq_put found]
  exact agrees.settle found out about (local'.detach out (by simp [kind]))

end Agrees

end DataPathTable

end NanHost
