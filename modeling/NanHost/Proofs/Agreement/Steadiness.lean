import NanHost.Proofs.Agreement.Arrivals

/-!
# Steadiness — what happens to paths leaves alone what is to come

A path is entered when an initiation ends or when a peer asks for one. Whatever else happens to paths
changes those that are there. It begins no initiation and ends none, and an event is held back at most
while an initiation is under way, since otherwise no path could claim it.

## What is proved

- `DataPathTable.Steady`, for every operation on the table but the arrivals, the beginning of an
  initiation and the teardown.
- `Steady.eq_new`: so an empty table stays empty.
- `held_takeHeld_closing`: when the last initiation has ended and the events for its path are taken, no
  event is left.
-/

namespace NanHost

namespace DataPathTable

/-- Nothing comes into being: no path, and no initiation begins or ends. Events are held back at most
while an initiation is under way. -/
structure Steady (table next : DataPathTable) : Prop where
  initiating : next.initiating = table.initiating
  graceMs : next.graceMs = table.graceMs
  held : table.initiating = ∅ → next.held = table.held
  vacant : ∀ {id}, table.get? id = none → next.get? id = none

variable {table next : DataPathTable} {id : DataPathId} {path : DataPath}

namespace Steady

theorem refl (table : DataPathTable) : table.Steady table := ⟨rfl, rfl, fun _ => rfl, fun free => free⟩

theorem trans {last : DataPathTable} (before : table.Steady next) (after : next.Steady last) :
    table.Steady last where
  initiating := after.initiating.trans before.initiating
  graceMs := after.graceMs.trans before.graceMs
  held idle := (after.held (before.initiating.trans idle)).trans (before.held idle)
  vacant free := after.vacant (before.vacant free)

theorem put (found : table.get? id = some path) (entry : DataPath) :
    table.Steady (table.put id entry) := by
  refine ⟨rfl, rfl, fun _ => rfl, fun {other} free => ?_⟩
  have differs : other ≠ id := fun same => by simp [same, found] at free
  rw [get?_put, if_neg differs]
  exact free

theorem update (table : DataPathTable) (id : DataPathId) (change : DataPath → DataPath) :
    table.Steady (table.update id change) := by
  refine ⟨rfl, rfl, fun _ => rfl, fun {other} free => ?_⟩
  unfold get? at free
  simp only [DataPathTable.update, get?, Tables.getElem?_modify]
  split
  next here => rw [← here, free, Option.map_none]
  next => exact free

theorem purge (table : DataPathTable) (id : DataPathId) : table.Steady (table.purge id) := by
  refine ⟨by rw [purge_eq], by rw [purge_eq], fun _ => by rw [purge_eq], fun {other} free => ?_⟩
  rw [get?_purge]
  split
  next here => rw [← here, free, Option.filter_none]
  next => exact free

theorem put_purge (found : table.get? id = some path) (entry : DataPath) :
    table.Steady ((table.put id entry).purge id) :=
  (put found entry).trans (purge _ id)

theorem update_purge (table : DataPathTable) (id : DataPathId) (change : DataPath → DataPath) :
    table.Steady ((table.update id change).purge id) :=
  (update table id change).trans (purge _ id)

theorem expireResponses (table : DataPathTable) (now : Timestamp) :
    table.Steady (table.expireResponses now).2 := by
  refine ⟨rfl, rfl, fun _ => rfl, fun free => ?_⟩
  rw [get?_expireResponses, free, Option.map_none]

/-- An event is held back while an initiation is under way. -/
theorem hold (table : DataPathTable) (id : DataPathId) (event : HeldEvent)
    (underWay : table.initiating.isEmpty = false) : table.Steady (table.hold id event) where
  initiating := rfl
  graceMs := rfl
  held idle := by simp [idle] at underWay
  vacant free := free

theorem onConfirmed (table : DataPathTable) (id : DataPathId) (accepted : Bool)
    (peerInterface : MacAddress) (appInfo : ByteArray) (status : FirmwareStatus) :
    table.Steady (table.onConfirmed id accepted peerInterface appInfo status).2 := by
  unfold DataPathTable.onConfirmed
  split
  next =>
    cases underWay : table.initiating.isEmpty with
    | true => exact refl table
    | false => exact hold table id _ underWay
  next path found =>
    split
    · exact refl table
    · split
      · exact put found _
      · exact put_purge found _

theorem onTerminated (table : DataPathTable) (id : DataPathId) (status : FirmwareStatus) :
    table.Steady (table.onTerminated id status).2 := by
  unfold DataPathTable.onTerminated
  split
  next =>
    cases underWay : table.initiating.isEmpty with
    | true => exact refl table
    | false => exact hold table id _ underWay
  next path found =>
    split
    · exact refl table
    · exact put_purge found _

theorem resolveRespond (table : DataPathTable) (id : DataPathId) (txn : TransactionId)
    (outcome : Except Failure Unit) : table.Steady (table.resolveRespond id txn outcome).2 := by
  unfold DataPathTable.resolveRespond
  split
  next => exact refl table
  next path found =>
    dsimp only
    split <;> exact put_purge found _

end Steady

/-- Where there is nothing, nothing comes into being. -/
theorem Steady.eq_new {graceMs : UInt64} (steady : (new graceMs).Steady next) :
    next = new graceMs := by
  obtain ⟨paths, initiating, held, grace⟩ := next
  have none : paths = ∅ := by
    ext id : 1
    rw [Std.ExtTreeMap.getElem?_empty]
    exact steady.vacant (by simp [new, get?])
  have noneBegun : initiating = ∅ := steady.initiating
  have noneHeld : held = ∅ := steady.held rfl
  have same : grace = graceMs := steady.graceMs
  rw [none, noneBegun, noneHeld, same]
  rfl

/-- When the last initiation has ended and the events for its path are taken, no event is left. -/
theorem held_takeHeld_closing (table : DataPathTable)
    (idle : table.initiating = ∅) : ((table.closing (some id)).takeHeld id).2.held = ∅ := by
  have closes : table.closing (some id) = table.onlyHeld (some id) := by
    simp [closing, idle]
  rw [closes]
  ext other : 1
  simp only [takeHeld, onlyHeld, Tables.getElem?_erase, Std.ExtTreeMap.getElem?_empty]
  split
  next => rfl
  next differs =>
    cases table.held[id]? with
    | none => exact Std.ExtTreeMap.getElem?_empty
    | some events =>
      simp only [Option.elim_some]
      rw [Tables.getElem?_insert, if_neg differs, Std.ExtTreeMap.getElem?_empty]

end DataPathTable

end NanHost
