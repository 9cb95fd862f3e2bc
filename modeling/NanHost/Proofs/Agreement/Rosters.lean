import NanHost.Proofs.Agreement.Paths
import NanHost.Proofs.Agreement.Sessions

/-!
# Rosters — whom a teardown has to report

A teardown reports the sessions that can be used and the paths that nobody has asked to end. It looks
for them only after every command about sessions and paths has been given up, and giving a command up
may remove sessions and paths. What it finds must be what was there before.

A *roster* lists the entries of a table that meet a condition, in ascending order, by what is
reported of them. Two rosters are equal as soon as they are so number by number
(`SessionRegistry.roster_congr`, `DataPathTable.roster_congr`).

## What is proved

Giving up a command does not change which sessions are active (`activeAt`), nor which paths are open
(`openAt`): a stop that is given up ends a session that was not active any more, an end that is given
up ends a path that was not open any more, and every other command leaves its session or its path in
the stage it was in.
-/

namespace NanHost

/-! ## Sessions -/

namespace SessionRegistry

variable {registry next : SessionRegistry} {docket : Docket} {record : TransactionRecord}
  {txn : TransactionId} {id : SessionId} {session entry : Session}

/-- The sessions that meet a condition, with what is reported of them. -/
def roster (registry : SessionRegistry) (condition : Session → Bool) :
    List (SessionId × SessionRole) :=
  (registry.toList.filter condition).map fun session => (session.id, session.role)

/-- The role of the session of a number, if it is active. -/
def activeAt (registry : SessionRegistry) (id : SessionId) : Option SessionRole :=
  (registry.get? id).bind fun session => if session.isActive then some session.role else none

theorem roster_eq (agrees : registry.Agrees docket) (condition : Session → Bool) :
    registry.roster condition = registry.sessions.toList.filterMap fun row =>
      (if condition row.2 then some row.2.role else none).map fun role => (row.1, role) := by
  have numbered : registry.roster condition =
      (registry.sessions.toList.filter fun row => condition row.2).map
        fun row => (row.1, row.2.role) := by
    rw [roster, toList, List.filter_map, List.map_map]
    apply List.map_congr_left
    intro row member
    have there := Std.ExtTreeMap.mem_toList_iff_getElem?_eq_some.mp (List.mem_filter.mp member).1
    rw [← (agrees.session there).own]
    rfl
  rw [numbered, ← List.filterMap_eq_map, List.filterMap_filter]
  refine congrArg (List.filterMap · _) (funext fun row => ?_)
  split <;> rfl

/-- Two rosters are equal that are so number by number. -/
theorem roster_congr {docket' : Docket} (agrees : registry.Agrees docket)
    (agrees' : next.Agrees docket') {condition condition' : Session → Bool}
    (same : ∀ id,
      ((next.get? id).bind fun session => if condition' session then some session.role else none) =
        (registry.get? id).bind fun session =>
          if condition session then some session.role else none) :
    next.roster condition' = registry.roster condition := by
  rw [roster_eq agrees, roster_eq agrees']
  exact Tables.filterMap_toList_congr same

/-- The numbers in a roster ascend. -/
theorem roster_ascending (agrees : registry.Agrees docket) (condition : Session → Bool) :
    (registry.roster condition).Pairwise fun a b => compare a.1 b.1 = .lt := by
  have ordered : registry.toList.Pairwise fun a b => compare a.id b.id = .lt :=
    Tables.pairwise_values fun found => (agrees.session found).own
  exact List.pairwise_map.mpr (ordered.sublist List.filter_sublist)

/-- A session that changes and stays as active as it was leaves the active ones as they were, also if
it is forgotten. -/
theorem activeAt_put_purge (found : registry.get? id = some session)
    (active : entry.isActive = session.isActive) (role : entry.role = session.role)
    (other : SessionId) :
    ((registry.put id entry).purge id).activeAt other = registry.activeAt other := by
  unfold activeAt
  rw [get?_purge, get?_put, get?_put, if_pos rfl]
  by_cases here : other = id
  · rw [if_pos here, here, found, Option.filter_some]
    by_cases isActive : entry.isActive
    · have open' : entry.isDone = false := by
        simp only [Session.isActive, decide_eq_true_eq] at isActive
        simp [Session.isDone, isActive]
      simp [isActive, active ▸ isActive, open', role]
    · have inactive : session.isActive = false := by
        rw [← active]
        simpa using isActive
      cases done : entry.isDone <;> simp [isActive, inactive]
  · rw [if_neg here, if_neg here]

/-! ### Commands that are given up -/

theorem activeAt_resolveNew (txn : TransactionId) (failure : Failure) (id : SessionId) :
    (registry.resolveNew txn (.error failure)).2.activeAt id = registry.activeAt id := by
  unfold resolveNew
  split <;> rfl

theorem activeAt_resolveUpdate (found : registry.get? id = some session) (txn : TransactionId)
    (failure : Failure) (other : SessionId) :
    (registry.resolveUpdate id txn (.error failure)).2.activeAt other =
      registry.activeAt other := by
  have settled (other : SessionId) :
      ((registry.put id ((session.detach txn).dropUpdate txn)).purge id).activeAt other =
        registry.activeAt other := by
    rw [Session.dropUpdate_eq]
    refine activeAt_put_purge found ?_ ?_ other <;> rfl
  unfold resolveUpdate
  rw [found]
  dsimp only
  split <;> exact settled other

theorem activeAt_detach (found : registry.get? id = some session) (txn : TransactionId)
    (other : SessionId) : (registry.detach id txn).2.activeAt other = registry.activeAt other := by
  unfold detach
  rw [update_eq_put found]
  refine activeAt_put_purge found ?_ ?_ other <;> rfl

/-- A stop that ends ends a session that was not active any more. -/
theorem activeAt_resolveStop (found : registry.get? id = some session)
    (stopping : session.state ≠ .active) (txn : TransactionId) (other : SessionId) :
    (registry.resolveStop id txn).2.activeAt other = registry.activeAt other := by
  unfold resolveStop
  rw [update_eq_put found]
  refine activeAt_put_purge found ?_ ?_ other
  · simp [Session.isActive, stopping]
  · rfl

end SessionRegistry

/-! ## Data paths -/

/-- Whether the path is not terminated and nobody has asked to end it. -/
def DataPath.isOpen (path : DataPath) : Bool := path.isLive && !path.endPending

namespace DataPathTable

variable {table next : DataPathTable} {docket : Docket} {record : TransactionRecord}
  {txn : TransactionId} {id : DataPathId} {path entry : DataPath}

/-- The numbers of the paths that meet a condition. -/
def roster (table : DataPathTable) (condition : DataPath → Bool) : List DataPathId :=
  (table.toList.filter condition).map (·.id)

/-- Whether the path of a number is open. -/
def openAt (table : DataPathTable) (id : DataPathId) : Bool := (table.get? id).any (·.isOpen)

theorem roster_eq (agrees : table.Agrees docket) (condition : DataPath → Bool) :
    table.roster condition = (table.paths.toList.filterMap fun row =>
      (if condition row.2 then some () else none).map fun found => (row.1, found)).map (·.1) := by
  have numbered : table.roster condition =
      (table.paths.toList.filter fun row => condition row.2).map (·.1) := by
    rw [roster, toList, List.filter_map, List.map_map]
    apply List.map_congr_left
    intro row member
    have there := Std.ExtTreeMap.mem_toList_iff_getElem?_eq_some.mp (List.mem_filter.mp member).1
    exact (agrees.path there).own
  rw [numbered, List.map_filterMap, ← List.filterMap_eq_map, List.filterMap_filter]
  refine congrArg (List.filterMap · _) (funext fun row => ?_)
  split <;> rfl

/-- Two rosters are equal that are so number by number. -/
theorem roster_congr {docket' : Docket} (agrees : table.Agrees docket)
    (agrees' : next.Agrees docket') {condition condition' : DataPath → Bool}
    (same : ∀ id, (next.get? id).any condition' = (table.get? id).any condition) :
    next.roster condition' = table.roster condition := by
  have selected (id : DataPathId) :
      ((next.get? id).bind fun path => if condition' path then some () else none) =
        (table.get? id).bind fun path => if condition path then some () else none := by
    have here := same id
    generalize next.get? id = after, table.get? id = before at here ⊢
    cases after <;> cases before <;> simp_all
  rw [roster_eq agrees, roster_eq agrees']
  exact congrArg _ (Tables.filterMap_toList_congr selected)

/-- The numbers in a roster ascend. -/
theorem roster_ascending (agrees : table.Agrees docket) (condition : DataPath → Bool) :
    (table.roster condition).Pairwise fun a b => compare a b = .lt := by
  have ordered : table.toList.Pairwise fun a b => compare a.id b.id = .lt :=
    Tables.pairwise_values fun found => (agrees.path found).own
  exact List.pairwise_map.mpr (ordered.sublist List.filter_sublist)

/-- A path that changes and stays as open as it was leaves the open ones as they were, also if it is
forgotten. -/
theorem openAt_put_purge (found : table.get? id = some path) (same : entry.isOpen = path.isOpen)
    (other : DataPathId) : ((table.put id entry).purge id).openAt other = table.openAt other := by
  unfold openAt
  rw [get?_purge, get?_put, get?_put, if_pos rfl]
  by_cases here : other = id
  · rw [if_pos here, here, found, Option.filter_some]
    cases done : entry.isDone with
    | false => simp [same]
    | true =>
      have closed : path.isOpen = false := by
        rw [← same]
        simp only [DataPath.isDone, Bool.and_eq_true, decide_eq_true_eq] at done
        simp [DataPath.isOpen, DataPath.isLive, done.1]
      simp [closed]
  · rw [if_neg here, if_neg here]

@[simp] theorem graceMs_purge (table : DataPathTable) (id : DataPathId) :
    (table.purge id).graceMs = table.graceMs := by
  rw [purge_eq]

/-! ### Commands that are given up -/

/-- An initiation that is given up leaves all paths as they are. -/
theorem resolveInitiate_failed (txn : TransactionId) (failure : Failure) :
    (table.resolveInitiate txn (.error failure)).2.paths = table.paths ∧
      (table.resolveInitiate txn (.error failure)).2.graceMs = table.graceMs := by
  unfold resolveInitiate enterInitiated
  split
  · exact ⟨rfl, rfl⟩
  · dsimp only
    split <;> exact ⟨rfl, rfl⟩

theorem openAt_resolveInitiate (txn : TransactionId) (failure : Failure) (id : DataPathId) :
    (table.resolveInitiate txn (.error failure)).2.openAt id = table.openAt id := by
  unfold openAt get?
  rw [(resolveInitiate_failed txn failure).1]

theorem openAt_detach (found : table.get? id = some path) (txn : TransactionId)
    (other : DataPathId) : (table.detach id txn).openAt other = table.openAt other := by
  unfold detach
  rw [update_eq_put found]
  refine openAt_put_purge found ?_ other
  rfl

/-- An answer that is given up is struck off its path, and that is all. -/
theorem resolveRespond_aborted (found : table.get? id = some path) (txn : TransactionId) :
    table.resolveRespond id txn (.error .aborted) =
      (.error .aborted, (table.put id (path.detach txn)).purge id) := by
  unfold resolveRespond
  rw [found]

/-- So a path that was up is live still. -/
theorem isLive_resolveRespond (found : table.get? id = some path) (up : path.isConfirmed = true)
    (txn : TransactionId) :
    ((table.resolveRespond id txn (.error .aborted)).2.get? id).any (·.isLive) = true := by
  have confirmed : path.state = .confirmed := by simpa [DataPath.isConfirmed] using up
  rw [resolveRespond_aborted found, get?_purge, if_pos rfl, get?_put, if_pos rfl]
  simp [DataPath.isDone, DataPath.isLive, DataPath.detach, confirmed]

/-- An end that ends ends a path that was not open any more. -/
theorem openAt_resolveEnd (found : table.get? id = some path)
    (ending : path.endPending = true ∨ path.state = .terminated) (txn : TransactionId)
    (other : DataPathId) : (table.resolveEnd id txn).2.openAt other = table.openAt other := by
  unfold resolveEnd
  rw [update_eq_put found]
  refine openAt_put_purge found ?_ other
  rcases ending with ending | ending <;>
    simp [DataPath.isOpen, DataPath.isLive, DataPath.terminated, ending]

end DataPathTable

end NanHost
