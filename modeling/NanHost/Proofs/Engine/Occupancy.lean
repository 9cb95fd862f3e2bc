import NanHost.Proofs.Engine.Abidance

/-!
# Occupancy — how many places of the firmware the paths take

A path takes a place from the moment at which somebody wants it until it is down, and an initiation
takes one for the path that it may bring. Which paths count is left open here: those that were asked
for from here, or also those of the peers that were accepted. Either way only the caller can add to
them (`IsClaim`).

## What is proved

- `DataPathTable.load_resolveInitiate_le`: an initiation that ends leaves its place to its path, or to
  nobody.
- `DataPathTable.Abides.load_le`: paths that abide take no more places.
- `Engine.Changes.load_le`: so it is with every sequence of changes.
-/

namespace NanHost

/-! ## Paths that count -/

/-- A sort of paths, none of them down, that none but the caller can add to. -/
structure DataPath.IsClaim (sort : DataPath → Bool) : Prop where
  live : ∀ {path}, sort path = true → path.isLive = true
  abides : ∀ {earlier later : DataPath}, earlier.Abides later → sort later = true →
    sort earlier = true
  unanswered : ∀ {path : DataPath}, path.Unanswered → sort path = false

namespace DataPath

/-- Whether the path was asked for from here, and is not down. -/
def isOwn (path : DataPath) : Bool := path.isLive && path.origin = .here

/-- Whether the path was asked for or accepted from here, and is not down. -/
def isCommitted (path : DataPath) : Bool :=
  path.isLive && (path.origin = .here || path.response = some true)

theorem isOwn_isClaim : IsClaim isOwn where
  live counted := (Bool.and_eq_true_iff.mp counted).1
  abides abides counted := by
    simp only [isOwn, Bool.and_eq_true, decide_eq_true_eq] at counted ⊢
    exact ⟨abides.live counted.1, abides.origin ▸ counted.2⟩
  unanswered unanswered := by simp [isOwn, unanswered.origin]

theorem isCommitted_isClaim : IsClaim isCommitted where
  live counted := (Bool.and_eq_true_iff.mp counted).1
  abides abides counted := by
    simp only [isCommitted, Bool.and_eq_true, Bool.or_eq_true, decide_eq_true_eq] at counted ⊢
    rw [abides.origin, abides.response] at counted
    exact ⟨abides.live counted.1, counted.2⟩
  unanswered unanswered := by simp [isCommitted, unanswered.origin, unanswered.response]

end DataPath

/-! ## The table -/

namespace DataPathTable

variable {table next : DataPathTable} {id : DataPathId} {path : DataPath} {sort : DataPath → Bool}

/-- How many places the paths of a sort take, with the initiations that are under way. -/
def load (table : DataPathTable) (sort : DataPath → Bool) : Nat :=
  table.toList.countP sort + table.initiatingCount

/-- The places, by the two tables. -/
theorem load_eq (table : DataPathTable) (sort : DataPath → Bool) :
    table.load sort =
      table.paths.toList.countP (fun row => sort row.2) + table.initiating.size := by
  rw [load, toList, List.countP_map]
  rfl

/-- A path is put in the place of another. -/
theorem load_put (found : table.get? id = some path) (entry : DataPath) (sort : DataPath → Bool) :
    (table.put id entry).load sort + (if sort path then 1 else 0) =
      table.load sort + if sort entry then 1 else 0 := by
  have struck := Tables.countP_erase found sort
  have absent : (table.paths.erase id)[id]? = none := by rw [Tables.getElem?_erase, if_pos rfl]
  have entered := Tables.countP_insert absent entry sort
  have same : (table.paths.erase id).insert id entry = table.paths.insert id entry := by
    ext other : 1
    rw [Tables.getElem?_insert, Tables.getElem?_insert, Tables.getElem?_erase]
    split <;> rfl
  rw [same] at entered
  rw [load_eq, load_eq]
  simp only [put]
  omega

/-- An initiation takes one place more. -/
theorem load_beginInitiate_le (table : DataPathTable) (txn : TransactionId)
    (request : InitiateRequest) (sort : DataPath → Bool) :
    (table.beginInitiate txn request).load sort ≤ table.load sort + 1 :=
  Nat.add_le_add_left Std.ExtTreeMap.size_insert_le _

/-- What takes a place is live. -/
theorem load_le_live (claim : DataPath.IsClaim sort) (table : DataPathTable) :
    table.load sort ≤ table.toList.countP (·.isLive) + table.initiatingCount :=
  Nat.add_le_add_right (List.countP_mono_left fun _ _ => claim.live) _

/-- The paths that were asked for from here are among those that the caller is committed to. -/
theorem load_isOwn_le (table : DataPathTable) :
    table.load DataPath.isOwn ≤ table.load DataPath.isCommitted := by
  refine Nat.add_le_add_right (List.countP_mono_left fun path _ own => ?_) _
  simp only [DataPath.isOwn, DataPath.isCommitted, Bool.and_eq_true, Bool.or_eq_true] at own ⊢
  exact ⟨own.1, .inl own.2⟩

/-- **An initiation that ends leaves its place to its path**, or to nobody. -/
theorem load_resolveInitiate_le (table : DataPathTable) (txn : TransactionId)
    (assigned : Except Failure DataPathId) (sort : DataPath → Bool) :
    (table.resolveInitiate txn assigned).2.load sort ≤ table.load sort := by
  cases found : table.initiating[txn]? with
  | none =>
    have same : (table.resolveInitiate txn assigned).2 = table := by
      unfold resolveInitiate
      rw [found]
    exact Nat.le_of_eq (congrArg (·.load sort) same)
  | some request =>
    have struck := Tables.size_eq_erase found
    rw [resolveInitiate_of_found found]
    dsimp only
    rw [closing_eq]
    rcases enterInitiated_cases { table with initiating := table.initiating.erase txn } request
      assigned with ⟨_, entered⟩ | ⟨id, _, _, entered⟩
    · rw [entered, load_eq, load_eq]
      dsimp only
      omega
    · have one := Tables.countP_insert_le table.paths id (.initiated id request) sort
      rw [entered, load_eq, load_eq]
      simp only [put]
      omega

/-- **Paths that abide take no more places.** -/
theorem Abides.load_le (abides : table.Abides next) (claim : DataPath.IsClaim sort) :
    next.load sort ≤ table.load sort := by
  have paths : next.paths.toList.countP (sort ·.2) ≤ table.paths.toList.countP (sort ·.2) := by
    refine Tables.countP_le sort sort fun found counted => ?_
    rcases abides.path found with ⟨earlier, there, abides⟩ | unanswered
    · exact ⟨earlier, there, claim.abides abides counted⟩
    · rw [claim.unanswered unanswered] at counted
      cases counted
  rw [load_eq, load_eq]
  exact Nat.add_le_add paths (Tables.size_le abides.initiating)

/-- **No change of the paths takes more places.** -/
theorem Change.load_le (change : table.Change next) (claim : DataPath.IsClaim sort) :
    next.load sort ≤ table.load sort := by
  rcases change.abides_or with abides | ⟨txn, assigned, rfl⟩
  · exact abides.load_le claim
  · exact table.load_resolveInitiate_le txn assigned sort

end DataPathTable

/-! ## The engine -/

/-- **No sequence of changes takes more places.** -/
theorem Engine.Changes.load_le {engine next : Engine} {notices : List Notification}
    (changes : engine.Changes notices next) {sort : DataPath → Bool}
    (claim : DataPath.IsClaim sort) : next.paths.load sort ≤ engine.paths.load sort := by
  induction changes with
  | nil => exact Nat.le_refl _
  | @cons first second third _ _ change rest ih =>
    refine Nat.le_trans ih ?_
    cases change with
    | paths change => exact change.load_le claim
    | replayed id => exact (first.replayHeld_abides id).load_le claim
    | aside | told | sessions | updateFailed | dataInterfaces => exact Nat.le_refl _

end NanHost
