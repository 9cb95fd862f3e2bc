import NanHost.Proofs.Engine.Changes

/-!
# Abidance — what becomes of a path without the caller's doing

Much happens to a path that nobody here has asked for: it comes up and goes down, answers about it
come in and peers run out of time. None of that gives it to another party, answers the peer, moves it
to another interface or brings it back to life. What is new is a request of a peer that nobody has
answered, or the path that an initiation brings.

## What is proved

- `DataPathTable.Change.abides_or`: what becomes of the paths when the caller asks for nothing abides
  by what was there, or is the end of an initiation.
- `Engine.replay_abides`: so does what a report makes of a path.
-/

namespace NanHost

/-! ## One path -/

/-- What may become of a path without the caller's doing: nobody else asks for it, the peer is given
no answer, it runs over no other interface, and it does not come back to life. -/
structure DataPath.Abides (earlier later : DataPath) : Prop where
  origin : later.origin = earlier.origin
  response : later.response = earlier.response
  interfaceName : later.interfaceName = earlier.interfaceName
  live : later.isLive = true → earlier.isLive = true

/-- A path that a peer asks for, and that nobody has answered. -/
structure DataPath.Unanswered (path : DataPath) : Prop where
  origin : path.origin = .peer
  response : path.response = none
  interfaceName : path.interfaceName = none

namespace DataPath

variable {first second third path : DataPath}

namespace Abides

theorem refl (path : DataPath) : path.Abides path := ⟨rfl, rfl, rfl, fun live => live⟩

theorem trans (before : first.Abides second) (after : second.Abides third) :
    first.Abides third where
  origin := after.origin.trans before.origin
  response := after.response.trans before.response
  interfaceName := after.interfaceName.trans before.interfaceName
  live there := before.live (after.live there)

end Abides

/-- A path stays unanswered as long as it abides. -/
theorem Unanswered.abides (unanswered : first.Unanswered) (abides : first.Abides second) :
    second.Unanswered where
  origin := abides.origin.trans unanswered.origin
  response := abides.response.trans unanswered.response
  interfaceName := abides.interfaceName.trans unanswered.interfaceName

end DataPath

/-! ## The table -/

namespace DataPathTable

variable {table next last : DataPathTable} {id : DataPathId} {path entry : DataPath}

/-- What may become of the paths while no initiation ends and the caller asks for nothing. -/
structure Abides (table next : DataPathTable) : Prop where
  path : ∀ {id later}, next.get? id = some later →
    (∃ earlier, table.get? id = some earlier ∧ earlier.Abides later) ∨ later.Unanswered
  initiating : ∀ {txn : TransactionId} {request}, next.initiating[txn]? = some request →
    table.initiating[txn]? = some request

namespace Abides

theorem refl (table : DataPathTable) : table.Abides table :=
  ⟨fun {_ path} found => .inl ⟨path, found, .refl path⟩, fun underWay => underWay⟩

theorem trans (before : table.Abides next) (after : next.Abides last) : table.Abides last where
  path found := by
    rcases after.path found with ⟨middle, there, second⟩ | unanswered
    · rcases before.path there with ⟨earlier, there, first⟩ | unanswered
      · exact .inl ⟨earlier, there, first.trans second⟩
      · exact .inr (unanswered.abides second)
    · exact .inr unanswered
  initiating underWay := before.initiating (after.initiating underWay)

/-- What is held back plays no part. -/
theorem reheld (table : DataPathTable) (held : Std.ExtTreeMap DataPathId (List HeldEvent)) :
    table.Abides { table with held := held } := ⟨(refl table).path, fun underWay => underWay⟩

/-- A path is put in its place. -/
theorem put (found : table.get? id = some path) (abides : path.Abides entry) :
    table.Abides (table.put id entry) := by
  refine ⟨fun {other later} there => ?_, fun underWay => underWay⟩
  rw [get?_put] at there
  split at there
  next here =>
    obtain rfl := Option.some.inj there
    exact .inl ⟨path, here ▸ found, abides⟩
  next => exact (refl table).path there

theorem purge (table : DataPathTable) (id : DataPathId) : table.Abides (table.purge id) := by
  constructor
  case path =>
    intro other later there
    apply (refl table).path
    rw [get?_purge] at there
    split at there
    next here => exact here ▸ (Option.filter_eq_some_iff.mp there).1
    next => exact there
  case initiating =>
    intro txn request underWay
    rw [purge_eq] at underWay
    exact underWay

theorem put_purge (found : table.get? id = some path) (abides : path.Abides entry) :
    table.Abides ((table.put id entry).purge id) := (put found abides).trans (purge _ id)

theorem update (table : DataPathTable) (id : DataPathId) {change : DataPath → DataPath}
    (abides : ∀ path : DataPath, path.Abides (change path)) :
    table.Abides (table.update id change) := by
  cases found : table.get? id with
  | some path =>
    rw [update_eq_put found]
    exact put found (abides path)
  | none =>
    refine ⟨fun {other later} there => (refl table).path ?_, fun underWay => underWay⟩
    have there : (table.paths.modify id change)[other]? = some later := there
    have found : table.paths[id]? = none := found
    rw [Tables.getElem?_modify, found] at there
    split at there
    next => cases there
    next => exact there

theorem update_purge (table : DataPathTable) (id : DataPathId) {change : DataPath → DataPath}
    (abides : ∀ path : DataPath, path.Abides (change path)) :
    table.Abides ((table.update id change).purge id) := (update table id abides).trans (purge _ id)

theorem expireResponses (table : DataPathTable) (now : Timestamp) :
    table.Abides (table.expireResponses now).2 := by
  refine ⟨fun {id later} there => ?_, fun underWay => underWay⟩
  rw [get?_expireResponses] at there
  obtain ⟨earlier, found, rfl⟩ := Option.map_eq_some_iff.mp there
  refine .inl ⟨earlier, found, ?_⟩
  split
  · exact ⟨rfl, rfl, rfl, (nomatch ·)⟩
  · exact .refl earlier

/-- A peer that asks for a path does not say what it is to run over. -/
theorem onRequest (table : DataPathTable) (id : DataPathId) (peer : PeerId)
    (address : MacAddress) (appInfo : ByteArray) (now : Timestamp) :
    table.Abides (table.onRequest id peer address appInfo now).2 := by
  rcases table.onRequest_cases id peer address appInfo now with same | ⟨_, entered⟩
  · rw [same]
    exact refl table
  · rw [entered]
    refine ⟨fun {other later} there => ?_, fun underWay => underWay⟩
    rw [get?_put] at there
    split at there
    next =>
      obtain rfl := Option.some.inj there
      exact .inr ⟨rfl, rfl, rfl⟩
    next => exact (refl table).path there

theorem resolveRespond (table : DataPathTable) (id : DataPathId) (txn : TransactionId)
    (outcome : Except Failure Unit) : table.Abides (table.resolveRespond id txn outcome).2 := by
  unfold DataPathTable.resolveRespond
  split
  next => exact refl table
  next path found =>
    have detached : path.Abides (path.detach txn) := ⟨rfl, rfl, rfl, fun live => live⟩
    dsimp only
    split
    · exact put_purge found detached
    · exact put_purge found detached
    · exact put_purge found ⟨rfl, rfl, rfl, (nomatch ·)⟩

theorem onConfirmed (table : DataPathTable) (id : DataPathId) (accepted : Bool)
    (peerInterface : MacAddress) (appInfo : ByteArray) (status : FirmwareStatus) :
    table.Abides (table.onConfirmed id accepted peerInterface appInfo status).2 := by
  unfold DataPathTable.onConfirmed
  split
  next =>
    split
    · exact refl table
    · exact reheld table _
  next path found =>
    split
    next => exact refl table
    next confirmable =>
      have live : path.isLive = true := by
        cases stage : path.state <;> simp_all [DataPath.isConfirmable, DataPath.isLive]
      split
      · exact put found ⟨rfl, rfl, rfl, fun _ => live⟩
      · exact put_purge found ⟨rfl, rfl, rfl, fun still => by cases still⟩

theorem onTerminated (table : DataPathTable) (id : DataPathId) (status : FirmwareStatus) :
    table.Abides (table.onTerminated id status).2 := by
  unfold DataPathTable.onTerminated
  split
  next =>
    split
    · exact refl table
    · exact reheld table _
  next path found =>
    split
    · exact refl table
    · exact put_purge found ⟨rfl, rfl, rfl, (nomatch ·)⟩

/-- A path that the caller asks to end abides until it has ended. -/
theorem beginEnd (table : DataPathTable) (id : DataPathId) (txn : TransactionId) :
    table.Abides (table.beginEnd id txn) :=
  update table id fun _ => ⟨rfl, rfl, rfl, fun live => live⟩

/-- Nothing is left to abide. -/
theorem new (table : DataPathTable) (graceMs : UInt64) :
    table.Abides (DataPathTable.new graceMs) where
  path found := by simp [DataPathTable.new, get?] at found
  initiating underWay := by simp [DataPathTable.new] at underWay

end Abides

/-- **What becomes of the paths when the caller asks for nothing abides by what was there**, or is the
end of an initiation. -/
theorem Change.abides_or (change : table.Change next) :
    table.Abides next ∨ ∃ txn assigned, next = (table.resolveInitiate txn assigned).2 := by
  cases change with
  | initiationEnded txn assigned => exact .inr ⟨txn, assigned, rfl⟩
  | answerEnded id txn outcome => exact .inl (.resolveRespond table id txn outcome)
  | endEnded id txn => exact .inl (.update_purge table id fun _ => ⟨rfl, rfl, rfl, (nomatch ·)⟩)
  | struckOff id txn =>
    exact .inl (.update_purge table id fun _ => ⟨rfl, rfl, rfl, fun live => live⟩)
  | requested id peer address appInfo now =>
    exact .inl (.onRequest table id peer address appInfo now)
  | lapsed now => exact .inl (.expireResponses table now)
  | refused id txn => exact .inl (.update table id fun _ => ⟨rfl, rfl, rfl, fun live => live⟩)
  | forgotten id => exact .inl (.purge table id)
  | fell => exact .inl (.new table _)

end DataPathTable

/-! ## The engine -/

/-- **A report on a path leaves the paths abiding.** -/
theorem Engine.replay_abides (engine : Engine) (id : DataPathId) (event : HeldEvent) :
    engine.paths.Abides (engine.replay id event).1.paths := by
  cases event with
  | confirmed accepted peerInterface appInfo status =>
    exact .onConfirmed engine.paths id accepted peerInterface appInfo status
  | terminated status => exact .onTerminated engine.paths id status

/-- So do all that were held back for it. -/
theorem Engine.replayHeld_abides (engine : Engine) (id : DataPathId) :
    engine.paths.Abides (engine.replayHeld id).1.paths :=
  sweep_keeps (fun next _ => engine.paths.Abides next.paths)
    (fun event before => before.trans (replay_abides _ id event)) _ _ [] (.reheld _ _)

end NanHost
