import NanHost.Proofs.Host.Lifetime

/-!
# Calm — unless a peer has asked for a path, nobody waits for an answer from here

Paths wait to be answered from here because a peer has asked for them, and for no other reason. While
no request of a peer is reported, no path begins to wait; then no grace period ever runs out, and
looking after the peers does nothing.

## What is proved

- `Reachable.holds_of_step`: an entry that is there after a step was there before, or the step was the
  report that begins it (`FirmwareEvent.begins?`).
- `Reachable.calm_step`: a calm host stays calm if no request of a peer is reported.
- `expireResponses_of_calm`: in a calm host looking after the peers does nothing.
-/

namespace NanHost

/-- The entry that a report can bring into being. -/
def FirmwareEvent.begins? : FirmwareEvent → Option Place
  | commandCompleted _ (.ok (.sessionId id)) => some (.session id)
  | commandCompleted _ (.ok (.pathId id)) => some (.path id)
  | dataPathRequested id .. => some (.path id)
  | _ => none

/-- Whether a report is that a peer asks for a path. -/
def FirmwareEvent.isPeerRequest : FirmwareEvent → Bool
  | dataPathRequested .. => true
  | _ => false

/-- No path waits for an answer from here. -/
def Engine.Calm (engine : Engine) : Prop :=
  ∀ id path, engine.paths.get? id = some path → path.state ≠ .awaitingLocalResponse

theorem Engine.calm_new (config : EngineConfig) : (Engine.new config).Calm := by
  intro id path found
  have none : (Engine.new config).paths.get? id = none := Std.ExtTreeMap.getElem?_empty
  rw [none] at found
  cases found

/-- A path that follows one that does not wait does not wait either. -/
theorem DataPath.Follows.calm {path next : DataPath} (follows : path.Follows next)
    (calm : path.state ≠ .awaitingLocalResponse) : next.state ≠ .awaitingLocalResponse := by
  rcases follows.stage with same | gone | ⟨up, _⟩
  · rw [same]
    exact calm
  · rw [gone]
    exact nofun
  · rw [up]
    exact nofun

namespace DataPathTable

variable {table : DataPathTable} {now : Timestamp}

/-- If no path waits for an answer, none is overdue. -/
theorem expireResponses_of_calm
    (calm : ∀ id path, table.get? id = some path → path.state ≠ .awaitingLocalResponse) :
    table.expireResponses now = ([], table) := by
  have intime : ∀ id path, table.get? id = some path → path.isOverdue now = false := by
    intro id path found
    simp [DataPath.isOverdue, calm id path found]
  have nobody : (table.expireResponses now).1 = [] := by
    refine List.map_eq_nil_iff.mpr (List.filter_eq_nil_iff.mpr fun path member => ?_)
    obtain ⟨id, found⟩ := mem_toList.mp member
    simp [intime id path found]
  have same : (table.expireResponses now).2 = table := by
    have paths : (table.expireResponses now).2.paths = table.paths := by
      apply Std.ExtTreeMap.ext_getElem?
      intro id
      refine (get?_expireResponses table now id).trans ?_
      show (table.get? id).map _ = table.get? id
      cases found : table.get? id with
      | none => rfl
      | some path => simp [intime id path found]
    show { table with paths := (table.expireResponses now).2.paths } = table
    rw [paths]
  exact Prod.ext nobody same

end DataPathTable

namespace Host

variable {σ : Type} [Transport σ] {host : Host σ}

/-- **An entry that is there after a step** was there before, or the step was the report that begins
it. -/
theorem Reachable.holds_of_step (reachable : Reachable host) {act : Act σ} {place : Place}
    (there : (host.step act).engine.holds place = true) :
    host.engine.holds place = true ∨ ∃ event, act = .handle event ∧ event.begins? = some place := by
  have passages := reachable.passages_emitted act
  cases place with
  | session id =>
    obtain ⟨session, found⟩ := Option.isSome_iff_exists.mp there
    have passage := passages.session id
    rw [found] at passage
    rcases passage.of_there with ⟨before, found, _⟩ | ⟨_, _, _, ⟨event, same, entry⟩, _⟩
    · exact .inl (Option.isSome_of_eq_some found)
    · refine .inr ⟨event, same, ?_⟩
      cases entry
      rfl
  | path id =>
    obtain ⟨path, found⟩ := Option.isSome_iff_exists.mp there
    have passage := passages.path id
    rw [found] at passage
    rcases passage.of_there with ⟨before, found, _⟩ | ⟨_, _, _, ⟨event, same, entry⟩, _⟩
    · exact .inl (Option.isSome_of_eq_some found)
    · refine .inr ⟨event, same, ?_⟩
      cases entry <;> rfl

/-- **A calm host stays calm** unless a peer asks for a path. -/
theorem Reachable.calm_step (reachable : Reachable host) (calm : host.engine.Calm) {act : Act σ}
    (nobody : ∀ event, act = .handle event → event.isPeerRequest = false) :
    (host.step act).engine.Calm := by
  intro id path there
  have passage := (reachable.passages_emitted act).path id
  rw [there] at passage
  rcases passage.of_there with ⟨before, found, course⟩ | ⟨_, _, begun, ⟨event, same, entry⟩, course⟩
  · exact (DataPath.follows_of_course course).calm (calm id before found)
  · refine (DataPath.follows_of_course course).calm ?_
    cases entry with
    | numbered => exact nofun
    | requested => cases nobody _ same

/-- **In a calm host looking after the peers does nothing.** -/
theorem expireResponses_of_calm (calm : host.engine.Calm) :
    host.expireResponses = (0, host) := by
  unfold expireResponses
  rw [DataPathTable.expireResponses_of_calm calm]
  rfl

end Host

end NanHost
