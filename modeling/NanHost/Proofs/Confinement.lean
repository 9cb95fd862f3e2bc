import NanHost.Proofs.Agreement.Interfaces
import NanHost.Proofs.Overtaking

/-!
# Confinement — operations that are about one entry

Most operations of the tables are about one entry: they look at it, at what the table holds of no
entry at all, and at nothing else, and they change nothing but the entry. `Confined` says so of an
operation on any store that is looked at by keys.

## What is proved

- `Confined.commute`: operations confined to different keys may change places, and
  (`Confined.answer_eq`) neither of them can tell.
- Each operation of the tables that deals with a report of the firmware, or ends a command about an
  entry that is there, is confined to that entry.

The operations that enter what the firmware has just numbered (`SessionRegistry.resolveNew`,
`DataPathTable.resolveInitiate`) are not: they take the request off, which is held under no number.
-/

namespace NanHost

/-- An operation on a store, with the answer it gives, is confined to a key: `look` is what the store
holds under a key, and `shared` what it holds under none. -/
structure Confined {τ κ α ε β : Type} (look : τ → κ → α) (shared : τ → ε) (key : κ)
    (next : τ → τ) (answer : τ → β) : Prop where
  /-- What is under no key stays. -/
  around : ∀ store, shared (next store) = shared store
  /-- What is under another key stays. -/
  elsewhere : ∀ store {other}, other ≠ key → look (next store) other = look store other
  /-- What is under the key afterwards, and the answer, depend on what was there before alone. -/
  here : ∀ {store store'}, shared store = shared store' → look store key = look store' key →
    look (next store) key = look (next store') key ∧ answer store = answer store'

namespace Confined

variable {τ κ α ε β γ : Type} {look : τ → κ → α} {shared : τ → ε} {first second : κ}
  {next next' : τ → τ} {answer : τ → β} {answer' : τ → γ}

/-- An operation that does a fixed thing to each content of a key, and gives a fixed answer. -/
theorem of_each (each : ∀ entry common, ∃ change result,
      Confined look shared first change (fun _ => ()) ∧
        ∀ store, shared store = common → look store first = entry →
          next store = change store ∧ answer store = result) :
    Confined look shared first next answer where
  around store := by
    obtain ⟨change, _, confined, same⟩ := each (look store first) (shared store)
    rw [(same store rfl rfl).1]
    exact confined.around store
  elsewhere store other apart := by
    obtain ⟨change, _, confined, same⟩ := each (look store first) (shared store)
    rw [(same store rfl rfl).1]
    exact confined.elsewhere store apart
  here {store store'} common entry := by
    obtain ⟨change, _, confined, same⟩ := each (look store first) (shared store)
    obtain ⟨before, answer⟩ := same store rfl rfl
    obtain ⟨before', answer'⟩ := same store' common.symm entry.symm
    rw [before, before', answer, answer']
    exact ⟨(confined.here common entry).1, rfl⟩

/-- An operation that does nothing. -/
theorem still (look : τ → κ → α) (shared : τ → ε) (key : κ) :
    Confined look shared key (fun store => store) (fun _ => ()) where
  around _ := rfl
  elsewhere _ _ _ := rfl
  here _ same := ⟨same, rfl⟩

/-- What is told of an operation may depend on the content before and after as well. -/
theorem observe (confined : Confined look shared first next answer) (tell : α → α → β → γ) :
    Confined look shared first next
      (fun store => tell (look store first) (look (next store) first) (answer store)) where
  around := confined.around
  elsewhere := confined.elsewhere
  here {store store'} common entry := by
    obtain ⟨after, answer⟩ := confined.here common entry
    exact ⟨after, by rw [entry, after, answer]⟩

/-- What is told may depend on the answer alone. -/
theorem map (confined : Confined look shared first next answer) (tell : β → γ) :
    Confined look shared first next (fun store => tell (answer store)) :=
  confined.observe fun _ _ => tell

/-- **An operation cannot tell what is done under another key before it.** -/
theorem answer_eq (before : Confined look shared first next answer)
    (after : Confined look shared second next' answer') (apart : first ≠ second) (store : τ) :
    answer' (next store) = answer' store :=
  (after.here (before.around store) (before.elsewhere store apart.symm)).2

/-- Of its own key nothing else comes about if another operation is done before. -/
theorem look_eq (before : Confined look shared first next answer)
    (after : Confined look shared second next' answer') (apart : first ≠ second) (store : τ) :
    look (next' (next store)) first = look (next (next' store)) first := by
  rw [after.elsewhere _ apart]
  exact (before.here (after.around store) (after.elsewhere store apart)).1.symm

/-- **Operations confined to different keys may change places.** -/
theorem commute (before : Confined look shared first next answer)
    (after : Confined look shared second next' answer') (apart : first ≠ second) (store : τ) :
    shared (next' (next store)) = shared (next (next' store)) ∧
      ∀ key, look (next' (next store)) key = look (next (next' store)) key := by
  refine ⟨?_, fun key => ?_⟩
  · rw [after.around, before.around, before.around, after.around]
  · by_cases one : key = first
    · rw [one]
      exact before.look_eq after apart store
    · by_cases two : key = second
      · rw [two]
        exact (after.look_eq before apart.symm store).symm
      · rw [after.elsewhere _ two, before.elsewhere _ one, before.elsewhere _ one,
          after.elsewhere _ two]

end Confined

/-! ## The tables -/

namespace SessionRegistry

/-- The operation is about one session. -/
abbrev ConfinedTo {β : Type} (id : SessionId) (next : SessionRegistry → SessionRegistry)
    (answer : SessionRegistry → β) : Prop :=
  Confined get? (·.starting) id next answer

variable (id : SessionId) (txn : TransactionId)

theorem confined_put (session : Session) :
    ConfinedTo id (fun registry => registry.put id session) (fun _ => ()) where
  around _ := rfl
  elsewhere registry other apart := by rw [get?_put, if_neg apart]
  here _ _ := by simp

/-- A session that takes on a state in which it may be done. -/
theorem confined_close (session : Session) :
    ConfinedTo id (fun registry => (registry.put id session).purge id) (fun _ => ()) where
  around _ := starting_purge _ _
  elsewhere registry other apart := by rw [get?_purge, if_neg apart, get?_put, if_neg apart]
  here _ _ := by simp [get?_purge]

theorem confined_sight (learn : Session → PeerRecord) :
    ConfinedTo id (fun registry => (registry.sight id learn).2)
      (fun registry => (registry.sight id learn).1) := by
  refine .of_each fun entry _ => ?_
  cases entry with
  | none => exact ⟨_, false, .still .., fun registry _ found => by simp [sight, found]⟩
  | some session =>
    cases active : session.isActive with
    | false =>
      exact ⟨_, false, .still .., fun registry _ found => by simp [sight, found, active]⟩
    | true =>
      exact ⟨_, true, confined_put id (session.sight (learn session)),
        fun registry _ found => by simp [sight, found, active]⟩

theorem confined_onTerminated :
    ConfinedTo id (fun registry => (registry.onTerminated id).2)
      (fun registry => (registry.onTerminated id).1) := by
  refine .of_each fun entry _ => ?_
  cases entry with
  | none => exact ⟨_, .unknown, .still .., fun registry _ found => by simp [onTerminated, found]⟩
  | some session =>
    have ends := confined_close id { session with state := .terminated, peers := ∅ }
    cases state : session.state with
    | active =>
      exact ⟨_, .unasked session.role, ends, fun registry _ found => by
        simp [onTerminated, found, state]⟩
    | terminating =>
      exact ⟨_, .asked, ends, fun registry _ found => by simp [onTerminated, found, state]⟩
    | terminated =>
      exact ⟨_, .unknown, .still .., fun registry _ found => by simp [onTerminated, found, state]⟩

theorem confined_resolveUpdate (outcome : Except Failure Unit) :
    ConfinedTo id (fun registry => (registry.resolveUpdate id txn outcome).2)
      (fun registry => (registry.resolveUpdate id txn outcome).1) := by
  refine .of_each fun entry _ => ?_
  cases entry with
  | none =>
    exact ⟨_, .error .aborted, .still .., fun registry _ found => by simp [resolveUpdate, found]⟩
  | some session =>
    cases active : session.isActive with
    | false =>
      exact ⟨_, .error .aborted, confined_close id ((session.detach txn).dropUpdate txn),
        fun registry _ found => by simp [resolveUpdate, found, active]⟩
    | true =>
      cases outcome with
      | error failure =>
        exact ⟨_, .error failure, confined_close id ((session.detach txn).dropUpdate txn),
          fun registry _ found => by simp [resolveUpdate, found, active]⟩
      | ok =>
        exact ⟨_, .ok (), confined_close id { (session.detach txn).dropUpdate txn with
            config := (session.adoptUpdate txn).config },
          fun registry _ found => by simp [resolveUpdate, found, active]⟩

/-- A session that is changed if it is there, and may be done then. -/
theorem confined_update (change : Session → Session) :
    ConfinedTo id (fun registry => (registry.update id change).purge id) (fun _ => ()) where
  around _ := starting_purge _ _
  elsewhere registry other apart := by rw [get?_purge, if_neg apart, get?_update, if_neg apart]
  here _ same := by simp [get?_purge, get?_update, same]

end SessionRegistry

namespace DataInterfaceTable

/-- The operation is about one data interface. -/
abbrev ConfinedTo (name : String) (next : DataInterfaceTable → DataInterfaceTable) : Prop :=
  Confined state? (fun _ => ()) name next (fun _ => ())

variable (name : String)

theorem confined_insert (state : DataInterfaceState) :
    ConfinedTo name (fun table => ⟨table.interfaces.insert name state⟩) where
  around _ := rfl
  elsewhere table other apart := by rw [Agrees.state?_insert, if_neg apart]
  here _ _ := by simp [Agrees.state?_insert]

theorem confined_erase : ConfinedTo name (fun table => ⟨table.interfaces.erase name⟩) where
  around _ := rfl
  elsewhere table other apart := by rw [Agrees.state?_erase, if_neg apart]
  here _ _ := by simp [Agrees.state?_erase]

theorem confined_resolveCreate (success : Bool) :
    ConfinedTo name (fun table => table.resolveCreate name success) := by
  refine .of_each fun entry _ => ?_
  cases entry with
  | none => exact ⟨_, (), .still .., fun table _ found => by simp [resolveCreate, found]⟩
  | some state =>
    cases state with
    | creating =>
      cases success with
      | false =>
        exact ⟨_, (), confined_erase name, fun table _ found => by simp [resolveCreate, found]⟩
      | true =>
        exact ⟨_, (), confined_insert name .ready, fun table _ found => by
          simp [resolveCreate, found]⟩
    | ready | deleting =>
      exact ⟨_, (), .still .., fun table _ found => by simp [resolveCreate, found]⟩

theorem confined_resolveDelete (success : Bool) :
    ConfinedTo name (fun table => table.resolveDelete name success) := by
  refine .of_each fun entry _ => ?_
  cases entry with
  | none => exact ⟨_, (), .still .., fun table _ found => by simp [resolveDelete, found]⟩
  | some state =>
    cases state with
    | deleting =>
      cases success with
      | false =>
        exact ⟨_, (), confined_insert name .ready, fun table _ found => by
          simp [resolveDelete, found]⟩
      | true =>
        exact ⟨_, (), confined_erase name, fun table _ found => by simp [resolveDelete, found]⟩
    | ready | creating =>
      exact ⟨_, (), .still .., fun table _ found => by simp [resolveDelete, found]⟩

end DataInterfaceTable

namespace DataPathTable

/-- What the table holds of a path: the path, and what came ahead of its number. -/
def content (table : DataPathTable) (id : DataPathId) : Option DataPath × Option (List HeldEvent) :=
  (table.get? id, table.held[id]?)

/-- What the table holds of no path that has a number. -/
def shared (table : DataPathTable) : Std.ExtTreeMap TransactionId InitiateRequest × UInt64 :=
  (table.initiating, table.graceMs)

/-- The operation is about one path. -/
abbrev ConfinedTo {β : Type} (id : DataPathId) (next : DataPathTable → DataPathTable)
    (answer : DataPathTable → β) : Prop :=
  Confined content shared id next answer

variable (id : DataPathId) (txn : TransactionId)

theorem confined_put (path : DataPath) :
    ConfinedTo id (fun table => table.put id path) (fun _ => ()) where
  around _ := rfl
  elsewhere table other apart := Prod.ext ((get?_put ..).trans (if_neg apart)) rfl
  here _ same := ⟨Prod.ext (by simp [content]) (Prod.mk.inj same).2, rfl⟩

theorem content_purge (table : DataPathTable) (other : DataPathId) :
    (table.purge id).content other =
      (if other = id then (table.get? id).filter (!·.isDone) else table.get? other,
        table.held[other]?) :=
  Prod.ext (get?_purge table id other) (by simp [content, purge_eq])

theorem shared_purge (table : DataPathTable) : (table.purge id).shared = table.shared := by
  rw [purge_eq]
  rfl

/-- A path that takes on a state in which it may be done. -/
theorem confined_close (path : DataPath) :
    ConfinedTo id (fun table => (table.put id path).purge id) (fun _ => ()) where
  around _ := shared_purge ..
  elsewhere table other apart := by
    rw [content_purge, if_neg apart, get?_put, if_neg apart]
    rfl
  here _ same := by
    simp only [content_purge, get?_put, if_pos, and_true]
    exact Prod.ext rfl (Prod.mk.inj same).2

/-- A path that is changed if it is there, and may be done then. -/
theorem confined_update (change : DataPath → DataPath) :
    ConfinedTo id (fun table => (table.update id change).purge id) (fun _ => ()) where
  around _ := shared_purge ..
  elsewhere table other apart := by
    rw [content_purge, if_neg apart, get?_update, if_neg apart]
    rfl
  here _ same := by
    obtain ⟨entry, held⟩ := Prod.mk.inj same
    rw [content_purge, content_purge, get?_update, get?_update, entry]
    exact ⟨Prod.ext rfl held, rfl⟩

/-- An event that is held back. -/
theorem confined_hold (event : HeldEvent) :
    ConfinedTo id (fun table => table.hold id event) (fun _ => ()) where
  around _ := rfl
  elsewhere table other apart := Prod.ext rfl ((getElem?_held_hold ..).trans (if_neg apart))
  here _ same := by
    obtain ⟨entry, held⟩ := Prod.mk.inj same
    exact ⟨Prod.ext entry (by simp only [content, getElem?_held_hold, held]), rfl⟩

theorem confined_onRequest (peer : PeerId) (address : MacAddress) (appInfo : ByteArray)
    (now : Timestamp) :
    ConfinedTo id (fun table => (table.onRequest id peer address appInfo now).2)
      (fun table => (table.onRequest id peer address appInfo now).1) := by
  refine .of_each fun entry common => ?_
  by_cases entered : id.isAssigned = true ∧ entry.1 = none
  · refine ⟨_, true, confined_put id
      (.requestedByPeer id peer address appInfo (now.addMillis common.2)), ?_⟩
    rintro table rfl rfl
    have absent : table.get? id = none := entered.2
    simp [onRequest, contains_paths, absent, entered.1, shared]
  · refine ⟨_, false, .still .., ?_⟩
    rintro table rfl rfl
    have taken : (!id.isAssigned || table.paths.contains id) = true := by
      rw [contains_paths]
      cases assigned : id.isAssigned with
      | false => rfl
      | true => simpa [assigned, content, Option.isSome_iff_ne_none] using entered
    simp [onRequest, taken]

/-- An event about a path that is not there is held back while an initiation is under way. -/
theorem confined_onConfirmed (accepted : Bool) (peerInterface : MacAddress)
    (appInfo : ByteArray) (status : FirmwareStatus) :
    ConfinedTo id
      (fun table => (table.onConfirmed id accepted peerInterface appInfo status).2)
      (fun table => (table.onConfirmed id accepted peerInterface appInfo status).1) := by
  refine .of_each fun entry common => ?_
  obtain ⟨path, held⟩ := entry
  cases path with
  | none =>
    cases idle : common.1.isEmpty with
    | false =>
      refine ⟨_, .held, confined_hold id (.confirmed accepted peerInterface appInfo status), ?_⟩
      rintro table rfl found
      simp [onConfirmed, (Prod.mk.inj found).1, show table.initiating.isEmpty = false from idle]
    | true =>
      refine ⟨_, .ignored, .still .., ?_⟩
      rintro table rfl found
      simp [onConfirmed, (Prod.mk.inj found).1, show table.initiating.isEmpty = true from idle]
  | some path =>
    cases confirmable : path.isConfirmable with
    | false =>
      refine ⟨_, .ignored, .still .., fun table _ found => ?_⟩
      simp [onConfirmed, (Prod.mk.inj found).1, confirmable]
    | true =>
      cases accepted with
      | false =>
        refine ⟨_, .rejected status, confined_close id path.terminated, fun table _ found => ?_⟩
        simp [onConfirmed, (Prod.mk.inj found).1, confirmable]
      | true =>
        refine ⟨_, .confirmed, confined_put id (path.confirmed peerInterface appInfo),
          fun table _ found => ?_⟩
        simp [onConfirmed, (Prod.mk.inj found).1, confirmable]

theorem confined_onTerminated (status : FirmwareStatus) :
    ConfinedTo id (fun table => (table.onTerminated id status).2)
      (fun table => (table.onTerminated id status).1) := by
  refine .of_each fun entry common => ?_
  obtain ⟨path, held⟩ := entry
  cases path with
  | none =>
    cases idle : common.1.isEmpty with
    | false =>
      refine ⟨_, .held, confined_hold id (.terminated status), ?_⟩
      rintro table rfl found
      simp [onTerminated, (Prod.mk.inj found).1, show table.initiating.isEmpty = false from idle]
    | true =>
      refine ⟨_, .ignored, .still .., ?_⟩
      rintro table rfl found
      simp [onTerminated, (Prod.mk.inj found).1, show table.initiating.isEmpty = true from idle]
  | some path =>
    cases live : path.isLive with
    | false =>
      refine ⟨_, .ignored, .still .., fun table _ found => ?_⟩
      simp [onTerminated, (Prod.mk.inj found).1, live]
    | true =>
      refine ⟨_, if path.endPending then .asked else .unasked,
        confined_close id path.terminated.withoutDeadline, fun table _ found => ?_⟩
      simp [onTerminated, (Prod.mk.inj found).1, live]

theorem confined_resolveRespond (outcome : Except Failure Unit) :
    ConfinedTo id (fun table => (table.resolveRespond id txn outcome).2)
      (fun table => (table.resolveRespond id txn outcome).1) := by
  refine .of_each fun entry _ => ?_
  obtain ⟨path, held⟩ := entry
  cases path with
  | none =>
    refine ⟨_, .error .aborted, .still .., fun table _ found => ?_⟩
    simp [resolveRespond, (Prod.mk.inj found).1]
  | some path =>
    have settles := confined_close id (path.detach txn)
    cases outcome with
    | ok =>
      refine ⟨_, if path.response = some true && !path.isLive then .error .aborted
        else .ok (path.response = some true), settles, fun table _ found => ?_⟩
      simp [resolveRespond, (Prod.mk.inj found).1]
    | error failure =>
      by_cases givenUp : failure = .aborted
      · subst givenUp
        refine ⟨_, .error .aborted, settles, fun table _ found => ?_⟩
        simp [resolveRespond, (Prod.mk.inj found).1]
      · refine ⟨_, .error failure, confined_close id (path.detach txn).terminated,
          fun table _ found => ?_⟩
        simp [resolveRespond, (Prod.mk.inj found).1]

end DataPathTable

end NanHost
