import NanHost.DataInterface
import NanHost.Interface
import NanHost.Proofs.Ledger.Docket

/-!
# Interfaces — the radio and the data interfaces agree with the commands that are out

The radio interface and the data interfaces have stages that last as long as a command is
unanswered. A stage *awaits* a command of a kind, or none. `Interface.Agrees` and
`DataInterfaceTable.Agrees` say that what is awaited is what is out: one command for each stage that
awaits one, and no other.

## What is proved

Every operation comes with the change of the docket that goes with it, and keeps the agreement. Of
the radio interface it is also kept that a configuration is in force exactly in the stages in which
the interface is up, and one is on its way exactly in the stages that await one. Queries for the
capabilities are about the interface as well, and play no part (`Interface.Agrees.query`).
-/

namespace NanHost

/-! ## The radio interface -/

/-- The kind of command that a stage of the interface awaits. -/
def InterfacePhase.awaited : InterfacePhase → Option CommandKind
  | enabling | reconfiguring => some .configure
  | disabling => some .disable
  | disabled | enabled => none

namespace Interface

variable {interface : Interface} {docket : Docket} {record : TransactionRecord}
  {txn : TransactionId}

/-- The interface awaits what is out about it, and nothing else; its configurations are those of its
stage. -/
structure Agrees (interface : Interface) (docket : Docket) : Prop where
  awaited_of_out : ∀ {txn record}, docket txn = some record → record.kind ≠ .capabilities →
    interface.phase.awaited = some record.kind
  out_of_awaited : ∀ {kind}, interface.phase.awaited = some kind →
    ∃ txn record, docket txn = some record ∧ record.kind = kind
  unique : ∀ {a b first second}, docket a = some first → docket b = some second →
    first.kind ≠ .capabilities → second.kind ≠ .capabilities → a = b
  applied_iff : interface.applied.isSome = true ↔
    interface.phase = .enabled ∨ interface.phase = .reconfiguring ∨ interface.phase = .disabling
  staged_iff : interface.staged.isSome = true ↔
    interface.phase = .enabling ∨ interface.phase = .reconfiguring

namespace Agrees

/-- A stage that awaits nothing agrees if nothing but queries is out. -/
theorem quiescent (resting : interface.phase.awaited = none)
    (idle : ∀ {txn record}, docket txn = some record → record.kind = .capabilities)
    (applied : interface.applied.isSome = true ↔ interface.phase = .enabled)
    (staged : interface.staged = none) : interface.Agrees docket where
  awaited_of_out out notQuery := absurd (idle out) notQuery
  out_of_awaited awaited := by rw [resting] at awaited; cases awaited
  unique out _ notQuery := absurd (idle out) notQuery
  applied_iff := by
    rw [applied]
    cases phase : interface.phase <;> simp_all [InterfacePhase.awaited]
  staged_iff := by
    rw [staged]
    cases phase : interface.phase <;> simp_all [InterfacePhase.awaited]

/-- The interface that is down agrees if nothing but queries is out. -/
theorem down (idle : ∀ {txn record}, docket txn = some record → record.kind = .capabilities) :
    Interface.down.Agrees docket :=
  quiescent rfl idle (by simp [Interface.down]) rfl

/-- Queries play no part. -/
theorem query {after : Docket} (agrees : interface.Agrees docket)
    (same : ∀ {txn record}, record.kind ≠ .capabilities →
      (after txn = some record ↔ docket txn = some record)) : interface.Agrees after where
  awaited_of_out out notQuery := agrees.awaited_of_out ((same notQuery).mp out) notQuery
  out_of_awaited {kind} awaited := by
    obtain ⟨txn, record, out, rfl⟩ := agrees.out_of_awaited awaited
    refine ⟨txn, record, (same fun query => ?_).mpr out, rfl⟩
    rw [query] at awaited
    cases phase : interface.phase <;> simp [phase, InterfacePhase.awaited] at awaited
  unique first second notFirst notSecond :=
    agrees.unique ((same notFirst).mp first) ((same notSecond).mp second) notFirst notSecond
  applied_iff := agrees.applied_iff
  staged_iff := agrees.staged_iff

theorem enterQuery (agrees : interface.Agrees docket) (fresh : docket record.id = none)
    (kind : record.kind = .capabilities) : interface.Agrees (docket.enter record) := by
  apply agrees.query
  intro number other notQuery
  rw [Docket.enter_eq_some fresh]
  refine ⟨fun there => there.resolve_left ?_, .inr⟩
  rintro ⟨_, rfl⟩
  exact notQuery kind

theorem strikeQuery (agrees : interface.Agrees docket) (out : docket txn = some record)
    (kind : record.kind = .capabilities) : interface.Agrees (docket.strike txn) := by
  apply agrees.query
  intro number other notQuery
  rw [Docket.strike_eq_some]
  refine ⟨And.right, fun there => ⟨?_, there⟩⟩
  rintro rfl
  obtain rfl := Option.some.inj (out.symm.trans there)
  exact notQuery kind

/-- A stage that awaits nothing has nothing but queries out. -/
theorem idle (agrees : interface.Agrees docket) (resting : interface.phase.awaited = none)
    (out : docket txn = some record) : record.kind = .capabilities :=
  Classical.byContradiction fun notQuery => by
    have awaited := agrees.awaited_of_out out notQuery
    rw [resting] at awaited
    cases awaited

/-- The stage in which the interface is down says all there is to say. -/
theorem eq_down (agrees : interface.Agrees docket) (phase : interface.phase = .disabled) :
    interface = Interface.down := by
  have applied := agrees.applied_iff
  have staged := agrees.staged_iff
  obtain ⟨_, _, _⟩ := interface
  simp_all [Interface.down]

/-- Once the command that a stage awaited has ended, nothing but queries is out. -/
theorem idle_strike (agrees : interface.Agrees docket) (out : docket txn = some record)
    (notQuery : record.kind ≠ .capabilities) {number : TransactionId} {other : TransactionRecord}
    (there : docket.strike txn number = some other) : other.kind = .capabilities := by
  obtain ⟨differs, before⟩ := Docket.strike_eq_some.mp there
  exact Classical.byContradiction fun notQuery' =>
    differs (agrees.unique before out notQuery' notQuery)

/-- The interface after it took on a command that its new stage awaits. -/
theorem begin {next : Interface} (agrees : interface.Agrees docket)
    (resting : interface.phase.awaited = none) (fresh : docket record.id = none)
    (awaited : next.phase.awaited = some record.kind)
    (applied : next.applied.isSome = true ↔
      next.phase = .enabled ∨ next.phase = .reconfiguring ∨ next.phase = .disabling)
    (staged : next.staged.isSome = true ↔ next.phase = .enabling ∨ next.phase = .reconfiguring) :
    next.Agrees (docket.enter record) := by
  have only {number : TransactionId} {other : TransactionRecord}
      (there : docket.enter record number = some other) (notQuery : other.kind ≠ .capabilities) :
      number = record.id ∧ other = record :=
    ((Docket.enter_eq_some fresh).mp there).resolve_right fun before =>
      notQuery (agrees.idle resting before)
  refine ⟨fun there notQuery => ?_, fun {kind} awaited' => ?_,
    fun first second notFirst notSecond => ?_, applied, staged⟩
  · rw [(only there notQuery).2]
    exact awaited
  · refine ⟨record.id, record, (Docket.enter_eq_some fresh).mpr (.inl ⟨rfl, rfl⟩), ?_⟩
    exact Option.some.inj (awaited.symm.trans awaited')
  · exact (only first notFirst).1.trans (only second notSecond).1.symm

theorem beginEnable (agrees : interface.Agrees docket)
    (resting : interface.phase.awaited = none) (fresh : docket record.id = none)
    (kind : record.kind = .configure) (request : EnableRequest) :
    (interface.beginEnable request).Agrees (docket.enter record) := by
  have applied := agrees.applied_iff
  refine agrees.begin resting fresh ?_ ?_ ?_
  all_goals
    cases phase : interface.phase <;>
      simp_all [Interface.beginEnable, InterfacePhase.awaited]

theorem beginDisable (agrees : interface.Agrees docket) (up : interface.phase = .enabled)
    (fresh : docket record.id = none) (kind : record.kind = .disable) :
    interface.beginDisable.Agrees (docket.enter record) := by
  have applied := agrees.applied_iff
  have staged := agrees.staged_iff
  refine agrees.begin (by rw [up]; rfl) fresh ?_ ?_ ?_
  all_goals simp_all [Interface.beginDisable, InterfacePhase.awaited]

theorem completeEnable (agrees : interface.Agrees docket) (out : docket txn = some record)
    (kind : record.kind = .configure) (success : Bool) :
    (interface.completeEnable success).2.Agrees (docket.strike txn) := by
  have notQuery : record.kind ≠ .capabilities := by simp [kind]
  have awaited := agrees.awaited_of_out out notQuery
  have applied := agrees.applied_iff
  have staged := agrees.staged_iff
  refine quiescent ?_ (agrees.idle_strike out notQuery) ?_ ?_
  all_goals
    unfold Interface.completeEnable
    cases phase : interface.phase <;> cases success <;> simp_all [InterfacePhase.awaited]

theorem completeDisable (agrees : interface.Agrees docket) (out : docket txn = some record)
    (kind : record.kind = .disable) (success : Bool) :
    (interface.completeDisable success).2.Agrees (docket.strike txn) := by
  have notQuery : record.kind ≠ .capabilities := by simp [kind]
  have awaited := agrees.awaited_of_out out notQuery
  have applied := agrees.applied_iff
  have staged := agrees.staged_iff
  refine quiescent ?_ (agrees.idle_strike out notQuery) ?_ ?_
  all_goals
    unfold Interface.completeDisable
    cases phase : interface.phase <;> cases success <;> simp_all [InterfacePhase.awaited]

end Agrees

end Interface

/-! ## Data interfaces -/

/-- The command that a stage of a data interface awaits. -/
def DataInterfaceState.awaited : DataInterfaceState → Option (CommandKind × TransactionId)
  | creating id => some (.createInterface, id)
  | ready => none
  | deleting id => some (.deleteInterface, id)

namespace DataInterfaceTable

variable {table : DataInterfaceTable} {docket : Docket} {record : TransactionRecord}
  {txn : TransactionId} {name : String}

/-- The data interfaces await what is out about them, and nothing else. -/
structure Agrees (table : DataInterfaceTable) (docket : Docket) : Prop where
  awaited_iff : ∀ {name kind txn},
    (table.state? name).bind (·.awaited) = some (kind, txn) ↔
      ∃ record, docket txn = some record ∧ record.kind = kind ∧
        record.context = .dataInterface name

namespace Agrees

theorem empty (idle : ∀ txn, docket txn = none) : DataInterfaceTable.empty.Agrees docket where
  awaited_iff := by simp [DataInterfaceTable.empty, state?, idle]

/-- One data interface changed: only the commands about it may be others. -/
theorem revise {next : DataInterfaceTable} {after : Docket} (agrees : table.Agrees docket)
    (elsewhere : ∀ {other}, other ≠ name → next.state? other = table.state? other)
    (same : ∀ context, context ≠ .dataInterface name → Docket.SameAbout context docket after)
    (local' : ∀ {kind txn}, (next.state? name).bind (·.awaited) = some (kind, txn) ↔
      ∃ record, after txn = some record ∧ record.kind = kind ∧
        record.context = .dataInterface name) : next.Agrees after where
  awaited_iff := by
    intro other kind txn
    by_cases here : other = name
    · rw [here]
      exact local'
    · have differs : PendingContext.dataInterface other ≠ .dataInterface name := by simpa using here
      rw [elsewhere here, agrees.awaited_iff]
      constructor <;> rintro ⟨record, out, kind', about⟩
      · exact ⟨record, (same _ differs about).mpr out, kind', about⟩
      · exact ⟨record, (same _ differs about).mp out, kind', about⟩

theorem state?_insert (table : DataInterfaceTable) (name other : String)
    (state : DataInterfaceState) :
    (DataInterfaceTable.mk (table.interfaces.insert name state)).state? other =
      if other = name then some state else table.state? other :=
  Tables.getElem?_insert table.interfaces name other state

theorem state?_erase (table : DataInterfaceTable) (name other : String) :
    (DataInterfaceTable.mk (table.interfaces.erase name)).state? other =
      if other = name then none else table.state? other :=
  Tables.getElem?_erase table.interfaces name other

/-- A deletion marks the interface, and no other. -/
theorem state?_beginDelete {state : DataInterfaceState} (found : table.state? name = some state)
    (txn : TransactionId) (other : String) :
    (table.beginDelete name txn).state? other =
      if other = name then some (.deleting txn) else table.state? other := by
  have found : table.interfaces[name]? = some state := found
  rw [DataInterfaceTable.beginDelete, Tables.modify_eq_insert found]
  exact state?_insert table name other (.deleting txn)

/-- A command is out about an interface that awaited none, and the interface awaits it now. -/
theorem begin {next : DataInterfaceTable} {state : DataInterfaceState}
    (agrees : table.Agrees docket) (resting : (table.state? name).bind (·.awaited) = none)
    (fresh : docket record.id = none) (about : record.context = .dataInterface name)
    (view : ∀ other, next.state? other = if other = name then some state else table.state? other)
    (awaited : state.awaited = some (record.kind, record.id)) :
    next.Agrees (docket.enter record) := by
  refine agrees.revise (fun differs => by rw [view, if_neg differs])
    (fun _ differs => Docket.sameAbout_enter fresh (about ▸ differs.symm)) fun {kind txn} => ?_
  rw [view, if_pos rfl, Option.bind_some, awaited]
  constructor
  · intro same
    obtain ⟨rfl, rfl⟩ := Prod.mk.inj (Option.some.inj same)
    exact ⟨record, (Docket.enter_eq_some fresh).mpr (.inl ⟨rfl, rfl⟩), rfl, about⟩
  · rintro ⟨other, there, rfl, about'⟩
    rcases (Docket.enter_eq_some fresh).mp there with ⟨rfl, rfl⟩ | before
    · rfl
    · have out := agrees.awaited_iff.mpr ⟨other, before, rfl, about'⟩
      rw [resting] at out
      cases out

/-- The command that an interface awaited has ended, and the interface awaits none now. -/
theorem settle {next : DataInterfaceTable} {state : Option DataInterfaceState}
    (agrees : table.Agrees docket) (out : docket txn = some record)
    (about : record.context = .dataInterface name)
    (view : ∀ other, next.state? other = if other = name then state else table.state? other)
    (resting : state.bind (·.awaited) = none) : next.Agrees (docket.strike txn) := by
  refine agrees.revise (fun differs => by rw [view, if_neg differs])
    (fun _ differs => Docket.sameAbout_strike out (about ▸ differs.symm)) fun {kind number} => ?_
  rw [view, if_pos rfl, resting]
  refine ⟨fun impossible => (by cases impossible), ?_⟩
  rintro ⟨other, there, rfl, about'⟩
  obtain ⟨differs, before⟩ := Docket.strike_eq_some.mp there
  have first := agrees.awaited_iff.mpr ⟨record, out, rfl, about⟩
  have second := agrees.awaited_iff.mpr ⟨other, before, rfl, about'⟩
  rw [first] at second
  exact absurd (Prod.mk.inj (Option.some.inj second)).2.symm differs

theorem beginCreate (agrees : table.Agrees docket) (free : table.state? name = none)
    (fresh : docket record.id = none) (about : record.context = .dataInterface name)
    (kind : record.kind = .createInterface) :
    (table.beginCreate name record.id).Agrees (docket.enter record) :=
  agrees.begin (by rw [free]; rfl) fresh about
    (fun other => state?_insert table name other (.creating record.id))
    (by rw [kind]; rfl)

theorem beginDelete (agrees : table.Agrees docket) (ready : table.state? name = some .ready)
    (fresh : docket record.id = none) (about : record.context = .dataInterface name)
    (kind : record.kind = .deleteInterface) :
    (table.beginDelete name record.id).Agrees (docket.enter record) :=
  agrees.begin (by rw [ready]; rfl) fresh about (state?_beginDelete ready record.id)
    (by rw [kind]; rfl)

/-- What is out about an interface is what its stage awaits. -/
theorem state?_of_out (agrees : table.Agrees docket) (out : docket txn = some record)
    (about : record.context = .dataInterface name) :
    ∃ state, table.state? name = some state ∧ state.awaited = some (record.kind, txn) := by
  have awaited := agrees.awaited_iff.mpr ⟨record, out, rfl, about⟩
  exact Option.bind_eq_some_iff.mp awaited

theorem resolveCreate (agrees : table.Agrees docket) (out : docket txn = some record)
    (about : record.context = .dataInterface name) (kind : record.kind = .createInterface)
    (success : Bool) : (table.resolveCreate name success).Agrees (docket.strike txn) := by
  obtain ⟨state, found, awaited⟩ := agrees.state?_of_out out about
  cases state <;> simp [DataInterfaceState.awaited, kind] at awaited
  unfold DataInterfaceTable.resolveCreate
  rw [found]
  cases success with
  | true => exact agrees.settle out about (fun other => state?_insert table name other .ready) rfl
  | false => exact agrees.settle out about (fun other => state?_erase table name other) rfl

theorem resolveDelete (agrees : table.Agrees docket) (out : docket txn = some record)
    (about : record.context = .dataInterface name) (kind : record.kind = .deleteInterface)
    (success : Bool) : (table.resolveDelete name success).Agrees (docket.strike txn) := by
  obtain ⟨state, found, awaited⟩ := agrees.state?_of_out out about
  cases state <;> simp [DataInterfaceState.awaited, kind] at awaited
  unfold DataInterfaceTable.resolveDelete
  rw [found]
  cases success with
  | true => exact agrees.settle out about (fun other => state?_erase table name other) rfl
  | false => exact agrees.settle out about (fun other => state?_insert table name other .ready) rfl

end Agrees

end DataInterfaceTable

end NanHost
