import NanHost.Proofs.Host.Reachable

/-!
# Integrity — the tables refer to what is on file, and to nothing else

Coherence compares each table with its own docket, in the form in which it is kept from step to
step. Integrity says the same of the ledger as a whole, in the form in which one reads it: every
reference from a table into the ledger is met, and every record on file is referred to by the one
entry that it is about.

## What is proved

`run_integrity`: the state after any run has it. The stages of the radio interface are compared by
number (`Engine.Coherent.length_awaited`): of configurations and disablings there is one on file if
the stage awaits one of its kind, and none otherwise.
-/

namespace NanHost

namespace Engine

/-- The tables and the ledger refer to each other. -/
structure Integrity (engine : Engine) : Prop where
  /-- A session lists the commands that are out about it. -/
  session : ∀ id txn,
    (∃ session, engine.sessions.get? id = some session ∧ txn ∈ session.inFlight) ↔
      ∃ record, engine.ledger.get? txn = some record ∧ record.context = .session id
  /-- A data path lists the commands that are out about it. -/
  path : ∀ id txn,
    (∃ path, engine.paths.get? id = some path ∧ txn ∈ path.inFlight) ↔
      ∃ record, engine.ledger.get? txn = some record ∧ record.context = .dataPath id
  /-- The starts under way are those on file, each of its role. -/
  starting : ∀ txn role,
    (∃ config, engine.sessions.starting[txn]? = some config ∧ config.role = role) ↔
      ∃ record, engine.ledger.get? txn = some record ∧ record.context = .newSession role
  /-- The initiations under way are those on file. -/
  initiating : ∀ txn, txn ∈ engine.paths.initiating ↔
    ∃ record, engine.ledger.get? txn = some record ∧ record.context = .newDataPath
  /-- A data interface is being created while its creation is on file. -/
  creating : ∀ name txn, engine.dataInterfaces.state? name = some (.creating txn) ↔
    ∃ record, engine.ledger.get? txn = some record ∧ record.kind = .createInterface ∧
      record.context = .dataInterface name
  /-- A data interface is being deleted while its deletion is on file. -/
  deleting : ∀ name txn, engine.dataInterfaces.state? name = some (.deleting txn) ↔
    ∃ record, engine.ledger.get? txn = some record ∧ record.kind = .deleteInterface ∧
      record.context = .dataInterface name
  /-- The interface is on its way to a configuration while exactly one is on file. -/
  configuring : engine.interface.phase = .enabling ∨ engine.interface.phase = .reconfiguring ↔
    (engine.ledger.records.filter (·.kind = .configure)).length = 1
  /-- The interface is on its way down while exactly one disabling is on file. -/
  disabling : engine.interface.phase = .disabling ↔
    (engine.ledger.records.filter (·.kind = .disable)).length = 1
  /-- A configuration and a disabling are never on file together, nor two of either. -/
  exclusive : (engine.ledger.records.filter fun record =>
    record.kind = .configure ∨ record.kind = .disable).length ≤ 1
  /-- A session's configuration under way is carried by a command on file that updates it. -/
  update : ∀ id session txn config, engine.sessions.get? id = some session →
    session.pendingUpdate = some (txn, config) →
      ∃ record, engine.ledger.get? txn = some record ∧ record.context = .session id ∧
        record.kind = session.role.startKind

variable {engine : Engine}

namespace Coherent

/-- A record about the interface is on its docket. -/
theorem docket_radio (coherent : engine.Coherent) {record : TransactionRecord}
    (member : record ∈ engine.ledger.records)
    (radio : record.kind = .configure ∨ record.kind = .disable) :
    engine.ledger.docket .interface record.id = some record := by
  have onFile := coherent.filed.onFile_records.found record member
  have about := (coherent.commissioned onFile).interface_iff.mpr (.inr radio)
  exact Ledger.docket_eq_some.mpr ⟨onFile, by rw [about]; rfl⟩

/-- Of configurations and disablings there is one on file at most. -/
theorem length_radio_le_one (coherent : engine.Coherent) {condition : TransactionRecord → Bool}
    (radio : ∀ record, condition record = true →
      record.kind = .configure ∨ record.kind = .disable) :
    (engine.ledger.records.filter condition).length ≤ 1 := by
  have interface : engine.interface.Agrees _ := coherent.agrees .interface
  have distinct := (coherent.filed.onFile_filter condition).distinct
  have alike : ∀ first ∈ engine.ledger.records.filter condition,
      ∀ second ∈ engine.ledger.records.filter condition, first.id = second.id := by
    intro first member second member'
    obtain ⟨there, meant⟩ := List.mem_filter.mp member
    obtain ⟨there', meant'⟩ := List.mem_filter.mp member'
    have notQuery {record : TransactionRecord} (meant : condition record = true) :
        record.kind ≠ .capabilities := by
      rcases radio record meant with kind | kind <;> simp [kind]
    exact interface.unique (coherent.docket_radio there (radio _ meant))
      (coherent.docket_radio there' (radio _ meant')) (notQuery meant) (notQuery meant')
  generalize engine.ledger.records.filter condition = leaving at distinct alike
  match leaving with
  | [] | [_] => simp
  | first :: second :: _ =>
    have same := alike first (by simp) second (by simp)
    simp [same] at distinct

/-- There is one on file exactly if the stage of the interface awaits one of its kind. -/
theorem length_awaited (coherent : engine.Coherent) {kind : CommandKind}
    (radio : kind = .configure ∨ kind = .disable) :
    (engine.ledger.records.filter (·.kind = kind)).length = 1 ↔
      engine.interface.phase.awaited = some kind := by
  have interface : engine.interface.Agrees _ := coherent.agrees .interface
  have most : (engine.ledger.records.filter (·.kind = kind)).length ≤ 1 :=
    coherent.length_radio_le_one fun record same => by
      rw [of_decide_eq_true same]
      exact radio
  constructor
  · intro one
    obtain ⟨record, only⟩ := List.length_eq_one_iff.mp one
    have member : record ∈ engine.ledger.records.filter (·.kind = kind) := by simp [only]
    obtain ⟨there, same⟩ := List.mem_filter.mp member
    have same : record.kind = kind := of_decide_eq_true same
    have onFile := coherent.filed.onFile_records.found record there
    rw [coherent.awaited_of_onFile onFile (same ▸ radio), same]
  · intro awaited
    obtain ⟨txn, record, out, same⟩ := interface.out_of_awaited awaited
    have member : record ∈ engine.ledger.records.filter (·.kind = kind) := by
      have there := engine.ledger.mem_records.mpr ⟨txn, (Ledger.docket_eq_some.mp out).1⟩
      exact List.mem_filter.mpr ⟨there, decide_eq_true same⟩
    have least := List.length_pos_of_mem member
    omega

/-- What is on file about a subject is what is on its docket. -/
theorem exists_docket (subject : Subject) {meant : TransactionRecord → Prop}
    (about : ∀ record, meant record → record.context.subject = subject) {txn : TransactionId} :
    (∃ record, engine.ledger.docket subject txn = some record ∧ meant record) ↔
      ∃ record, engine.ledger.get? txn = some record ∧ meant record := by
  apply exists_congr
  intro record
  rw [Ledger.docket_eq_some, and_assoc]
  exact and_congr_right fun _ => ⟨And.right, fun same => ⟨about record same, same⟩⟩

/-- **The tables of a coherent engine refer to what is on file, and to nothing else.** -/
theorem integrity (coherent : engine.Coherent) : engine.Integrity := by
  have dataInterfaces : engine.dataInterfaces.Agrees _ := coherent.agrees .dataInterfaces
  have sessions : engine.sessions.Agrees _ := coherent.agrees .sessions
  have paths : engine.paths.Agrees _ := coherent.agrees .paths
  constructor
  case session =>
    intro id txn
    rw [← exists_docket .sessions fun record about => by rw [about]; rfl]
    constructor
    · rintro ⟨session, found, member⟩
      exact (sessions.session found).inFlight_iff.mp member
    · rintro ⟨record, out, about⟩
      obtain ⟨session, found, local', _⟩ := sessions.session_of_out out about
      exact ⟨session, found, local'.inFlight_iff.mpr ⟨record, out, about⟩⟩
  case path =>
    intro id txn
    rw [← exists_docket .paths fun record about => by rw [about]; rfl]
    constructor
    · rintro ⟨path, found, member⟩
      exact (paths.path found).inFlight_iff.mp member
    · rintro ⟨record, out, about⟩
      obtain ⟨path, found, local'⟩ := paths.path_of_out out about
      exact ⟨path, found, local'.inFlight_iff.mpr ⟨record, out, about⟩⟩
  case starting =>
    intro txn role
    rw [← exists_docket .sessions fun record about => by rw [about]; rfl]
    constructor
    · rintro ⟨config, found, rfl⟩
      exact sessions.out_of_starting found
    · rintro ⟨record, out, about⟩
      exact sessions.starting_of_out out about
  case initiating =>
    intro txn
    rw [← exists_docket .paths fun record about => by rw [about]; rfl,
      Std.ExtTreeMap.mem_iff_isSome_getElem?, Option.isSome_iff_exists]
    constructor
    · rintro ⟨request, found⟩
      exact paths.out_of_initiating found
    · rintro ⟨record, out, about⟩
      exact paths.initiating_of_out out about
  case creating =>
    intro name txn
    rw [← exists_docket .dataInterfaces fun record about => by rw [about.2]; rfl,
      ← dataInterfaces.awaited_iff]
    cases engine.dataInterfaces.state? name with
    | none => simp
    | some state => cases state <;> simp [DataInterfaceState.awaited]
  case deleting =>
    intro name txn
    rw [← exists_docket .dataInterfaces fun record about => by rw [about.2]; rfl,
      ← dataInterfaces.awaited_iff]
    cases engine.dataInterfaces.state? name with
    | none => simp
    | some state => cases state <;> simp [DataInterfaceState.awaited]
  case configuring =>
    rw [coherent.length_awaited (.inl rfl)]
    cases engine.interface.phase <;> simp [InterfacePhase.awaited]
  case disabling =>
    rw [coherent.length_awaited (.inr rfl)]
    cases engine.interface.phase <;> simp [InterfacePhase.awaited]
  case exclusive =>
    exact coherent.length_radio_le_one fun record radio => of_decide_eq_true radio
  case update =>
    intro id session txn config found pending
    obtain ⟨_, record, out, about, kind⟩ := (sessions.session found).update_out pending
    exact ⟨record, (Ledger.docket_eq_some.mp out).1, about, kind⟩

end Coherent

end Engine

/-- **After any run the tables refer to what is on file, and to nothing else.** -/
theorem Host.run_integrity {σ : Type} [Transport σ] (config : EngineConfig) (transport : σ)
    (now : Timestamp) (acts : List (Act σ)) :
    ((Host.new config transport now).run acts).engine.Integrity :=
  ((Reachable.new config transport now).run acts).coherent.integrity

end NanHost
