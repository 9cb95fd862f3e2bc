import NanHost.Proofs.Host.Steps

/-!
# Reachable hosts — every state a host is found in is coherent

## What is proved

`Reachable.coherent`: after any run, whatever was asked, whatever the firmware reported and however
the transport answered, the tables of the engine agree with its ledger. The step that is not a
reaction of the engine or a request is the refusal of peers that waited too long. There each refusal
files a command about its own path, or forgets that path, and the paths still to be refused are left
as they are (`get?_refuseOverdue_of_ne`).
-/

namespace NanHost

namespace Host

variable {σ : Type} [Transport σ] {host : Host σ}

/-! ## Requests -/

theorem submit_coherent (coherent : host.engine.Coherent) (request : Request) :
    (host.submit request).2.engine.Coherent := by
  have fate := submit_submission coherent.filed request
  generalize host.submit request = outcome at fate
  cases fate with
  | unfit => exact coherent
  | full => exact coherent
  | taken dispatch transport admitted opens sent => exact coherent.stage admitted opens
  | refused dispatch transport error admitted opens sent =>
    exact coherent.refile (Ledger.pending_rollback_file _ opens.fresh) rfl

/-! ## Peers that waited too long -/

variable {path : DataPathId}

/-- A refusal leaves a coherent engine, as long as the path is still on record. -/
theorem refuseOverdue_coherent (coherent : host.engine.Coherent)
    (present : ∃ entry, host.engine.paths.get? path = some entry) :
    (host.refuseOverdue path).engine.Coherent := by
  have fate := refuseOverdue_refusal coherent.filed path
  have paths : host.engine.paths.Agrees _ := coherent.agrees .paths
  obtain ⟨entry, found⟩ := present
  generalize host.refuseOverdue path = next at fate
  cases fate with
  | full noRoom => exact coherent.touchTable .paths (paths.purge path)
  | taken transport opens sent =>
    exact coherent.joinTable .paths (opens.fileable (.respond path .engine))
      (by rw [opens.context]; rfl)
      (paths.attach found (opens.absent .paths) opens.context opens.kind)
  | refused transport error opens sent =>
    have refiled := coherent.refile (Ledger.pending_rollback_file _ opens.fresh) rfl
    have paths : host.engine.paths.Agrees _ := refiled.agrees .paths
    exact refiled.touchTable .paths (paths.purge path)

/-- A refusal leaves the other paths as they are. -/
theorem get?_refuseOverdue_of_ne (filed : host.engine.ledger.WellFiled) {other : DataPathId}
    (apart : other ≠ path) :
    (host.refuseOverdue path).engine.paths.get? other = host.engine.paths.get? other := by
  have fate := refuseOverdue_refusal filed path
  have purged : (host.engine.paths.purge path).get? other = host.engine.paths.get? other := by
    rw [DataPathTable.get?_purge, if_neg apart]
  generalize host.refuseOverdue path = next at fate
  cases fate with
  | full noRoom => exact purged
  | refused transport error opens sent => exact purged
  | taken transport opens sent =>
    show (host.engine.paths.paths.modify path _)[other]? = _
    rw [Tables.getElem?_modify, if_neg apart]
    rfl

/-- So the others are on record as before. -/
theorem present_refuseOverdue (filed : host.engine.ledger.WellFiled) {rest : List DataPathId}
    (apart : path ∉ rest)
    (present : ∀ other ∈ rest, ∃ entry, host.engine.paths.get? other = some entry) :
    ∀ other ∈ rest, ∃ entry, (host.refuseOverdue path).engine.paths.get? other = some entry := by
  intro other member
  have differs : other ≠ path := fun same => apart (same ▸ member)
  rw [get?_refuseOverdue_of_ne filed differs]
  exact present other member

/-- **Refusals of different paths**, one after the other: what each keeps of a coherent host, all
keep, and the engine is left coherent. -/
theorem foldl_refuseOverdue (kept : Host σ → Prop) {overdue : List DataPathId}
    (coherent : host.engine.Coherent) (distinct : overdue.Nodup)
    (present : ∀ path ∈ overdue, ∃ entry, host.engine.paths.get? path = some entry)
    (start : kept host)
    (keep : ∀ host path, host.engine.Coherent → kept host → kept (host.refuseOverdue path)) :
    (overdue.foldl refuseOverdue host).engine.Coherent ∧
      kept (overdue.foldl refuseOverdue host) := by
  induction overdue generalizing host with
  | nil => exact ⟨coherent, start⟩
  | cons path rest ih =>
    obtain ⟨apart, distinct⟩ := List.nodup_cons.mp distinct
    have rest := present_refuseOverdue coherent.filed apart fun other member =>
      present other (List.mem_cons_of_mem _ member)
    exact ih (refuseOverdue_coherent coherent (present path (by simp))) distinct rest
      (keep host path coherent start)

end Host

/-- The paths that are overdue are on record, each under a number of its own. -/
theorem DataPathTable.Agrees.overdue {table : DataPathTable} {docket : Docket}
    (agrees : table.Agrees docket) (now : Timestamp) :
    (table.expireResponses now).1.Nodup ∧
      ∀ path ∈ (table.expireResponses now).1, ∃ entry,
        (table.expireResponses now).2.get? path = some entry := by
  have distinct : (table.toList.map (·.id)).Nodup :=
    Tables.nodup_values fun found => (agrees.path found).own
  constructor
  · exact distinct.sublist (List.filter_sublist.map _)
  · intro path member
    obtain ⟨entry, late, rfl⟩ := List.mem_map.mp member
    obtain ⟨row, there, rfl⟩ := List.mem_map.mp (List.mem_filter.mp late).1
    have found : table.get? row.1 = some row.2 :=
      Std.ExtTreeMap.mem_toList_iff_getElem?_eq_some.mp there
    rw [(agrees.path found).own]
    exact ⟨_, by rw [get?_expireResponses, found]; rfl⟩

namespace Host

variable {σ : Type} [Transport σ] {host : Host σ}

/-- The host once the paths that are overdue have been taken down, before anybody is refused. -/
def relieved (host : Host σ) : Host σ :=
  { host with
    engine := { host.engine with paths := (host.engine.paths.expireResponses host.now).2 } }

/-- What every refusal keeps of a coherent host, looking after the peers keeps. -/
theorem expireResponses_keeps (kept : Host σ → Prop) (coherent : host.engine.Coherent)
    (start : kept host.relieved)
    (keep : ∀ host path, host.engine.Coherent → kept host → kept (host.refuseOverdue path)) :
    host.expireResponses.2.engine.Coherent ∧ kept host.expireResponses.2 := by
  have paths : host.engine.paths.Agrees _ := coherent.agrees .paths
  obtain ⟨distinct, present⟩ := paths.overdue host.now
  have relieved : host.relieved.engine.Coherent :=
    coherent.touchTable .paths (paths.expireResponses host.now)
  exact foldl_refuseOverdue kept relieved distinct present start keep

theorem expireResponses_coherent (coherent : host.engine.Coherent) :
    host.expireResponses.2.engine.Coherent :=
  (expireResponses_keeps (fun _ => True) coherent trivial fun _ _ _ _ => trivial).1

omit [Transport σ] in
theorem expireTransactions_coherent (coherent : host.engine.Coherent) :
    host.expireTransactions.2.engine.Coherent := by
  have given := coherent.expireTransactions host.now
  simpa only [expireTransactions, engine_react] using given

/-! ## Runs -/

/-- **Whatever is done to a host leaves a coherent engine.** -/
theorem step_coherent (coherent : host.engine.Coherent) (act : Act σ) :
    (host.step act).engine.Coherent := by
  cases act with
  | submit request => exact submit_coherent coherent request
  | handle event =>
    show (host.react _).engine.Coherent
    rw [engine_react]
    exact coherent.handle host.now event
  | expireTransactions => exact expireTransactions_coherent coherent
  | expireResponses => exact expireResponses_coherent coherent
  | tick => exact expireResponses_coherent (expireTransactions_coherent coherent)
  | shutdown =>
    show (host.react _).engine.Coherent
    rw [engine_react]
    exact coherent.shutdown
  | advance | replaceTransport => exact coherent

/-- **Every state a host is found in is coherent.** -/
theorem Reachable.coherent (reachable : Reachable host) : host.engine.Coherent := by
  induction reachable with
  | new config transport now => exact Engine.Coherent.new config
  | step act _ ih => exact step_coherent ih act

end Host

end NanHost
