import Mathlib.Algebra.GroupWithZero.Nat
import Mathlib.Algebra.Ring.Int.Defs
import NanHost.Proofs.Host.Gauges

/-!
# Counters — what a meter counts balances

A meter counts the commands that are handed over and the completions that are told, each by its kind,
and measures how long each command took. Commands that the host hands over of its own accord end
without a completion; they are all refusals of peers, so of every other kind as many commands were
handed over as have ended and as callers still await.

## What is proved

- `kinds_of_new`: of each kind as many requests were accepted as were reported and are on file. The
  account of a run balances this under each number; here the numbers are summed up.
- `Reachable.issued_run`: what is handed over was asked for, or is of the host's own accord, and then
  it is a refusal (`Reachable.refusal_of_unasked`).
- `Reachable.latencySamples_run`: the latency of every completion is measured, since the meter
  remembers every command that is reported.
- `run_counters` puts the three together.
-/

namespace NanHost

/-! ## Outcomes -/

/-- The labels of all outcomes. -/
def Completion.outcomeLabels : List String :=
  ["success", "timeout", "firmware_error", "aborted", "invalid_completion"]

/-- Every completion has one outcome. -/
theorem sum_countP_outcome (reports : List Completion) (kind : CommandKind) :
    (Completion.outcomeLabels.map fun outcome => reports.countP fun completion =>
      completion.kind = kind ∧ completion.outcomeLabel = outcome).sum =
        reports.countP (·.kind = kind) := by
  induction reports with
  | nil => rfl
  | cons completion rest ih =>
    have one : (Completion.outcomeLabels.map fun outcome =>
        if completion.kind = kind ∧ completion.outcomeLabel = outcome then 1 else 0).sum =
          if completion.kind = kind then 1 else 0 := by
      obtain ⟨id, kind', result⟩ := completion
      by_cases same : kind' = kind
      · cases result with
        | ok detail => simp [same, Completion.outcomeLabels, Completion.outcomeLabel]
        | error failure =>
          cases failure <;>
            simp [same, Completion.outcomeLabels, Completion.outcomeLabel, Failure.label]
      · simp [same]
    simp only [Completion.outcomeLabels, List.map_cons, List.map_nil, List.sum_cons, List.sum_nil,
      List.countP_cons, decide_eq_true_eq] at ih one ⊢
    omega

/-- The counters of a meter. -/
structure Metrics.SameCounters (metrics other : Metrics) : Prop where
  issued : metrics.issued = other.issued
  completed : metrics.completed = other.completed
  latencySamples : metrics.latencySamples = other.latencySamples

/-! ## What callers are owed -/

/-- How often a pair is listed. -/
theorem count_map_pair {α β γ : Type} [DecidableEq β] [DecidableEq γ] (items : List α) (first : α → β)
    (second : α → γ) (key : β) (value : γ) :
    (items.map fun item => (first item, second item)).count (key, value) =
      ((items.filter (first · = key)).map second).count value := by
  rw [List.count, List.countP_map, List.count, List.countP_map, List.countP_filter]
  refine List.countP_congr fun item _ => ?_
  simp [and_comm]

/-- The commands that callers have on file, as pairs of number and kind. -/
theorem count_callers {ledger : Ledger} (filed : ledger.WellFiled) (txn : TransactionId)
    (kind : CommandKind) :
    (((ledger.records.filter (·.origin = .caller)).map fun record => (record.id, record.kind)).count
      (txn, kind)) = (ledger.owed txn).count kind := by
  have distinct : ((ledger.records.filter (·.origin = .caller)).map
      fun record => (record.id, record.kind)).Nodup := by
    refine List.Nodup.of_map Prod.fst ?_
    rw [List.map_map]
    exact filed.nodup_ids.sublist (List.filter_sublist.map _)
  have single : (ledger.owed txn).Nodup := by
    unfold Ledger.owed
    split
    · split <;> simp
    · simp
  rw [distinct.count, single.count]
  refine if_congr ?_ rfl rfl
  rw [List.mem_map]
  constructor
  · rintro ⟨record, member, same⟩
    obtain ⟨rfl, rfl⟩ := Prod.mk.inj same
    obtain ⟨there, caller⟩ := List.mem_filter.mp member
    rw [Ledger.owed_of_caller (filed.onFile_records.found record there) (of_decide_eq_true caller)]
    exact List.mem_singleton_self _
  · intro owed
    unfold Ledger.owed at owed
    split at owed
    next record onFile =>
      split at owed
      next origin =>
        refine ⟨record, List.mem_filter.mpr ⟨ledger.mem_records.mpr ⟨txn, onFile⟩,
          decide_eq_true origin⟩, ?_⟩
        rw [filed.own onFile, List.mem_singleton.mp owed]
      next => cases owed
    next => cases owed

/-- How much a counter has grown. -/
def Tally.since (tally start : Tally) (labels : List String) : Int :=
  tally.count labels - start.count labels

theorem Tally.since_eq {tally start : Tally} {labels : List String} {grown : Nat}
    (counted : tally.count labels = start.count labels + grown) :
    tally.since start labels = grown := by
  unfold since
  omega

namespace Host

variable {σ : Type} [Transport σ]

/-- The commands of a kind that callers are owed a completion for. -/
def pendingOf (host : Host σ) (kind : CommandKind) : Nat :=
  host.engine.ledger.records.countP fun record => record.origin = .caller ∧ record.kind = kind

/-- **Of each kind as many commands were accepted as were reported and are on file.** -/
theorem kinds_of_new (config : EngineConfig) (transport : σ) (now : Timestamp)
    (acts : List (Act σ)) (kind : CommandKind) :
    ((Host.new config transport now).run acts).completions.countP (·.kind = kind) +
        ((Host.new config transport now).run acts).pendingOf kind =
      ((Host.new config transport now).accepted acts).countP (·.1.kind = kind) := by
  unfold pendingOf
  have filed := ((Reachable.new config transport now).run acts).coherent.filed
  have balance := balance_of_new config transport now acts
  generalize (Host.new config transport now).run acts = host at filed balance
  generalize (Host.new config transport now).accepted acts = taken at balance
  have pairs : ((host.completions.map fun completion => (completion.id, completion.kind)) ++
      (host.engine.ledger.records.filter (·.origin = .caller)).map
        fun record => (record.id, record.kind)).Perm
      (taken.map fun item => (item.2, item.1.kind)) := by
    refine List.perm_iff_count.mpr fun ⟨txn, kind⟩ => ?_
    have counted := congrArg (List.count kind) (balance txn)
    rw [List.count_append] at counted
    rw [List.count_append, count_callers filed, count_map_pair, count_map_pair]
    exact counted
  have counted := pairs.countP_eq (·.2 = kind)
  rw [List.countP_append, List.countP_map, List.countP_map, List.countP_map, List.countP_filter]
    at counted
  simpa [Function.comp_def, and_comm] using counted

/-! ## Commands that nobody asked for -/

/-- A command that is among those handed over was handed over under a number. -/
theorem exists_issued_of_mem {effects : List Effect} {command : Command}
    (member : command ∈ (effects.filterMap (·.issued?)).map (·.2)) :
    ∃ txn, .issued txn command ∈ effects := by
  obtain ⟨⟨txn, handed⟩, there, rfl⟩ := List.mem_map.mp member
  obtain ⟨effect, here, same⟩ := List.mem_filterMap.mp there
  cases effect with
  | issued id other =>
    obtain ⟨rfl, rfl⟩ := Prod.mk.inj (Option.some.inj same)
    exact ⟨_, here⟩
  | _ => cases same

/-- The commands that a step hands over of the host's own accord. -/
def unaskedAt (host : Host σ) : Act σ → List Command
  | .submit _ => []
  | act => ((host.emitted [act]).filterMap (·.issued?)).map (·.2)

/-- The commands that a run hands over of the host's own accord, in order. -/
def unasked (host : Host σ) : List (Act σ) → List Command
  | [] => []
  | act :: rest => host.unaskedAt act ++ (host.step act).unasked rest

variable {host : Host σ}

/-- **The host hands over nothing but refusals of its own accord.** -/
theorem Reachable.refusal_of_unaskedAt (reachable : Reachable host) {act : Act σ} {command : Command}
    (unasked : command ∈ host.unaskedAt act) :
    ∃ path known, command = .respondDataPath (.refusal path) known := by
  have coherent := reachable.coherent
  have reacted {reaction : Reaction} {txn : TransactionId}
      (member : .issued txn command ∈ reaction.2.map Effect.told) :
      ∃ path known, command = .respondDataPath (.refusal path) known := by
    obtain ⟨_, _, same⟩ := List.mem_map.mp member
    cases same
  have lookedAfter {host : Host σ} {txn : TransactionId} (coherent : host.engine.Coherent)
      (member : .issued txn command ∈ host.emitted [.expireResponses]) :
      ∃ path known, command = .respondDataPath (.refusal path) known := by
    have turnsAway := emitted_expireResponses coherent _ member
    cases turnsAway with
    | issued _ path known => exact ⟨path, known, rfl⟩
  cases act with
  | submit => cases unasked
  | handle | expireTransactions | shutdown =>
    obtain ⟨txn, handed⟩ := exists_issued_of_mem unasked
    rw [emitted_react rfl] at handed
    exact reacted handed
  | expireResponses => exact lookedAfter coherent (exists_issued_of_mem unasked).choose_spec
  | tick =>
    obtain ⟨txn, handed⟩ := exists_issued_of_mem unasked
    rw [reachable.emitted_tick] at handed
    rcases List.mem_append.mp handed with first | second
    · rw [emitted_react rfl] at first
      exact reacted first
    · exact lookedAfter (reachable.step .expireTransactions).coherent second
  | advance | replaceTransport =>
    obtain ⟨txn, handed⟩ := exists_issued_of_mem unasked
    rw [emitted_of_out (List.append_nil _).symm] at handed
    cases handed

theorem Reachable.refusal_of_unasked (reachable : Reachable host) {acts : List (Act σ)} :
    ∀ command ∈ host.unasked acts,
      ∃ path known, command = .respondDataPath (.refusal path) known := by
  induction acts generalizing host with
  | nil => exact fun _ => nofun
  | cons act rest ih =>
    intro command member
    rcases List.mem_append.mp member with now | later
    · exact reachable.refusal_of_unaskedAt now
    · exact ih (reachable.step act) command later

theorem Reachable.countP_unasked (reachable : Reachable host) (acts : List (Act σ))
    (kind : CommandKind) :
    (host.unasked acts).countP (·.kind = kind) =
      if kind = .respondDataPath then (host.unasked acts).length else 0 := by
  have kinds : ∀ command ∈ host.unasked acts, command.kind = .respondDataPath := by
    intro command member
    obtain ⟨path, known, rfl⟩ := reachable.refusal_of_unasked command member
    rfl
  split
  next same =>
    exact List.countP_eq_length.mpr fun command member => by simp [kinds command member, same]
  next other =>
    exact List.countP_eq_zero.mpr fun command member => by
      simp [kinds command member, Ne.symm other]

/-- What a step hands over was asked for, or is of the host's own accord, counted by kinds. -/
theorem Reachable.issued_step (reachable : Reachable host) (act : Act σ) (kind : CommandKind) :
    ((host.emitted [act]).filterMap (·.issued?)).countP (·.2.kind = kind) =
      (host.acceptedAt act).countP (·.1.kind = kind) +
        (host.unaskedAt act).countP (·.kind = kind) := by
  cases act with
  | submit request =>
    have offered := emitted_submit reachable.coherent.filed request
    rw [acceptedAt]
    generalize (host.submit request).1 = answer, host.emitted [.submit request] = effects
      at offered
    cases offered with
    | unheard | refused => rfl
    | issued txn command same => simp [acceptedBy, unaskedAt, Effect.issued?, same]
  | _ =>
    rw [acceptedAt, unaskedAt, List.countP_map, List.countP_nil, Nat.zero_add]
    · rfl
    all_goals exact fun _ same => by cases same

/-- **So is what a run hands over.** -/
theorem Reachable.issued_run (reachable : Reachable host) (acts : List (Act σ))
    (kind : CommandKind) :
    ((host.emitted acts).filterMap (·.issued?)).countP (·.2.kind = kind) =
      (host.accepted acts).countP (·.1.kind = kind) +
        (host.unasked acts).countP (·.kind = kind) := by
  induction acts generalizing host with
  | nil =>
    rw [emitted_of_out (List.append_nil _).symm]
    rfl
  | cons act rest ih =>
    have emitted : host.emitted (act :: rest) =
        host.emitted [act] ++ (host.step act).emitted rest := reachable.emitted_append [act] rest
    rw [emitted, List.filterMap_append, List.countP_append, reachable.issued_step act kind,
      ih (reachable.step act), accepted, unasked, List.countP_append, List.countP_append]
    omega

/-! ## Latencies -/

/-- A step other than a tick. -/
theorem Reachable.latencySamples_whole (reachable : Reachable host) {metrics : Metrics}
    (remembers : metrics.Remembers host.engine.ledger) {act : Act σ} (whole : act ≠ .tick)
    (kind : CommandKind) :
    (metrics.reads (host.emitted [act])).latencySamples.count [kind.label] =
      metrics.latencySamples.count [kind.label] +
        (completionsIn (host.emitted [act])).countP (·.kind = kind) := by
  have reported : completionsIn (host.emitted [act]) =
    NanHost.completions (host.told [act]) := rfl
  rw [reported]
  rcases reachable.reacts whole with silent | ⟨reaction, same, _⟩
  · rw [Metrics.latencySamples_reads_silent silent, silent.completions_eq]
    rfl
  · have recalls := reachable.recalls_told remembers act
    rw [told_react same] at recalls ⊢
    rw [emitted_react same]
    exact Metrics.latencySamples_reads_told recalls kind

/-- **A meter measures the latency of each completion once.** -/
theorem Reachable.latencySamples_step (reachable : Reachable host) {metrics : Metrics}
    (remembers : metrics.Remembers host.engine.ledger) (act : Act σ) (kind : CommandKind) :
    (metrics.reads (host.emitted [act])).latencySamples.count [kind.label] =
      metrics.latencySamples.count [kind.label] +
        (completionsIn (host.emitted [act])).countP (·.kind = kind) := by
  by_cases whole : act = .tick
  -- A tick is two things, one after the other.
  · subst whole
    have first : (.expireTransactions : Act σ) ≠ .tick := nofun
    have second : (.expireResponses : Act σ) ≠ .tick := nofun
    have remembers' := reachable.remembers_step remembers .expireTransactions
    rw [reachable.emitted_tick, Metrics.reads_append,
      (reachable.step .expireTransactions).latencySamples_whole remembers' second,
      reachable.latencySamples_whole remembers first, completionsIn_append, List.countP_append,
      Nat.add_assoc]
  · exact reachable.latencySamples_whole remembers whole kind

theorem Reachable.latencySamples_run (reachable : Reachable host) {metrics : Metrics}
    (watched : Watched metrics host) (acts : List (Act σ)) (kind : CommandKind) :
    (metrics.reads (host.emitted acts)).latencySamples.count [kind.label] =
      metrics.latencySamples.count [kind.label] +
        (completionsIn (host.emitted acts)).countP (·.kind = kind) := by
  induction acts using List.reverseRecOn with
  | nil =>
    rw [emitted_of_out (List.append_nil _).symm]
    rfl
  | append_singleton acts act ih =>
    rw [reachable.emitted_append, Metrics.reads_append,
      (reachable.run acts).latencySamples_step (reachable.watched watched acts).remembers, ih,
      completionsIn_append, List.countP_append, Nat.add_assoc]

/-! ## Balance -/

/-- The counters of a meter that watches a run balance. -/
structure Counters (start : Host σ) (counters : Metrics) : Prop where
  /-- Of each kind as many commands are counted as handed over as have ended, with one outcome or
  another, as callers still await, and as the host has handed over of its own accord. -/
  issued : ∀ acts (kind : CommandKind),
    (start.metered counters acts).issued.since counters.issued [kind.label] =
      (Completion.outcomeLabels.map fun outcome =>
        (start.metered counters acts).completed.since counters.completed
          [kind.label, outcome]).sum +
      (start.run acts).pendingOf kind +
      if kind = .respondDataPath then ((start.unasked acts).length : Int) else 0
  /-- As many latencies are measured as commands have ended. -/
  latencies : ∀ acts (kind : CommandKind),
    (start.metered counters acts).latencySamples.since counters.latencySamples [kind.label] =
      (Completion.outcomeLabels.map fun outcome =>
        (start.metered counters acts).completed.since counters.completed
          [kind.label, outcome]).sum
  /-- What the host hands over of its own accord are refusals of peers. -/
  unasked : ∀ acts, ∀ command ∈ start.unasked acts,
    ∃ path known, command = .respondDataPath (.refusal path) known
  /-- A request that is refused is counted nowhere. -/
  refused : ∀ acts request rejection, ((start.run acts).submit request).1 = .error rejection →
    (start.metered counters (acts ++ [.submit request])).SameCounters (start.metered counters acts)

/-- **The counters balance**, after any run. -/
theorem run_counters (config : EngineConfig) (transport : σ) (now : Timestamp) (counters : Metrics) :
    (Host.new config transport now).Counters counters := by
  have reachable := Reachable.new config transport now
  have fresh := Watched.new config transport now counters
  have balance := kinds_of_new config transport now
  have read := metered_new config transport now counters
  have reported (acts : List (Act σ)) : ((Host.new config transport now).run acts).completions =
      completionsIn ((Host.new config transport now).emitted acts) := by
    unfold completions completionsIn notifications
    rw [Array.toList_filterMap, reachable.effects_run]
    rfl
  generalize Host.new config transport now = start at reachable fresh balance read reported
  have ended (acts : List (Act σ)) (kind : CommandKind) :
      (Completion.outcomeLabels.map fun outcome =>
        (start.metered counters acts).completed.since counters.completed
          [kind.label, outcome]).sum =
        ((start.run acts).completions.countP (·.kind = kind) : Int) := by
    have since (outcome : String) :
        (start.metered counters acts).completed.since counters.completed [kind.label, outcome] =
          (((start.run acts).completions.countP fun completion =>
            completion.kind = kind ∧ completion.outcomeLabel = outcome : Nat) : Int) := by
      rw [read, reported]
      exact Tally.since_eq (Metrics.completed_reads ..)
    rw [← sum_countP_outcome]
    simp only [since, Completion.outcomeLabels, List.map_cons, List.map_nil, List.sum_cons,
      List.sum_nil, Int.natCast_add, Int.natCast_zero]
  constructor
  case issued =>
    intro acts kind
    have handed : (start.metered counters acts).issued.since counters.issued [kind.label] =
        (((start.emitted acts).filterMap (·.issued?)).countP (·.2.kind = kind) : Int) := by
      rw [read]
      exact Tally.since_eq (Metrics.issued_reads ..)
    rw [handed, reachable.issued_run, reachable.countP_unasked, ended, ← balance]
    split <;> omega
  case latencies =>
    intro acts kind
    rw [ended, reported, read]
    exact Tally.since_eq (reachable.latencySamples_run fresh acts kind)
  case unasked => exact fun _ => reachable.refusal_of_unasked
  case refused =>
    intro acts request rejection answered
    rw [read, read, reachable.emitted_append, Metrics.reads_append]
    have offered := emitted_submit (reachable.run acts).coherent.filed request
    rw [answered] at offered
    generalize (start.run acts).emitted [.submit request] = effects at offered
    cases offered with
    | unheard | refused => exact ⟨rfl, rfl, rfl⟩

end Host

end NanHost
