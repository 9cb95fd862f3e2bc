import Mathlib.Data.List.Nodup
import NanHost.Proofs.Host.Emissions
import NanHost.Proofs.Host.Progress
import NanHost.Proofs.Meter

/-!
# Metering — a meter that watches a host from the start

The numbers of commands are given again, commands that the engine asked for leave without a word, and
a command that the transport refuses is noted and struck off. Through all of this a meter remembers
every command that a caller is owed a completion for, with its kind and with the entry that it is to
end; what it remembers beside does no harm, since a number that is given again is noted again.

## What is proved

- `Reachable.remembers_step`: the meter goes on remembering what callers have on file.
- `Reachable.shows_step`: so what it shows of an entry after a step is what was said last in it, by
  notices or by the completions of commands that were to end the entry.
- `Reachable.settled_or`: in a step in which such a completion is told, nothing is said to be up.
-/

namespace NanHost

/-- What a command on file is to end, if there is one on file and it is to end an entry. -/
def Ledger.closing? (ledger : Ledger) (txn : TransactionId) : Option Place :=
  (ledger.get? txn).bind (·.closes?)

theorem Ledger.awaitsClosing_eq (ledger : Ledger) (place : Place) (txn : TransactionId) :
    ledger.awaitsClosing place txn = decide (ledger.closing? txn = some place) := by
  unfold awaitsClosing closing?
  cases ledger.get? txn <;> simp

/-- The meter remembers every command that callers have on file. -/
def Metrics.Remembers (metrics : Metrics) (ledger : Ledger) : Prop :=
  ∀ txn record, ledger.get? txn = some record → record.origin = .caller →
    ∃ command : Command, metrics.inFlight[txn]? = some (.ofCommand command) ∧
      command.kind = record.kind ∧ command.closes? = record.closes?

namespace Metrics.Remembers

variable {metrics : Metrics} {ledger after : Ledger} {record : TransactionRecord} {command : Command}

theorem mono (remembers : metrics.Remembers ledger) (nothingNew : ledger.NothingNew after) :
    metrics.Remembers after :=
  fun txn record onFile origin => remembers txn record (nothingNew txn record onFile origin) origin

/-- A command that is filed and handed over is noted. -/
theorem issued (remembers : metrics.Remembers ledger) (kind : command.kind = record.kind)
    (closes : record.origin = .caller → command.closes? = record.closes?) :
    (metrics.observe (.issued record.id command)).Remembers (ledger.file record) := by
  intro txn other onFile origin
  rw [Metrics.getElem?_inFlight_issued]
  rw [Ledger.get?_file] at onFile
  by_cases same : txn = record.id
  · rw [if_pos same] at onFile ⊢
    obtain rfl := Option.some.inj onFile
    exact ⟨command, rfl, kind, closes origin⟩
  · rw [if_neg same] at onFile ⊢
    exact remembers txn other onFile origin

/-- A command that is refused is struck off, and no other. -/
theorem refused (remembers : metrics.Remembers ledger) {id : TransactionId}
    (fresh : ledger.get? id = none) (error : TransportError) :
    (metrics.observe (.refused id command error)).Remembers ledger := by
  intro txn record onFile origin
  have apart : txn ≠ id := by
    rintro rfl
    rw [fresh] at onFile
    cases onFile
  rw [Metrics.getElem?_inFlight_refused, if_neg apart]
  exact remembers txn record onFile origin

/-- A notice that is no completion changes nothing. -/
theorem told (remembers : metrics.Remembers ledger) {notice : Notification}
    (silent : notice.completion? = none) : (metrics.observe (.told notice)).Remembers ledger := by
  intro txn record onFile origin
  rw [Metrics.getElem?_inFlight_told, silent]
  exact remembers txn record onFile origin

/-- **What is reported is forgotten, and nothing else**: a reaction reports what leaves the ledger. -/
theorem paid {reaction : Reaction} (remembers : metrics.Remembers ledger)
    (pays : reaction.Pays ledger) (nothingNew : ledger.NothingNew reaction.1.ledger) :
    (metrics.reads (reaction.2.map .told)).Remembers reaction.1.ledger := by
  intro txn record onFile origin
  have before := nothingNew txn record onFile origin
  -- It is on file before and after, so nothing is reported under its number.
  have owed := pays txn
  rw [Ledger.owed_of_caller onFile origin, Ledger.owed_of_caller before origin] at owed
  have nothing : reportedFor txn (completions reaction.2) = [] := List.append_left_eq_self.mp owed
  have unreported : txn ∉ (completions reaction.2).map (·.id) := by
    intro member
    obtain ⟨completion, reported, rfl⟩ := List.mem_map.mp member
    have counted : completion.kind ∈ reportedFor completion.id (completions reaction.2) :=
      List.mem_map.mpr ⟨completion, List.mem_filter.mpr ⟨reported, by simp⟩, rfl⟩
    rw [nothing] at counted
    cases counted
  rw [Metrics.getElem?_inFlight_reads_told, if_neg unreported]
  exact remembers txn record before origin

end Metrics.Remembers

namespace Host

variable {σ : Type} [Transport σ] {host : Host σ} {metrics : Metrics}

/-! ## Commands that callers have on file -/

/-- A request. -/
theorem Submission.remembers {request : Request} {outcome : Except Rejection TransactionId × Host σ}
    (fate : host.Submission request outcome) (remembers : metrics.Remembers host.engine.ledger) :
    ∃ effects, outcome.2.effects.toList = host.effects.toList ++ effects ∧
      (metrics.reads effects).Remembers outcome.2.engine.ledger := by
  cases fate with
  | unfit | full => exact ⟨[], (List.append_nil _).symm, remembers⟩
  | taken dispatch transport admitted opens sent =>
    refine ⟨_, Array.toList_push .., ?_⟩
    have closes := Engine.closes?_of_vet admitted
    dsimp only
    rw [ledger_stage]
    exact remembers.issued opens.kind.symm fun _ =>
      closes.1.trans (closes.2 _ opens.kind opens.context).symm
  | refused dispatch transport error admitted opens sent =>
    refine ⟨_, Array.toList_push .., ?_⟩
    exact (remembers.refused opens.fresh error).mono
      (.of_pending (Ledger.pending_rollback_file _ opens.fresh))

/-- The refusal of a peer. -/
theorem Refusal.remembers {path : DataPathId} {next : Host σ} (fate : host.Refusal path next)
    (remembers : metrics.Remembers host.engine.ledger) :
    ∃ effects, next.effects.toList = host.effects.toList ++ effects ∧
      (metrics.reads effects).Remembers next.engine.ledger := by
  have told : (host.effectsTold path).toList = host.effects.toList ++ [.lapsed path] :=
    Array.toList_push ..
  have lapsed : (metrics.observe (.lapsed path)).Remembers host.engine.ledger := remembers.told rfl
  have pushed (effect : Effect) : ((host.effectsTold path).push effect).toList =
      host.effects.toList ++ [.lapsed path, effect] := by
    rw [Array.toList_push, told, List.append_assoc]
    rfl
  cases fate with
  | full noRoom => exact ⟨_, told, lapsed⟩
  | taken transport opens sent =>
    refine ⟨_, pushed _, ?_⟩
    refine lapsed.issued opens.kind.symm ?_
    intro origin
    rw [opens.origin] at origin
    cases origin
  | refused transport error opens sent =>
    refine ⟨_, pushed _, ?_⟩
    exact (lapsed.refused opens.fresh error).mono
      (.of_pending (Ledger.pending_rollback_file _ opens.fresh))

/-- A reaction. -/
theorem remembers_react (coherent : host.engine.Coherent)
    (remembers : metrics.Remembers host.engine.ledger) {act : Act σ} {reaction : Reaction}
    (same : host.step act = host.react reaction) (pays : reaction.Pays host.engine.ledger)
    (nobody : host.acceptedAt act = []) :
    (metrics.reads (host.emitted [act])).Remembers (host.step act).engine.ledger := by
  have nothingNew := nothingNew_step coherent act nobody
  rw [same, engine_react] at nothingNew ⊢
  rw [emitted_react same]
  exact remembers.paid pays nothingNew

/-- Looking after the peers. -/
theorem remembers_expireResponses (coherent : host.engine.Coherent)
    (remembers : metrics.Remembers host.engine.ledger) :
    (metrics.reads (host.emitted [.expireResponses])).Remembers
      (host.step .expireResponses).engine.ledger := by
  have looked := expireResponses_keeps
    (fun next => ∃ effects, next.effects.toList = host.effects.toList ++ effects ∧
      (metrics.reads effects).Remembers next.engine.ledger)
    coherent ⟨[], (List.append_nil _).symm, remembers⟩ ?_
  · obtain ⟨effects, out, remembers⟩ := looked.2
    have emitted : host.emitted [.expireResponses] = effects := emitted_of_out out
    rw [emitted]
    exact remembers
  · rintro next path coherent ⟨effects, out, remembers⟩
    obtain ⟨more, out', remembers⟩ :=
      (refuseOverdue_refusal coherent.filed path).remembers remembers
    refine ⟨effects ++ more, by rw [out', out, List.append_assoc], ?_⟩
    rw [Metrics.reads_append]
    exact remembers

/-- **The meter goes on remembering what callers have on file.** -/
theorem Reachable.remembers_step (reachable : Reachable host)
    (remembers : metrics.Remembers host.engine.ledger) (act : Act σ) :
    (metrics.reads (host.emitted [act])).Remembers (host.step act).engine.ledger := by
  have coherent := reachable.coherent
  have expired := Engine.expireTransactions_pays coherent host.now
  cases act with
  | submit request =>
    obtain ⟨effects, out, remembers⟩ :=
      (submit_submission coherent.filed request).remembers remembers
    have emitted : host.emitted [.submit request] = effects := emitted_of_out out
    rw [emitted]
    exact remembers
  | handle event =>
    exact remembers_react coherent remembers rfl (Engine.handle_pays coherent host.now event) rfl
  | expireTransactions => exact remembers_react coherent remembers rfl expired rfl
  | expireResponses => exact remembers_expireResponses coherent remembers
  | tick =>
    rw [reachable.emitted_tick, Metrics.reads_append]
    exact remembers_expireResponses (reachable.step .expireTransactions).coherent
      (remembers_react coherent remembers rfl expired rfl)
  | shutdown => exact remembers_react coherent remembers rfl (Engine.shutdown_pays coherent) rfl
  | advance | replaceTransport =>
    rw [emitted_of_out (List.append_nil _).symm]
    exact remembers

/-- **The meter remembers what a step reports.** -/
theorem Reachable.recalls_told (reachable : Reachable host)
    (remembers : metrics.Remembers host.engine.ledger) (act : Act σ) :
    metrics.Recalls host.engine.ledger.closing? (NanHost.completions (host.told [act])) := by
  have coherent := reachable.coherent
  obtain ⟨reports, told, paid⟩ := balanced_step coherent act
  have same : NanHost.completions (host.told [act]) = reports :=
    List.append_cancel_left ((reachable.completions_step act).symm.trans told)
  rw [same]
  refine ⟨fun completion reported => ?_, List.nodup_iff_count_le_one.mpr fun txn => ?_⟩
  · obtain ⟨record, onFile, origin, kind⟩ := caller_of_reported coherent act told paid reported
    obtain ⟨command, remembered, kind', closes⟩ := remembers _ record onFile origin
    refine ⟨command, remembered, kind'.trans kind, ?_⟩
    rw [closes, Ledger.closing?, onFile]
    rfl
  · have counted : (reports.map (·.id)).count txn = (reportedFor txn reports).length := by
      rw [length_reportedFor, List.count, List.countP_map]
      rfl
    rw [counted]
    by_cases some' : reportedFor txn reports = []
    · simp [some']
    -- What is reported was on file, and one command is on file under a number.
    · have owed := congrArg List.length (paid txn)
      have nobody : host.acceptedAt act = [] := by
        obtain ⟨kind, member⟩ := List.exists_mem_of_ne_nil _ some'
        obtain ⟨completion, reported, _⟩ := List.mem_map.mp member
        rw [← same] at reported
        cases act with
        | submit request =>
          rw [Host.told, told_submit coherent.filed] at reported
          cases (List.mem_filter.mp reported).1
        | _ => rfl
      rw [nobody, acceptedFor, List.filter_nil, List.map_nil, List.append_nil, List.length_append,
        length_owed host.engine.ledger] at owed
      split at owed <;> omega

/-! ## What the meter shows after a step -/

/-- What a step tells: no completion, or what is told in a reaction. -/
theorem Reachable.reacts (reachable : Reachable host) {act : Act σ} (whole : act ≠ .tick) :
    Silent (host.told [act]) ∨
      ∃ reaction, host.step act = host.react reaction ∧ host.engine.Tells reaction := by
  have coherent := reachable.coherent
  cases act with
  | submit request =>
    refine .inl ?_
    rw [Host.told, told_submit coherent.filed]
    exact fun _ => nofun
  | handle event => exact .inr ⟨_, rfl, coherent.tells_handle host.now event⟩
  | expireTransactions =>
    refine .inr ⟨(host.engine.expireTransactions host.now).2, rfl, .bleakly ?_⟩
    rw [Engine.expireTransactions_eq coherent.filed]
    exact Engine.bleak_giveUpAll (coherent.filed.onFile_filter _) .timeout
  | expireResponses =>
    refine .inl fun notice member => ?_
    have turnsAway := emitted_expireResponses coherent _ (mem_told.mp member)
    cases turnsAway
    rfl
  | tick => exact absurd rfl whole
  | shutdown =>
    refine .inr ⟨_, rfl, .bleakly ?_⟩
    rw [Engine.shutdown_eq coherent.filed]
    exact Engine.bleak_giveUpAll coherent.filed.onFile_records .aborted
  | advance | replaceTransport =>
    refine .inl ?_
    rw [Host.told, emitted_of_out (List.append_nil _).symm]
    exact fun _ => nofun

/-- **In a step that reports that an entry is gone nothing is said to be up.** -/
theorem Reachable.settled_or (reachable : Reachable host) {act : Act σ} (whole : act ≠ .tick)
    (place : Place) :
    (∀ completion ∈ NanHost.completions (host.told [act]),
      completion.settles place host.engine.ledger.closing? = false) ∨
        ∀ notice ∈ host.told [act], notice.raises? = none := by
  rcases reachable.reacts whole with silent | ⟨reaction, same, tells⟩
  · rw [silent.completions_eq]
    exact .inl fun _ => nofun
  · rw [told_react same]
    cases tells with
    | silently silent =>
      rw [silent.completions_eq]
      exact .inl fun _ => nofun
    | bleakly bleak =>
      exact .inr fun notice member => Notification.raises?_of_bleak (bleak notice member)
    | disabled falls => exact .inr falls
    | answered record result onFile suits only rises =>
      by_cases falls : ∀ notice ∈ reaction.2, notice.raises? = none
      · exact .inr falls
      -- An entry that begins has no number before, so no command on file is to end it.
      · refine .inl ?_
        push Not at falls
        obtain ⟨notice, told, up⟩ := falls
        obtain ⟨detail, rfl, begins⟩ := rises notice told up
        obtain ⟨notDisabled, new⟩ := suits detail rfl
        rw [only]
        refine List.forall_mem_singleton.mpr ?_
        have closes : record.closes? = none := by
          have about := new begins
          unfold TransactionRecord.closes?
          split <;> simp_all [PendingContext.isNew]
        have stays : Completion.disables ⟨record.id, record.kind, .ok detail⟩ = false := by
          refine Bool.eq_false_iff.mpr fun disables => notDisabled ?_
          exact Except.ok.inj (Completion.disables_iff.mp disables)
        unfold Completion.settles Ledger.closing?
        simp [stays, onFile, closes]

/-- **What the meter shows of an entry after a step**: what was said of it last, unless it is reported
that the entry is gone. -/
theorem Reachable.shows_step (reachable : Reachable host)
    (remembers : metrics.Remembers host.engine.ledger) {act : Act σ} (whole : act ≠ .tick)
    (place : Place) :
    (∀ completion ∈ NanHost.completions (host.told [act]),
        completion.settles place host.engine.ledger.closing? = false) ∧
      (metrics.reads (host.emitted [act])).shows place =
        (lastSaid (·.says? place) (host.told [act])).getD (metrics.shows place) ∨
    (∃ completion ∈ NanHost.completions (host.told [act]),
        completion.settles place host.engine.ledger.closing? = true) ∧
      (metrics.reads (host.emitted [act])).shows place = false := by
  have shown : (metrics.reads (host.emitted [act])).shows place =
      (lastSaid (·.implies? place host.engine.ledger.closing?) (host.told [act])).getD
        (metrics.shows place) := by
    rcases reachable.reacts whole with silent | ⟨reaction, same, _⟩
    · rw [lastSaid_implies_of_unsettled (by rw [silent.completions_eq]; exact fun _ => nofun)]
      exact Metrics.shows_reads_silent silent
    · have recalls := reachable.recalls_told remembers act
      rw [told_react same] at recalls ⊢
      rw [emitted_react same]
      exact Metrics.shows_reads_told recalls
  by_cases settled : ∃ completion ∈ NanHost.completions (host.told [act]),
      completion.settles place host.engine.ledger.closing? = true
  · refine .inr ⟨settled, ?_⟩
    obtain ⟨completion, reported, settles⟩ := settled
    have falls := (reachable.settled_or whole place).resolve_left fun unsettled => by
      rw [unsettled completion reported] at settles
      cases settles
    rw [shown, lastSaid_implies_of_settled reported settles falls]
    rfl
  · have unsettled : ∀ completion ∈ NanHost.completions (host.told [act]),
        completion.settles place host.engine.ledger.closing? = false := by
      intro completion reported
      exact Bool.eq_false_iff.mpr fun settles => settled ⟨completion, reported, settles⟩
    refine .inl ⟨unsettled, ?_⟩
    rw [shown, lastSaid_implies_of_unsettled unsettled]

end Host

end NanHost
