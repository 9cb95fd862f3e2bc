import NanHost.Proofs.Engine.Patience
import NanHost.Proofs.Host.PathRecords

/-!
# Deadlines — when the caller is told that a peer has waited too long

A peer that asks for a path is refused by the host itself when nobody has answered it in time. The
caller is told so when the deadlines are looked at, and a tick looks at them after it has given up the
commands whose own time is over.

## What is proved

- `lapsed_expireResponses`: looking after the peers tells this of every path that is overdue, and of no
  other. Nothing else does (`lapsed_emitted`).
- `Reachable.overdue_expireTransactions`: commands that are given up before make no difference, since
  none is out about a path that waits for its answer.
- `Reachable.lapsed_iff`: so a step tells it of a path if and only if it looks at the deadlines and the
  path is overdue.
-/

namespace NanHost

/-- What the caller is told when a peer has waited too long. -/
abbrev Effect.lapsed (id : DataPathId) : Effect := .told (.dataPathTerminated id .responseTimeout)

/-- A patient reaction does not tell it. -/
theorem Patient.lapsed {notices : List Notification} (patient : Patient notices) (id : DataPathId) :
    .lapsed id ∉ notices.map Effect.told := by
  intro member
  obtain ⟨notice, there, same⟩ := List.mem_map.mp member
  obtain rfl := Effect.told.inj same
  exact patient id there

namespace DataPath

/-- **A path that waits for its answer after a move has waited before**, and nothing but a command was
struck off it. -/
theorem Move.awaits {id : DataPathId} {now : Timestamp} {path next : DataPath} {effects : List Effect}
    (move : Move id now path effects (some next)) (awaits : next.awaitsAnswer = true) :
    effects = [] ∧ ∃ txn, next = path.detach txn := by
  obtain ⟨waits, unanswered, notEnding⟩ : next.state = .awaitingLocalResponse ∧
      next.response = none ∧ next.endPending = false := by
    simpa [awaitsAnswer, and_assoc] using awaits
  generalize result : some next = entry at move
  cases move with
  | answered txn request =>
    obtain rfl := Option.some.inj result
    unfold DataPath.answered at unanswered
    split at unanswered <;> cases unanswered
  | endAsked =>
    obtain rfl := Option.some.inj result
    cases notEnding
  | confirmed | refused =>
    obtain rfl := Option.some.inj result
    cases waits
  | struck txn =>
    obtain ⟨same, _⟩ := kept_eq_some.mp result.symm
    exact ⟨rfl, txn, same⟩
  | rejected | ended | failed | endSettled | lapsed =>
    obtain ⟨rfl, _⟩ := kept_eq_some.mp result.symm
    cases waits
  | fell => cases result

namespace Consistent

variable {path : DataPath} {now : Timestamp} (consistent : path.Consistent)

include consistent

/-- An answer is due of a path just while it waits for one. -/
theorem awaits : path.awaitsAnswer = true ↔ path.responseDeadline.isSome = true := by
  rw [consistent.due]
  simp [awaitsAnswer, and_assoc]

/-- A path is overdue when an answer was due by now. -/
theorem isOverdue_iff : path.isOverdue now = true ↔
    ∃ deadline, path.responseDeadline = some deadline ∧ deadline ≤ now := by
  constructor
  · intro overdue
    simpa using (Option.any_eq_true _ _).mp (Bool.and_eq_true_iff.mp overdue).2
  · rintro ⟨deadline, due, late⟩
    have waits := (consistent.due.mp (Option.isSome_of_eq_some due)).1
    simp [isOverdue, waits, due, late]

end Consistent

end DataPath

namespace Host

variable {σ : Type} [Transport σ] {host : Host σ}

/-- There is a path under the number, and its peer has waited too long. -/
def Overdue (host : Host σ) (id : DataPathId) : Prop :=
  ∃ path, host.engine.paths.get? id = some path ∧ path.isOverdue host.now = true

/-! ## Refusals -/

/-- The refusal of a peer tells it of the peer's path. -/
theorem Refusal.lapsed {path : DataPathId} {next : Host σ} (fate : host.Refusal path next) :
    ∃ effects, next.effects.toList = host.effects.toList ++ effects ∧
      ∀ id, .lapsed id ∈ effects ↔ id = path := by
  have told : (host.effectsTold path).toList = host.effects.toList ++ [.lapsed path] :=
    Array.toList_push ..
  cases fate with
  | full noRoom => exact ⟨_, told, by simp⟩
  | taken transport opens sent =>
    refine ⟨[.lapsed path, .issued (host.recordFor (host.refusal path) .engine).id
      (host.refusal path).command], ?_, by simp⟩
    rw [Array.toList_push, told, List.append_assoc]
    rfl
  | refused transport error opens sent =>
    refine ⟨[.lapsed path, .refused (host.recordFor (host.refusal path) .engine).id
      (host.refusal path).command error], ?_, by simp⟩
    rw [Array.toList_push, told, List.append_assoc]
    rfl

/-- So do refusals of different paths, one after the other. -/
theorem lapsed_refusals {overdue : List DataPathId} (coherent : host.engine.Coherent)
    (distinct : overdue.Nodup)
    (present : ∀ path ∈ overdue, ∃ entry, host.engine.paths.get? path = some entry) :
    ∃ effects, (overdue.foldl refuseOverdue host).effects.toList = host.effects.toList ++ effects ∧
      ∀ id, .lapsed id ∈ effects ↔ id ∈ overdue := by
  induction overdue generalizing host with
  | nil => exact ⟨[], (List.append_nil _).symm, by simp⟩
  | cons path rest ih =>
    obtain ⟨apart, distinct⟩ := List.nodup_cons.mp distinct
    obtain ⟨effects, out, lapsed⟩ := (refuseOverdue_refusal coherent.filed path).lapsed
    have present' := present_refuseOverdue coherent.filed apart fun other member =>
      present other (List.mem_cons_of_mem _ member)
    obtain ⟨effects', out', lapsed'⟩ :=
      ih (refuseOverdue_coherent coherent (present path (by simp))) distinct present'
    refine ⟨effects ++ effects', ?_, fun id => ?_⟩
    · rw [List.foldl_cons, out', out, List.append_assoc]
    · rw [List.mem_append, lapsed, lapsed', List.mem_cons]

/-- **Looking after the peers tells it of every path that is overdue**, and of no other. -/
theorem lapsed_expireResponses (coherent : host.engine.Coherent) :
    ∃ effects, host.expireResponses.2.effects.toList = host.effects.toList ++ effects ∧
      ∀ id, .lapsed id ∈ effects ↔ host.Overdue id := by
  have paths : host.engine.paths.Agrees _ := coherent.agrees .paths
  obtain ⟨distinct, present⟩ := paths.overdue host.now
  have relieved : host.relieved.engine.Coherent :=
    coherent.touchTable .paths (paths.expireResponses host.now)
  have overdue : (host.engine.paths.expireResponses host.now).1 =
      host.engine.paths.roster (·.isOverdue host.now) := rfl
  obtain ⟨effects, out, lapsed⟩ := lapsed_refusals relieved distinct present
  refine ⟨effects, out, fun id => ?_⟩
  rw [lapsed, overdue, DataPathTable.mem_roster paths]
  rfl

/-! ## Steps -/

/-- A request tells the caller nothing. -/
theorem lapsed_submit (filed : host.engine.ledger.WellFiled) (request : Request) (id : DataPathId) :
    .lapsed id ∉ host.emitted [.submit request] := by
  have fate := submit_submission filed request
  have emitted {effects : List Effect}
      (out : (host.submit request).2.effects.toList = host.effects.toList ++ effects) :
      host.emitted [.submit request] = effects := emitted_of_out out
  generalize host.submit request = outcome at fate emitted
  cases fate with
  | unfit | full =>
    rw [emitted (List.append_nil _).symm]
    exact List.not_mem_nil
  | taken | refused =>
    rw [emitted (Array.toList_push ..)]
    simp

/-- **Nothing but looking after the peers tells it.** A tick does it after it has given up the commands
whose time is over. -/
theorem lapsed_emitted (coherent : host.engine.Coherent) (act : Act σ) (id : DataPathId) :
    .lapsed id ∈ host.emitted [act] ↔
      act = .expireResponses ∧ host.Overdue id ∨
        act = .tick ∧ host.expireTransactions.2.Overdue id := by
  have nothing {effects : List Effect} (emitted : host.emitted [act] = effects)
      (silent : .lapsed id ∉ effects) (other : act ≠ .expireResponses) (other' : act ≠ .tick) :
      .lapsed id ∈ host.emitted [act] ↔
        act = .expireResponses ∧ host.Overdue id ∨
          act = .tick ∧ host.expireTransactions.2.Overdue id := by
    rw [emitted]
    exact ⟨fun told => absurd told silent, fun looked =>
      looked.elim (fun looked => absurd looked.1 other) fun looked => absurd looked.1 other'⟩
  cases act with
  | submit request => exact nothing rfl (lapsed_submit coherent.filed request id) nofun nofun
  | handle event =>
    exact nothing (emitted_react rfl) ((Engine.handle_patient _ _ event).lapsed id) nofun nofun
  | expireTransactions =>
    exact nothing (emitted_react rfl) ((Engine.expireTransactions_patient _ _).lapsed id) nofun nofun
  | shutdown =>
    exact nothing (emitted_react rfl) ((Engine.shutdown_patient _).lapsed id) nofun nofun
  | advance | replaceTransport =>
    exact nothing (emitted_of_out (List.append_nil _).symm) List.not_mem_nil nofun nofun
  | expireResponses =>
    obtain ⟨effects, out, lapsed⟩ := lapsed_expireResponses coherent
    have emitted : host.emitted [.expireResponses] = effects := emitted_of_out out
    rw [emitted, lapsed]
    simp
  | tick =>
    obtain ⟨effects, out, lapsed⟩ := lapsed_expireResponses (expireTransactions_coherent coherent)
    have patient := (Engine.expireTransactions_patient host.engine host.now).lapsed id
    generalize told : (host.engine.expireTransactions host.now).2.2 = notices at patient
    have given : host.expireTransactions.2.effects.toList =
        host.effects.toList ++ notices.map .told :=
      told ▸ effects_react host (host.engine.expireTransactions host.now).2
    have emitted : host.emitted [.tick] = notices.map .told ++ effects := by
      refine emitted_of_out (out.trans ?_)
      rw [given, List.append_assoc]
    rw [emitted, List.mem_append, lapsed]
    simp only [patient, false_or, true_and, reduceCtorEq, false_and]

/-! ## A tick -/

/-- The record of every path is consistent, in every state. -/
theorem Reachable.consistent (reachable : Reachable host) {id : DataPathId} {path : DataPath}
    (found : host.engine.paths.get? id = some path) : path.Consistent :=
  (pathSlot σ id).always DataPath.Consistent (fun ⟨_, _, entered⟩ => entered.consistent)
    (fun moved => moved.consistent) reachable found

/-- While a path waits for its answer no command about it is out. -/
theorem Reachable.idle (reachable : Reachable host) {id : DataPathId} {path : DataPath}
    (found : host.engine.paths.get? id = some path) (awaits : path.awaitsAnswer = true) :
    path.inFlight = ∅ := by
  refine (pathSlot σ id).always (fun path => path.awaitsAnswer = true → path.inFlight = ∅) ?_ ?_
    reachable found awaits
  · rintro _ _ _ _ ⟨_, _, entered⟩ _
    cases entered <;> rfl
  · intro now path effects next moved idle awaits
    obtain ⟨_, txn, rfl⟩ := moved.awaits awaits
    show path.inFlight.erase txn = ∅
    rw [idle awaits]
    simp

/-- **Commands that are given up make no peer wait too long**, and let none off. -/
theorem Reachable.overdue_expireTransactions (reachable : Reachable host) (id : DataPathId) :
    host.expireTransactions.2.Overdue id ↔ host.Overdue id := by
  have coherent := reachable.coherent
  have engine : host.expireTransactions.2.engine = (host.engine.expireTransactions host.now).2.1 :=
    engine_react ..
  have now : host.expireTransactions.2.now = host.now := congrArg (·.now) (react_eq host _)
  constructor
  · rintro ⟨path, found, overdue⟩
    -- The deadline is as old as the path, so the path had it before, and with it all that goes along.
    obtain ⟨effects, moves⟩ := moves_expireTransactions coherent reachable.answered
    have course := moves.courses.path id
    rw [found] at course
    cases here : host.engine.paths.get? id with
    | none =>
      rw [here] at course
      cases (course.of_none rfl).1
    | some earlier =>
      rw [here] at course
      have next := reachable.step .expireTransactions
      obtain ⟨deadline, due, late⟩ := (next.consistent found).isOverdue_iff.mp overdue
      have kept : ∀ deadline, path.responseDeadline = some deadline →
          earlier.responseDeadline = some deadline := by
        refine course.relates (fun first last => ∀ deadline, last.responseDeadline = some deadline →
          first.responseDeadline = some deadline) (fun _ _ same => same) ?_ fun moved _ => moved.due
        intro first second third before after deadline same
        exact before deadline (after deadline same)
      exact ⟨earlier, here, (reachable.consistent here).isOverdue_iff.mpr
        ⟨deadline, kept deadline due, now ▸ late⟩⟩
  · rintro ⟨path, found, overdue⟩
    refine ⟨path, ?_, now ▸ overdue⟩
    have consistent := reachable.consistent found
    obtain ⟨deadline, due, _⟩ := consistent.isOverdue_iff.mp overdue
    have idle := reachable.idle found (consistent.awaits.mpr (Option.isSome_of_eq_some due))
    have paths : host.engine.paths.Agrees _ := coherent.agrees .paths
    rw [engine, Engine.expireTransactions_eq coherent.filed]
    refine (coherent.get?_giveUpAll (coherent.filed.onFile_filter _) ?_ .timeout).trans found
    intro record member about
    have onFile := (coherent.filed.onFile_filter _).found record member
    have out : record.id ∈ path.inFlight := (paths.path found).inFlight_iff.mpr
      ⟨record, Ledger.docket_eq_some.mpr ⟨onFile, by rw [about]; rfl⟩, about⟩
    rw [idle] at out
    simp at out

/-- **A step tells it of a path if and only if it looks at the deadlines and the path is overdue**. -/
theorem Reachable.lapsed_iff (reachable : Reachable host) {act : Act σ} {id : DataPathId} :
    .lapsed id ∈ host.emitted [act] ↔
      (act = .expireResponses ∨ act = .tick) ∧ host.Overdue id := by
  rw [lapsed_emitted reachable.coherent, reachable.overdue_expireTransactions, or_and_right]

end Host

end NanHost
