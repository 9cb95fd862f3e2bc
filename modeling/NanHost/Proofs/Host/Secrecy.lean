import Mathlib.Data.List.Forall2
import NanHost.Proofs.Host.Lifetime
import NanHost.Proofs.Secrecy.Reactions

/-!
# Secrecy — key material influences nothing that can be observed

Two hosts start alike and are put through the same, except that the settings of security in requests
differ in secrets. Nobody can tell them apart: what is asked is answered alike, the caller is told the
same, the firmware is handed the same commands but for the secrets in them, and the engines are the same
but for the secrets that they keep.

What the transports do is given from outside: they take and refuse commands alike in both runs. A
transport is shown the secrets and might take a command or not by them; that would show, and it would
not be the doing of the host.

## What is proved

- `Alike.issue`: hosts that differ in secrets alone hand over commands that do, and as long as the
  transports agree they go on so.
- `Alike.step` and `Alike.run`: so they do whatever is done to both.
- `run_secrecy`: two runs that start alike cannot be told apart.
-/

namespace NanHost

/-! ## What can be observed -/

namespace Effect

/-- What came out, with all secrets masked. -/
def masked : Effect → Effect
  | told notification => .told notification
  | issued id command => .issued id command.masked
  | refused id command error => .refused id command.masked error

/-- What the transport made of a command, if that is what the effect is about. -/
def verdict? : Effect → Option (Except TransportError Unit)
  | told _ => none
  | issued .. => some (.ok ())
  | refused _ _ error => some (.error error)

@[simp] theorem verdict?_masked (effect : Effect) : effect.masked.verdict? = effect.verdict? := by
  cases effect <;> rfl

@[simp] theorem notification?_masked (effect : Effect) :
    effect.masked.notification? = effect.notification? := by
  cases effect <;> rfl

end Effect

/-- What diagnostics show of the settings of security in a request, if there are any. -/
def Request.shown? : Request → Option String
  | initiateDataPath request => some request.security.debugText
  | respondDataPath request => some request.security.debugText
  | _ => none

/-- What diagnostics show of the settings of security that come in. -/
def Act.shown? {σ : Type} : Act σ → Option String
  | .submit request => request.shown?
  | _ => none

/-- What a host says to something that is done to it. -/
inductive Reply where
  /-- The answer to a request. -/
  | answer (outcome : Except Rejection TransactionId)
  /-- How many deadlines had come. -/
  | count (n : Nat)
  | nothing
  deriving DecidableEq

namespace Host

variable {σ τ : Type}

/-- What the transport has made of all commands so far, the oldest first. -/
def verdicts (host : Host σ) : List (Except TransportError Unit) :=
  host.effects.toList.filterMap (·.verdict?)

section
variable [Transport σ]

/-- What the host says to one thing that is done to it. -/
def reply (host : Host σ) : Act σ → Reply
  | .submit request => .answer (host.submit request).1
  | .expireTransactions => .count host.expireTransactions.1
  | .expireResponses => .count host.expireResponses.1
  | _ => .nothing

/-- What the host says in a run, to one thing after the other. -/
def replies (host : Host σ) : List (Act σ) → List Reply
  | [] => []
  | act :: rest => host.reply act :: (host.step act).replies rest

end

/-- Two hosts that differ in secrets alone. -/
structure Alike (first : Host σ) (second : Host τ) : Prop where
  engine : first.engine.masked = second.engine.masked
  now : first.now = second.now
  effects : first.effects.toList.map Effect.masked = second.effects.toList.map Effect.masked

end Host

/-- The same is done to both, but for the secrets in requests. What happens to the transports need not
be the same. -/
inductive Act.Alike {σ τ : Type} : Act σ → Act τ → Prop
  | submit {request request' : Request} (alike : request.Alike request') :
    Alike (.submit request) (.submit request')
  | handle (event : FirmwareEvent) : Alike (.handle event) (.handle event)
  | expireTransactions : Alike .expireTransactions .expireTransactions
  | expireResponses : Alike .expireResponses .expireResponses
  | tick : Alike .tick .tick
  | shutdown : Alike .shutdown .shutdown
  | advance (millis : UInt64) : Alike (.advance millis) (.advance millis)
  | replaceTransport (transport : σ) (transport' : τ) :
    Alike (.replaceTransport transport) (.replaceTransport transport')

/-- What diagnostics show of settings that come with acts of one kind is the same. -/
theorem Act.shown_of_alike {σ τ : Type} {acts : List (Act σ)} {acts' : List (Act τ)}
    (same : List.Forall₂ Act.Alike acts acts') : acts.map Act.shown? = acts'.map Act.shown? := by
  induction same with
  | nil => rfl
  | cons alike others ih =>
    refine List.cons_eq_cons.mpr ⟨?_, ih⟩
    cases alike with
    | submit alike =>
      cases alike with
      | same => rfl
      | initiate request security alike => exact congrArg some alike.debugText
      | respond request security alike => exact congrArg some alike.debugText
    | _ => rfl

namespace Host

variable {σ τ : Type} {first : Host σ} {second : Host τ}

/-! ## One step of two hosts -/

namespace Alike

/-- What can be observed of all that came out, without its secrets, is the same. -/
theorem observed (alike : first.Alike second) {α : Type} {observe : Effect → Option α}
    (blind : ∀ effect : Effect, observe effect.masked = observe effect) :
    first.effects.toList.filterMap observe = second.effects.toList.filterMap observe := by
  have masked (effects : List Effect) :
      (effects.map Effect.masked).filterMap observe = effects.filterMap observe := by
    rw [List.filterMap_map]
    exact List.filterMap_congr fun effect _ => blind effect
  rw [← masked, alike.effects, masked]

/-- The transports have agreed so far. -/
theorem verdicts (alike : first.Alike second) : first.verdicts = second.verdicts :=
  alike.observed Effect.verdict?_masked

/-- The commands that were handed over are the same but for secrets. -/
theorem issued (alike : first.Alike second) :
    first.issued.map (fun entry => (entry.1, entry.2.masked)) =
      second.issued.map fun entry => (entry.1, entry.2.masked) := by
  have masked (effects : List Effect) :
      (effects.filterMap Effect.issued?).map (fun entry => (entry.1, entry.2.masked)) =
        (effects.map Effect.masked).filterMap Effect.issued? := by
    rw [List.map_filterMap, List.filterMap_map]
    refine List.filterMap_congr fun effect _ => ?_
    cases effect <;> rfl
  refine Array.ext' ?_
  rw [Host.issued, Host.issued, Array.toList_map, Array.toList_map, Array.toList_filterMap,
    Array.toList_filterMap, masked, alike.effects, masked]

/-- The engines go on, and something comes out of both. -/
theorem push (alike : first.Alike second) {engine engine' : Engine}
    (engines : engine.masked = engine'.masked) (transport : σ) (transport' : τ)
    {effect effect' : Effect} (same : effect.masked = effect'.masked) :
    ({ first with engine, transport, effects := first.effects.push effect } : Host σ).Alike
      { second with
        engine := engine', transport := transport', effects := second.effects.push effect' } := by
  refine ⟨engines, alike.now, ?_⟩
  rw [Array.toList_push, Array.toList_push, List.map_append, List.map_append, alike.effects]
  exact congrArg (_ ++ [·]) same

/-- Both react in the same way. -/
theorem react (alike : first.Alike second) {reaction reaction' : Reaction}
    (same : Engine.maskedReaction reaction = Engine.maskedReaction reaction') :
    (first.react reaction).Alike (second.react reaction') := by
  obtain ⟨engines, told⟩ := Prod.ext_iff.mp same
  rw [react_eq, react_eq]
  refine ⟨engines, alike.now, ?_⟩
  simp only [Array.toList_append, List.map_append, alike.effects]
  exact congrArg (fun notices : List Notification => _ ++ (notices.map Effect.told).map _) told

end Alike

/-! ## What the transports made of commands -/

/-- The verdict on a command that is handed over is the last one. -/
theorem verdicts_push (host : Host σ) (engine : Engine) (transport : σ) {effect : Effect}
    {verdict : Except TransportError Unit} (given : effect.verdict? = some verdict) :
    ({ host with engine, transport, effects := host.effects.push effect } : Host σ).verdicts =
      host.verdicts ++ [verdict] := by
  rw [verdicts, Array.toList_push, List.filterMap_append, List.filterMap_cons_some given]
  rfl

/-- If two lists that go on from one list are the beginning of one list, they go on alike. -/
theorem eq_of_prefix {α : Type} {before all : List α} {one other : α}
    (first : before ++ [one] <+: all) (second : before ++ [other] <+: all) : one = other := by
  have same := (List.prefix_of_prefix_length_le first second (by simp)).eq_of_length (by simp)
  exact (List.cons.inj (List.append_cancel_left same)).1

/-- The verdicts so far stay. -/
theorem verdicts_of_effects {host next : Host σ}
    (grows : host.effects.toList <+: next.effects.toList) : host.verdicts <+: next.verdicts :=
  grows.filterMap _

variable [Transport σ] [Transport τ]

theorem effects_issue (host : Host σ) (dispatch : Dispatch) (origin : Origin) :
    host.effects.toList <+: (host.issue dispatch origin).2.effects.toList := by
  unfold issue
  dsimp only
  split
  · exact List.prefix_rfl
  · split <;> exact Array.toList_push ▸ List.prefix_append _ _

/-- What becomes of a path whose peer was refused, by how it went. -/
def noteRefusal (path : DataPathId) : Except Rejection TransactionId × Host σ → Host σ
  | (.ok id, next) =>
    { next with engine := { next.engine with paths := next.engine.paths.attach path id } }
  | (.error _, next) =>
    { next with engine := { next.engine with paths := next.engine.paths.purge path } }

/-- To refuse a peer is to tell the caller, to hand over the refusal, and to note how it went. -/
theorem refuseOverdue_eq (host : Host σ) (path : DataPathId) :
    host.refuseOverdue path = noteRefusal path
      ((host.tell (.dataPathTerminated path .responseTimeout)).issue (host.refusal path) .engine) := by
  unfold refuseOverdue noteRefusal
  dsimp only
  split <;> rename_i issued
  · exact (congrArg (noteRefusal path) issued).symm
  · exact (congrArg (noteRefusal path) issued).symm

omit [Transport σ] in
theorem effects_noteRefusal (path : DataPathId)
    (outcome : Except Rejection TransactionId × Host σ) :
    (noteRefusal path outcome).effects = outcome.2.effects := by
  obtain ⟨_ | _, _⟩ := outcome <;> rfl

/-- What comes out as a request is taken that was admitted: its command is handed over. -/
theorem verdicts_submit {host : Host σ} {request : Request} {dispatch : Dispatch}
    (admitted : host.engine.vet request = .ok dispatch) :
    (host.submit request).2.verdicts = (host.issue dispatch .caller).2.verdicts := by
  rw [submit, admitted]
  dsimp only
  split
  next issued => rw [issued]
  next issued => exact congrArg (·.2.verdicts) issued.symm

theorem verdicts_refuseAll (overdue : List DataPathId) (host : Host σ) :
    host.verdicts <+: (overdue.foldl refuseOverdue host).verdicts := by
  induction overdue generalizing host with
  | nil => exact List.prefix_rfl
  | cons path rest ih =>
    refine List.IsPrefix.trans (verdicts_of_effects ?_) (ih (host.refuseOverdue path))
    rw [refuseOverdue_eq, effects_noteRefusal]
    have told : host.effects.toList <+:
        (host.tell (.dataPathTerminated path .responseTimeout)).effects.toList :=
      Array.toList_push ▸ List.prefix_append _ _
    exact told.trans (effects_issue _ _ _)

/-! ## Commands that are handed over -/

namespace Alike

variable {verdicts : List (Except TransportError Unit)}

/-- **Commands that differ in secrets alone** are handed over alike, as long as the transports agree. -/
theorem issue (alike : first.Alike second) {dispatch dispatch' : Dispatch}
    (same : dispatch.masked = dispatch'.masked) (origin : Origin)
    (agrees : (first.issue dispatch origin).2.verdicts <+: verdicts)
    (agrees' : (second.issue dispatch' origin).2.verdicts <+: verdicts) :
    (first.issue dispatch origin).1 = (second.issue dispatch' origin).1 ∧
      (first.issue dispatch origin).2.Alike (second.issue dispatch' origin).2 := by
  obtain ⟨command, context⟩ := dispatch
  obtain ⟨command', context'⟩ := dispatch'
  obtain ⟨commands, rfl⟩ := Dispatch.mk.inj same
  have kind : command.kind = command'.kind := by
    rw [← Command.kind_masked, commands, Command.kind_masked]
  have allocated : first.engine.ledger.allocate command.kind context origin first.now =
      second.engine.ledger.allocate command'.kind context origin second.now := by
    rw [← Engine.ledger_masked, alike.engine, Engine.ledger_masked, kind, alike.now]
  have engines (ledger : Ledger) : ({ first.engine with ledger := ledger } : Engine).masked =
      ({ second.engine with ledger := ledger } : Engine).masked :=
    congrArg (fun engine : Engine => { engine with ledger := ledger }) alike.engine
  unfold Host.issue at agrees agrees' ⊢
  dsimp only at agrees agrees' ⊢
  rw [allocated] at agrees ⊢
  revert agrees agrees'
  cases second.engine.ledger.allocate command'.kind context origin second.now with
  | error rejection => exact fun _ _ => ⟨rfl, alike⟩
  | ok allocated =>
    obtain ⟨id, filed⟩ := allocated
    dsimp only
    rcases Transport.send first.transport id command with ⟨error | _, transport⟩ <;>
      rcases Transport.send second.transport id command' with ⟨error' | _, transport'⟩ <;>
      intro agrees agrees' <;>
      rw [verdicts_push _ _ _ rfl] at agrees agrees' <;>
      rw [alike.verdicts] at agrees <;>
      -- The transports agree, so that both have taken the command or both have refused it.
      cases eq_of_prefix agrees agrees'
    · have answer : (.error (.transportRejected command.kind error.message) :
          Except Rejection TransactionId) =
            .error (.transportRejected command'.kind error.message) := by rw [kind]
      exact ⟨answer, alike.push (engines _) _ _ (congrArg (Effect.refused id · error) commands)⟩
    · exact ⟨rfl, alike.push (engines _) _ _ (congrArg (Effect.issued id) commands)⟩

omit [Transport σ] [Transport τ] in
/-- Requests that differ in secrets alone are both admitted, or both refused for one reason. -/
theorem vet (alike : first.Alike second) {request request' : Request}
    (same : request.masked = request'.masked) :
    (∃ rejection, first.engine.vet request = .error rejection ∧
        second.engine.vet request' = .error rejection) ∨
      ∃ dispatch dispatch', first.engine.vet request = .ok dispatch ∧
        second.engine.vet request' = .ok dispatch' ∧ dispatch.masked = dispatch'.masked := by
  have vetted : (first.engine.vet request).map Dispatch.masked =
      (second.engine.vet request').map Dispatch.masked := by
    rw [← Engine.vet_masked, alike.engine, same, Engine.vet_masked]
  generalize first.engine.vet request = outcome at vetted
  generalize second.engine.vet request' = outcome' at vetted
  cases outcome with
  | error rejection =>
    cases outcome' with
    | error rejection' => exact .inl ⟨_, rfl, congrArg Except.error (Except.error.inj vetted).symm⟩
    | ok dispatch' => cases vetted
  | ok dispatch =>
    cases outcome' with
    | error rejection' => cases vetted
    | ok dispatch' => exact .inr ⟨dispatch, dispatch', rfl, rfl, Except.ok.inj vetted⟩

/-- **Requests that differ in secrets alone** are answered alike, and leave hosts that do. -/
theorem submit (alike : first.Alike second) {request request' : Request}
    (same : request.masked = request'.masked)
    (agrees : (first.submit request).2.verdicts <+: verdicts)
    (agrees' : (second.submit request').2.verdicts <+: verdicts) :
    (first.submit request).1 = (second.submit request').1 ∧
      (first.submit request).2.Alike (second.submit request').2 := by
  rcases alike.vet same with ⟨rejection, refused, refused'⟩ |
    ⟨dispatch, dispatch', admitted, admitted', dispatches⟩
  · rw [Host.submit, Host.submit, refused, refused']
    exact ⟨rfl, alike⟩
  · rw [verdicts_submit admitted] at agrees
    rw [verdicts_submit admitted'] at agrees'
    obtain ⟨answer, issued⟩ := alike.issue dispatches .caller agrees agrees'
    rw [Host.submit, Host.submit, admitted, admitted']
    dsimp only
    generalize first.issue dispatch .caller = outcome at answer issued ⊢
    generalize second.issue dispatch' .caller = outcome' at answer issued ⊢
    obtain ⟨answered, next⟩ := outcome
    obtain ⟨_, next'⟩ := outcome'
    obtain rfl := answer
    cases answered with
    | error rejection => exact ⟨rfl, issued⟩
    | ok id =>
      refine ⟨rfl, ?_, issued.now, issued.effects⟩
      show (next.engine.stage id request).masked = (next'.engine.stage id request').masked
      rw [← Engine.stage_masked, issued.engine, same, Engine.stage_masked]

omit [Transport σ] [Transport τ] in
/-- How the refusal of a peer went is noted in the same way. -/
theorem noteRefusal (path : DataPathId) {outcome : Except Rejection TransactionId × Host σ}
    {outcome' : Except Rejection TransactionId × Host τ} (answer : outcome.1 = outcome'.1)
    (issued : outcome.2.Alike outcome'.2) :
    (Host.noteRefusal path outcome).Alike (Host.noteRefusal path outcome') := by
  obtain ⟨answered, next⟩ := outcome
  obtain ⟨_, next'⟩ := outcome'
  obtain rfl := answer
  have paths : next.engine.paths.masked = next'.engine.paths.masked :=
    congrArg Engine.paths issued.engine
  cases answered with
  | error rejection =>
    refine ⟨Engine.masked_withPaths issued.engine ?_, issued.now, issued.effects⟩
    rw [← DataPathTable.purge_masked, paths, DataPathTable.purge_masked]
  | ok id =>
    refine ⟨Engine.masked_withPaths issued.engine ?_, issued.now, issued.effects⟩
    rw [← DataPathTable.attach_masked, paths, DataPathTable.attach_masked]

/-- A peer that waited too long is refused in the same way. -/
theorem refuseOverdue (alike : first.Alike second) (path : DataPathId)
    (agrees : (first.refuseOverdue path).verdicts <+: verdicts)
    (agrees' : (second.refuseOverdue path).verdicts <+: verdicts) :
    (first.refuseOverdue path).Alike (second.refuseOverdue path) := by
  have told : (first.tell (.dataPathTerminated path .responseTimeout)).Alike
      (second.tell (.dataPathTerminated path .responseTimeout)) :=
    alike.push alike.engine _ _ rfl
  have known : first.engine.masked.capabilities = second.engine.masked.capabilities :=
    congrArg Engine.capabilities alike.engine
  -- A refusal has no secrets, so that what is handed over is the same.
  have dispatches : (first.refusal path).masked = (second.refusal path).masked :=
    congrArg (fun known : CapabilityCache =>
      (⟨.respondDataPath (.refusal path) known.snapshot, .dataPath path⟩ : Dispatch)) known
  rw [refuseOverdue_eq] at agrees agrees' ⊢
  rw [Host.verdicts, effects_noteRefusal] at agrees agrees'
  rw [refuseOverdue_eq]
  obtain ⟨answer, issued⟩ := told.issue dispatches .engine agrees agrees'
  exact noteRefusal path answer issued

/-- So are all that did. -/
theorem refuseAll (overdue : List DataPathId) (alike : first.Alike second)
    (agrees : (overdue.foldl Host.refuseOverdue first).verdicts <+: verdicts)
    (agrees' : (overdue.foldl Host.refuseOverdue second).verdicts <+: verdicts) :
    (overdue.foldl Host.refuseOverdue first).Alike (overdue.foldl Host.refuseOverdue second) := by
  induction overdue generalizing first second with
  | nil => exact alike
  | cons path rest ih =>
    exact ih (alike.refuseOverdue path ((verdicts_refuseAll rest _).trans agrees)
      ((verdicts_refuseAll rest _).trans agrees')) agrees agrees'

/-- **Looking after the peers** comes to the same. -/
theorem expireResponses (alike : first.Alike second)
    (agrees : first.expireResponses.2.verdicts <+: verdicts)
    (agrees' : second.expireResponses.2.verdicts <+: verdicts) :
    first.expireResponses.1 = second.expireResponses.1 ∧
      first.expireResponses.2.Alike second.expireResponses.2 := by
  have paths : first.engine.paths.masked = second.engine.paths.masked :=
    congrArg Engine.paths alike.engine
  have expired : DataPathTable.maskedNext (first.engine.paths.expireResponses first.now) =
      DataPathTable.maskedNext (second.engine.paths.expireResponses second.now) := by
    rw [← DataPathTable.expireResponses_masked, paths, alike.now,
      DataPathTable.expireResponses_masked]
  obtain ⟨overdue, tables⟩ := Prod.ext_iff.mp expired
  have overdue : (first.engine.paths.expireResponses first.now).1 =
      (second.engine.paths.expireResponses second.now).1 := overdue
  unfold Host.expireResponses at agrees agrees' ⊢
  dsimp only at agrees agrees' ⊢
  rw [overdue] at agrees ⊢
  exact ⟨rfl, refuseAll _ ⟨Engine.masked_withPaths alike.engine tables, alike.now, alike.effects⟩
    agrees agrees'⟩

omit [Transport σ] [Transport τ] in
/-- The same commands are given up. -/
theorem expireTransactions (alike : first.Alike second) :
    first.expireTransactions.1 = second.expireTransactions.1 ∧
      first.expireTransactions.2.Alike second.expireTransactions.2 := by
  have expired : ((first.engine.expireTransactions first.now).1,
        Engine.maskedReaction (first.engine.expireTransactions first.now).2) =
      ((second.engine.expireTransactions second.now).1,
        Engine.maskedReaction (second.engine.expireTransactions second.now).2) := by
    rw [← Engine.expireTransactions_masked, alike.engine, alike.now,
      Engine.expireTransactions_masked]
  obtain ⟨count, reaction⟩ := Prod.mk.inj expired
  exact ⟨count, alike.react reaction⟩

/-! ## Runs of two hosts -/

/-- **Whatever is done to hosts that differ in secrets alone**, they answer alike and go on so, as long
as the transports agree. -/
theorem step (alike : first.Alike second) {act : Act σ} {act' : Act τ} (acts : act.Alike act')
    (agrees : (first.step act).verdicts <+: verdicts)
    (agrees' : (second.step act').verdicts <+: verdicts) :
    first.reply act = second.reply act' ∧ (first.step act).Alike (second.step act') := by
  cases acts with
  | submit same =>
    obtain ⟨answer, next⟩ := alike.submit same.masked agrees agrees'
    exact ⟨congrArg Reply.answer answer, next⟩
  | handle event =>
    refine ⟨rfl, alike.react ?_⟩
    rw [← Engine.handle_masked, alike.engine, alike.now, Engine.handle_masked]
  | expireTransactions =>
    obtain ⟨count, next⟩ := alike.expireTransactions
    exact ⟨congrArg Reply.count count, next⟩
  | expireResponses =>
    obtain ⟨count, next⟩ := alike.expireResponses agrees agrees'
    exact ⟨congrArg Reply.count count, next⟩
  | tick => exact ⟨rfl, (alike.expireTransactions.2.expireResponses agrees agrees').2⟩
  | shutdown =>
    refine ⟨rfl, alike.react ?_⟩
    rw [← Engine.shutdown_masked, alike.engine, Engine.shutdown_masked]
  | advance millis =>
    refine ⟨rfl, alike.engine, ?_, alike.effects⟩
    exact congrArg (fun now : Timestamp => (⟨now.millis + millis⟩ : Timestamp)) alike.now
  | replaceTransport => exact ⟨rfl, alike.engine, alike.now, alike.effects⟩

/-- **So it is in a run.** -/
theorem run {acts : List (Act σ)} {acts' : List (Act τ)} (same : List.Forall₂ Act.Alike acts acts')
    (reachable : first.Reachable) (reachable' : second.Reachable) (alike : first.Alike second)
    (agrees : (first.run acts).verdicts <+: verdicts)
    (agrees' : (second.run acts').verdicts <+: verdicts) :
    first.replies acts = second.replies acts' ∧ (first.run acts).Alike (second.run acts') := by
  induction same generalizing first second with
  | nil => exact ⟨rfl, alike⟩
  | @cons act act' rest rest' acts others ih =>
    have early {υ : Type} [Transport υ] {host : Host υ} (reachable : host.Reachable)
        (acts : List (Act υ)) : host.verdicts <+: (host.run acts).verdicts :=
      verdicts_of_effects ⟨_, (reachable.effects_run acts).symm⟩
    have next := reachable.step act
    have next' := reachable'.step act'
    obtain ⟨reply, going⟩ := alike.step acts ((early next rest).trans agrees)
      ((early next' rest').trans agrees')
    obtain ⟨replies, last⟩ := ih next next' going agrees agrees'
    exact ⟨List.cons_eq_cons.mpr ⟨reply, replies⟩, last⟩

end Alike

/-! ## Secrecy -/

/-- What two runs have in common that cannot be told apart. -/
structure Indistinguishable (first : Host σ) (acts : List (Act σ)) (second : Host τ)
    (acts' : List (Act τ)) : Prop where
  /-- What was answered to one thing after the other: the number of a command, or the reason against
  it with all its words. -/
  replies : first.replies acts = second.replies acts'
  /-- What the caller was told. -/
  notifications : (first.run acts).notifications = (second.run acts').notifications
  /-- The commands that were handed over, but for the secrets in them. -/
  issued : (first.run acts).issued.map (fun entry => (entry.1, entry.2.masked)) =
    (second.run acts').issued.map fun entry => (entry.1, entry.2.masked)
  /-- The engine, but for the secrets of data paths and of initiations under way. -/
  engine : (first.run acts).engine.masked = (second.run acts').engine.masked
  /-- What diagnostics show of the settings in requests. -/
  shown : acts.map Act.shown? = acts'.map Act.shown?
  /-- What they show of the settings of data paths. -/
  ofPaths : ∀ id, ((first.run acts).engine.paths.get? id).map (·.security.debugText) =
    ((second.run acts').engine.paths.get? id).map (·.security.debugText)
  /-- What they show of the settings of initiations under way. -/
  ofInitiations : ∀ txn : TransactionId,
    ((first.run acts).engine.paths.initiating[txn]?).map (·.security.debugText) =
      ((second.run acts').engine.paths.initiating[txn]?).map (·.security.debugText)

/-- **Key material influences nothing that can be observed.** Two hosts start alike, and the same is
done to both but for the secrets in requests; if the transports take and refuse commands alike, the two
runs cannot be told apart. -/
theorem run_secrecy (config : EngineConfig) (transport : σ) (transport' : τ) (now : Timestamp)
    (acts : List (Act σ)) (acts' : List (Act τ)) (same : List.Forall₂ Act.Alike acts acts')
    (agree : ((Host.new config transport now).run acts).verdicts =
      ((Host.new config transport' now).run acts').verdicts) :
    (Host.new config transport now).Indistinguishable acts (.new config transport' now) acts' := by
  have start : (Host.new config transport now).Alike (Host.new config transport' now) :=
    ⟨rfl, rfl, rfl⟩
  obtain ⟨replies, last⟩ := Alike.run same (.new config transport now) (.new config transport' now)
    start List.prefix_rfl (agree ▸ List.prefix_rfl)
  have paths : ((Host.new config transport now).run acts).engine.paths.masked =
      ((Host.new config transport' now).run acts').engine.paths.masked :=
    congrArg Engine.paths last.engine
  refine ⟨replies, Array.ext' ?_, last.issued, last.engine, Act.shown_of_alike same, fun id => ?_,
    fun txn => ?_⟩
  · rw [notifications, notifications, Array.toList_filterMap, Array.toList_filterMap]
    exact last.observed Effect.notification?_masked
  · have entries := congrArg (fun table : DataPathTable =>
      (table.get? id).map (·.security.debugText)) paths
    simpa only [DataPathTable.get?_masked, Option.map_map, Function.comp_def, DataPath.masked,
      DataPathSecurity.debugText_masked] using entries
  · have entries := congrArg (fun table : DataPathTable =>
      (table.initiating[txn]?).map (·.security.debugText)) paths
    simpa only [DataPathTable.initiating_masked, Option.map_map, Function.comp_def,
      InitiateRequest.masked, DataPathSecurity.debugText_masked] using entries

/-- A run in which a data path is asked for that is secured by a key. -/
def securedBy (key : ByteArray) : List (Act Recorder) :=
  [.submit .getCapabilities, .handle (.commandCompleted ⟨1⟩ (.ok (.capabilities .standard))),
    .submit (.enable .standard), .handle (.commandCompleted ⟨2⟩ (.ok .empty)),
    .submit (.createInterface "nan0"), .handle (.commandCompleted ⟨3⟩ (.ok .empty)),
    .submit (.initiateDataPath
      ⟨⟨0⟩, .zero, .available, none, "nan0", .empty, .ofPmk .sharedKey128 key⟩),
    .handle (.commandCompleted ⟨4⟩ (.ok (.pathId ⟨1⟩)))]

/-- Two keys make two paths, and nobody can tell them apart. -/
theorem run_secrecy_securedBy :
    let start := Host.new .standard Recorder.new ⟨0⟩
    let ones : ByteArray := ⟨Array.replicate 32 1⟩
    let twos : ByteArray := ⟨Array.replicate 32 2⟩
    (List.Forall₂ Act.Alike (securedBy ones) (securedBy twos) ∧
        (start.run (securedBy ones)).verdicts = (start.run (securedBy twos)).verdicts) ∧
      ((start.run (securedBy ones)).engine.paths.get? ⟨1⟩).map (·.security.pmk) = some (some ones) ∧
      ((start.run (securedBy twos)).engine.paths.get? ⟨1⟩).map (·.security.pmk) = some (some twos) ∧
      start.Indistinguishable (securedBy ones) start (securedBy twos) := by
  intro start ones twos
  have keys : (DataPathSecurity.ofPmk .sharedKey128 ones).Alike (.ofPmk .sharedKey128 twos) :=
    ⟨rfl, rfl, rfl, rfl, rfl⟩
  have same : List.Forall₂ Act.Alike (securedBy ones) (securedBy twos) :=
    .cons (.submit (.same _)) <| .cons (.handle _) <| .cons (.submit (.same _)) <|
      .cons (.handle _) <| .cons (.submit (.same _)) <| .cons (.handle _) <|
        .cons (.submit (.initiate _ _ keys)) <| .cons (.handle _) .nil
  have agree : (start.run (securedBy ones)).verdicts = (start.run (securedBy twos)).verdicts := by
    decide +kernel
  exact ⟨⟨same, agree⟩, by decide +kernel, by decide +kernel,
    run_secrecy .standard Recorder.new Recorder.new ⟨0⟩ _ _ same agree⟩

end Host

end NanHost
