import NanHost.Host
import NanHost.Proofs.Engine.Admission
import NanHost.Proofs.Engine.Events

/-!
# Steps — what one thing done to a host amounts to

A host adds three things to its engine: the clock, the way to the firmware, and the record of what
came out. Here every step is put in terms of what it does to each of the four.

## What is proved

- `react_eq`: a reaction replaces the engine and adds what was told to the record; nothing else.
- `Issuance`: a command that is to be handed over meets one of three fates. The ledger is full; the
  transport refuses; or it is filed and handed over. `issue_issuance` says there is no fourth.
- `Submission`: so a request meets one of four, as it may be found wanting before
  (`submit_submission`).
- `Refusal`: and so does the refusal of a peer that waited too long (`refuseOverdue_refusal`).
-/

namespace NanHost

namespace Host

variable {σ : Type} (host : Host σ)

/-! ## Reactions -/

/-- What was told is added to the record, and nothing else changes. -/
theorem foldl_tell (notices : List Notification) :
    notices.foldl tell host =
      { host with effects := host.effects ++ (notices.map .told).toArray } := by
  induction notices generalizing host with
  | nil => simp
  | cons notice rest ih =>
    rw [List.foldl_cons, ih]
    simp [tell]

theorem react_eq (reaction : Reaction) :
    host.react reaction =
      { host with
        engine := reaction.1
        effects := host.effects ++ (reaction.2.map .told).toArray } := by
  rw [react, foldl_tell]

@[simp] theorem engine_react (reaction : Reaction) : (host.react reaction).engine = reaction.1 := by
  rw [react_eq]

theorem effects_react (reaction : Reaction) :
    (host.react reaction).effects.toList = host.effects.toList ++ reaction.2.map .told := by
  rw [react_eq]
  simp

theorem engine_handle (event : FirmwareEvent) :
    (host.handle event).engine = (host.engine.handle host.now event).1 := host.engine_react _

/-! ## Commands handed over -/

/-- The record that a command is filed under. -/
def recordFor (dispatch : Dispatch) (origin : Origin) : TransactionRecord :=
  host.engine.ledger.newRecord dispatch.command.kind dispatch.context origin host.now

variable {host} in
/-- A record is filed under a number that is free, if there is room. -/
theorem opens_recordFor (filed : host.engine.ledger.WellFiled)
    (room : host.engine.ledger.size < host.engine.ledger.capacity) (dispatch : Dispatch)
    (origin : Origin) :
    host.engine.ledger.Opens (host.recordFor dispatch origin) dispatch origin := by
  have allocated : host.engine.ledger.allocate dispatch.command.kind dispatch.context origin
      host.now = .ok ((host.recordFor dispatch origin).id,
        host.engine.ledger.file (host.recordFor dispatch origin)) := by
    rw [Ledger.allocate, if_neg (Nat.not_le.mpr room)]
    rfl
  obtain ⟨_, nonzero, fresh, _⟩ := Ledger.allocate_ok filed allocated
  exact ⟨fresh, nonzero, rfl, rfl, rfl, rfl⟩

variable [Transport σ]

/-- The fates of a command that is to be handed over. -/
inductive Issuance (dispatch : Dispatch) (origin : Origin) :
    Except Rejection TransactionId × Host σ → Prop
  /-- The ledger is full. Nothing happens. -/
  | full (noRoom : host.engine.ledger.capacity ≤ host.engine.ledger.size) :
    Issuance dispatch origin (.error (.exhaustedIdSpace host.engine.ledger.size), host)
  /-- The command is filed, and the transport takes it. -/
  | taken (transport : σ)
    (opens : host.engine.ledger.Opens (host.recordFor dispatch origin) dispatch origin)
    (sent : Transport.send host.transport (host.recordFor dispatch origin).id dispatch.command =
      (.ok (), transport)) :
    Issuance dispatch origin (.ok (host.recordFor dispatch origin).id,
      { host with
        engine := host.engine.upon (host.engine.ledger.file (host.recordFor dispatch origin))
        transport := transport
        effects :=
          host.effects.push (.issued (host.recordFor dispatch origin).id dispatch.command) })
  /-- The command is filed, the transport refuses it, and it is taken off the ledger again. -/
  | refused (transport : σ) (error : TransportError)
    (opens : host.engine.ledger.Opens (host.recordFor dispatch origin) dispatch origin)
    (sent : Transport.send host.transport (host.recordFor dispatch origin).id dispatch.command =
      (.error error, transport)) :
    Issuance dispatch origin (.error (.transportRejected dispatch.command.kind error.message),
      { host with
        engine := host.engine.upon
          ((host.engine.ledger.file (host.recordFor dispatch origin)).rollback
            (host.recordFor dispatch origin).id)
        transport := transport
        effects :=
          host.effects.push (.refused (host.recordFor dispatch origin).id dispatch.command error) })

variable {host} {dispatch : Dispatch} {origin : Origin}

/-- **A command that is to be handed over meets one of three fates.** -/
theorem issue_issuance (filed : host.engine.ledger.WellFiled) (dispatch : Dispatch)
    (origin : Origin) : host.Issuance dispatch origin (host.issue dispatch origin) := by
  unfold issue Ledger.allocate
  by_cases noRoom : host.engine.ledger.capacity ≤ host.engine.ledger.size
  · simp only [if_pos noRoom]
    exact .full noRoom
  · have opens := opens_recordFor filed (Nat.not_le.mp noRoom) dispatch origin
    simp only [if_neg noRoom]
    split
    next transport sent => exact .taken transport opens sent
    next error transport sent => exact .refused transport error opens sent

/-! ## Requests -/

variable (host) in
/-- The fates of a request. -/
inductive Submission (request : Request) : Except Rejection TransactionId × Host σ → Prop
  /-- The request cannot go ahead. Nothing happens. -/
  | unfit (rejection : Rejection) (vetted : host.engine.vet request = .error rejection) :
    Submission request (.error rejection, host)
  /-- The ledger is full. Nothing happens. -/
  | full (noRoom : host.engine.ledger.capacity ≤ host.engine.ledger.size) :
    Submission request (.error (.exhaustedIdSpace host.engine.ledger.size), host)
  /-- The command is filed, the transport takes it, and the request is staged. -/
  | taken (dispatch : Dispatch) (transport : σ)
    (admitted : host.engine.vet request = .ok dispatch)
    (opens : host.engine.ledger.Opens (host.recordFor dispatch .caller) dispatch .caller)
    (sent : Transport.send host.transport (host.recordFor dispatch .caller).id dispatch.command =
      (.ok (), transport)) :
    Submission request (.ok (host.recordFor dispatch .caller).id,
      { host with
        engine := (host.engine.upon
          (host.engine.ledger.file (host.recordFor dispatch .caller))).stage
            (host.recordFor dispatch .caller).id request
        transport := transport
        effects :=
          host.effects.push (.issued (host.recordFor dispatch .caller).id dispatch.command) })
  /-- The command is filed, the transport refuses it, and it is taken off the ledger again. -/
  | refused (dispatch : Dispatch) (transport : σ) (error : TransportError)
    (admitted : host.engine.vet request = .ok dispatch)
    (opens : host.engine.ledger.Opens (host.recordFor dispatch .caller) dispatch .caller)
    (sent : Transport.send host.transport (host.recordFor dispatch .caller).id dispatch.command =
      (.error error, transport)) :
    Submission request (.error (.transportRejected dispatch.command.kind error.message),
      { host with
        engine := host.engine.upon
          ((host.engine.ledger.file (host.recordFor dispatch .caller)).rollback
            (host.recordFor dispatch .caller).id)
        transport := transport
        effects :=
          host.effects.push
            (.refused (host.recordFor dispatch .caller).id dispatch.command error) })

/-- **A request meets one of four fates.** -/
theorem submit_submission (filed : host.engine.ledger.WellFiled) (request : Request) :
    host.Submission request (host.submit request) := by
  unfold submit
  split
  next rejection vetted => exact .unfit rejection vetted
  next dispatch admitted =>
    have fate := issue_issuance filed dispatch .caller
    generalize host.issue dispatch .caller = issued at fate
    cases fate with
    | full noRoom => exact .full noRoom
    | taken transport opens sent => exact .taken dispatch transport admitted opens sent
    | refused transport error opens sent =>
      exact .refused dispatch transport error admitted opens sent

/-! ## Peers that waited too long -/

/-- What is handed to the firmware to refuse a peer. -/
def refusal (host : Host σ) (path : DataPathId) : Dispatch :=
  ⟨.respondDataPath (.refusal path) host.engine.capabilities.snapshot, .dataPath path⟩

/-- The record once the caller was told that a path is gone. -/
def effectsTold (host : Host σ) (path : DataPathId) : Array Effect :=
  host.effects.push (.told (.dataPathTerminated path .responseTimeout))

variable (host) in
/-- The fates of the refusal of a peer. In each the caller is told that the path is gone. -/
inductive Refusal (path : DataPathId) : Host σ → Prop
  /-- The ledger is full, and the path is forgotten. -/
  | full (noRoom : host.engine.ledger.capacity ≤ host.engine.ledger.size) :
    Refusal path { host with
      engine := { host.engine with paths := host.engine.paths.purge path }
      effects := host.effectsTold path }
  /-- The refusal is filed, the transport takes it, and it is noted with the path. -/
  | taken (transport : σ)
    (opens : host.engine.ledger.Opens (host.recordFor (host.refusal path) .engine)
      (host.refusal path) .engine)
    (sent : Transport.send host.transport (host.recordFor (host.refusal path) .engine).id
      (host.refusal path).command = (.ok (), transport)) :
    Refusal path { host with
      engine := { host.engine with
        ledger := host.engine.ledger.file (host.recordFor (host.refusal path) .engine)
        paths := host.engine.paths.attach path (host.recordFor (host.refusal path) .engine).id }
      transport := transport
      effects := (host.effectsTold path).push
        (.issued (host.recordFor (host.refusal path) .engine).id (host.refusal path).command) }
  /-- The transport does not take it, and the path is forgotten. -/
  | refused (transport : σ) (error : TransportError)
    (opens : host.engine.ledger.Opens (host.recordFor (host.refusal path) .engine)
      (host.refusal path) .engine)
    (sent : Transport.send host.transport (host.recordFor (host.refusal path) .engine).id
      (host.refusal path).command = (.error error, transport)) :
    Refusal path { host with
      engine := { host.engine with
        ledger := (host.engine.ledger.file (host.recordFor (host.refusal path) .engine)).rollback
          (host.recordFor (host.refusal path) .engine).id
        paths := host.engine.paths.purge path }
      transport := transport
      effects := (host.effectsTold path).push
        (.refused (host.recordFor (host.refusal path) .engine).id (host.refusal path).command
          error) }

/-- **The refusal of a peer meets one of three fates.** -/
theorem refuseOverdue_refusal (filed : host.engine.ledger.WellFiled) (path : DataPathId) :
    host.Refusal path (host.refuseOverdue path) := by
  let told := host.tell (.dataPathTerminated path .responseTimeout)
  have filed : told.engine.ledger.WellFiled := filed
  have fate := issue_issuance filed (host.refusal path) .engine
  unfold refuseOverdue
  dsimp only
  split
  next id next issued =>
    have issued : told.issue (host.refusal path) .engine = _ := issued
    rw [issued] at fate
    cases fate with
    | taken transport opens sent => exact .taken transport opens sent
  next rejection next issued =>
    have issued : told.issue (host.refusal path) .engine = _ := issued
    rw [issued] at fate
    cases fate with
    | full noRoom => exact .full noRoom
    | refused transport error opens sent => exact .refused transport error opens sent

end Host

end NanHost
