import NanHost.Proofs.Meter

/-!
# Voices — what is told as entries come up and go down

A session comes up when its start is reported, and a path when it is confirmed; both are told. Going
down is told as well, unless the caller has asked for it: of a session whose stop was handed over no
more is said, and neither is it of a path whose end was. So somebody who goes by what was said last
is right about an entry that is up, and right about one that is down but for the one whose end was
asked for.

## What is proved

- `Session.Move.voiced` and `DataPath.Move.voiced`: one move of an entry keeps this.
- `Session.quiet_of_course`: what becomes of a session that is not active is not told.
-/

namespace NanHost

/-- Whether the entry of a place is up: a session is active, a path is confirmed. -/
def Engine.isUp (engine : Engine) : Place → Bool
  | .session id => (engine.sessions.get? id).any (·.isActive)
  | .path id => (engine.paths.get? id).any (·.isConfirmed)

/-- What was said last of an entry in what has come out. -/
def lastWord (place : Place) (log : List Effect) : Option Bool :=
  lastSaid (·.says? place) (log.filterMap (·.notification?))

theorem lastWord_append (place : Place) (log effects : List Effect) :
    lastWord place (log ++ effects) = (lastWord place effects).or (lastWord place log) := by
  rw [lastWord, List.filterMap_append, lastSaid_append]
  rfl

@[simp] theorem lastWord_told (place : Place) (notice : Notification) :
    lastWord place [.told notice] = notice.says? place := by
  unfold lastWord lastSaid
  cases said : notice.says? place <;> simp [Effect.notification?, said]

/-- What says something of an entry concerns it. -/
theorem Notification.place?_of_says? {notice : Notification} {place : Place} {word : Bool}
    (said : notice.says? place = some word) : notice.place? = some place := by
  unfold says? at said
  split at said
  next up =>
    cases notice with
    | completed completion =>
      obtain ⟨id, kind, result⟩ := completion
      cases result with
      | error failure => cases up
      | ok detail =>
        cases detail with
        | sessionStarted => exact up
        | _ => cases up
    | dataPathConfirmed => exact up
    | _ => cases up
  next =>
    split at said
    next down =>
      cases notice with
      | sessionTerminated | dataPathTerminated => exact down
      | _ => cases down
    next => cases said

theorem lastWord_of_quiet {place : Place} {effects : List Effect} (quiet : Quiet place effects) :
    lastWord place effects = none := by
  unfold lastWord lastSaid
  rw [List.getLast?_eq_none_iff, List.filterMap_eq_nil_iff]
  intro notice member
  obtain ⟨effect, here, same⟩ := List.mem_filterMap.mp member
  cases effect with
  | told other =>
    obtain rfl := Option.some.inj same
    cases said : other.says? place with
    | none => rfl
    | some word => exact absurd (Notification.place?_of_says? said) (quiet _ here)
  | _ => cases same

/-! ## One entry -/

/-- What is said of an entry, added to what was shown of it, is whether it is up; but it may be down
without a word if somebody has asked for that. -/
structure Voiced (place : Place) (shown : Bool) (asked : Prop) (up : Bool) (log : List Effect) :
    Prop where
  told : up = true → (lastWord place log).getD shown = true
  rest : (lastWord place log).getD shown = true → up = true ∨ asked ∨ closingsIn place log ≠ []

namespace Voiced

variable {place : Place} {shown : Bool} {asked : Prop} {up up' : Bool} {log effects : List Effect}

/-- Nothing is said, and it stays as it was. -/
theorem still (voiced : Voiced place shown asked up log) (silent : lastWord place effects = none) :
    Voiced place shown asked up (log ++ effects) := by
  have same : lastWord place (log ++ effects) = lastWord place log := by
    rw [lastWord_append, silent]
    rfl
  refine ⟨fun isUp => by rw [same]; exact voiced.told isUp, fun word => ?_⟩
  rw [same] at word
  refine (voiced.rest word).imp_right (Or.imp_right fun some' => ?_)
  rw [closingsIn_append]
  simp [some']

/-- It is said to be up. -/
theorem raised (said : lastWord place effects = some true) :
    Voiced place shown asked true (log ++ effects) := by
  refine ⟨fun _ => ?_, fun _ => .inl rfl⟩
  rw [lastWord_append, said]
  rfl

/-- It is said to be down. -/
theorem lowered (said : lastWord place effects = some false) :
    Voiced place shown asked false (log ++ effects) := by
  refine ⟨nofun, fun word => ?_⟩
  rw [lastWord_append, said] at word
  cases word

/-- Somebody has asked that it goes down. -/
theorem ending (marked : asked ∨ closingsIn place (log ++ effects) ≠ []) :
    Voiced place shown asked false (log ++ effects) :=
  ⟨nofun, fun _ => .inr marked⟩

end Voiced

namespace Session

variable {id : SessionId} {shown : Bool} {asked : Prop} {session : Session} {log effects : List Effect}

theorem any_isActive_kept (session : Session) :
    session.kept.any (·.isActive) = session.isActive := by
  unfold kept
  cases done : session.isDone with
  | false => simp [done, Option.filter_some]
  | true =>
    have gone : session.state = .terminated := by simp_all [isDone]
    simp [done, Option.filter_some, isActive, gone]

/-- What becomes of a session that is not active is not told. -/
theorem quiet_of_course {entry : Option Session} (down : session.state ≠ .active)
    (course : Course (.session id) (Move id) (some session) effects entry) :
    Quiet (.session id) effects := by
  have kept := course.keeps
    (fun (entry : Option Session) log =>
      (∀ next, entry = some next → next.state ≠ .active) ∧ Quiet (.session id) log)
    ?_ ?_ [] ⟨fun next same => Option.some.inj same ▸ down, .nil _⟩
  · exact kept.2
  · rintro entry log effects quiet ⟨down, before⟩
    exact ⟨down, before.append quiet⟩
  · rintro session log effects entry moved ⟨down, before⟩
    have down := down session rfl
    have inactive : session.isActive = false := decide_eq_false down
    have silent : effects = [] := by
      cases moved with
      | endures => rfl
      | stopAsked _ _ _ active => exact absurd active down
      | ended | fell => simp [inactive]
    subst silent
    refine ⟨fun next same => ?_, by rwa [List.append_nil]⟩
    subst same
    have becomes := moved.mayBecome
    unfold SessionState.mayBecome at becomes
    rcases becomes with same | gone | ⟨active, _⟩
    · rwa [same]
    · rw [gone]
      nofun
    · exact absurd active down

/-- **Every move of a session is told**, unless a stop was asked for. -/
theorem Move.voiced {entry : Option Session} (move : Move id session effects entry)
    (voiced : Voiced (.session id) shown asked session.isActive log) :
    Voiced (.session id) shown asked (entry.any (·.isActive)) (log ++ effects) := by
  have still {up : Bool} (same : up = session.isActive) :
      Voiced (.session id) shown asked up (log ++ []) := by
    rw [same]
    exact voiced.still rfl
  cases move with
  | endures endures =>
    cases endures with
    | used next stage => exact still (by simp [isActive, stage])
    | settled next stage => exact still (by rw [any_isActive_kept, isActive, isActive, stage])
    | stopped next stopping gone =>
      exact still (by rw [any_isActive_kept, isActive, isActive, gone]; simp [stopping])
  | stopAsked txn command about active =>
    refine .ending (.inr ?_)
    rw [closingsIn_append]
    rcases about with rfl | rfl <;> simp [closingsIn, Effect.closing?, Command.closes?]
  | ended status live =>
    rw [any_isActive_kept]
    cases active : session.isActive with
    | true => exact .lowered (by simp [Notification.says?, Notification.raises?, Notification.lowers?])
    | false => exact still active.symm
  | fell reason =>
    cases active : session.isActive with
    | true => exact .lowered (by simp [Notification.says?, Notification.raises?, Notification.lowers?])
    | false => exact still active.symm

end Session

namespace DataPath

variable {id : DataPathId} {now : Timestamp} {shown : Bool} {asked : Prop} {path : DataPath}
  {log effects : List Effect}

theorem any_isConfirmed_kept (path : DataPath) :
    path.kept.any (·.isConfirmed) = path.isConfirmed := by
  unfold kept
  cases done : path.isDone with
  | false => simp [done, Option.filter_some]
  | true =>
    have gone : path.state = .terminated := by simp_all [isDone]
    simp [done, Option.filter_some, isConfirmed, gone]

/-- A path whose end is noted with it. -/
def Noted (asked : Prop) (id : DataPathId) (path : DataPath) (log : List Effect) : Prop :=
  path.state ≠ .terminated → path.endPending = true → asked ∨ closingsIn (.path id) log ≠ []

/-- What is said of a path as it goes down, or nothing. -/
theorem lastWord_down (id : DataPathId) (reason : TerminationReason) (condition : Bool) :
    lastWord (.path id)
        (if condition then [.told (.dataPathTerminated id reason)] else []) =
      if condition then some false else none := by
  cases condition with
  | false => rfl
  | true => simp [Notification.says?, Notification.raises?, Notification.lowers?]

/-- **Every move of a path is told**, unless its end was asked for. -/
theorem Move.voiced {entry : Option DataPath} (move : Move id now path effects entry)
    (voiced : Voiced (.path id) shown asked path.isConfirmed log) (noted : Noted asked id path log) :
    Voiced (.path id) shown asked (entry.any (·.isConfirmed)) (log ++ effects) ∧
      ∀ next, entry = some next → Noted asked id next (log ++ effects) := by
  have more {effects : List Effect} (marked : asked ∨ closingsIn (.path id) log ≠ []) :
      asked ∨ closingsIn (.path id) (log ++ effects) ≠ [] := by
    refine marked.imp_right fun some' => ?_
    rw [closingsIn_append]
    simp [some']
  have gone {next : DataPath} (down : next.state = .terminated) :
      ∀ last, next.kept = some last → Noted asked id last (log ++ effects) := by
    intro last left live
    obtain ⟨rfl, _⟩ := kept_eq_some.mp left
    exact absurd down live
  -- It goes down, and this is told unless it was not up or its end was asked for.
  have falls (condition : Bool) (reason : TerminationReason) {up : Bool} (down : up = false)
      (silent : condition = false → path.isConfirmed = true → path.endPending = true) :
      Voiced (.path id) shown asked up
        (log ++ if condition then [.told (.dataPathTerminated id reason)] else []) := by
    subst down
    cases told : condition with
    | true => exact .lowered (lastWord_down id reason true)
    | false =>
      cases up : path.isConfirmed with
      | false =>
        rw [up] at voiced
        exact voiced.still rfl
      | true =>
        have live : path.state ≠ .terminated := by simp_all [isConfirmed]
        exact .ending (more (noted live (silent told up)))
  cases move with
  | answered txn request known about awaits =>
    have open' : path.state = .awaitingLocalResponse ∧ path.endPending = false := by
      simp_all [awaitsAnswer]
    have same : ((path.attach txn).answered request).isConfirmed = path.isConfirmed ∧
        ((path.attach txn).answered request).endPending = path.endPending := by
      unfold DataPath.answered
      split <;> simp [isConfirmed, open'.1, attach]
    refine ⟨?_, fun next here => ?_⟩
    · rw [Option.any_some, same.1]
      exact voiced.still rfl
    · obtain rfl := Option.some.inj here
      intro _ pending
      rw [same.2, open'.2] at pending
      cases pending
  | endAsked txn stage notAsked =>
    refine ⟨voiced.still rfl, fun next here _ _ => .inr ?_⟩
    rw [closingsIn_append]
    simp [closingsIn, Effect.closing?, Command.closes?]
  | confirmed peerInterface appInfo confirmable =>
    have live : path.state ≠ .terminated := by
      intro gone
      simp [isConfirmable, gone] at confirmable
    refine ⟨.raised ?_, fun next here => ?_⟩
    · simp [Notification.says?, Notification.raises?]
    · obtain rfl := Option.some.inj here
      exact fun _ pending => more (noted live pending)
  | rejected status confirmable =>
    refine ⟨?_, gone rfl⟩
    exact falls true _ (any_isConfirmed_kept _) fun silent => by cases silent
  | ended status live =>
    refine ⟨?_, gone rfl⟩
    cases pending : path.endPending with
    | true => exact falls false (.firmware status) (any_isConfirmed_kept _) fun _ _ => pending
    | false => exact falls true _ (any_isConfirmed_kept _) fun silent => by cases silent
  | struck txn =>
    refine ⟨?_, fun next left => ?_⟩
    · rw [any_isConfirmed_kept]
      exact voiced.still rfl
    · obtain ⟨rfl, _⟩ := kept_eq_some.mp left
      exact fun live pending => more (noted live pending)
  | failed txn given =>
    refine ⟨?_, gone rfl⟩
    exact falls path.isConfirmed _ (any_isConfirmed_kept _) fun down up => by simp [down] at up
  | endSettled txn asked =>
    refine ⟨?_, gone rfl⟩
    refine falls false .setupFailed (any_isConfirmed_kept _) fun _ up => ?_
    exact asked.resolve_right fun gone => by simp [isConfirmed, gone] at up
  | lapsed overdue =>
    refine ⟨?_, gone rfl⟩
    exact falls true _ (any_isConfirmed_kept _) fun silent => by cases silent
  | refused txn known overdue =>
    refine ⟨.lowered ?_, fun next here live => ?_⟩
    · simp [lastWord, lastSaid, Effect.notification?, Notification.says?, Notification.raises?,
        Notification.lowers?]
    · obtain rfl := Option.some.inj here
      exact absurd rfl live
  | fell reason =>
    refine ⟨falls path.isOpen _ rfl fun closed up => ?_, fun next same => by cases same⟩
    simp_all [isOpen, isLive, isConfirmed]

end DataPath

end NanHost
