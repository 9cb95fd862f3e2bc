import Mathlib.Data.List.Induction
import NanHost.Proofs.Host.Courses

/-!
# Lifetimes — from the step that brings an entry into being to the step that removes it

The firmware uses its numbers again, so the number of a session or a path stands for one entry after
another. What is claimed of an entry is claimed of a span of a run: it begins with the step in which
the entry comes into being, which is told to the caller, and goes on as long as the entry is there.

## What is proved

- `Slot.lifetime_of_found` and `Slot.lifetime_of_effect`: an entry that is there is so because a
  lifetime of it has begun, and what comes out about an entry comes out in a lifetime.
- `Slot.keeps`: what holds when an entry comes into being and is kept by all its moves holds at the end
  of every beginning of its lifetime, of the entry and of all that has come out since it came into
  being.
- `Slot.keeps_run` and `Slot.always`: what all beginnings and all moves keep, every run keeps and every
  entry has.

An entry is looked at through a `Slot`, which says how it is kept, how it comes into being and how it
moves.
-/

namespace NanHost

/-! ## Beginnings -/

/-- The entry whose beginning a notification tells. -/
def Notification.opens? : Notification → Option Place
  | completed completion =>
    match completion.result with
    | .ok (.sessionStarted id _) => some (.session id)
    | .ok (.dataPathInitiated id) => some (.path id)
    | _ => none
  | dataPathRequested id .. => some (.path id)
  | _ => none

/-- The entry whose beginning an effect tells. -/
def Effect.opens? : Effect → Option Place
  | told notification => notification.opens?
  | _ => none

/-- What tells the beginning of an entry concerns it. -/
theorem Effect.place?_of_opens? {effect : Effect} {place : Place}
    (opens : effect.opens? = some place) : effect.place? = some place := by
  cases effect with
  | told notification =>
    cases notification with
    | completed completion => exact opens
    | dataPathRequested => exact opens
    | _ => cases opens
  | _ => cases opens

/-- Whether there is an entry at a place. -/
def Engine.holds (engine : Engine) : Place → Bool
  | .session id => (engine.sessions.get? id).isSome
  | .path id => (engine.paths.get? id).isSome

/-- An engine begins without entries. -/
theorem Engine.holds_new (config : EngineConfig) (place : Place) :
    (Engine.new config).holds place = false := by
  cases place <;> rfl

namespace Host

variable {σ : Type} [Transport σ] {host : Host σ}

/-! ## What has come out -/

/-- What comes out of a host while a number of things are done to it. -/
def emitted (host : Host σ) (acts : List (Act σ)) : List Effect :=
  (host.run acts).effects.toList.drop host.effects.toList.length

theorem run_append (host : Host σ) (first second : List (Act σ)) :
    host.run (first ++ second) = (host.run first).run second := List.foldl_append

theorem emitted_of_out {acts : List (Act σ)} {effects : List Effect}
    (out : (host.run acts).effects.toList = host.effects.toList ++ effects) :
    host.emitted acts = effects := by
  rw [emitted, out, List.drop_left]

/-- What comes out of a reaction of the engine is what the caller is told. -/
theorem emitted_react {act : Act σ} {reaction : Reaction} (same : host.step act = host.react reaction) :
    host.emitted [act] = reaction.2.map .told :=
  emitted_of_out ((congrArg (·.effects.toList) same).trans (effects_react host reaction))

/-- What has come out of a host stays on record. -/
theorem Reachable.effects_run (reachable : Reachable host) (acts : List (Act σ)) :
    (host.run acts).effects.toList = host.effects.toList ++ host.emitted acts := by
  suffices grown : ∃ effects,
      (host.run acts).effects.toList = host.effects.toList ++ effects by
    obtain ⟨effects, out⟩ := grown
    rw [emitted_of_out out, out]
  induction acts generalizing host with
  | nil => exact ⟨[], (List.append_nil _).symm⟩
  | cons act rest ih =>
    obtain ⟨first, passages⟩ := reachable.passages act
    obtain ⟨second, out⟩ := ih (reachable.step act)
    exact ⟨first ++ second, by rw [← List.append_assoc, ← passages.out]; exact out⟩

theorem Reachable.emitted_append (reachable : Reachable host) (first second : List (Act σ)) :
    host.emitted (first ++ second) = host.emitted first ++ (host.run first).emitted second := by
  refine emitted_of_out ?_
  rw [run_append, (reachable.run first).effects_run, reachable.effects_run first,
    List.append_assoc]

theorem Reachable.passages_emitted (reachable : Reachable host) (act : Act σ) :
    host.Passages act (host.emitted [act]) (host.step act) := by
  obtain ⟨effects, passages⟩ := reachable.passages act
  have out : (host.run [act]).effects.toList = _ := passages.out
  rw [emitted_of_out out]
  exact passages

/-! ## Lifetimes -/

/-- A span of a run in which an entry comes into being and, until the last step, is there. -/
structure Lifetime (host : Host σ) (place : Place) (span : List (Act σ)) : Prop where
  /-- Before the span there is no entry. -/
  vacant : host.engine.holds place = false
  /-- The first step brings the entry into being. -/
  opened : ∃ act rest, span = act :: rest ∧
    ∃ effect ∈ host.emitted [act], effect.opens? = some place
  /-- The entry is there after every step but, maybe, the last. -/
  present : ∀ before after, span = before ++ after → before ≠ [] → after ≠ [] →
    (host.run before).engine.holds place = true

namespace Lifetime

variable {place : Place} {span : List (Act σ)} {act : Act σ}

theorem ne_nil (lifetime : host.Lifetime place span) : span ≠ [] := by
  obtain ⟨_, _, rfl, _⟩ := lifetime.opened
  exact List.cons_ne_nil _ _

/-- A lifetime begins. -/
theorem start (vacant : host.engine.holds place = false)
    (opened : ∃ effect ∈ host.emitted [act], effect.opens? = some place) :
    host.Lifetime place [act] where
  vacant := vacant
  opened := ⟨act, [], rfl, opened⟩
  present before after split some' more := by
    rcases List.singleton_eq_append_iff.mp split with ⟨rfl, _⟩ | ⟨_, rfl⟩
    · exact absurd rfl some'
    · exact absurd rfl more

/-- A lifetime goes on as long as the entry is there. -/
theorem extend (lifetime : host.Lifetime place span)
    (there : (host.run span).engine.holds place = true) (act : Act σ) :
    host.Lifetime place (span ++ [act]) where
  vacant := lifetime.vacant
  opened := by
    obtain ⟨first, rest, rfl, opened⟩ := lifetime.opened
    exact ⟨first, rest ++ [act], rfl, opened⟩
  present before after split some' more := by
    rcases List.append_eq_append_iff.mp split with ⟨middle, rfl, last⟩ | ⟨middle, rfl, last⟩
    · rcases List.singleton_eq_append_iff.mp last with ⟨rfl, rfl⟩ | ⟨_, rfl⟩
      · rw [List.append_nil]
        exact there
      · exact absurd rfl more
    · by_cases ends : middle = []
      · rw [ends, List.append_nil] at there
        exact there
      · exact lifetime.present before middle rfl some' ends

/-- What a lifetime has begun with is a lifetime. -/
theorem init (lifetime : host.Lifetime place (span ++ [act])) (some' : span ≠ []) :
    host.Lifetime place span ∧ (host.run span).engine.holds place = true := by
  refine ⟨⟨lifetime.vacant, ?_, fun before after split some' more => ?_⟩,
    lifetime.present span [act] rfl some' (List.cons_ne_nil _ _)⟩
  · obtain ⟨first, rest, split, opened⟩ := lifetime.opened
    obtain ⟨other, more, rfl⟩ := List.exists_cons_of_ne_nil some'
    obtain rfl := (List.cons.inj split).1
    exact ⟨other, more, rfl, opened⟩
  · rw [split, List.append_assoc] at lifetime
    exact lifetime.present before _ rfl some' (by simp)

end Lifetime

/-! ## Slots -/

/-- How the entry of a place is kept by a host, how it comes into being and how it moves. -/
structure Slot (σ α : Type) [Transport σ] where
  place : Place
  get? : Host σ → Option α
  enters : Host σ → Act σ → List Effect → α → Prop
  move : Timestamp → α → List Effect → Option α → Prop
  holds : ∀ host, host.engine.holds place = (get? host).isSome
  opens : ∀ {host act effects entry}, enters host act effects entry →
    ∃ effect ∈ effects, effect.opens? = some place
  passage : ∀ {host}, Reachable host → ∀ act, Passage place (enters host act) (move host.now)
    (get? host) (host.emitted [act]) (get? (host.step act))

/-- The slot of a session. -/
def sessionSlot (σ : Type) [Transport σ] (id : SessionId) : Slot σ Session where
  place := .session id
  get? host := host.engine.sessions.get? id
  enters _ act effects session :=
    ∃ event, act = .handle event ∧ Session.Entry id event effects session
  move _ := Session.Move id
  holds _ := rfl
  opens := by
    rintro _ _ _ _ ⟨_, _, ⟨txn, kind, config⟩⟩
    exact ⟨_, List.mem_singleton_self _, rfl⟩
  passage reachable act := (reachable.passages_emitted act).session id

/-- The slot of a path. -/
def pathSlot (σ : Type) [Transport σ] (id : DataPathId) : Slot σ DataPath where
  place := .path id
  get? host := host.engine.paths.get? id
  enters host act effects path :=
    ∃ event, act = .handle event ∧
      DataPath.Entry id host.now host.engine.paths.graceMs event effects path
  move := DataPath.Move id
  holds _ := rfl
  opens := by
    rintro _ _ _ _ ⟨_, _, entered⟩
    cases entered with
    | numbered | requested => exact ⟨_, List.mem_singleton_self _, rfl⟩
  passage reachable act := (reachable.passages_emitted act).path id

namespace Slot

variable {α : Type} (slot : Slot σ α) {span : List (Act σ)} {act : Act σ}

theorem get?_eq_none_iff : slot.get? host = none ↔ host.engine.holds slot.place = false := by
  rw [slot.holds, Option.isSome_eq_false_iff, Option.isNone_iff_eq_none]

/-- In a step that finds no entry, one comes into being or none does and nothing comes out about
it. -/
theorem vacant_step (reachable : Reachable host) (vacant : host.engine.holds slot.place = false)
    (act : Act σ) :
    (∃ effect ∈ host.emitted [act], effect.opens? = some slot.place) ∨
      (host.step act).engine.holds slot.place = false ∧
        Quiet slot.place (host.emitted [act]) := by
  have absent := slot.get?_eq_none_iff.mpr vacant
  have passage := slot.passage reachable act
  rw [absent] at passage
  generalize host.emitted [act] = effects at passage
  cases passage with
  | course course =>
    obtain ⟨absent, quiet⟩ := course.of_none rfl
    exact .inr ⟨slot.get?_eq_none_iff.mp absent, quiet⟩
  | enter entered course =>
    obtain ⟨effect, member, opens⟩ := slot.opens entered
    exact .inl ⟨effect, List.mem_append_left _ member, opens⟩

/-- **An entry that is there is so because a lifetime of it has begun.** -/
theorem lifetime_of_holds (reachable : Reachable host) (vacant : host.engine.holds slot.place = false)
    {acts : List (Act σ)} (there : (host.run acts).engine.holds slot.place = true) :
    ∃ before span, acts = before ++ span ∧ (host.run before).Lifetime slot.place span := by
  induction acts using List.reverseRecOn with
  | nil => exact absurd (vacant.symm.trans there) (by simp)
  | append_singleton acts act ih =>
    rw [run_append] at there
    by_cases before : (host.run acts).engine.holds slot.place = true
    · obtain ⟨before, span, rfl, lifetime⟩ := ih ‹_›
      rw [run_append] at before
      exact ⟨_, span ++ [act], List.append_assoc .., lifetime.extend before act⟩
    · rw [Bool.not_eq_true] at before
      rcases slot.vacant_step (reachable.run acts) before act with opened | ⟨absent, _⟩
      · exact ⟨acts, [act], rfl, .start before opened⟩
      · exact absurd (absent.symm.trans there) (by simp)

/-- The entry that is there at the end of a run is the one at the end of its lifetime. -/
theorem lifetime_of_found (reachable : Reachable host) (vacant : host.engine.holds slot.place = false)
    {acts : List (Act σ)} {entry : α} (found : slot.get? (host.run acts) = some entry) :
    ∃ before span, acts = before ++ span ∧ (host.run before).Lifetime slot.place span ∧
      slot.get? ((host.run before).run span) = some entry := by
  have there : (host.run acts).engine.holds slot.place = true := by
    rw [slot.holds, found]
    rfl
  obtain ⟨before, span, rfl, lifetime⟩ := slot.lifetime_of_holds reachable vacant there
  rw [run_append] at found
  exact ⟨before, span, rfl, lifetime, found⟩

/-- **What comes out about an entry comes out in a lifetime of it.** -/
theorem lifetime_of_effect (reachable : Reachable host)
    (vacant : host.engine.holds slot.place = false) {acts : List (Act σ)} {effect : Effect}
    (member : effect ∈ (host.run acts).emitted [act]) (about : effect.place? = some slot.place) :
    ∃ before span, acts ++ [act] = before ++ span ∧
      (host.run before).Lifetime slot.place span := by
  by_cases there : (host.run acts).engine.holds slot.place = true
  · obtain ⟨before, span, rfl, lifetime⟩ := slot.lifetime_of_holds reachable vacant there
    rw [run_append] at there
    exact ⟨before, span ++ [act], List.append_assoc .., lifetime.extend there act⟩
  · rw [Bool.not_eq_true] at there
    rcases slot.vacant_step (reachable.run acts) there act with opened | ⟨_, quiet⟩
    · exact ⟨acts, [act], rfl, .start there opened⟩
    · exact absurd about (quiet effect member)

/-- **What all beginnings and all moves keep, a run keeps**: of an entry, or of its absence, and of
all that has come out. -/
theorem keeps_run (reachable : Reachable host) (kept : Option α → List Effect → Prop)
    (begins : ∀ {host act log effects entry}, slot.enters host act effects entry → kept none log →
      kept (some entry) (log ++ effects))
    (stays : ∀ {entry log effects}, Quiet slot.place effects → kept entry log →
      kept entry (log ++ effects))
    (moves : ∀ {now entry log effects next}, slot.move now entry effects next →
      kept (some entry) log → kept next (log ++ effects))
    (acts : List (Act σ)) (start : kept (slot.get? host) []) :
    kept (slot.get? (host.run acts)) (host.emitted acts) := by
  induction acts using List.reverseRecOn with
  | nil =>
    have nothing : host.emitted [] = [] := emitted_of_out (List.append_nil _).symm
    rw [nothing]
    exact start
  | append_singleton acts act ih =>
    rw [run_append, reachable.emitted_append]
    exact (slot.passage (reachable.run acts) act).keeps kept begins stays moves _ ih

/-- **What holds of every entry when it comes into being, and is kept by all moves, holds in every
state**. -/
theorem always (kept : α → Prop)
    (begins : ∀ {host act effects entry}, slot.enters host act effects entry → kept entry)
    (moves : ∀ {now entry effects next}, slot.move now entry effects (some next) → kept entry →
      kept next)
    (reachable : Reachable host) {entry : α} (found : slot.get? host = some entry) : kept entry := by
  induction reachable generalizing entry with
  | new config transport now =>
    have absent : slot.get? (Host.new config transport now) = none :=
      slot.get?_eq_none_iff.mpr (Engine.holds_new config _)
    rw [absent] at found
    cases found
  | step act reachable ih =>
    refine (slot.passage reachable act).keeps (fun entry _ => ∀ path, entry = some path → kept path)
      ?_ (fun _ given => given) ?_ [] (fun _ same => ih same) entry found
    · intro entry log effects entered _ path same
      exact Option.some.inj same ▸ begins entered
    · rintro entry log effects next moved given path rfl
      exact moves moved (given entry rfl)

/-- **What holds when an entry comes into being, and is kept by all its moves, holds all its
lifetime**, of the entry and of all that has come out since. -/
theorem keeps (reachable : Reachable host) (lifetime : host.Lifetime slot.place span)
    (kept : Option α → List Effect → Prop)
    (enters : ∀ {act effects entry}, span.head? = some act → slot.enters host act effects entry →
      kept (some entry) effects)
    (stays : ∀ {entry log effects}, Quiet slot.place effects → kept entry log →
      kept entry (log ++ effects))
    (moves : ∀ {now entry log effects next}, slot.move now entry effects next →
      kept (some entry) log → kept next (log ++ effects)) :
    kept (slot.get? (host.run span)) (host.emitted span) := by
  induction span using List.reverseRecOn with
  | nil => exact absurd rfl lifetime.ne_nil
  | append_singleton span act ih =>
    by_cases first : span = []
    · -- The entry comes into being: the step is no course, since its beginning was told.
      subst first
      obtain ⟨_, _, only, effect, member, opens⟩ := lifetime.opened
      obtain ⟨rfl, rfl⟩ := List.cons.inj only
      have passage := slot.passage reachable act
      rw [slot.get?_eq_none_iff.mpr lifetime.vacant] at passage
      show kept (slot.get? (host.step act)) (host.emitted [act])
      generalize host.emitted [act] = effects at passage member
      cases passage with
      | course course =>
        exact absurd (Effect.place?_of_opens? opens) ((course.of_none rfl).2 effect member)
      | enter entered course => exact course.keeps kept stays moves _ (enters rfl entered)
    · obtain ⟨before, there⟩ := lifetime.init first
      have given := ih before fun head => enters (by rw [List.head?_append, head]; rfl)
      rw [slot.holds, Option.isSome_iff_exists] at there
      obtain ⟨entry, found⟩ := there
      have passage := slot.passage (reachable.run span) act
      rw [found] at passage given
      rw [run_append, reachable.emitted_append]
      exact passage.of_some.keeps kept stays moves _ given

end Slot

end Host

end NanHost
