import NanHost.Host

/-!
# Courses — what becomes of one entry of a table

A host keeps sessions and data paths under numbers, and much happens at once: a single step may let
many commands leave, each of which changes the entry that it was about. Seen from one number all of
it is a sequence of *moves* of one entry, each with the effects that come with it, and of effects
that concern other entries or none. Such a sequence is a `Course`.

An entry comes into being at the start of a step, if at all, and only where there was none. So seen
from one number a whole step is a course, or an entry followed by a course (`Passage`).

## What is proved

- `Course.keeps` and `Passage.keeps`: what every move keeps, of an entry and of all effects since it
  came into being, a course and a step keep.
- `Course.of_none`: where there is no entry none comes into being, and nothing comes out about one.
-/

namespace NanHost

/-! ## Places -/

/-- Where an entry is kept: a number in one of the two tables whose entries come and go with what the
firmware reports. -/
inductive Place where
  | session (id : SessionId)
  | path (id : DataPathId)
  deriving DecidableEq

/-- The entry that a notification is about, as far as it tells of an entry's beginning or end, or of
its being up. -/
def Notification.place? : Notification → Option Place
  | completed completion =>
    match completion.result with
    | .ok (.sessionStarted id _) => some (.session id)
    | .ok (.dataPathInitiated id) => some (.path id)
    | _ => none
  | sessionTerminated id _ _ => some (.session id)
  | dataPathRequested id .. | dataPathConfirmed id .. | dataPathTerminated id _ => some (.path id)
  | _ => none

/-- The entry that a command is to end or to answer. -/
def Command.place? : Command → Option Place
  | stopPublish id | stopSubscribe id => some (.session id)
  | respondDataPath request _ => some (.path request.pathId)
  | endDataPath id => some (.path id)
  | _ => none

/-- The entry that an effect concerns. A command that was refused concerns none. -/
def Effect.place? : Effect → Option Place
  | told notification => notification.place?
  | issued _ command => command.place?
  | refused .. => none

/-- Nothing in a list of effects concerns the entry of a place. -/
def Quiet (place : Place) (effects : List Effect) : Prop :=
  ∀ effect ∈ effects, effect.place? ≠ some place

theorem Quiet.append {place : Place} {first second : List Effect} (quiet : Quiet place first)
    (quiet' : Quiet place second) : Quiet place (first ++ second) := by
  intro effect member
  rcases List.mem_append.mp member with before | after
  · exact quiet effect before
  · exact quiet' effect after

theorem Quiet.nil (place : Place) : Quiet place [] := by simp [Quiet]

/-- Effects that concern one entry are quiet about every other. -/
theorem Quiet.of_place {place other : Place} {effects : List Effect} (apart : other ≠ place)
    (about : ∀ effect ∈ effects, effect.place? = some place) : Quiet other effects := by
  intro effect member same
  exact apart (Option.some.inj (same.symm.trans (about effect member)))

/-! ## Courses -/

variable {α : Type}

/-- What becomes of the entry of a place, given how it can move and with what effects. -/
inductive Course (place : Place) (move : α → List Effect → Option α → Prop) :
    Option α → List Effect → Option α → Prop
  /-- Nothing becomes of it, and nothing comes out about it. -/
  | still {entry : Option α} {effects : List Effect} (quiet : Quiet place effects) :
    Course place move entry effects entry
  /-- It moves. -/
  | move {entry : α} {effects : List Effect} {next : Option α} (moved : move entry effects next) :
    Course place move (some entry) effects next
  /-- One thing becomes of it after another. -/
  | append {first second third : Option α} {effects effects' : List Effect}
    (before : Course place move first effects second)
    (after : Course place move second effects' third) :
    Course place move first (effects ++ effects') third

namespace Course

variable {place : Place} {move move' : α → List Effect → Option α → Prop}
  {entry next : Option α} {effects : List Effect}

/-- **Where there is no entry none comes into being**, and nothing comes out about one. -/
theorem of_none (course : Course place move entry effects next) (absent : entry = none) :
    next = none ∧ Quiet place effects := by
  induction course with
  | still quiet => exact ⟨absent, quiet⟩
  | move moved => cases absent
  | append before after ih ih' =>
    obtain ⟨absent, quiet⟩ := ih absent
    obtain ⟨absent, quiet'⟩ := ih' absent
    exact ⟨absent, quiet.append quiet'⟩

/-- **What every move keeps, a course keeps**: of an entry, or of its absence, and of all effects
from some point on. -/
theorem keeps (kept : Option α → List Effect → Prop) (course : Course place move entry effects next)
    (stays : ∀ {entry log effects}, Quiet place effects → kept entry log →
      kept entry (log ++ effects))
    (moves : ∀ {entry log effects next}, move entry effects next → kept (some entry) log →
      kept next (log ++ effects))
    (log : List Effect) (start : kept entry log) : kept next (log ++ effects) := by
  induction course generalizing log with
  | still quiet => exact stays quiet start
  | move moved => exact moves moved start
  | append before after ih ih' =>
    rw [← List.append_assoc]
    exact ih' _ (ih log start)

/-- A course of some moves is one of more moves. -/
theorem mono (course : Course place move entry effects next)
    (more : ∀ {entry effects next}, move entry effects next → move' entry effects next) :
    Course place move' entry effects next := by
  induction course with
  | still quiet => exact .still quiet
  | move moved => exact .move (more moved)
  | append before after ih ih' => exact .append ih ih'

/-- A relation that every move obeys holds between the entry before a course and the entry after it,
if there is one. -/
theorem relates (related : α → α → Prop) (refl : ∀ entry, related entry entry)
    (trans : ∀ {first second third}, related first second → related second third →
      related first third)
    (moves : ∀ {entry effects next}, move entry effects (some next) → related entry next)
    {first last : α} (course : Course place move (some first) effects (some last)) :
    related first last := by
  have kept := course.keeps (fun entry _ => ∀ next, entry = some next → related first next)
    (fun _ same => same)
    (fun moved before next here => by
      subst here
      exact trans (before _ rfl) (moves moved))
    [] (fun next same => Option.some.inj same ▸ refl first)
  exact kept last rfl

end Course

/-! ## Passages -/

/-- What becomes of the entry of a place in one step: a course, or an entry and what becomes of
it. -/
inductive Passage (place : Place) (enters : List Effect → α → Prop)
    (move : α → List Effect → Option α → Prop) :
    Option α → List Effect → Option α → Prop
  | course {entry next : Option α} {effects : List Effect}
    (course : Course place move entry effects next) :
    Passage place enters move entry effects next
  | enter {first rest : List Effect} {entry : α} {next : Option α} (entered : enters first entry)
    (course : Course place move (some entry) rest next) :
    Passage place enters move none (first ++ rest) next

namespace Passage

variable {place : Place} {enters : List Effect → α → Prop}
  {move : α → List Effect → Option α → Prop} {entry next : Option α} {effects : List Effect}

/-- What every beginning and every move keep, a step keeps. -/
theorem keeps (kept : Option α → List Effect → Prop)
    (passage : Passage place enters move entry effects next)
    (begins : ∀ {entry log effects}, enters effects entry → kept none log →
      kept (some entry) (log ++ effects))
    (stays : ∀ {entry log effects}, Quiet place effects → kept entry log →
      kept entry (log ++ effects))
    (moves : ∀ {entry log effects next}, move entry effects next → kept (some entry) log →
      kept next (log ++ effects))
    (log : List Effect) (start : kept entry log) : kept next (log ++ effects) := by
  cases passage with
  | course course => exact course.keeps kept stays moves log start
  | enter entered course =>
    rw [← List.append_assoc]
    exact course.keeps kept stays moves _ (begins entered start)

/-- A step that finds an entry is a course. -/
theorem of_some {entry : α} (passage : Passage place enters move (some entry) effects next) :
    Course place move (some entry) effects next := by
  cases passage with
  | course course => exact course

/-- An entry that is there after a step was there before, or the step begins it. -/
theorem of_there {there : α} (passage : Passage place enters move entry effects (some there)) :
    (∃ before, entry = some before ∧ Course place move (some before) effects (some there)) ∨
      ∃ first rest begun, enters first begun ∧ Course place move (some begun) rest (some there) := by
  generalize same : some there = next at passage
  cases passage with
  | course course =>
    cases entry with
    | none =>
      obtain ⟨rfl, _⟩ := course.of_none rfl
      cases same
    | some before =>
      subst same
      exact .inl ⟨before, rfl, course⟩
  | enter entered course =>
    subst same
    exact .inr ⟨_, _, _, entered, course⟩

/-- A passage by some moves is one by more moves. -/
theorem mono {move' : α → List Effect → Option α → Prop}
    (passage : Passage place enters move entry effects next)
    (more : ∀ {entry effects next}, move entry effects next → move' entry effects next) :
    Passage place enters move' entry effects next := by
  cases passage with
  | course course => exact .course (course.mono more)
  | enter entered course => exact .enter entered (course.mono more)

/-- A passage that an entry can begin in some ways is one that it can begin in more ways. -/
theorem enters_mono {enters' : List Effect → α → Prop}
    (passage : Passage place enters move entry effects next)
    (more : ∀ {effects entry}, enters effects entry → enters' effects entry) :
    Passage place enters' move entry effects next := by
  cases passage with
  | course course => exact .course course
  | enter entered course => exact .enter (more entered) course

/-- A step that goes on as a course. -/
theorem append {third : Option α} {effects' : List Effect}
    (passage : Passage place enters move entry effects next)
    (course : Course place move next effects' third) :
    Passage place enters move entry (effects ++ effects') third := by
  cases passage with
  | course before => exact .course (before.append course)
  | enter entered before =>
    rw [List.append_assoc]
    exact .enter entered (before.append course)

end Passage

end NanHost
