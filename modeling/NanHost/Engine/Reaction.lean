import NanHost.Engine
import NanHost.Notification

/-!
# Reactions

A reaction of the engine is its next state together with what the caller is told, in order. Longer
reactions are put together from short ones by going through a list, each item on the state that the
one before it left.
-/

namespace NanHost

/-- The engine after something happened, and what the caller is told about it. -/
abbrev Reaction := Engine × List Notification

namespace Engine

/-- No reaction. -/
def quiet (engine : Engine) : Reaction := (engine, [])

/-- One step of a sweep: what is told is added to what was told before. -/
def sweepStep {α : Type} (react : Engine → α → Reaction) (state : Engine × Array Notification)
    (item : α) : Engine × Array Notification :=
  let reaction := react state.1 item
  (reaction.1, state.2 ++ reaction.2)

/-- The reactions to the items of a list, one after the other. -/
def sweep {α : Type} (engine : Engine) (items : List α) (react : Engine → α → Reaction) :
    Reaction :=
  let last := items.foldl (sweepStep react) (engine, #[])
  (last.1, last.2.toList)

@[simp] theorem sweep_nil {α : Type} (engine : Engine) (react : Engine → α → Reaction) :
    engine.sweep [] react = engine.quiet := rfl

/-- What was told before a sweep plays no part in how it goes on. -/
theorem foldl_sweepStep {α : Type} (react : Engine → α → Reaction) (items : List α)
    (engine : Engine) (told : Array Notification) :
    items.foldl (sweepStep react) (engine, told) =
      ((engine.sweep items react).1, told ++ (engine.sweep items react).2) := by
  induction items generalizing engine told with
  | nil => simp [sweep]
  | cons item rest ih =>
    simp only [sweep, List.foldl_cons, sweepStep]
    rw [ih, ih]
    refine Prod.ext (by simp) (Array.ext' ?_)
    simp

/-- A sweep reacts to its first item, then sweeps the rest. -/
theorem sweep_cons {α : Type} (engine : Engine) (item : α) (rest : List α)
    (react : Engine → α → Reaction) :
    engine.sweep (item :: rest) react =
      (((react engine item).1.sweep rest react).1,
        (react engine item).2 ++ ((react engine item).1.sweep rest react).2) := by
  rw [sweep, List.foldl_cons, sweepStep, foldl_sweepStep]
  simp

/-- **What every reaction of a sweep keeps**, of the engine and of all that was told, the sweep
keeps. -/
theorem sweep_keeps {α : Type} {react : Engine → α → Reaction}
    (kept : Engine → List Notification → Prop)
    (keeps : ∀ {engine told} item, kept engine told →
      kept (react engine item).1 (told ++ (react engine item).2))
    (items : List α) (engine : Engine) (told : List Notification) (start : kept engine told) :
    kept (engine.sweep items react).1 (told ++ (engine.sweep items react).2) := by
  induction items generalizing engine told with
  | nil => simpa [quiet] using start
  | cons item rest ih =>
    rw [sweep_cons, ← List.append_assoc]
    exact ih _ _ (keeps item start)

end Engine

end NanHost
