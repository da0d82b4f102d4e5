import SheetEditor.Proofs.Session.Timeline
import SheetEditor.Proofs.Simulation

/-!
Contract: a history behaves as one list of states with a cursor and a bound.

Owns: the operations a caller can perform, the bounded timeline that says what they should do,
the answers both give to a caller, and the simulation between them.

Does not own: which snapshots a session pushes; that a history keeps whole snapshots.
-/

namespace SheetEditor

variable {State : Type}

/-- What a caller can do to a history. -/
inductive HistoryOperation (State : Type) where
  | push (next : State)
  | undo
  | redo
  | clear
deriving Repr, DecidableEq

/-- What a caller can ask of a history at any time. -/
structure HistoryAnswers (State : Type) where
  present : State
  undoLength : Nat
  redoLength : Nat
  canUndo : Bool
  canRedo : Bool
deriving Repr, DecidableEq

namespace History

/-- Performs one operation and gives what it returns: the new present of a step that was taken. -/
def perform (history : History State) : HistoryOperation State → Option State × History State
  | .push next => (none, history.push next)
  | .undo => (history.undo?.map present, history.undo?.getD history)
  | .redo => (history.redo?.map present, history.redo?.getD history)
  | .clear => (none, history.clear)

def answers (history : History State) : HistoryAnswers State where
  present := history.present
  undoLength := history.past.length
  redoLength := history.future.length
  canUndo := history.canUndo
  canRedo := history.canRedo

end History

/-! ## The bounded timeline -/

/-- States in the order they were made, with a cursor on the present one. -/
structure BoundedTimeline (State : Type) where
  states : List State
  cursor : Nat
  /-- How many states may lie before the cursor. -/
  bound : Nat
  inside : cursor < states.length

namespace BoundedTimeline

def start (initial : State) (bound : Nat) : BoundedTimeline State :=
  ⟨[initial], 0, bound, by simp⟩

def present (timeline : BoundedTimeline State) : State :=
  timeline.states.get ⟨timeline.cursor, timeline.inside⟩

/-- Drops what lies after the cursor, appends the state and moves the cursor onto it. -/
def append (timeline : BoundedTimeline State) (next : State) : BoundedTimeline State where
  states := timeline.states.take (timeline.cursor + 1) ++ [next]
  cursor := timeline.cursor + 1
  bound := timeline.bound
  inside := by
    have inside := timeline.inside
    simp only [List.length_append, List.length_take, List.length_singleton]
    omega

/-- Drops the oldest state if more than the bound lie before the cursor. -/
def trim (timeline : BoundedTimeline State) : BoundedTimeline State :=
  if _ : timeline.bound < timeline.cursor then
    { timeline with
      states := timeline.states.tail
      cursor := timeline.cursor - 1
      inside := by have inside := timeline.inside; simp only [List.length_tail]; omega }
  else timeline

def push (timeline : BoundedTimeline State) (next : State) : BoundedTimeline State :=
  (timeline.append next).trim

def undo? (timeline : BoundedTimeline State) : Option (BoundedTimeline State) :=
  if 0 < timeline.cursor then
    some { timeline with
      cursor := timeline.cursor - 1
      inside := by have inside := timeline.inside; omega }
  else none

def redo? (timeline : BoundedTimeline State) : Option (BoundedTimeline State) :=
  if inside : timeline.cursor + 1 < timeline.states.length then
    some { timeline with cursor := timeline.cursor + 1, inside }
  else none

/-- Keeps only the state under the cursor. -/
def clear (timeline : BoundedTimeline State) : BoundedTimeline State :=
  start timeline.present timeline.bound

@[simp] theorem push_states (timeline : BoundedTimeline State) (next : State) :
    (timeline.push next).states =
      if timeline.bound < timeline.cursor + 1 then
        (timeline.states.take (timeline.cursor + 1) ++ [next]).tail
      else timeline.states.take (timeline.cursor + 1) ++ [next] := by
  unfold push trim append
  split <;> simp_all

@[simp] theorem push_cursor (timeline : BoundedTimeline State) (next : State) :
    (timeline.push next).cursor =
      if timeline.bound < timeline.cursor + 1 then timeline.cursor else timeline.cursor + 1 := by
  unfold push trim append
  split <;> simp_all

@[simp] theorem push_bound (timeline : BoundedTimeline State) (next : State) :
    (timeline.push next).bound = timeline.bound := by
  unfold push trim append
  split <;> simp_all

def perform (timeline : BoundedTimeline State) :
    HistoryOperation State → Option State × BoundedTimeline State
  | .push next => (none, timeline.push next)
  | .undo => (timeline.undo?.map present, timeline.undo?.getD timeline)
  | .redo => (timeline.redo?.map present, timeline.redo?.getD timeline)
  | .clear => (none, timeline.clear)

def answers (timeline : BoundedTimeline State) : HistoryAnswers State where
  present := timeline.present
  undoLength := timeline.cursor
  redoLength := timeline.states.length - (timeline.cursor + 1)
  canUndo := 0 < timeline.cursor
  canRedo := timeline.cursor + 1 < timeline.states.length

end BoundedTimeline

/-! ## The simulation -/

namespace History

variable {most : Nat} {history : History State} {timeline : BoundedTimeline State}

/-- The timeline shows the snapshots of the history in one line, and the history keeps no more
steps than it may, those that were undone included. -/
structure Represents (most : Nat) (history : History State) (timeline : BoundedTimeline State) :
    Prop where
  states : timeline.states = history.timeline
  cursor : timeline.cursor = history.past.length
  bound : timeline.bound = most
  limit : history.limit = most
  room : history.stepCount ≤ most

namespace Represents

theorem present (represents : Represents most history timeline) :
    timeline.present = history.present := by
  obtain ⟨states, cursor, bound, inside⟩ := timeline
  obtain ⟨rfl, rfl, -, -, -⟩ := represents
  simp [BoundedTimeline.present, History.timeline]

theorem answers (represents : Represents most history timeline) :
    history.answers = timeline.answers := by
  simp only [History.answers, BoundedTimeline.answers, represents.present, represents.cursor,
    represents.states, length_timeline, canUndo, canRedo, HistoryAnswers.mk.injEq, true_and]
  refine ⟨by omega, ?_, ?_⟩
  · cases history.past <;> simp
  · cases history.future <;> simp

theorem withLimit (initial : State) (limit : Nat) :
    Represents (max limit 1) (withLimit initial limit) (.start initial (max limit 1)) where
  states := rfl
  cursor := rfl
  bound := rfl
  limit := rfl
  room := Nat.zero_le _

/-- A push that goes beyond the limit drops exactly one snapshot, because no more than the limit
were kept before. -/
theorem push (represents : Represents most history timeline) (next : State) :
    Represents most (history.push next) (timeline.push next) := by
  obtain ⟨states, cursor, bound, rfl, room⟩ := represents
  have kept : history.past.length ≤ history.limit := Nat.le_trans (Nat.le_add_right ..) room
  have appended : history.timeline.take (history.past.length + 1) ++ [next] =
      history.past.reverse ++ [history.present] ++ [next] := by
    simp [History.timeline, List.take_append, List.take_of_length_le]
  refine ⟨?_, ?_, (timeline.push_bound next).trans bound, rfl, history.stepCount_push_le next⟩
  · rw [BoundedTimeline.push_states, bound, cursor, states, appended, timeline_push]
    split
    · have beyond : history.past.length + 1 - history.limit = 1 := by omega
      rw [beyond, List.drop_one, List.tail_append_of_ne_nil (by simp)]
    · rw [Nat.sub_eq_zero_of_le (by omega), List.drop_zero]
  · rw [BoundedTimeline.push_cursor, bound, cursor, History.push, List.length_take,
      List.length_cons]
    split <;> omega

/-- Both sides take a step back, or neither does. -/
theorem undo? (represents : Represents most history timeline) :
    (history.undo? = none ∧ timeline.undo? = none) ∨
      ∃ stepped steppedTimeline, history.undo? = some stepped ∧
        timeline.undo? = some steppedTimeline ∧ Represents most stepped steppedTimeline := by
  have cursor := represents.cursor
  cases step : history.undo? with
  | none =>
      rw [undo?_eq_none.mp step, List.length_nil] at cursor
      exact .inl ⟨rfl, if_neg (by omega)⟩
  | some stepped =>
      have steps := stepCount_of_undo? step
      have line := timeline_of_undo? step
      obtain ⟨previous, earlier, past, rfl⟩ := undo?_eq_some step
      rw [past, List.length_cons] at cursor
      exact .inr ⟨_, _, rfl, if_pos (by omega), line ▸ represents.states, by simp [cursor],
        represents.bound, represents.limit, steps.1 ▸ represents.room⟩

/-- Both sides take a step forward, or neither does. -/
theorem redo? (represents : Represents most history timeline) :
    (history.redo? = none ∧ timeline.redo? = none) ∨
      ∃ stepped steppedTimeline, history.redo? = some stepped ∧
        timeline.redo? = some steppedTimeline ∧ Represents most stepped steppedTimeline := by
  have cursor := represents.cursor
  have length := represents.states ▸ history.length_timeline
  cases step : history.redo? with
  | none =>
      rw [redo?_eq_none.mp step, List.length_nil] at length
      exact .inl ⟨rfl, dif_neg (by omega)⟩
  | some stepped =>
      have steps := stepCount_of_redo? step
      have line := timeline_of_redo? step
      obtain ⟨next, later, future, rfl⟩ := redo?_eq_some step
      rw [future, List.length_cons] at length
      exact .inr ⟨_, _, rfl, dif_pos (by omega), line ▸ represents.states, by simp [cursor],
        represents.bound, represents.limit, steps.1 ▸ represents.room⟩

theorem clear (represents : Represents most history timeline) :
    Represents most history.clear timeline.clear where
  states := congrArg ([·]) represents.present
  cursor := rfl
  bound := represents.bound
  limit := represents.limit
  room := Nat.zero_le _

/-- One operation returns the same on both sides and leaves them related. -/
theorem perform (represents : Represents most history timeline)
    (operation : HistoryOperation State) :
    (history.perform operation).1 = (timeline.perform operation).1 ∧
      Represents most (history.perform operation).2 (timeline.perform operation).2 := by
  cases operation with
  | push next => exact ⟨rfl, represents.push next⟩
  | undo =>
      simp only [History.perform, BoundedTimeline.perform]
      obtain ⟨refused, refusedTimeline⟩ | ⟨stepped, steppedTimeline, step, stepTimeline, related⟩ :=
        represents.undo?
      · simp [refused, refusedTimeline, represents]
      · simp [step, stepTimeline, related, related.present]
  | redo =>
      simp only [History.perform, BoundedTimeline.perform]
      obtain ⟨refused, refusedTimeline⟩ | ⟨stepped, steppedTimeline, step, stepTimeline, related⟩ :=
        represents.redo?
      · simp [refused, refusedTimeline, represents]
      · simp [step, stepTimeline, related, related.present]
  | clear => exact ⟨rfl, represents.clear⟩

end Represents

/-- Over every run of operations a history returns and shows what the bounded timeline does. It
never keeps more steps than its limit, and a step that is taken and then taken back, in either
direction, leads to the very same history. -/
theorem performAll_refines_boundedTimeline (initial : State) (limit : Nat)
    (operations : List (HistoryOperation State)) :
    let run := performAll History.perform (withLimit initial limit) operations
    let specified :=
      performAll BoundedTimeline.perform (.start initial (max limit 1)) operations
    run.1 = specified.1 ∧ run.2.answers = specified.2.answers ∧
      run.2.past.length + run.2.future.length ≤ max limit 1 ∧
      (∀ stepped, run.2.undo? = some stepped → stepped.redo? = some run.2) ∧
      (∀ stepped, run.2.redo? = some stepped → stepped.undo? = some run.2) := by
  obtain ⟨sameValues, represents⟩ :=
    performAll_simulates Represents.perform (Represents.withLimit initial limit) operations
  exact ⟨sameValues, represents.answers, represents.room, fun _ => redo?_of_undo?,
    fun _ => undo?_of_redo?⟩

end History

end SheetEditor
