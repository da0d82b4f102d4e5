import Mathlib.Data.List.Chain
import SheetEditor.Session.History

/-!
Contract: a history read as one line of snapshots.

Owns: the snapshots of a history from the oldest to the one to be redone last,
what each operation does to that line and to the number of steps kept, and the
snapshots that steps back lead to.
-/

namespace SheetEditor.History

variable {State : Type} {history stepped : History State}

/-- All snapshots, the oldest first. -/
def timeline (history : History State) : List State :=
  history.past.reverse ++ history.present :: history.future

/-- Number of steps that undo and redo can take together. -/
def stepCount (history : History State) : Nat := history.past.length + history.future.length

theorem mem_timeline {snapshot : State} :
    snapshot ∈ history.timeline ↔
      snapshot ∈ history.past ∨ snapshot = history.present ∨ snapshot ∈ history.future := by
  simp [timeline]

theorem present_mem_timeline (history : History State) : history.present ∈ history.timeline :=
  mem_timeline.mpr (.inr (.inl rfl))

theorem length_timeline (history : History State) :
    history.timeline.length = history.past.length + 1 + history.future.length := by
  simp only [timeline, List.length_append, List.length_reverse, List.length_cons]
  omega

/-! ## Steps -/

theorem undo?_eq_some (step : history.undo? = some stepped) :
    ∃ previous earlier, history.past = previous :: earlier ∧
      stepped = { history with
        present := previous, past := earlier, future := history.present :: history.future } := by
  unfold undo? at step
  split at step
  · contradiction
  · rename_i previous earlier past
    exact ⟨previous, earlier, past, (Option.some.inj step).symm⟩

theorem redo?_eq_some (step : history.redo? = some stepped) :
    ∃ next later, history.future = next :: later ∧
      stepped = { history with
        present := next, past := history.present :: history.past, future := later } := by
  unfold redo? at step
  split at step
  · contradiction
  · rename_i next later future
    exact ⟨next, later, future, (Option.some.inj step).symm⟩

theorem undo?_eq_none : history.undo? = none ↔ history.past = [] := by
  cases past : history.past <;> simp [undo?, past]

theorem redo?_eq_none : history.redo? = none ↔ history.future = [] := by
  cases future : history.future <;> simp [redo?, future]

/-- A step back moves along the line and changes none of its snapshots. -/
theorem timeline_of_undo? (step : history.undo? = some stepped) :
    stepped.timeline = history.timeline := by
  obtain ⟨previous, earlier, past, rfl⟩ := undo?_eq_some step
  simp [timeline, past]

/-- A step forward moves along the line and changes none of its snapshots. -/
theorem timeline_of_redo? (step : history.redo? = some stepped) :
    stepped.timeline = history.timeline := by
  obtain ⟨next, later, future, rfl⟩ := redo?_eq_some step
  simp [timeline, future]

/-- A step in either direction, or none, changes none of the snapshots. -/
theorem timeline_of_step (step : history.undo? = some stepped ∨ history.redo? = some stepped ∨
    stepped = history) : stepped.timeline = history.timeline := by
  rcases step with undone | redone | rfl
  · exact timeline_of_undo? undone
  · exact timeline_of_redo? redone
  · rfl

theorem stepCount_of_undo? (step : history.undo? = some stepped) :
    stepped.stepCount = history.stepCount ∧ stepped.limit = history.limit := by
  obtain ⟨previous, earlier, past, rfl⟩ := undo?_eq_some step
  simp only [stepCount, past, List.length_cons, and_true]
  omega

theorem stepCount_of_redo? (step : history.redo? = some stepped) :
    stepped.stepCount = history.stepCount ∧ stepped.limit = history.limit := by
  obtain ⟨next, later, future, rfl⟩ := redo?_eq_some step
  simp only [stepCount, future, List.length_cons, and_true]
  omega

/-! ## Pushing -/

/-- A pushed snapshot is the last of the line, after snapshots that stood in it before. -/
theorem mem_timeline_of_mem_push {next snapshot : State}
    (member : snapshot ∈ (history.push next).timeline) :
    snapshot = next ∨ snapshot ∈ history.timeline := by
  rw [mem_timeline] at member ⊢
  simp only [push, List.not_mem_nil, or_false] at member
  rcases member with kept | pushed
  · rcases List.mem_cons.mp (List.mem_of_mem_take kept) with present | earlier
    · exact .inr (.inr (.inl present))
    · exact .inr (.inl earlier)
  · exact .inl pushed

/-- A push appends to the line up to the present and drops the oldest beyond the limit. -/
theorem timeline_push (history : History State) (next : State) :
    (history.push next).timeline =
      (history.past.reverse ++ [history.present]).drop (history.past.length + 1 - history.limit)
        ++ [next] := by
  simp [timeline, push, List.reverse_take]

/-- What relates each snapshot to the next still does after a push that is related so. -/
theorem isChain_timeline_push {Step : State → State → Prop} {next : State}
    (chain : history.timeline.IsChain Step) (step : Step history.present next) :
    (history.push next).timeline.IsChain Step := by
  have pushed : (history.past.reverse ++ [history.present] ++ [next]).IsChain Step := by
    rw [List.append_assoc]
    exact List.isChain_append_cons_cons.mpr
      ⟨(List.isChain_split.mp chain).1, step, List.isChain_singleton _⟩
  rw [timeline_push, ← List.drop_append_of_le_length (by simp)]
  exact pushed.drop _

theorem stepCount_push_le (history : History State) (next : State) :
    (history.push next).stepCount ≤ history.limit := by
  simp only [stepCount, push, List.length_nil, Nat.add_zero]
  exact List.length_take_le ..

@[simp] theorem push_present (history : History State) (next : State) :
    (history.push next).present = next := rfl

/-! ## Looking back -/

/-- The snapshot that so many steps back lead to. -/
def ago? (history : History State) (steps : Nat) : Option State :=
  (history.present :: history.past)[steps]?

@[simp] theorem ago?_zero (history : History State) : history.ago? 0 = some history.present := rfl

/-- After a push every snapshot is one step further back, up to the limit. -/
theorem ago?_push (history : History State) (next : State) {steps : Nat}
    (kept : steps < history.limit) : (history.push next).ago? (steps + 1) = history.ago? steps := by
  simp only [ago?, push, List.getElem?_cons_succ]
  exact List.getElem?_take_of_lt kept

/-- A step back is possible as long as there is a snapshot to go back to, and brings it nearer. -/
theorem exists_undo?_of_ago? {steps : Nat} {snapshot : State}
    (before : history.ago? (steps + 1) = some snapshot) :
    ∃ stepped, history.undo? = some stepped ∧ stepped.ago? steps = some snapshot := by
  simp only [ago?, List.getElem?_cons_succ] at before
  cases past : history.past with
  | nil => simp [past] at before
  | cons previous earlier =>
      refine ⟨_, by rw [undo?, past], ?_⟩
      rwa [past] at before

/-- A step forward after a step back leads to the same history. -/
theorem redo?_of_undo? (step : history.undo? = some stepped) : stepped.redo? = some history := by
  obtain ⟨previous, earlier, past, rfl⟩ := undo?_eq_some step
  simp [redo?, ← past]

/-- A step back after a step forward leads to the same history. -/
theorem undo?_of_redo? (step : history.redo? = some stepped) : stepped.undo? = some history := by
  obtain ⟨next, later, future, rfl⟩ := redo?_eq_some step
  simp [undo?, ← future]

end SheetEditor.History
