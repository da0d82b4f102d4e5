/-!
Contract: undo and redo over whole snapshots.

Owns: the present snapshot, the snapshots before it and those undone, and the
limit on how many are kept. The nearest snapshot comes first on either side. A
step that is not possible yields no history.
-/

namespace SheetEditor

/-- A present snapshot between the snapshots that undo and redo return to. -/
structure History (State : Type) where
  present : State
  /-- The snapshots before the present, the latest first. -/
  past : List State
  /-- The snapshots that were undone, the one to redo first. -/
  future : List State
  limit : Nat
deriving Repr, Inhabited

namespace History

variable {State : Type}

def defaultLimit : Nat := 100

/-- A history of one snapshot. It always keeps room for one step. -/
def withLimit (initial : State) (limit : Nat) : History State := ⟨initial, [], [], max limit 1⟩

def new (initial : State) : History State := withLimit initial defaultLimit

/-- Makes a snapshot the present one. What was undone can no longer be redone, and the oldest
snapshot beyond the limit is dropped. -/
def push (history : History State) (next : State) : History State where
  present := next
  past := (history.present :: history.past).take history.limit
  future := []
  limit := history.limit

def undo? (history : History State) : Option (History State) :=
  match history.past with
  | [] => none
  | previous :: earlier =>
      some { history with
        present := previous, past := earlier, future := history.present :: history.future }

def redo? (history : History State) : Option (History State) :=
  match history.future with
  | [] => none
  | next :: later =>
      some { history with
        present := next, past := history.present :: history.past, future := later }

def canUndo (history : History State) : Bool := !history.past.isEmpty

def canRedo (history : History State) : Bool := !history.future.isEmpty

/-- Forgets every snapshot but the present one. -/
def clear (history : History State) : History State := { history with past := [], future := [] }

end History

end SheetEditor
