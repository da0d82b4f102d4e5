/-!
Contract: runs of operations on a system, with what each operation returns.

Owns: the run, and that two systems which return the same by single operations, and stay related, do
so over every run.

Does not own: the systems (`SheetEditor.Proofs.Session.BoundedTimeline`,
`SheetEditor.Proofs.Draft.AnalysisMemory`).
-/

namespace SheetEditor

/-- Performs operations in order. Gives what each of them returned, and the system they lead to. -/
def performAll {System Operation Value : Type} (perform : System → Operation → Value × System)
    (system : System) : List Operation → List Value × System
  | [] => ([], system)
  | operation :: operations =>
      let (value, next) := perform system operation
      let (values, last) := performAll perform next operations
      (value :: values, last)

/-- Two systems that return the same from related states, and stay related, return the same over
every run. -/
theorem performAll_simulates {System Model Operation Value : Type}
    {perform : System → Operation → Value × System} {specify : Model → Operation → Value × Model}
    {Related : System → Model → Prop}
    (step : ∀ {system model}, Related system model → ∀ operation,
      (perform system operation).1 = (specify model operation).1 ∧
        Related (perform system operation).2 (specify model operation).2)
    {system : System} {model : Model} (related : Related system model)
    (operations : List Operation) :
    (performAll perform system operations).1 = (performAll specify model operations).1 ∧
      Related (performAll perform system operations).2 (performAll specify model operations).2 := by
  induction operations generalizing system model with
  | nil => exact ⟨rfl, related⟩
  | cons operation operations inductionHypothesis =>
      obtain ⟨sameValue, stillRelated⟩ := step related operation
      obtain ⟨sameValues, lastRelated⟩ := inductionHypothesis stillRelated
      exact ⟨by simp only [performAll, sameValue, sameValues], lastRelated⟩

end SheetEditor
