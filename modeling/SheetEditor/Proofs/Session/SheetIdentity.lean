import SheetEditor.Proofs.Session.PickedRange
import SheetEditor.Proofs.Workbook.DocumentStep

/-!
Contract: an identity denotes one sheet in all that undo and redo can reach.

Owns: that neighbouring snapshots of a session are one operation on the document apart, and that
identities are not reused between snapshots.

The next identity is part of a snapshot, so a step back also takes back the identities that were
handed out since, and a later sheet gets one of them again. The snapshots that had it are dropped
by the same push.
-/

namespace SheetEditor.Session

open Workbook (DocumentStep Precedes)

variable {session next : Session}

/-- Neighbouring snapshots of the history are one operation on the document apart. -/
def SnapshotsStepwise (session : Session) : Prop := session.history.timeline.IsChain DocumentStep

theorem SnapshotsStepwise.effect (stepwise : session.SnapshotsStepwise)
    (effect : session.Effect next) : next.SnapshotsStepwise := by
  cases effect with
  | unchanged | began | revised | ended | moved | switched => exact stepwise
  | @committed edit sheet selected value editing target keepsBounds =>
      exact History.isChain_timeline_push stepwise
        (Workbook.documentStep_write target edit.address value)
  | appended name added =>
      exact History.isChain_timeline_push stepwise (session.workbook.documentStep_append name)
  | renamed accepted =>
      exact History.isChain_timeline_push stepwise (Workbook.documentStep_renameSheet accepted)
  | deletedEnding deletion | deletedKeeping deletion =>
      exact History.isChain_timeline_push stepwise (Workbook.documentStep_deleteSheet deletion)
  | travelled idle step =>
      exact (congrArg (List.IsChain DocumentStep) (History.timeline_of_step step)).mpr stepwise

theorem SnapshotsStepwise.run (stepwise : session.SnapshotsStepwise) (events : List Event) :
    (session.run events).SnapshotsStepwise := by
  induction events generalizing session with
  | nil => exact stepwise
  | cons event later inductionHypothesis =>
      exact inductionHypothesis (stepwise.effect (effect_after session event))

theorem snapshotsStepwise_new (workbook : Workbook) (settings : Settings)
    (registry : List FunctionDefinition) :
    ((Session.new workbook settings).withRegistry registry).SnapshotsStepwise :=
  List.isChain_singleton workbook

/-- Steps only ever hand out new identities, so what holds of neighbours holds of any two
snapshots. -/
theorem SnapshotsStepwise.pairwise_precedes (stepwise : session.SnapshotsStepwise) :
    session.history.timeline.Pairwise Precedes :=
  (List.IsChain.imp (fun _ _ => DocumentStep.precedes) stepwise).pairwise

/-- An identity that is given up is not handed out again: it is below all that come later. -/
theorem SnapshotsStepwise.not_mem_identities (stepwise : session.SnapshotsStepwise)
    (consistent : session.SnapshotsConsistent) {first second third : Workbook} {id : SheetId}
    (inOrder : [first, second, third].Sublist session.history.timeline)
    (present : id ∈ first.identities) (absent : id ∉ second.identities) :
    id ∉ third.identities := by
  have precedes := stepwise.pairwise_precedes.sublist inOrder
  simp only [List.pairwise_cons, List.mem_cons, List.not_mem_nil, or_false, forall_eq_or_imp,
    forall_eq] at precedes
  obtain ⟨⟨firstSecond, -⟩, secondThird, -⟩ := precedes
  obtain ⟨sheet, isSheet, rfl⟩ := List.mem_map.mp present
  have issued := (consistent first (inOrder.subset (by simp))).issued sheet isSheet
  intro back
  rcases secondThird.kept_or_new _ back with kept | new
  · exact absent kept
  · exact absurd (issued.trans_le (firstSecond.nextSheetId_le.trans new)) (Nat.lt_irrefl _)

/-- In every session on a workbook made by the operations, whatever has happened in it, each
snapshot from the oldest to the one that is redone last is one operation on the document away from
the one before. The next identity never decreases along that line, no snapshot has two sheets with
one identity, and an identity that is gone from a snapshot after an earlier one had it stays away,
so it never denotes a second sheet. -/
theorem identity_denotes_one_sheet (operations : List Workbook.Operation) (settings : Settings)
    (registry : List FunctionDefinition) (events : List Event) :
    let session :=
      ((Session.new (Workbook.new.run operations) settings).withRegistry registry).run events
    let timeline := session.history.timeline
    timeline.IsChain DocumentStep ∧
      timeline.Pairwise (·.nextSheetId ≤ ·.nextSheetId) ∧
      (∀ workbook ∈ timeline, workbook.identities.Nodup) ∧
      ∀ first second third : Workbook, [first, second, third].Sublist timeline →
        ∀ id ∈ first.identities, id ∉ second.identities → id ∉ third.identities := by
  intro session timeline
  have consistent : session.SnapshotsConsistent :=
    (snapshotsConsistent_new (Workbook.consistent_new.run operations) settings registry).run events
  have stepwise : session.SnapshotsStepwise :=
    (snapshotsStepwise_new (Workbook.new.run operations) settings registry).run events
  refine ⟨stepwise, stepwise.pairwise_precedes.imp Precedes.nextSheetId_le,
    fun workbook member => (consistent workbook member).identities, ?_⟩
  intro first second third inOrder id
  exact stepwise.not_mem_identities consistent inOrder

end SheetEditor.Session
