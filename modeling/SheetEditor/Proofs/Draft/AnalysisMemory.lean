import SheetEditor.Draft.Analysis
import SheetEditor.Proofs.Simulation

/-!
Contract: a memory of the last analysis is transparent.

Owns: what a caller can do with a memory, the log of it that stands for the memory, when a question
counts as a hit, and how many questions are counted.

Does not own: what an analysis finds in a text.
-/

namespace SheetEditor.Draft

/-- What a caller can do with a memory: ask for the analysis of a text, or have it forgotten. -/
inductive MemoryUse where
  | analyze (text : Text) (caret : Nat)
  | clear
deriving DecidableEq, Repr

namespace MemoryUse

def isQuestion : MemoryUse → Bool
  | .analyze _ _ => true
  | .clear => false

/-- The answer to a question, made anew. -/
def answer? : MemoryUse → Option Analysis
  | .analyze text caret => some (.ofText text caret)
  | .clear => none

/-- What is to be remembered afterwards. -/
def remembered? : MemoryUse → Option Remembered
  | .analyze text caret => some ⟨text, caret, .ofText text caret⟩
  | .clear => none

/-- A log of uses, as a system that answers every question anew. -/
def log (uses : List MemoryUse) (use : MemoryUse) : Option Analysis × List MemoryUse :=
  (use.answer?, uses ++ [use])

theorem performAll_log (earlier uses : List MemoryUse) :
    performAll log earlier uses = (uses.map answer?, earlier ++ uses) := by
  induction uses generalizing earlier with
  | nil => simp only [performAll, List.map_nil, List.append_nil]
  | cons use uses inductionHypothesis =>
      simp only [performAll, log, inductionHypothesis, List.map_cons, List.append_assoc,
        List.singleton_append]

end MemoryUse

/-- The question asked last was this one, and since then nothing was forgotten. -/
def AskedLast (uses : List MemoryUse) (text : Text) (caret : Nat) : Prop :=
  ∃ earlier since, uses = earlier ++ .analyze text caret :: since ∧
    (∀ use ∈ since, use.isQuestion = false) ∧ .clear ∉ since

/-- Nothing can have happened since: a use is a question or forgets. -/
theorem askedLast_iff {uses : List MemoryUse} {text : Text} {caret : Nat} :
    AskedLast uses text caret ↔ uses.getLast? = some (.analyze text caret) := by
  constructor
  · rintro ⟨earlier, since, rfl, noQuestion, notCleared⟩
    cases since with
    | nil => exact List.getLast?_concat
    | cons use later =>
        cases use with
        | analyze other caret => cases noQuestion _ List.mem_cons_self
        | clear => exact absurd List.mem_cons_self notCleared
  · intro last
    obtain ⟨earlier, rfl⟩ := List.getLast?_eq_some_iff.mp last
    exact ⟨earlier, [], rfl, by simp, by simp⟩

namespace AnalysisMemory

/-- Uses the memory once, and gives the analysis that was asked for. -/
def perform (memory : AnalysisMemory) : MemoryUse → Option Analysis × AnalysisMemory
  | .analyze text caret => (some (memory.analyze text caret).1, (memory.analyze text caret).2)
  | .clear => (none, memory.clear)

/-- One question was counted, as a hit. -/
def CountsHit (before after : AnalysisMemory) : Prop :=
  after.hits = before.hits + 1 ∧ after.misses = before.misses

/-- One question was counted, as a miss. -/
def CountsMiss (before after : AnalysisMemory) : Prop :=
  after.hits = before.hits ∧ after.misses = before.misses + 1

/-! ## The memory and its log -/

/-- The memory after the uses of a log. It remembers nothing but the last of them, with the analysis
made anew, and has counted the questions. -/
structure Records (memory : AnalysisMemory) (uses : List MemoryUse) : Prop where
  last : memory.last = uses.getLast?.bind MemoryUse.remembered?
  counted : memory.hits + memory.misses = uses.countP MemoryUse.isQuestion

namespace Records

variable {memory : AnalysisMemory} {uses : List MemoryUse} {text : Text} {caret : Nat}

theorem new : Records .new [] where
  last := rfl
  counted := rfl

/-- A question that was asked last is answered from the memory, with the analysis of its text. -/
theorem analyze_of_askedLast (records : Records memory uses)
    (asked : uses.getLast? = some (.analyze text caret)) :
    memory.analyze text caret =
      (.ofText text caret, { memory with hits := memory.hits + 1 }) := by
  have found : memory.remembered? text caret = some (.ofText text caret) := by
    rw [remembered?, records.last, asked]
    exact if_pos ⟨rfl, rfl⟩
  rw [analyze, found]

/-- Any other question is answered anew. -/
theorem analyze_of_not_askedLast (records : Records memory uses)
    (notAsked : uses.getLast? ≠ some (.analyze text caret)) :
    memory.analyze text caret = (.ofText text caret,
      ⟨some ⟨text, caret, .ofText text caret⟩, memory.hits, memory.misses + 1⟩) := by
  have unknown : memory.remembered? text caret = none := by
    rw [remembered?, records.last]
    cases last : uses.getLast? with
    | none => rfl
    | some use =>
        cases use with
        | clear => rfl
        | analyze other position =>
            apply if_neg
            rintro ⟨rfl, rfl⟩
            exact notAsked last
  rw [analyze, unknown]

/-- A use is recorded by remembering what it asks for and counting it if it is a question. -/
theorem concat (records : Records memory uses) {use : MemoryUse} {next : AnalysisMemory}
    (last : next.last = use.remembered?)
    (counted : next.hits + next.misses =
      memory.hits + memory.misses + [use].countP MemoryUse.isQuestion) :
    Records next (uses ++ [use]) where
  last := by
    rw [List.getLast?_concat]
    exact last
  counted := by
    rw [List.countP_append, ← records.counted]
    exact counted

/-- One use returns what the log says, and is recorded. -/
theorem perform (records : Records memory uses) (use : MemoryUse) :
    (memory.perform use).1 = (MemoryUse.log uses use).1 ∧
      Records (memory.perform use).2 (MemoryUse.log uses use).2 := by
  cases use with
  | clear => exact ⟨rfl, records.concat rfl rfl⟩
  | analyze text caret =>
      by_cases asked : uses.getLast? = some (.analyze text caret)
      · -- What is remembered stays, because the use before was the same question.
        have remembers : memory.last = (MemoryUse.analyze text caret).remembered? := by
          rw [records.last, asked]
          rfl
        simp only [AnalysisMemory.perform, records.analyze_of_askedLast asked]
        exact ⟨rfl, records.concat remembers (Nat.add_right_comm _ _ _)⟩
      · simp only [AnalysisMemory.perform, records.analyze_of_not_askedLast asked]
        exact ⟨rfl, records.concat rfl rfl⟩

/-- A question counts as a hit or as a miss, by whether it was asked last. -/
theorem counts_iff (records : Records memory uses) (text : Text) (caret : Nat) :
    (CountsHit memory (memory.analyze text caret).2 ↔ AskedLast uses text caret) ∧
      (CountsMiss memory (memory.analyze text caret).2 ↔ ¬ AskedLast uses text caret) := by
  rw [askedLast_iff, CountsHit, CountsMiss]
  by_cases asked : uses.getLast? = some (.analyze text caret)
  · rw [records.analyze_of_askedLast asked]
    have noMiss : memory.misses ≠ memory.misses + 1 := by omega
    exact ⟨iff_of_true ⟨rfl, rfl⟩ asked,
      iff_of_false (fun counts => noMiss counts.2) (not_not_intro asked)⟩
  · rw [records.analyze_of_not_askedLast asked]
    have noHit : memory.hits ≠ memory.hits + 1 := by omega
    exact ⟨iff_of_false (fun counts => noHit counts.1) asked, iff_of_true ⟨rfl, rfl⟩ asked⟩

end Records

/-- However a memory is used, every question is answered as if it were analysed anew. It counts as a
hit exactly if it was asked last and nothing was forgotten since, and otherwise as a miss; so the hits
and misses together are the questions. -/
theorem memory_is_transparent (uses : List MemoryUse) :
    let run := performAll perform new uses
    run.1 = uses.map MemoryUse.answer? ∧
    (∀ text caret,
      (run.2.analyze text caret).1 = .ofText text caret ∧
      (CountsHit run.2 (run.2.analyze text caret).2 ↔ AskedLast uses text caret) ∧
      (CountsMiss run.2 (run.2.analyze text caret).2 ↔ ¬ AskedLast uses text caret)) ∧
    run.2.hits + run.2.misses = uses.countP MemoryUse.isQuestion := by
  intro run
  obtain ⟨answers, records⟩ := performAll_simulates Records.perform Records.new uses
  rw [MemoryUse.performAll_log, List.nil_append] at answers records
  refine ⟨answers, ?_, records.counted⟩
  intro text caret
  have answered := (records.perform (.analyze text caret)).1
  exact ⟨Option.some.inj answered, records.counts_iff text caret⟩

/-- The same question twice is one hit; another caret, or forgetting, makes it a miss. -/
example :
    let question : MemoryUse := .analyze "=SUM(A1".toList 7
    let uses := [question, question, .analyze "=SUM(A1".toList 6, question, .clear, question]
    (performAll perform new uses).2.hits = 1 ∧ (performAll perform new uses).2.misses = 4 := by
  decide

end AnalysisMemory

end SheetEditor.Draft
