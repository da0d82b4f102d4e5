import SheetEditor.Proofs.Draft.Scan

/-!
Contract: the characters of the parts of references and of tokens.

Owns: which characters the parts of a reference and the names of a draft can
contain, and how a quoted sheet name is read.

Does not own: how long they are (`SheetEditor.Proofs.Draft.Rules`).
-/

namespace SheetEditor

variable {text : Text}

/-! ## Areas -/

namespace WrittenCell

theorem inArea_of_mem_marker (marked : Bool) :
    ∀ character ∈ (if marked then ['$'] else ([] : Text)), inArea character = true := by
  rw [← List.all_eq_true]
  cases marked <;> decide

/-- The letters and digits of a cell that is read. -/
theorem parts_of_read? {cell : WrittenCell} {after : Text}
    (read : read? text = some (cell, after)) :
    (cell.letters ≠ [] ∧ ∀ letter ∈ cell.letters, letter.isAlpha = true) ∧
      cell.digits ≠ [] ∧ ∀ digit ∈ cell.digits, digit.isDigit = true := by
  unfold read? at read
  dsimp only at read
  split at read
  · cases read
  · next nonempty =>
      cases read
      rw [Bool.not_eq_true, Bool.or_eq_false_iff, decide_eq_false_iff_not,
        decide_eq_false_iff_not] at nonempty
      exact ⟨⟨nonempty.1, fun letter => List.mem_takeWhile_imp⟩, nonempty.2,
        fun digit => List.mem_takeWhile_imp⟩

theorem inArea_of_read? {cell : WrittenCell} {after : Text}
    (read : read? text = some (cell, after)) : ∀ character ∈ cell.text, inArea character = true := by
  obtain ⟨⟨_, letters⟩, _, digits⟩ := parts_of_read? read
  simp only [WrittenCell.text, List.forall_mem_append]
  exact ⟨⟨⟨inArea_of_mem_marker _, fun letter member => inArea_of_isAlpha (letters letter member)⟩,
    inArea_of_mem_marker _⟩, fun digit member => inArea_of_isDigit (digits digit member)⟩

end WrittenCell

namespace Draft.Token

theorem inArea_of_cellsLength? {length : Nat} (found : cellsLength? text = some length) :
    ∀ character ∈ text.take length, inArea character = true := by
  rcases cellsLength?_cases found with
    ⟨cell, rest, read, rfl⟩ | ⟨first, second, after, rest, firstRead, secondRead, rfl⟩
  · rw [WrittenCell.eq_append_of_read? read, List.take_left]
    exact WrittenCell.inArea_of_read? read
  · have split : text = (first.text ++ ':' :: second.text) ++ rest := by
      rw [WrittenCell.eq_append_of_read? firstRead, WrittenCell.eq_append_of_read? secondRead,
        List.append_assoc, List.cons_append]
    have length : first.text.length + 1 + second.text.length =
        (first.text ++ ':' :: second.text).length := by
      simp only [List.length_append, List.length_cons]
      omega
    rw [length, split, List.take_left, List.forall_mem_append, List.forall_mem_cons]
    exact ⟨WrittenCell.inArea_of_read? firstRead, rfl, WrittenCell.inArea_of_read? secondRead⟩

/-- A mark and then a run of a class is the text as far as they reach. -/
theorem take_marked (text run : Text) (isRun : run <+: (WrittenCell.splitMarker text).2) :
    text.take (run.length + if (WrittenCell.splitMarker text).1 then 1 else 0) =
      (if (WrittenCell.splitMarker text).1 then ['$'] else []) ++ run := by
  obtain ⟨rest, runFirst⟩ := isRun
  have textEq : text =
      ((if (WrittenCell.splitMarker text).1 then ['$'] else []) ++ run) ++ rest := by
    rw [List.append_assoc, runFirst, WrittenCell.marker_append]
  have lengthEq : run.length + (if (WrittenCell.splitMarker text).1 then 1 else 0) =
      ((if (WrittenCell.splitMarker text).1 then ['$'] else []) ++ run).length := by
    rw [List.length_append]
    split
    · exact Nat.add_comm _ _
    · exact Nat.add_comm _ _
  rw [lengthEq]
  exact (congrArg (List.take _) textEq).trans List.take_left

theorem inArea_of_columnLength? {length : Nat} (found : columnLength? text = some length) :
    ∀ character ∈ text.take length, inArea character = true := by
  unfold columnLength? at found
  dsimp only at found
  split at found
  · cases found
  · cases found
    rw [take_marked text _ ((List.takeWhile_prefix _).trans (List.take_prefix ..)),
      List.forall_mem_append]
    exact ⟨WrittenCell.inArea_of_mem_marker _, fun letter member =>
      inArea_of_isAlpha (List.mem_takeWhile_imp member)⟩

theorem inArea_of_rowLength? {length : Nat} (found : rowLength? text = some length) :
    ∀ character ∈ text.take length, inArea character = true := by
  unfold rowLength? at found
  dsimp only at found
  split at found
  · cases found
  · cases found
    rw [take_marked text _ (List.takeWhile_prefix _), List.forall_mem_append]
    exact ⟨WrittenCell.inArea_of_mem_marker _, fun digit member =>
      inArea_of_isDigit (List.mem_takeWhile_imp member)⟩

theorem inArea_of_pairLength? {part : Text → Option Nat}
    (inside : ∀ {text length}, part text = some length →
      ∀ character ∈ text.take length, inArea character = true)
    {length : Nat} (found : pairLength? part text = some length) :
    ∀ character ∈ text.take length, inArea character = true := by
  obtain ⟨first, firstFound, found⟩ := Option.bind_eq_some_iff.mp found
  split at found
  · next afterColon isColon =>
      obtain ⟨second, secondFound, rfl⟩ := Option.map_eq_some_iff.mp found
      rw [Nat.add_assoc, List.take_add, isColon, Nat.add_comm 1, List.take_succ_cons,
        List.forall_mem_append, List.forall_mem_cons]
      exact ⟨inside firstFound, rfl, inside secondFound⟩
  · cases found

theorem inArea_of_areaLength? {length : Nat} (found : areaLength? text = some length) :
    ∀ character ∈ text.take length, inArea character = true := by
  unfold areaLength? at found
  rcases (Option.orElse_eq_some _ _ _).mp found with cells | ⟨_, found⟩
  · exact inArea_of_cellsLength? cells
  · rcases (Option.orElse_eq_some _ _ _).mp found with columns | ⟨_, rows⟩
    · exact inArea_of_pairLength? inArea_of_columnLength? columns
    · exact inArea_of_pairLength? inArea_of_rowLength? rows

/-! ## Names and qualifiers -/

theorem inName_of_identifierLength? {length : Nat} (found : identifierLength? text = some length) :
    ∀ character ∈ text.take length, inName character = true := by
  unfold identifierLength? at found
  split at found
  · cases found
  · next first following =>
      split at found
      · next begins =>
          cases found
          rw [List.take_succ_cons, List.forall_mem_cons,
            ← List.prefix_iff_eq_take.mp (List.takeWhile_prefix _)]
          refine ⟨?_, fun character member => List.mem_takeWhile_imp member⟩
          exact inName_of_begins (by simpa using begins)
      · cases found

/-- What a reference adds to its qualifier is an area. -/
theorem referenceLength?_cases {length : Nat} (found : referenceLength? text = some length) :
    ∃ area, length = (qualifierLength? text).getD 0 + area ∧
      areaLength? (text.drop ((qualifierLength? text).getD 0)) = some area ∧
      isBoundary (text.drop length) = true := by
  obtain ⟨area, areaFound, found⟩ := Option.bind_eq_some_iff.mp found
  split at found
  · next boundary =>
      cases found
      exact ⟨area, rfl, areaFound, boundary⟩
  · cases found

/-- A qualifier is a name with an exclamation mark after it. -/
theorem qualifierLength?_eq (text : Text) :
    qualifierLength? text =
      (qualifierNameLength? text).bind fun name =>
        if (text.drop name).head? = some '!' then some (name + 1) else none := by
  unfold qualifierLength?
  cases qualifierNameLength? text with
  | none => rfl
  | some name =>
      simp only [Option.bind_eq_bind, Option.bind_some]
      cases text.drop name with
      | nil => rfl
      | cons next others =>
          by_cases isMark : next = '!'
          · simp [isMark]
          · simp [isMark]

/-- The token of a qualified text contains the exclamation mark of the qualifier. -/
theorem mark_mem_of_qualifierLength? {first : Char} {following : Text} {qualifier : Nat}
    (found : qualifierLength? (first :: following) = some qualifier) :
    '!' ∈ first :: following.take (classify first following).2 := by
  have classified := classify_qualifier found
  rw [qualifierLength?_eq] at found
  obtain ⟨name, -, marked⟩ := Option.bind_eq_some_iff.mp found
  split at marked
  · next isMark =>
      cases marked
      have reaches : name + 1 ≤ (classify first following).2 + 1 := by
        rw [classified]
        cases reference : referenceLength? (first :: following) with
        | none =>
            simp only [Option.getD_none]
            omega
        | some length =>
            obtain ⟨area, rfl, -, -⟩ := referenceLength?_cases reference
            rw [qualifierLength?_eq, found]
            simp only [Option.getD_some]
            omega
      have atMark : (first :: following)[name]? = some '!' := by rw [← List.head?_drop, isMark]
      rw [← List.take_succ_cons]
      exact List.mem_of_getElem? (by rwa [List.getElem?_take_of_lt reaches])
  · cases marked

/-- A quoted name and its exclamation mark are a qualifier. -/
theorem qualifierLength?_quoted {following name rest : Text} {count : Nat}
    (read : Text.readQuoted? SheetName.quote following = some (name, count)) (nonempty : name ≠ [])
    (marked : following.drop count = '!' :: rest) :
    qualifierLength? (SheetName.quote :: following) = some (count + 2) := by
  have nameFound : qualifierNameLength? (SheetName.quote :: following) = some (count + 1) := by
    rw [qualifierNameLength?, if_pos rfl, read]
    exact if_neg nonempty
  rw [qualifierLength?, nameFound]
  simp [marked]

/-- The token of a quoted name is a reference, together with an area right after the name. -/
theorem classify_quotedName {following name rest : Text} {count : Nat}
    (read : Text.readQuoted? SheetName.quote following = some (name, count)) (nonempty : name ≠ [])
    (marked : following.drop count = '!' :: rest) :
    ∃ area, classify SheetName.quote following = (.reference, count + 1 + area) ∧
      ∀ character ∈ rest.take area, inArea character = true := by
  have qualifier := qualifierLength?_quoted read nonempty marked
  rw [classify_qualifier qualifier]
  cases found : referenceLength? (SheetName.quote :: following) with
  | none => exact ⟨0, rfl, by simp⟩
  | some length =>
      obtain ⟨area, rfl, areaFound, _⟩ := referenceLength?_cases found
      rw [qualifier, Option.getD_some] at areaFound ⊢
      have dropped : (SheetName.quote :: following).drop (count + 2) = rest := by
        rw [List.drop_succ_cons, ← List.drop_drop, marked]
        rfl
      rw [dropped] at areaFound
      refine ⟨area, ?_, inArea_of_areaLength? areaFound⟩
      rw [Option.getD_some]
      congr 1
      omega

end Draft.Token

end SheetEditor
