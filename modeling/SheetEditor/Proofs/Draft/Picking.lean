import SheetEditor.Draft.Insertion
import SheetEditor.Proofs.Draft.Operands
import SheetEditor.Proofs.Grid.CellName

/-!
Contract: a picked range, as it is written into a draft, is one reference to it.

Owns: the names of ranges and the qualifiers of sheets as the draft reads them,
what the text of a picked range resolves to, and the token that it is.

Does not own: several picked ranges in one formula
(`SheetEditor.Proofs.Draft.PickedReferences`).
-/

namespace SheetEditor

open Text (Stops)

/-! ## Names of ranges -/

namespace CellRange

variable {range : CellRange}

/-- Both corners are on the sheet. -/
def InBounds (range : CellRange) : Prop := range.start.InBounds ∧ range.stop.InBounds

instance (range : CellRange) : Decidable range.InBounds := by
  unfold InBounds
  infer_instance

/-- A range is one cell, or is named by its two corners. -/
theorem single_or_corners (range : CellRange) :
    (range = .single range.start ∧ range.name = range.start.name) ∨
      (range.start ≠ range.stop ∧ range.name = range.start.name ++ ':' :: range.stop.name) := by
  unfold name isSingle
  by_cases same : range.start = range.stop
  · refine .inl ⟨?_, by simp [same]⟩
    obtain ⟨start, stop⟩ := range
    exact congrArg (mk start) same.symm
  · exact .inr ⟨same, by simp [same]⟩

theorem inArea_of_mem_name (range : CellRange) :
    ∀ character ∈ range.name, inArea character = true := by
  have corner (address : CellAddress) : ∀ character ∈ address.name, inArea character = true := by
    intro character member
    rw [inArea, address.isAlphanum_of_mem_name character member, Bool.true_or, Bool.true_or]
  rcases range.single_or_corners with ⟨_, named⟩ | ⟨_, named⟩
  · rw [named]
    exact corner range.start
  · rw [named, List.forall_mem_append, List.forall_mem_cons]
    exact ⟨corner range.start, rfl, corner range.stop⟩

theorem name_ne_nil (range : CellRange) : range.name ≠ [] := by
  have letters := Column.letters_ne_nil range.start.column
  rcases range.single_or_corners with ⟨_, named⟩ | ⟨_, named⟩ <;>
    simp [named, CellAddress.name, letters]

end CellRange

/-- Whether a character stands in names that are not quoted. -/
def isWordCharacter (character : Char) : Bool := character.isAlphanum || character = '_'

namespace Draft

variable {range : CellRange} {current rest : Text} {target : Option Text}

open CellAddress (read?_name address?_written text_written)

/-- The name of a range resolves to the range, its corners in the order in which they were
picked. -/
theorem rangeOf?_name (inBounds : range.InBounds) : Target.rangeOf? range.name = some range := by
  obtain ⟨startInBounds, stopInBounds⟩ := inBounds
  have whole {address : CellAddress} (inBounds : address.InBounds) :
      WrittenCell.read? address.name = some (address.written, []) := by
    simpa using read?_name inBounds Text.stops_nil
  rcases range.single_or_corners with ⟨single, named⟩ | ⟨_, named⟩
  · rw [named, Target.rangeOf?, whole startInBounds]
    simp only [Option.bind_eq_bind, Option.bind_some, address?_written startInBounds,
      Option.map_some]
    exact congrArg some single.symm
  · have colon : Stops Char.isDigit (':' :: range.stop.name) := Text.stops_cons.mpr rfl
    rw [named, Target.rangeOf?, read?_name startInBounds colon]
    simp [whole stopInBounds, address?_written startInBounds, address?_written stopInBounds]

theorem cellsLength?_name (inBounds : range.InBounds) :
    Token.cellsLength? range.name = some range.name.length := by
  obtain ⟨startInBounds, stopInBounds⟩ := inBounds
  have whole {address : CellAddress} (inBounds : address.InBounds) :
      WrittenCell.read? address.name = some (address.written, []) := by
    simpa using read?_name inBounds Text.stops_nil
  rcases range.single_or_corners with ⟨_, named⟩ | ⟨_, named⟩
  · rw [named, Token.cellsLength?, whole startInBounds]
    simp [text_written]
  · have colon : Stops Char.isDigit (':' :: range.stop.name) := Text.stops_cons.mpr rfl
    rw [named, Token.cellsLength?, read?_name startInBounds colon]
    simp only [Option.bind_eq_bind, Option.bind_some, whole stopInBounds, text_written,
      List.length_append, List.length_cons]
    congr 1
    omega

theorem beginsWithCells_name (inBounds : range.InBounds) (stops : Stops continuesArea rest)
    (boundary : Token.isBoundary rest = true) : BeginsWithCells (range.name ++ rest) range rest :=
  .of_rangeOf? range.inArea_of_mem_name (cellsLength?_name inBounds) (rangeOf?_name inBounds)
    stops boundary

/-! ## Qualifiers of sheets -/

/-- A name without quotes is a word that does not begin with a digit. -/
theorem exists_word {sheet : Text} (nonempty : sheet ≠ [])
    (plain : SheetName.needsQuoting sheet = false) :
    ∃ first following, sheet = first :: following ∧ (first.isAlpha = true ∨ first = '_') ∧
      ∀ character ∈ following, isWordCharacter character = true := by
  obtain ⟨first, following, rfl⟩ := List.exists_cons_of_ne_nil nonempty
  simp only [SheetName.needsQuoting, List.head?_cons, Option.any_some, List.any_cons,
    Bool.or_eq_false_iff, decide_eq_false_iff_not, Bool.not_eq_eq_eq_not, Bool.not_false,
    List.any_eq_false, Bool.or_eq_true, decide_eq_true_eq] at plain
  obtain ⟨⟨_, notDigit⟩, firstPlain, othersPlain⟩ := plain
  refine ⟨first, following, rfl, ?_, fun character member => ?_⟩
  · simpa [Char.isAlphanum, notDigit] using firstPlain
  · simpa [isWordCharacter, or_iff_not_imp_left] using othersPlain character member

/-- A name is quoted unless it reads as a qualifier without quotes. -/
theorem qualifies_qualifier {sheet : Text} (nonempty : sheet ≠ []) :
    Qualifies (SheetName.qualifier sheet) sheet := by
  unfold SheetName.qualifier
  by_cases quoted : SheetName.needsQuoting sheet = true
  · rw [if_pos quoted]
    exact .quoted nonempty
  · rw [if_neg quoted]
    obtain ⟨first, following, rfl, begins, word⟩ := exists_word nonempty (by simpa using quoted)
    exact .plain begins fun character member => by
      rw [Token.inName, ← isWordCharacter, word character member, Bool.true_or]

/-! ## The text of a picked range -/

/-- The sheet that a picked range names: the one on screen, if it is not that of the formula. -/
def pickedSheet? (current : Text) (target : Option Text) : Option Text :=
  target.filter (· ≠ current)

theorem pickedSheet?_some (current sheet : Text) :
    pickedSheet? current (some sheet) = if sheet = current then none else some sheet := by
  simp [pickedSheet?, Option.filter_some]

/-- A picked range is written with a qualifier exactly if it names a sheet. -/
theorem referenceText_cases (range : CellRange) (current : Text) (target : Option Text) :
    (pickedSheet? current target = none ∧ referenceText range current target = range.name) ∨
      ∃ sheet, target = some sheet ∧ pickedSheet? current target = some sheet ∧
        referenceText range current target = SheetName.qualifier sheet ++ range.name := by
  cases target with
  | none => exact .inl ⟨rfl, rfl⟩
  | some sheet =>
      by_cases same : sheet = current
      · exact .inl ⟨by simp [pickedSheet?_some, same], by simp [referenceText, same]⟩
      · exact .inr ⟨sheet, rfl, by simp [pickedSheet?_some, same], by simp [referenceText, same]⟩

theorem referenceText_ne_nil (range : CellRange) (current : Text) (target : Option Text) :
    referenceText range current target ≠ [] := by
  rcases referenceText_cases range current target with ⟨_, written⟩ | ⟨sheet, _, _, written⟩ <;>
    simp [written, range.name_ne_nil]

/-- The text of a picked range resolves to the range, on the sheet that it names. -/
theorem ofText?_referenceText (inBounds : range.InBounds)
    (nonempty : ∀ sheet ∈ target, sheet ≠ []) :
    Target.ofText? (referenceText range current target) =
      some ⟨range, pickedSheet? current target⟩ := by
  rcases referenceText_cases range current target with
    ⟨unnamed, written⟩ | ⟨sheet, onScreen, named, written⟩
  · rw [written, unnamed,
      Target.ofText?_unqualified (plain_of_class (by decide) range.inArea_of_mem_name),
      rangeOf?_name inBounds, Option.map_some]
  · have qualifies := qualifies_qualifier (nonempty sheet onScreen)
    rw [written, named, Target.ofText?_of_splitQualifier? (qualifies.splitQualifier? range.name),
      rangeOf?_name inBounds, Option.map_some]

/-- The text of a picked range is one reference of a draft, up to a boundary. -/
theorem referenceLength?_referenceText (current : Text) (inBounds : range.InBounds)
    (nonempty : ∀ sheet ∈ target, sheet ≠ []) (stops : Stops continuesArea rest)
    (boundary : Token.isBoundary rest = true) :
    Token.referenceLength? (referenceText range current target ++ rest) =
      some (referenceText range current target).length := by
  have begins := beginsWithCells_name inBounds stops boundary
  have plainLength : Token.referenceLength? (range.name ++ rest) = some range.name.length := by
    obtain ⟨length, found, _, remaining⟩ := begins.cells
    have fits := Token.referenceLength?_le found
    have lengths := congrArg List.length remaining
    simp only [List.length_drop, List.length_append] at lengths fits
    rw [found]
    congr 1
    omega
  rcases referenceText_cases range current target with ⟨_, written⟩ | ⟨sheet, onScreen, _, written⟩
  · rw [written, plainLength]
  · have qualifies := qualifies_qualifier (nonempty sheet onScreen)
    rw [written, List.append_assoc, qualifies.referenceLength? begins.unqualified, plainLength,
      Option.map_some, List.length_append]

/-- The first token of a text that begins with a picked range. -/
theorem scanFrom_referenceText (current : Text) (start : Nat) (inBounds : range.InBounds)
    (nonempty : ∀ sheet ∈ target, sheet ≠ []) (stops : Stops continuesArea rest)
    (boundary : Token.isBoundary rest = true) :
    Token.scanFrom start (referenceText range current target ++ rest) =
      ⟨.reference, referenceText range current target, start⟩ ::
        Token.scanFrom (start + (referenceText range current target).length) rest := by
  have found := referenceLength?_referenceText current inBounds nonempty stops boundary
  obtain ⟨first, following, written⟩ :=
    List.exists_cons_of_ne_nil (referenceText_ne_nil range current target)
  rw [written] at found ⊢
  rw [List.cons_append] at found ⊢
  rw [Token.scanFrom_cons, Token.classify_reference found]
  simp

end Draft

end SheetEditor
