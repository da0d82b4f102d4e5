import Mathlib.Data.List.Infix
import Mathlib.Data.Option.Basic
import SheetEditor.Draft.Token
import SheetEditor.Proofs.Text.Run

/-!
Contract: the parts of a reference, with more text after them.

Owns: the characters that could be read with a reference before them, that a text
which begins with any other character changes nothing about the parts in front of
it, and how long these parts are.
-/

namespace SheetEditor

open Text (Stops)

variable {text rest : Text}

/-- Whether an area can have a character in it. -/
def inArea (character : Char) : Bool := character.isAlphanum || character = '$' || character = ':'

/-- Whether a character could be read with the name, number or cell before it. -/
def continuesArea (character : Char) : Bool :=
  character.isAlphanum || ['_', '.', '$', '!', ':', '\'', '"'].contains character

theorem inArea_of_isAlpha {character : Char} (isAlpha : character.isAlpha = true) :
    inArea character = true := by
  simp [inArea, Char.isAlphanum, isAlpha]

theorem inArea_of_isDigit {character : Char} (isDigit : character.isDigit = true) :
    inArea character = true := by
  simp [inArea, Char.isAlphanum, isDigit]

theorem continuesArea_of_inArea {character : Char} (inside : inArea character = true) :
    continuesArea character = true := by
  simp only [inArea, Bool.or_eq_true, decide_eq_true_eq] at inside
  rcases inside with (isAlphanum | rfl) | rfl
  · rw [continuesArea, isAlphanum, Bool.true_or]
  · rfl
  · rfl

theorem continuesArea_of_isAlpha {character : Char} (isAlpha : character.isAlpha = true) :
    continuesArea character = true :=
  continuesArea_of_inArea (inArea_of_isAlpha isAlpha)

theorem continuesArea_of_isDigit {character : Char} (isDigit : character.isDigit = true) :
    continuesArea character = true :=
  continuesArea_of_inArea (inArea_of_isDigit isDigit)

namespace WrittenCell

/-- Whether a cell can have a character in it. -/
def inCell (character : Char) : Bool := character.isAlphanum || character = '$'

theorem inCell_of_isAlpha {character : Char} (isAlpha : character.isAlpha = true) :
    inCell character = true := by
  simp [inCell, Char.isAlphanum, isAlpha]

theorem inCell_of_isDigit {character : Char} (isDigit : character.isDigit = true) :
    inCell character = true := by
  simp [inCell, Char.isAlphanum, isDigit]

theorem inArea_of_inCell {character : Char} (inside : inCell character = true) :
    inArea character = true := by
  rw [inArea, ← inCell, inside, Bool.true_or]

theorem splitMarker_append (stops : Stops (· = '$') rest) :
    splitMarker (text ++ rest) = ((splitMarker text).1, (splitMarker text).2 ++ rest) := by
  cases text with
  | nil =>
      cases rest with
      | nil => rfl
      | cons next others =>
          have unmarked : next ≠ '$' := by simpa using stops
          simp [splitMarker, unmarked]
  | cons first following =>
      by_cases marked : first = '$'
      · subst marked
        rfl
      · simp [splitMarker, marked]

theorem marker_append (text : Text) :
    (if (splitMarker text).1 then ['$'] else []) ++ (splitMarker text).2 = text := by
  unfold splitMarker
  split <;> rfl

theorem length_splitMarker (text : Text) :
    (splitMarker text).2.length + (if (splitMarker text).1 then 1 else 0) = text.length := by
  unfold splitMarker
  split <;> rfl

/-- The letters of a column, after its mark. -/
theorem letters_append (stops : Stops inCell rest) :
    ((text ++ rest).take 3).takeWhile Char.isAlpha = (text.take 3).takeWhile Char.isAlpha := by
  rw [Text.takeWhile_take, Text.takeWhile_take,
    Text.takeWhile_append (stops.mono fun _ => inCell_of_isAlpha)]

theorem length_letters_le (text : Text) :
    ((text.take 3).takeWhile Char.isAlpha).length ≤ text.length :=
  (Text.length_takeWhile_le _ _).trans (List.length_take_le' ..)

theorem digits_append (stops : Stops inCell rest) :
    (text ++ rest).takeWhile Char.isDigit = text.takeWhile Char.isDigit :=
  Text.takeWhile_append (stops.mono fun _ => inCell_of_isDigit)

theorem stops_marker (stops : Stops inCell rest) : Stops (· = '$') rest :=
  stops.mono fun next isMarker => by
    rw [of_decide_eq_true isMarker]
    rfl

/-- The cell at the start of a text is read as far as before. -/
theorem read?_append (stops : Stops inCell rest) :
    read? (text ++ rest) = (read? text).map fun (cell, after) => (cell, after ++ rest) := by
  unfold read?
  rw [splitMarker_append (stops_marker stops)]
  obtain ⟨columnAbsolute, fromLetters⟩ := splitMarker text
  dsimp only
  rw [letters_append stops, List.drop_append_of_le_length (length_letters_le _),
    splitMarker_append (stops_marker stops)]
  obtain ⟨rowAbsolute, fromDigits⟩ :=
    splitMarker (fromLetters.drop ((fromLetters.take 3).takeWhile Char.isAlpha).length)
  dsimp only
  rw [digits_append stops, List.drop_append_of_le_length (Text.length_takeWhile_le _ _)]
  split
  · rfl
  · rfl

/-- A cell that is read is the text up to what is left. -/
theorem eq_append_of_read? {cell : WrittenCell} {after : Text}
    (read : read? text = some (cell, after)) : text = cell.text ++ after := by
  unfold read? at read
  dsimp only at read
  split at read
  · cases read
  · cases read
    simp only [WrittenCell.text, List.append_assoc]
    rw [← List.prefix_append_drop (List.takeWhile_prefix _), marker_append,
      ← List.prefix_append_drop ((List.takeWhile_prefix _).trans (List.take_prefix ..)),
      marker_append]

theorem text_of_whole {cell : WrittenCell} (read : read? text = some (cell, [])) :
    cell.text = text := by
  rw [eq_append_of_read? read, List.append_nil]

theorem length_pos_of_read? {cell : WrittenCell} {after : Text}
    (read : read? text = some (cell, after)) : 0 < cell.text.length := by
  unfold read? at read
  dsimp only at read
  split at read
  · cases read
  · next nonempty =>
      cases read
      rw [Bool.not_eq_true, Bool.or_eq_false_iff, decide_eq_false_iff_not,
        decide_eq_false_iff_not] at nonempty
      have digitsLength := List.length_pos_iff.mpr nonempty.2
      simp only [WrittenCell.text, List.length_append]
      omega

end WrittenCell

namespace Draft.Token

theorem stops_colon (stops : Stops inArea rest) : Stops (· = ':') rest :=
  stops.mono fun next isColon => by
    rw [of_decide_eq_true isColon]
    rfl

theorem stops_cell (stops : Stops inArea rest) : Stops WrittenCell.inCell rest :=
  stops.mono fun _ => WrittenCell.inArea_of_inCell

/-! ## Areas -/

theorem cellsLength?_append (stops : Stops inArea rest) :
    cellsLength? (text ++ rest) = cellsLength? text := by
  unfold cellsLength?
  rw [WrittenCell.read?_append (stops_cell stops)]
  cases WrittenCell.read? text with
  | none => rfl
  | some found =>
      obtain ⟨first, after⟩ := found
      cases after with
      | nil =>
          cases rest with
          | nil => rfl
          | cons next others =>
              have notColon : next ≠ ':' := by simpa using stops_colon stops
              simp [notColon]
      | cons next after =>
          by_cases isColon : next = ':'
          · subst isColon
            simp only [Option.map_some, Option.bind_eq_bind, Option.bind_some, List.cons_append]
            rw [WrittenCell.read?_append (stops_cell stops)]
            cases WrittenCell.read? after <;> rfl
          · simp [isColon]

/-- What is read is the text of one cell, or of two cells around a colon. -/
theorem cellsLength?_cases {length : Nat} (found : cellsLength? text = some length) :
    (∃ cell rest, WrittenCell.read? text = some (cell, rest) ∧ length = cell.text.length) ∨
      ∃ first second after rest, WrittenCell.read? text = some (first, ':' :: after) ∧
        WrittenCell.read? after = some (second, rest) ∧
        length = first.text.length + 1 + second.text.length := by
  obtain ⟨⟨first, after⟩, firstRead, found⟩ := Option.bind_eq_some_iff.mp found
  dsimp only at found
  split at found
  · next afterColon =>
      split at found
      · next second rest secondRead =>
          cases found
          exact .inr ⟨first, second, afterColon, rest, firstRead, secondRead, rfl⟩
      · cases found
        exact .inl ⟨first, _, firstRead, rfl⟩
  · cases found
    exact .inl ⟨first, _, firstRead, rfl⟩

theorem cellsLength?_le {length : Nat} (found : cellsLength? text = some length) :
    length ≤ text.length := by
  rcases cellsLength?_cases found with
    ⟨cell, rest, read, rfl⟩ | ⟨first, second, after, rest, firstRead, secondRead, rfl⟩
  · rw [WrittenCell.eq_append_of_read? read, List.length_append]
    exact Nat.le_add_right _ _
  · rw [WrittenCell.eq_append_of_read? firstRead, WrittenCell.eq_append_of_read? secondRead]
    simp
    omega

theorem columnLength?_append (stops : Stops WrittenCell.inCell rest) :
    columnLength? (text ++ rest) = columnLength? text := by
  unfold columnLength?
  rw [WrittenCell.splitMarker_append (WrittenCell.stops_marker stops)]
  dsimp only
  rw [WrittenCell.letters_append stops]

theorem columnLength?_le {length : Nat} (found : columnLength? text = some length) :
    length ≤ text.length := by
  have fits := WrittenCell.length_splitMarker text
  have lettersFit := WrittenCell.length_letters_le (WrittenCell.splitMarker text).2
  unfold columnLength? at found
  dsimp only at found
  split at found
  · cases found
  · cases found
    omega

theorem rowLength?_append (stops : Stops WrittenCell.inCell rest) :
    rowLength? (text ++ rest) = rowLength? text := by
  unfold rowLength?
  rw [WrittenCell.splitMarker_append (WrittenCell.stops_marker stops)]
  dsimp only
  rw [WrittenCell.digits_append stops]

theorem rowLength?_le {length : Nat} (found : rowLength? text = some length) :
    length ≤ text.length := by
  have fits := WrittenCell.length_splitMarker text
  have digitsFit := Text.length_takeWhile_le Char.isDigit (WrittenCell.splitMarker text).2
  unfold rowLength? at found
  dsimp only at found
  split at found
  · cases found
  · cases found
    omega

section Pair

variable {part : Text → Option Nat}

theorem pairLength?_append (stable : ∀ text, part (text ++ rest) = part text)
    (fits : ∀ {text length}, part text = some length → length ≤ text.length)
    (stops : Stops (· = ':') rest) : pairLength? part (text ++ rest) = pairLength? part text := by
  unfold pairLength?
  rw [stable]
  cases firstFound : part text with
  | none => rfl
  | some first =>
      simp only [Option.bind_eq_bind, Option.bind_some]
      rw [List.drop_append_of_le_length (fits firstFound)]
      cases text.drop first with
      | nil =>
          cases rest with
          | nil => rfl
          | cons next others =>
              have notColon : next ≠ ':' := by simpa using stops
              simp [notColon]
      | cons next after =>
          by_cases isColon : next = ':'
          · subst isColon
            simp [stable]
          · simp [isColon]

theorem pairLength?_le (fits : ∀ {text length}, part text = some length → length ≤ text.length)
    {length : Nat} (found : pairLength? part text = some length) : length ≤ text.length := by
  obtain ⟨first, firstFound, found⟩ := Option.bind_eq_some_iff.mp found
  split at found
  · next afterColon isColon =>
      obtain ⟨second, secondFound, rfl⟩ := Option.map_eq_some_iff.mp found
      have secondFits := fits secondFound
      have dropped := congrArg List.length isColon
      simp only [List.length_drop, List.length_cons] at dropped
      omega
  · cases found

theorem pairLength?_pos {length : Nat} (found : pairLength? part text = some length) :
    0 < length := by
  obtain ⟨first, firstFound, found⟩ := Option.bind_eq_some_iff.mp found
  split at found
  · obtain ⟨second, secondFound, rfl⟩ := Option.map_eq_some_iff.mp found
    omega
  · cases found

end Pair

theorem areaLength?_append (stops : Stops inArea rest) :
    areaLength? (text ++ rest) = areaLength? text := by
  have cellStops := stops_cell stops
  unfold areaLength?
  rw [cellsLength?_append stops,
    pairLength?_append (fun _ => columnLength?_append cellStops) columnLength?_le (stops_colon stops),
    pairLength?_append (fun _ => rowLength?_append cellStops) rowLength?_le (stops_colon stops)]

theorem areaLength?_le {length : Nat} (found : areaLength? text = some length) :
    length ≤ text.length := by
  unfold areaLength? at found
  rcases (Option.orElse_eq_some _ _ _).mp found with cells | ⟨_, found⟩
  · exact cellsLength?_le cells
  · rcases (Option.orElse_eq_some _ _ _).mp found with columns | ⟨_, rows⟩
    · exact pairLength?_le columnLength?_le columns
    · exact pairLength?_le rowLength?_le rows

theorem areaLength?_pos {length : Nat} (found : areaLength? text = some length) : 0 < length := by
  unfold areaLength? at found
  rcases (Option.orElse_eq_some _ _ _).mp found with cells | ⟨_, found⟩
  · rcases cellsLength?_cases cells with
      ⟨cell, rest, read, rfl⟩ | ⟨first, second, after, rest, firstRead, secondRead, rfl⟩
    · exact WrittenCell.length_pos_of_read? read
    · omega
  · rcases (Option.orElse_eq_some _ _ _).mp found with columns | ⟨_, rows⟩
    · exact pairLength?_pos columns
    · exact pairLength?_pos rows

/-! ## Qualifiers -/

/-- Whether an identifier can have a character in it. -/
def inName (character : Char) : Bool :=
  character.isAlphanum || character = '_' || character = '.'

theorem inName_of_begins {character : Char}
    (begins : character.isAlpha = true ∨ character = '_') : inName character = true := by
  rcases begins with isAlpha | rfl
  · simp [inName, Char.isAlphanum, isAlpha]
  · rfl

theorem continuesArea_of_inName {character : Char} (inside : inName character = true) :
    continuesArea character = true := by
  simp only [inName, Bool.or_eq_true, decide_eq_true_eq] at inside
  rcases inside with (isAlphanum | rfl) | rfl
  · rw [continuesArea, isAlphanum, Bool.true_or]
  · rfl
  · rfl

theorem stops_name (stops : Stops continuesArea rest) : Stops inName rest :=
  stops.mono fun _ => continuesArea_of_inName

theorem identifierLength?_eq_none (stops : Stops inName rest) : identifierLength? rest = none := by
  cases rest with
  | nil => rfl
  | cons next others =>
      have outside : inName next = false := by simpa using stops
      simp only [inName, Char.isAlphanum, Bool.or_eq_false_iff, decide_eq_false_iff_not] at outside
      obtain ⟨⟨⟨notLetter, _⟩, notUnderscore⟩, _⟩ := outside
      simp [identifierLength?, notLetter, notUnderscore]

theorem identifierLength?_append (stops : Stops inName rest) :
    identifierLength? (text ++ rest) = identifierLength? text := by
  cases text with
  | nil => exact identifierLength?_eq_none stops
  | cons first following =>
      have nameStops : Stops (fun character =>
          character.isAlphanum || character = '_' || character = '.') rest := stops
      simp only [List.cons_append, identifierLength?, Text.takeWhile_append nameStops]

/-- A run of name characters is an identifier if it begins like one. -/
theorem identifierLength?_run {first : Char} {following : Text}
    (begins : first.isAlpha = true ∨ first = '_')
    (inside : ∀ character ∈ following, inName character = true) (stops : Stops inName rest) :
    identifierLength? (first :: (following ++ rest)) = some (following.length + 1) := by
  have beginsName : (first.isAlpha || decide (first = '_')) = true := by simpa using begins
  have run : (following ++ rest).takeWhile inName = following := Text.takeWhile_run inside stops
  rw [identifierLength?, if_pos beginsName]
  exact congrArg (fun run : Text => some (run.length + 1)) run

theorem identifierLength?_pos {length : Nat} (found : identifierLength? text = some length) :
    0 < length := by
  unfold identifierLength? at found
  split at found
  · cases found
  · split at found
    · cases found
      exact Nat.succ_pos _
    · cases found

theorem identifierLength?_le {length : Nat} (found : identifierLength? text = some length) :
    length ≤ text.length := by
  cases text with
  | nil => cases found
  | cons first following =>
      unfold identifierLength? at found
      dsimp only at found
      split at found
      · cases found
        have fits := Text.length_takeWhile_le (fun character =>
          character.isAlphanum || character = '_' || character = '.') following
        simpa using fits
      · cases found

/-- A quoted name at the start of a text is closed there, or no quote comes after it either. -/
def SealsName (text rest : Text) : Prop :=
  ∀ following, text = SheetName.quote :: following →
    Text.readQuoted? SheetName.quote following = none → SheetName.quote ∉ rest

theorem qualifierNameLength?_append (stops : Stops continuesArea rest) (seals : SealsName text rest) :
    qualifierNameLength? (text ++ rest) = qualifierNameLength? text := by
  have notQuoted : Stops (· = SheetName.quote) rest := stops.mono fun next isQuote => by
    rw [of_decide_eq_true isQuote]
    rfl
  cases text with
  | nil =>
      cases rest with
      | nil => rfl
      | cons next others =>
          have different : next ≠ SheetName.quote := by simpa using notQuoted
          simpa [qualifierNameLength?, different] using identifierLength?_eq_none (stops_name stops)
  | cons first following =>
      by_cases quoted : first = SheetName.quote
      · subst quoted
        simp only [List.cons_append, qualifierNameLength?, if_true]
        cases read : Text.readQuoted? SheetName.quote following with
        | none => rw [Text.readQuoted?_append_eq_none read (seals following rfl read)]
        | some found => rw [Text.readQuoted?_append read notQuoted]
      · have same : identifierLength? (first :: following ++ rest) = _ :=
          identifierLength?_append (stops_name stops)
        simpa [qualifierNameLength?, quoted] using same

theorem qualifierNameLength?_le {length : Nat} (found : qualifierNameLength? text = some length) :
    length ≤ text.length := by
  unfold qualifierNameLength? at found
  split at found
  · cases found
  · split at found
    · split at found
      · next read =>
          split at found
          · cases found
          · cases found
            simpa using Text.readQuoted?_length_le read
      · cases found
    · exact identifierLength?_le found

theorem qualifierLength?_append (stops : Stops continuesArea rest) (seals : SealsName text rest) :
    qualifierLength? (text ++ rest) = qualifierLength? text := by
  unfold qualifierLength?
  rw [qualifierNameLength?_append stops seals]
  cases nameFound : qualifierNameLength? text with
  | none => rfl
  | some name =>
      simp only [Option.bind_eq_bind, Option.bind_some]
      rw [List.drop_append_of_le_length (qualifierNameLength?_le nameFound)]
      cases text.drop name with
      | nil =>
          cases rest with
          | nil => rfl
          | cons next others =>
              have notMark : next ≠ '!' := by
                rintro rfl
                exact absurd (Text.stops_cons.mp stops) (by decide)
              simp [notMark]
      | cons next after =>
          by_cases isMark : next = '!'
          · simp [isMark]
          · simp [isMark]

theorem qualifierLength?_le {length : Nat} (found : qualifierLength? text = some length) :
    length ≤ text.length := by
  obtain ⟨name, nameFound, found⟩ := Option.bind_eq_some_iff.mp found
  split at found
  · next others isMark =>
      have dropped := congrArg List.length isMark
      simp only [List.length_drop, List.length_cons] at dropped
      cases found
      omega
  · cases found

/-! ## References -/

theorem qualifier_le (text : Text) : (qualifierLength? text).getD 0 ≤ text.length := by
  cases found : qualifierLength? text with
  | none => exact Nat.zero_le _
  | some length => exact qualifierLength?_le found

theorem referenceLength?_le {length : Nat} (found : referenceLength? text = some length) :
    length ≤ text.length := by
  have qualifierFits := qualifier_le text
  obtain ⟨area, areaFound, found⟩ := Option.bind_eq_some_iff.mp found
  have areaFits := areaLength?_le areaFound
  rw [List.length_drop] at areaFits
  split at found
  · cases found
    omega
  · cases found

theorem referenceLength?_append (stops : Stops continuesArea rest) (seals : SealsName text rest)
    (boundary : isBoundary rest = true) : referenceLength? (text ++ rest) = referenceLength? text := by
  have qualifierFits := qualifier_le text
  unfold referenceLength?
  rw [qualifierLength?_append stops seals]
  dsimp only
  rw [List.drop_append_of_le_length qualifierFits,
    areaLength?_append (stops.mono fun _ => continuesArea_of_inArea)]
  cases areaFound : areaLength? (text.drop ((qualifierLength? text).getD 0)) with
  | none => rfl
  | some area =>
      have areaFits := areaLength?_le areaFound
      rw [List.length_drop] at areaFits
      simp only [Option.bind_eq_bind, Option.bind_some]
      rw [List.drop_append_of_le_length (by omega)]
      cases text.drop ((qualifierLength? text).getD 0 + area) with
      | nil =>
          rw [List.nil_append, boundary]
          rfl
      | cons next after => rfl

end Draft.Token

end SheetEditor
