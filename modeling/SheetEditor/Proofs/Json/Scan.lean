import SheetEditor.Json.Token
import SheetEditor.Proofs.Text.Digits
import SheetEditor.Proofs.Text.Run
import SheetEditor.Text.Lines

/-!
Contract: JSON text that a program writes is scanned as the tokens it was written for.

Owns: texts that are scanned as given tokens whatever follows, how they are put
together, and the tokens of marks, words, plain strings and whole numbers.

Does not own: which tokens a settings file has (`SheetEditor.Proofs.Settings.SavedFile`).
-/

namespace SheetEditor.Json

open Text (Stops)

/-! ## Plain strings -/

/-- A character that stands for itself in a string. -/
def isPlain (character : Char) : Bool :=
  0x20 ≤ character.toNat && character ≠ '"' && character ≠ '\\'

theorem readString?_cons {character : Char} (plain : isPlain character = true) (rest : Text) :
    readString? (character :: rest) =
      (readString? rest).map fun (units, count) => (.plain character :: units, count + 1) := by
  simp only [isPlain, Bool.and_eq_true, decide_eq_true_eq] at plain
  obtain ⟨⟨visible, noQuote⟩, noEscape⟩ := plain
  rw [readString?.eq_def]
  split
  · next isEmpty => cases isEmpty
  · next isQuote => exact absurd (List.cons.inj isQuote).1 noQuote
  · next isEscape => exact absurd (List.cons.inj isEscape).1 noEscape
  · next isEscape => exact absurd (List.cons.inj isEscape).1 noEscape
  · next isOther =>
      obtain ⟨rfl, rfl⟩ := List.cons.inj isOther
      have isLegal : ¬(decide (character.toNat < 0x20) || decide (character = '\\')) = true := by
        simp only [Bool.or_eq_true, decide_eq_true_eq, not_or]
        exact ⟨by omega, noEscape⟩
      rw [if_neg isLegal]

/-- A string of plain characters has them as its units. -/
theorem readString?_plain {content : Text} (plain : ∀ character ∈ content, isPlain character = true)
    (rest : Text) :
    readString? (content ++ '"' :: rest) = some (content.map .plain, content.length + 1) := by
  induction content with
  | nil => rfl
  | cons character content inductionHypothesis =>
      obtain ⟨isPlain, others⟩ := List.forall_mem_cons.mp plain
      rw [List.cons_append, readString?_cons isPlain, inductionHypothesis others, Option.map_some,
        List.map_cons, List.length_cons]

@[simp] theorem StringUnit.decode?_plain (content : Text) :
    decode? (content.map .plain) = some content := by
  induction content with
  | nil => rfl
  | cons character content inductionHypothesis =>
      rw [List.map_cons, decode?, inductionHypothesis, Option.map_some]

/-! ## Whole numbers -/

/-- The characters that can go on a number after a digit. -/
def continuesNumber (character : Char) : Bool :=
  character.isDigit || character = '.' || character = 'e' || character = 'E'

theorem fractionLength?_of_stops {rest : Text} (stops : Stops continuesNumber rest) :
    fractionLength? rest = some 0 := by
  unfold fractionLength?
  split
  · cases Text.stops_cons.mp stops
  · rfl

theorem exponentLength?_of_stops {rest : Text} (stops : Stops continuesNumber rest) :
    exponentLength? rest = some 0 := by
  unfold exponentLength?
  split
  · rfl
  · next mark following =>
      have noMark : ¬(decide (mark = 'e') || decide (mark = 'E')) = true := by
        intro isMark
        have outside := Text.stops_cons.mp stops
        simp only [continuesNumber, Bool.or_eq_false_iff] at outside
        rw [outside.1.2, outside.2] at isMark
        cases isMark
      rw [if_neg noMark]

theorem wholeLength?_toDigits (number : Nat) {rest : Text} (stops : Stops continuesNumber rest) :
    wholeLength? (Nat.toDigits 10 number ++ rest) = some (Nat.toDigits 10 number).length := by
  have decimal := Text.isDigits_toDigits number
  have stopsDigits : Stops Char.isDigit rest := stops.mono fun next isDigit => by
    simp [continuesNumber, isDigit]
  rcases Nat.eq_zero_or_pos number with rfl | positive
  · rfl
  · obtain ⟨first, others, written, noZero⟩ := Text.toDigits_eq_cons positive
    rw [written] at decimal ⊢
    obtain ⟨isDigit, decimal⟩ := List.forall_mem_cons.mp decimal
    rw [List.cons_append, wholeLength?.eq_def]
    split
    · next isEmpty => cases isEmpty
    · next isZero => exact absurd (List.cons.inj isZero).1 noZero
    · next isOther =>
        obtain ⟨rfl, rfl⟩ := List.cons.inj isOther
        rw [if_pos isDigit, Text.takeWhile_run decimal stopsDigits, List.length_cons]

/-- The digits that a number is written with are read whole. -/
theorem numberLength?_toDigits (number : Nat) {rest : Text} (stops : Stops continuesNumber rest) :
    numberLength? (Nat.toDigits 10 number ++ rest) = some (Nat.toDigits 10 number).length := by
  have noSign : (Nat.toDigits 10 number ++ rest).head? ≠ some '-' := by
    intro isSign
    cases written : Nat.toDigits 10 number with
    | nil => exact absurd written Nat.toDigits_ne_nil
    | cons first others =>
        rw [written] at isSign
        cases Option.some.inj isSign
        have isDigit := Text.isDigits_toDigits number '-' (by simp [written])
        cases isDigit
  unfold numberLength?
  simp only [if_neg noSign, List.drop_zero, Nat.zero_add, wholeLength?_toDigits number stops,
    Option.bind_eq_bind, Option.bind_some, List.drop_left, fractionLength?_of_stops stops,
    Nat.add_zero, exponentLength?_of_stops stops]

/-! ## Tokens of a text -/

namespace Token

/-- A text is scanned as the given tokens, and the text after it for itself, unless that goes on a
number. -/
def Scans (text : Text) (tokens : List Token) : Prop :=
  ∀ rest, Stops continuesNumber rest →
    scanAll? (text ++ rest) = (scanAll? rest).map (tokens ++ ·)

variable {text second : Text} {tokens others : List Token}

theorem Scans.nil : Scans [] [] := fun rest _ => by
  simp

theorem Scans.append (scans : Scans text tokens) (scansSecond : Scans second others)
    (stops : Stops continuesNumber second) : Scans (text ++ second) (tokens ++ others) := by
  intro rest stopsRest
  rw [List.append_assoc, scans _ (Text.stops_append stops fun _ => stopsRest),
    scansSecond rest stopsRest, Option.map_map]
  simp only [Function.comp_def, List.append_assoc]

/-- The tokens of a whole text. -/
theorem Scans.scanAll? (scans : Scans text tokens) : scanAll? text = some tokens := by
  have whole := scans [] Text.stops_nil
  rw [List.append_nil] at whole
  rw [whole, Token.scanAll?, Option.map_some, List.append_nil]

/-- One step of the scan. -/
theorem Scans.of_scan? {first : Char} {following : Text} (token : Option Token)
    (scanned : ∀ rest, Stops continuesNumber rest →
      scan? first (following ++ rest) = some (token, following.length)) :
    Scans (first :: following) token.toList := by
  intro rest stops
  rw [List.cons_append, Token.scanAll?, scanned rest stops]
  simp only [Option.bind_eq_bind, Option.bind_some, List.drop_left]
  exact Option.map_eq_bind.symm

/-- A character that is scanned by itself, in front of any text. -/
theorem Scans.mark (mark : Char) (token : Option Token)
    (scanned : ∀ rest, scan? mark rest = some (token, 0)) (scans : Scans text tokens) :
    Scans (mark :: text) (token.toList ++ tokens) := by
  intro rest stops
  rw [List.cons_append, Token.scanAll?, scanned]
  simp only [Option.bind_eq_bind, Option.bind_some, List.drop_zero]
  rw [scans rest stops, Option.bind_map]
  simp only [Function.comp_def, List.append_assoc]
  exact Option.map_eq_bind.symm

/-- Lines are scanned one after the other. -/
theorem Scans.joinLines {lines : List Text} {lineTokens : List (List Token)}
    (scans : List.Forall₂ Scans lines lineTokens) :
    Scans (Text.joinLines lines) lineTokens.flatten := by
  -- A line end stops any number, so no condition on the next line is needed.
  induction scans with
  | nil => exact .nil
  | @cons line tokens _ _ scansLine scansOthers inductionHypothesis =>
      cases scansOthers with
      | nil =>
          rw [List.flatten_singleton]
          exact scansLine
      | cons =>
          have scansEnd := inductionHypothesis.mark '\n' none fun _ => rfl
          rw [Text.joinLines, List.flatten_cons]
          · exact scansLine.append scansEnd (Text.stops_cons.mpr rfl)
          · exact List.cons_ne_nil _ _

theorem scans_true : Scans ['t', 'r', 'u', 'e'] [.boolean true] :=
  .of_scan? (some (.boolean true)) fun _ _ => rfl

theorem scans_false : Scans ['f', 'a', 'l', 's', 'e'] [.boolean false] :=
  .of_scan? (some (.boolean false)) fun _ _ => rfl

theorem scans_plain {content : Text} (plain : ∀ character ∈ content, isPlain character = true) :
    Scans ('"' :: (content ++ ['"'])) [.string (content.map .plain)] := by
  refine .of_scan? (some (.string (content.map .plain))) fun rest _ => ?_
  have read := readString?_plain plain rest
  rw [← List.singleton_append, ← List.append_assoc] at read
  rw [List.length_append, List.length_singleton]
  exact congrArg (Option.map fun (units, count) => (some (Token.string units), count)) read

theorem scan?_digit {first : Char} (isDigit : first.isDigit = true) (following : Text) :
    scan? first following = (numberLength? (first :: following)).map fun length =>
      (some (.number (first :: following.take (length - 1))), length - 1) := by
  unfold scan?
  split <;> first | rfl | cases isDigit

/-- A number is scanned as the digits it is written with. -/
theorem scans_toDigits (number : Nat) :
    Scans (Nat.toDigits 10 number) [.number (Nat.toDigits 10 number)] := by
  cases written : Nat.toDigits 10 number with
  | nil => exact absurd written Nat.toDigits_ne_nil
  | cons first following =>
      refine .of_scan? (some (.number (first :: following))) fun rest stops => ?_
      have isDigit : first.isDigit = true :=
        Text.isDigits_toDigits number first (by simp [written])
      have length := numberLength?_toDigits number stops
      rw [written, List.cons_append] at length
      rw [scan?_digit isDigit, length, Option.map_some, List.length_cons, Nat.add_sub_cancel,
        List.take_left]

end Token

end SheetEditor.Json
