import Mathlib.Data.List.Forall2
import SheetEditor.Proofs.Json.Scan
import SheetEditor.Proofs.Text.Lines
import SheetEditor.Settings.File

/-!
Contract: a file that settings were saved to gives them back.

Owns: the tokens of a saved file, that each written value is read as itself, that
members of an object are read one after the other, and that comment lines anywhere in
a file change nothing.

Does not own: the scan of written JSON (`SheetEditor.Proofs.Json.Scan`).
-/

namespace SheetEditor.Settings

open Json (Token)
open Json.Token (Scans)

variable {settings : Settings} {given : Given} {field : Field} {text : Text}

/-- The settings that the program can have: it holds a count in 64 bits. -/
structure Representable (settings : Settings) : Prop where
  autocompleteLimit_lt : settings.autocompleteLimit < countBound
  historyLimit_lt : settings.historyLimit < countBound

/-! ## Values -/

theorem isPlain_of_mem_directionWord (direction : EnterDirection) :
    ∀ character ∈ directionWord direction, Json.isPlain character = true :=
  List.all_eq_true.mp (by cases direction <;> decide)

/-- A plain string has no line end in it. -/
theorem noEnd_of_plain {content : Text}
    (plain : ∀ character ∈ content, Json.isPlain character = true) : '\n' ∉ content :=
  fun member => absurd (plain _ member) (by decide)

theorem directionOf?_directionWord (direction : EnterDirection) :
    directionOf? (directionWord direction) = some direction := by
  cases direction <;> decide

theorem countOf?_toDigits {count : Nat} (fits : count < countBound) :
    countOf? (Nat.toDigits 10 count) = some count := by
  have decimal := List.all_eq_true.mpr (Text.isDigits_toDigits count)
  rw [countOf?, Text.digitsValue_toDigits, decimal, Bool.true_and, if_pos (decide_eq_true fits)]

theorem scans_quoted {content : Text}
    (plain : ∀ character ∈ content, Json.isPlain character = true) :
    Scans (quoted content) [.string (content.map .plain)] :=
  Json.Token.scans_plain plain

theorem scans_booleanWord (value : Bool) : Scans (booleanWord value) [.boolean value] := by
  cases value
  · exact Json.Token.scans_false
  · exact Json.Token.scans_true

namespace Field

/-- The text that is written for the value of a setting. -/
def written (settings : Settings) : Field → Text
  | autoCloseParentheses => booleanWord settings.autoCloseParentheses
  | autocompleteLimit => Nat.toDigits 10 settings.autocompleteLimit
  | historyLimit => Nat.toDigits 10 settings.historyLimit
  | enterDirection => quoted (directionWord settings.enterDirection)

/-- The token that the text for the value of a setting is. -/
def token (settings : Settings) : Field → Token
  | autoCloseParentheses => .boolean settings.autoCloseParentheses
  | autocompleteLimit => .number (Nat.toDigits 10 settings.autocompleteLimit)
  | historyLimit => .number (Nat.toDigits 10 settings.historyLimit)
  | enterDirection => .string ((directionWord settings.enterDirection).map .plain)

theorem scans_written (settings : Settings) (field : Field) :
    Scans (field.written settings) [field.token settings] := by
  cases field with
  | autoCloseParentheses => exact scans_booleanWord _
  | autocompleteLimit => exact Json.Token.scans_toDigits _
  | historyLimit => exact Json.Token.scans_toDigits _
  | enterDirection => exact scans_quoted (isPlain_of_mem_directionWord _)

theorem noEnd_written (settings : Settings) (field : Field) : '\n' ∉ field.written settings := by
  cases field with
  | autoCloseParentheses =>
      change '\n' ∉ booleanWord settings.autoCloseParentheses
      cases settings.autoCloseParentheses <;> decide
  | autocompleteLimit => exact fun member => absurd (Text.isDigits_toDigits _ _ member) (by decide)
  | historyLimit => exact fun member => absurd (Text.isDigits_toDigits _ _ member) (by decide)
  | enterDirection =>
      change '\n' ∉ quoted (directionWord settings.enterDirection)
      cases settings.enterDirection <;> decide

theorem isPlain_of_mem_key (field : Field) :
    ∀ character ∈ field.key, Json.isPlain character = true :=
  List.all_eq_true.mp (by cases field <;> decide)

theorem ofKey?_key (field : Field) : ofKey? field.key = some field := by
  cases field <;> decide

end Field

/-! ## Members -/

namespace Given

/-- The value of a setting has not been given yet. -/
def Lacks (given : Given) : Field → Prop
  | .autoCloseParentheses => given.autoCloseParentheses = none
  | .autocompleteLimit => given.autocompleteLimit = none
  | .historyLimit => given.historyLimit = none
  | .enterDirection => given.enterDirection = none

/-- What is given together with the value that one setting has in all settings. -/
def adding (settings : Settings) (given : Given) : Field → Given
  | .autoCloseParentheses =>
      { given with autoCloseParentheses := some settings.autoCloseParentheses }
  | .autocompleteLimit => { given with autocompleteLimit := some settings.autocompleteLimit }
  | .historyLimit => { given with historyLimit := some settings.historyLimit }
  | .enterDirection => { given with enterDirection := some settings.enterDirection }

theorem lacks_nothing (field : Field) : nothing.Lacks field := by
  cases field <;> rfl

/-- The value of one setting is not the value of another. -/
theorem Lacks.adding {added : Field} (lacks : given.Lacks field) (other : field ≠ added) :
    (given.adding settings added).Lacks field := by
  cases field <;> cases added <;> first | exact lacks | exact absurd rfl other

/-- With the values of all settings, nothing is left to the defaults. -/
theorem complete_adding_all (settings : Settings) :
    (Field.all.foldl (adding settings) nothing).complete = settings := rfl

end Given

theorem readField?_token (representable : settings.Representable) (lacks : given.Lacks field)
    (rest : List Token) :
    readField? given (field.token settings :: rest) field =
      some (given.adding settings field, rest) := by
  cases field with
  | autoCloseParentheses =>
      have isNew : given.autoCloseParentheses = none := lacks
      simp [readField?, isNew, Field.token, readBoolean?, Given.adding]
  | autocompleteLimit =>
      have isNew : given.autocompleteLimit = none := lacks
      simp [readField?, isNew, Field.token, readCount?,
        countOf?_toDigits representable.autocompleteLimit_lt, Given.adding]
  | historyLimit =>
      have isNew : given.historyLimit = none := lacks
      simp [readField?, isNew, Field.token, readCount?,
        countOf?_toDigits representable.historyLimit_lt, Given.adding]
  | enterDirection =>
      have isNew : given.enterDirection = none := lacks
      simp [readField?, isNew, Field.token, readDirection?, directionOf?_directionWord,
        Given.adding]

/-- The tokens of a key and its value. -/
def memberTokens (settings : Settings) (field : Field) : List Token :=
  [.string (field.key.map .plain), .colon, field.token settings]

/-- The tokens of an object from its first key on. -/
def objectTokens (settings : Settings) : List Field → List Token
  | [] => [.closeBrace]
  | [field] => memberTokens settings field ++ [.closeBrace]
  | field :: others => memberTokens settings field ++ .comma :: objectTokens settings others

theorem readMember?_key (representable : settings.Representable) (lacks : given.Lacks field)
    (rest : List Token) :
    readMember? given (field.key.map .plain) (field.token settings :: rest) =
      some (given.adding settings field, rest) := by
  unfold readMember?
  simp only [Json.StringUnit.decode?_plain, Option.bind_eq_bind, Option.bind_some, Field.ofKey?_key]
  exact readField?_token representable lacks rest

/-- A member with a comma behind it is read, and the members after it with what it gives. -/
theorem readMembers?_memberTokens (representable : settings.Representable)
    (lacks : given.Lacks field) (step : Token) (steps tokens : List Token) :
    readMembers? given (step :: steps) (memberTokens settings field ++ .comma :: tokens) =
      readMembers? (given.adding settings field) steps tokens := by
  simp only [memberTokens, List.cons_append, List.nil_append, readMembers?,
    readMember?_key representable lacks, Option.bind_eq_bind, Option.bind_some]

/-- The member before the end of the object is the last one read. -/
theorem readMembers?_lastMember (representable : settings.Representable)
    (lacks : given.Lacks field) (step : Token) (steps : List Token) :
    readMembers? given (step :: steps) (memberTokens settings field ++ [.closeBrace]) =
      some (given.adding settings field) := by
  simp only [memberTokens, List.cons_append, List.nil_append, readMembers?,
    readMember?_key representable lacks, Option.bind_eq_bind, Option.bind_some]

/-- One member after the other is read, if each is the first of its setting. -/
theorem readMembers?_objectTokens (representable : settings.Representable) {fields : List Field}
    (nonempty : fields ≠ []) (distinct : fields.Nodup)
    (lacks : ∀ field ∈ fields, given.Lacks field) {steps : List Token}
    (enough : fields.length ≤ steps.length) :
    readMembers? given steps (objectTokens settings fields) =
      some (fields.foldl (Given.adding settings) given) := by
  -- What is given grows with each member, and still lacks the settings to come.
  induction fields generalizing given steps with
  | nil => exact absurd rfl nonempty
  | cons field others inductionHypothesis =>
      obtain ⟨isNew, lacksOthers⟩ := List.forall_mem_cons.mp lacks
      obtain ⟨notLater, distinct⟩ := List.nodup_cons.mp distinct
      cases steps with
      | nil => exact absurd enough (Nat.not_succ_le_zero _)
      | cons step steps =>
          cases others with
          | nil => exact readMembers?_lastMember representable isNew step steps
          | cons next others =>
              have lacksLater : ∀ later ∈ next :: others,
                  (given.adding settings field).Lacks later := fun later member =>
                (lacksOthers later member).adding fun same => notLater (same ▸ member)
              rw [objectTokens, readMembers?_memberTokens representable isNew, List.foldl_cons]
              · exact inductionHypothesis (List.cons_ne_nil _ _) distinct lacksLater
                  (Nat.le_of_succ_le_succ enough)
              · exact List.cons_ne_nil _ _

/-! ## Saved files -/

theorem memberLine_eq (field : Field) (value : Text) :
    memberLine field value = [' ', ' '] ++ '"' :: (field.key ++ '"' :: ':' :: ' ' :: value) := by
  simp [memberLine, quoted]

/-- The lines of a saved file are the braces, and a line for each setting. -/
theorem fileLines_cases {line : Text} (member : line ∈ settings.fileLines) :
    line = ['\x7b'] ∨ line = ['\x7d'] ∨
      ∃ field ending, line = memberLine field (field.written settings) ++ ending ∧
        (ending = [','] ∨ ending = []) := by
  simp only [fileLines, List.mem_cons, List.not_mem_nil, or_false] at member
  rcases member with rfl | rfl | rfl | rfl | rfl | rfl
  · exact .inl rfl
  · exact .inr (.inr ⟨.autoCloseParentheses, _, rfl, .inl rfl⟩)
  · exact .inr (.inr ⟨.autocompleteLimit, _, rfl, .inl rfl⟩)
  · exact .inr (.inr ⟨.historyLimit, _, rfl, .inl rfl⟩)
  · exact .inr (.inr ⟨.enterDirection, [], (List.append_nil _).symm, .inr rfl⟩)
  · exact .inr (.inl rfl)

/-- No line of a saved file has a line end in it. -/
theorem noEnd_of_mem_fileLines {line : Text} (member : line ∈ settings.fileLines) :
    '\n' ∉ line := by
  rcases fileLines_cases member with rfl | rfl | ⟨field, ending, rfl, isEnding⟩
  · decide
  · decide
  · have noEndKey := noEnd_of_plain field.isPlain_of_mem_key
    have noEndValue := field.noEnd_written settings
    have noEndEnding : '\n' ∉ ending := by
      rcases isEnding with rfl | rfl <;> decide
    rw [memberLine_eq]
    simp [noEndKey, noEndValue, noEndEnding]

theorem lines_toFile (settings : Settings) : settings.toFile.lines = settings.fileLines :=
  Text.lines_joinLines (List.cons_ne_nil _ _) fun _ => noEnd_of_mem_fileLines

theorem scans_memberLine (settings : Settings) (field : Field) :
    Scans (memberLine field (field.written settings)) (memberTokens settings field) := by
  have key := scans_quoted field.isPlain_of_mem_key
  have value := ((field.scans_written settings).mark ' ' none fun _ => rfl).mark ':' (some .colon)
    fun _ => rfl
  have line := ((key.append value (Text.stops_cons.mpr rfl)).mark ' ' none fun _ => rfl).mark ' '
    none fun _ => rfl
  have parts : memberLine field (field.written settings) =
      ' ' :: ' ' :: (quoted field.key ++ ':' :: ' ' :: field.written settings) := by
    simp [memberLine_eq, quoted]
  rw [parts]
  exact line

/-- The tokens of each line of a saved file. -/
def fileTokens (settings : Settings) : List (List Token) :=
  [[.openBrace],
    memberTokens settings .autoCloseParentheses ++ [.comma],
    memberTokens settings .autocompleteLimit ++ [.comma],
    memberTokens settings .historyLimit ++ [.comma],
    memberTokens settings .enterDirection,
    [.closeBrace]]

theorem scans_fileLines (settings : Settings) :
    List.Forall₂ Scans settings.fileLines settings.fileTokens := by
  have comma : Scans [','] [.comma] := Scans.nil.mark ',' (some .comma) fun _ => rfl
  have separated (field : Field) : Scans (memberLine field (field.written settings) ++ [','])
      (memberTokens settings field ++ [.comma]) :=
    (scans_memberLine settings field).append comma (Text.stops_cons.mpr rfl)
  exact .cons (Scans.nil.mark '\x7b' (some .openBrace) fun _ => rfl) <|
    .cons (separated .autoCloseParentheses) <| .cons (separated .autocompleteLimit) <|
    .cons (separated .historyLimit) <| .cons (scans_memberLine settings .enterDirection) <|
    .cons (Scans.nil.mark '\x7d' (some .closeBrace) fun _ => rfl) .nil

theorem flatten_fileTokens (settings : Settings) :
    settings.fileTokens.flatten = .openBrace :: objectTokens settings Field.all := by
  simp [fileTokens, objectTokens, Field.all]

theorem givenBy?_fileTokens (representable : settings.Representable) :
    givenBy? settings.fileTokens.flatten =
      some (Field.all.foldl (Given.adding settings) .nothing) := by
  have nonempty : Field.all ≠ [] := by decide
  have distinct : Field.all.Nodup := by decide
  have enough : Field.all.length ≤ (objectTokens settings Field.all).length := by
    simp [objectTokens, memberTokens, Field.all]
  rw [flatten_fileTokens]
  -- The tokens of the object serve as the steps of the reader too.
  exact readMembers?_objectTokens representable nonempty distinct
    (fun field _ => Given.lacks_nothing field) enough

/-! ## Comments -/

theorem isComment_indented {indent : Text} (blank : ∀ character ∈ indent, isBlank character = true)
    (remark : Text) : isComment (indent ++ '/' :: '/' :: remark) = true := by
  rw [isComment, Text.trim_indented blank rfl, Text.trimEnd_cons rfl]
  rfl

theorem isComment_of_other {indent : Text} {first : Char}
    (blank : ∀ character ∈ indent, isBlank character = true) (solid : isBlank first = false)
    (other : first ≠ '/') (rest : Text) : isComment (indent ++ first :: rest) = false := by
  rw [isComment, Text.trim_indented blank solid]
  simp [List.isPrefixOf, Ne.symm other]

/-- No line of a saved file is a comment. -/
theorem isComment_of_mem_fileLines {line : Text} (member : line ∈ settings.fileLines) :
    isComment line = false := by
  rcases fileLines_cases member with rfl | rfl | ⟨field, ending, rfl, -⟩
  · decide
  · decide
  · rw [memberLine_eq, List.append_assoc, List.cons_append]
    exact isComment_of_other (List.all_eq_true.mp rfl) rfl (by decide) _

/-- Lines with whole-line comments before, between and after them: two slashes with any text behind
them and with nothing but blanks in front of them. -/
inductive Commented : List Text → List Text → Prop where
  | nil : Commented [] []
  | line (line : Text) {lines commented : List Text} (others : Commented lines commented) :
      Commented (line :: lines) (line :: commented)
  | comment (indent remark : Text) (blank : ∀ character ∈ indent, isBlank character = true)
      {lines commented : List Text} (others : Commented lines commented) :
      Commented lines ((indent ++ '/' :: '/' :: remark) :: commented)

theorem Commented.refl (lines : List Text) : Commented lines lines := by
  induction lines with
  | nil => exact .nil
  | cons line lines inductionHypothesis => exact .line line inductionHypothesis

theorem Commented.append {first firstCommented second secondCommented : List Text}
    (left : Commented first firstCommented) (right : Commented second secondCommented) :
    Commented (first ++ second) (firstCommented ++ secondCommented) := by
  induction left with
  | nil => exact right
  | line line _ inductionHypothesis => exact .line line inductionHypothesis
  | comment indent remark blank _ inductionHypothesis =>
      exact .comment indent remark blank inductionHypothesis

/-- Without comments, lines are what they were before comments were put among them. -/
theorem Commented.filter_eq {lines commented : List Text} (inserted : Commented lines commented) :
    (commented.filter fun line => !isComment line) = lines.filter fun line => !isComment line := by
  induction inserted with
  | nil => rfl
  | line line _ inductionHypothesis => rw [List.filter_cons, List.filter_cons, inductionHypothesis]
  | comment indent remark blank _ inductionHypothesis =>
      rw [List.filter_cons_of_neg (by simp [isComment_indented blank remark]), inductionHypothesis]

/-- Comments change nothing about a file. -/
theorem ofFile?_of_commented {contents : Text} (inserted : Commented contents.lines text.lines) :
    ofFile? text = ofFile? contents := by
  rw [ofFile?, ofFile?, withoutComments, withoutComments, inserted.filter_eq]

/-! ## Loading -/

theorem scans_emptyLines (count : Nat) :
    List.Forall₂ Scans (List.replicate count []) (List.replicate count []) := by
  induction count with
  | zero => exact .nil
  | succ count inductionHypothesis => exact .cons .nil inductionHypothesis

/-- Settings are read from their lines, with empty lines behind them. -/
theorem ofFile?_of_lines (representable : settings.Representable) (ends : Nat)
    (lines : text.lines = settings.fileLines ++ List.replicate ends []) :
    ofFile? text = some settings := by
  have kept : (text.lines.filter fun line => !isComment line) = text.lines := by
    rw [List.filter_eq_self, lines]
    intro line member
    rcases List.mem_append.mp member with inFile | isEnd
    · rw [isComment_of_mem_fileLines inFile, Bool.not_false]
    · rw [List.eq_of_mem_replicate isEnd]
      rfl
  have scanned := (Scans.joinLines
    (List.rel_append (scans_fileLines settings) (scans_emptyLines ends))).scanAll?
  rw [List.flatten_append, List.flatten_replicate_nil, List.append_nil] at scanned
  rw [ofFile?, withoutComments, kept, lines, scanned]
  simp only [Option.bind_eq_bind, Option.bind_some, givenBy?_fileTokens representable,
    Given.complete_adding_all]

/-- Settings are read back from the file they are saved to, and from any file that has its lines and
whole-line comments before, between and after them, with a line end behind the last line or without
one. -/
theorem saved_settings_load_back (settings : Settings) (representable : settings.Representable) :
    ofFile? settings.toFile = some settings ∧
      ∀ text : Text, Commented settings.toFile.lines text.lines →
        ofFile? text = some settings ∧ ofFile? (text ++ ['\n']) = some settings := by
  have lines : settings.toFile.lines = settings.fileLines ++ List.replicate 0 [] := by
    rw [lines_toFile, List.replicate_zero, List.append_nil]
  have linesWithEnd : (settings.toFile ++ ['\n']).lines =
      settings.fileLines ++ List.replicate 1 [] := by
    rw [Text.lines_append, lines_toFile]
    rfl
  have loads := ofFile?_of_lines representable 0 lines
  have loadsWithEnd := ofFile?_of_lines representable 1 linesWithEnd
  refine ⟨loads, fun text inserted => ⟨(ofFile?_of_commented inserted).trans loads, ?_⟩⟩
  have insertedWithEnd : Commented (settings.toFile ++ ['\n']).lines (text ++ ['\n']).lines := by
    rw [Text.lines_append, Text.lines_append]
    exact inserted.append (.refl _)
  exact (ofFile?_of_commented insertedWithEnd).trans loadsWithEnd

/-- The greatest count, the least one, and comments with different blanks in front of them before,
between and after the lines. -/
theorem saved_settings_load_back_with_comments :
    let settings : Settings := ⟨false, 18446744073709551615, 0, .right⟩
    let text : Text := Text.joinLines (["// Preferences", "\x7b", "\t//no parentheses",
      "  \"formula.autoCloseParens\": false,",
      "  \"formula.autocompleteLimit\": 18446744073709551615,",
      "\u3000// \"history.maxEntries\": 1,", "//", "  \"history.maxEntries\": 0,",
      "  \"editor.enterDirection\": \"right\"", "\x7d", "  // the end\r"].map String.toList)
    settings.Representable ∧ Commented settings.toFile.lines text.lines ∧
      ofFile? text = some settings := by
  intro settings text
  have representable : settings.Representable := ⟨by decide, by decide⟩
  have lines : text.lines = ['/' :: '/' :: " Preferences".toList, "\x7b".toList,
      '\t' :: '/' :: '/' :: "no parentheses".toList,
      memberLine .autoCloseParentheses (booleanWord false) ++ [','],
      memberLine .autocompleteLimit (Nat.toDigits 10 18446744073709551615) ++ [','],
      '\u3000' :: '/' :: '/' :: " \"history.maxEntries\": 1,".toList, ['/', '/'],
      memberLine .historyLimit (Nat.toDigits 10 0) ++ [','],
      memberLine .enterDirection (quoted (directionWord .right)), "\x7d".toList,
      ' ' :: ' ' :: '/' :: '/' :: " the end\r".toList] := by
    decide +kernel
  have inserted : Commented settings.toFile.lines text.lines := by
    rw [lines_toFile, lines]
    have blank {indent : Text} (all : indent.all isBlank = true) :=
      List.all_eq_true.mp all
    exact .comment [] _ (blank rfl) <| .line _ <| .comment ['\t'] _ (blank rfl) <|
      .line _ <| .line _ <| .comment ['\u3000'] _ (blank rfl) <| .comment [] [] (blank rfl) <|
      .line _ <| .line _ <| .line _ <| .comment [' ', ' '] _ (blank rfl) .nil
  have loads := (saved_settings_load_back settings representable).2 text inserted
  exact ⟨representable, inserted, loads.1⟩

end SheetEditor.Settings
