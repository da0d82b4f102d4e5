import SheetEditor.Function.Catalog
import SheetEditor.Proofs.Formula.LetterCase
import SheetEditor.Proofs.Formula.Separation

/-!
Contract: calls of the built-in functions.

Owns: the text of a call, its lexemes, that arguments derive in a call what they
derive alone, and which of the built-in functions a formula can call.

Does not own: the call that signature help shows (`SheetEditor.Proofs.Draft.ActiveCall`).

The strict scan decides whether a word is a cell before it looks for a parenthesis.
The name of one built-in function is also the name of a cell, so no formula can
call that function.
-/

namespace SheetEditor.Formula

open Text (Stops)

/-- A name, and arguments between parentheses. -/
def callText (name : Text) (arguments : List Text) : Text :=
  name ++ '(' :: ([','].intercalate arguments ++ [')'])

/-! ## Lexemes of calls -/

namespace Lexeme

theorem isStep_openParenthesis : IsStep ⟨['('], some .openParenthesis⟩ :=
  ⟨'(', [], rfl, fun _ _ _ => rfl⟩

theorem isStep_closeParenthesis : IsStep ⟨[')'], some .closeParenthesis⟩ :=
  ⟨')', [], rfl, fun _ _ _ => rfl⟩

theorem isStep_comma : IsStep ⟨[','], some .comma⟩ := ⟨',', [], rfl, fun _ _ _ => rfl⟩

end Lexeme

/-- Nothing is read with a comma or a parenthesis after it. -/
theorem continuedBy_eq_false {next : Char} (mark : next = ',' ∨ next = '(' ∨ next = ')')
    (token : Option Token) : Token.continuedBy token next = false := by
  unfold Token.continuedBy
  rcases mark with rfl | rfl | rfl <;> split <;> rfl

/-- Arguments that are accepted on their own are the arguments of a call. -/
theorem exists_arguments {arguments : List (Text × Expr)} (nonempty : arguments ≠ [])
    (parsed : ∀ argument ∈ arguments, parse argument.1 = .ok argument.2) :
    ∃ lexemes, Lexeme.Apart lexemes ∧
      Lexeme.written lexemes = [','].intercalate (arguments.map Prod.fst) ∧
      Lexeme.tokens lexemes ≠ [] ∧
      Derives (Lexeme.tokens lexemes) (.arguments (arguments.map Prod.snd)) := by
  induction arguments with
  | nil => exact absurd rfl nonempty
  | cons argument others inductionHypothesis =>
      rw [List.forall_mem_cons] at parsed
      obtain ⟨lexemes, apart, writtenEq, derives⟩ := Lexeme.exists_apart_of_parse parsed.1
      have hasTokens : Lexeme.tokens lexemes ≠ [] := by
        obtain ⟨first, rest, tokens, _⟩ := derives.begins
        exact tokens ▸ List.cons_ne_nil first rest
      cases others with
      | nil =>
          exact ⟨lexemes, apart, by simpa using writtenEq, hasTokens, .lastArgument (.given derives)⟩
      | cons next others =>
          obtain ⟨later, apartLater, writtenLater, _, derivesLater⟩ :=
            inductionHypothesis (List.cons_ne_nil _ _) parsed.2
          have apartComma : Lexeme.Apart (⟨[','], some .comma⟩ :: later) :=
            .cons Lexeme.isStep_comma (fun _ _ => rfl) apartLater
          refine ⟨lexemes ++ ⟨[','], some .comma⟩ :: later, apart.append apartComma ?_, ?_, ?_⟩
          · exact fun lexeme _ => Text.stops_cons.mpr (continuedBy_eq_false (.inl rfl) _)
          · simp [writtenEq, writtenLater]
          · rw [Lexeme.tokens_append, Lexeme.tokens_cons]
            exact ⟨List.append_ne_nil_of_left_ne_nil hasTokens _,
              .nextArgument (.given derives) rfl derivesLater⟩

/-- The tokens of a call: its name, and the arguments between parentheses. -/
theorem scanned_call {name : Text} {token : Token} {arguments : List (Text × Expr)}
    (isName : Lexeme.IsStep ⟨name, some token⟩)
    (parsed : ∀ argument ∈ arguments, parse argument.1 = .ok argument.2) :
    ∃ inner, Scanned (callText name (arguments.map Prod.fst))
        (token :: .openParenthesis :: (inner ++ [.closeParenthesis])) ∧
      (inner = [] ∧ arguments = [] ∨
        inner ≠ [] ∧ Derives inner (.arguments (arguments.map Prod.snd))) := by
  obtain ⟨lexemes, apart, writtenEq, derives⟩ : ∃ lexemes, Lexeme.Apart lexemes ∧
      Lexeme.written lexemes = [','].intercalate (arguments.map Prod.fst) ∧
      (Lexeme.tokens lexemes = [] ∧ arguments = [] ∨ Lexeme.tokens lexemes ≠ [] ∧
        Derives (Lexeme.tokens lexemes) (.arguments (arguments.map Prod.snd))) := by
    by_cases empty : arguments = []
    · exact ⟨[], .nil, by rw [empty]; rfl, .inl ⟨rfl, empty⟩⟩
    · obtain ⟨lexemes, apart, writtenEq, derives⟩ := exists_arguments empty parsed
      exact ⟨lexemes, apart, writtenEq, .inr derives⟩
  have closed : Lexeme.Apart [⟨[')'], some .closeParenthesis⟩] :=
    .cons Lexeme.isStep_closeParenthesis Text.stops_nil .nil
  have inside : Lexeme.Apart (lexemes ++ [⟨[')'], some .closeParenthesis⟩]) :=
    apart.append closed fun lexeme _ =>
      Text.stops_cons.mpr (continuedBy_eq_false (.inr (.inr rfl)) _)
  have call : Lexeme.Apart (⟨name, some token⟩ :: ⟨['('], some .openParenthesis⟩ ::
      (lexemes ++ [⟨[')'], some .closeParenthesis⟩])) :=
    .cons isName (Text.stops_cons.mpr (continuedBy_eq_false (.inr (.inl rfl)) _))
      (.cons Lexeme.isStep_openParenthesis (fun _ _ => rfl) inside)
  refine ⟨Lexeme.tokens lexemes, ?_, derives⟩
  have scanned := call.scanned
  simpa [callText, Lexeme.tokens_cons, writtenEq] using scanned

theorem parse_of_scanned_name {name : Text} {function : Text} {arguments : List (Text × Expr)}
    (isName : Lexeme.IsStep ⟨name, some (.identifier function)⟩)
    (parsed : ∀ argument ∈ arguments, parse argument.1 = .ok argument.2)
    (short : (callText name (arguments.map Prod.fst)).length ≤ lengthLimit)
    (shallow : ∀ tokens, Token.scanAll (callText name (arguments.map Prod.fst)) = .ok tokens →
      isShallow tokens = true) :
    parse (callText name (arguments.map Prod.fst)) =
      .ok (.call function (arguments.map Prod.snd)) := by
  obtain ⟨inner, scanned, derives⟩ := scanned_call isName parsed
  refine parse_of_derives short (scanned 0) (shallow _ (scanned 0)) ?_
  refine .joined_of_signed (.unsigned (.unmarked ?_)) .comparison
  rcases derives with ⟨rfl, rfl⟩ | ⟨nonempty, derives⟩
  · exact .callEmpty function
  · exact .call nonempty derives

/-- A cell is a whole expression in front of a parenthesis. -/
theorem descend_cell (budget : Descent.Budget) (address : CellAddress)
    (columnAbsolute rowAbsolute : Bool) (rest : List Token) :
    descend budget (.cell address columnAbsolute rowAbsolute :: .openParenthesis :: rest) =
      .ok (.cell none address columnAbsolute rowAbsolute, .openParenthesis :: rest) := by
  obtain ⟨brackets, signs⟩ := budget
  cases brackets <;> cases signs <;> rfl

theorem parse_of_scanned_cell {name : Text} {address : CellAddress}
    {columnAbsolute rowAbsolute : Bool} {arguments : List (Text × Expr)}
    (isCell : Lexeme.IsStep ⟨name, some (.cell address columnAbsolute rowAbsolute)⟩)
    (parsed : ∀ argument ∈ arguments, parse argument.1 = .ok argument.2)
    (short : (callText name (arguments.map Prod.fst)).length ≤ lengthLimit)
    (shallow : ∀ tokens, Token.scanAll (callText name (arguments.map Prod.fst)) = .ok tokens →
      isShallow tokens = true) :
    parse (callText name (arguments.map Prod.fst)) = .error (.unexpectedToken 1) := by
  obtain ⟨inner, scanned, _⟩ := scanned_call isCell parsed
  have shallow := shallow _ (scanned 0)
  unfold parse
  rw [if_neg (Nat.not_lt.mpr short), Token.scanAll, scanned 0]
  simp only [bind, Except.bind]
  rw [if_neg (List.cons_ne_nil _ _), shallow, parseTokens, descend_cell]
  simp

/-! ## The built-in functions -/

/-- The token of the name of a function. One name is read as a cell. -/
def nameToken (name : Text) : Token :=
  if name = "LOG10".toList then .cell ⟨9, 8508⟩ false false else .identifier name

/-- The names of the built-in functions are single words. -/
theorem word_of_mem_functions :
    ∀ function ∈ Catalog.functions, function.name.head?.any Char.isAlpha = true ∧
      Token.identifierLength true function.name.tail = function.name.tail.length ∧
      (Token.ofIdentifier function.name).toOption = some (nameToken function.name) := by
  decide +kernel

/-- In every letter case they are one step of the scan. -/
theorem isStep_catalogName {function : FunctionInfo} {name : Text}
    (listed : function ∈ Catalog.functions) (spelled : name.upper = function.name) :
    Lexeme.IsStep ⟨name, some (nameToken function.name)⟩ := by
  obtain ⟨begins, whole, named⟩ := word_of_mem_functions function listed
  rw [← spelled] at begins whole named ⊢
  cases name with
  | nil => cases begins
  | cons first following =>
      have isAlpha : first.isAlpha = true := by simpa [Text.upper] using begins
      have length : Token.identifierLength true following = following.length := by
        rw [← Token.identifierLength_upper, ← Text.length_upper]
        exact whole
      have isToken : Token.ofIdentifier (Text.upper (first :: following)) =
          .ok (nameToken (Text.upper (first :: following))) := by
        cases found : Token.ofIdentifier (Text.upper (first :: following)) with
        | error failure =>
            rw [found] at named
            cases named
        | ok token =>
            rw [found] at named
            cases named
            rfl
      exact Lexeme.isStep_word (by simp [Token.beginsIdentifier, isAlpha]) length
        (Token.ofIdentifier_upper_eq_ok_iff.mp isToken)

/-- A call of a built-in function, its name in any letter case, with arguments that are accepted on
their own, is that function with the values of the arguments, as long as the call respects the limits
on length and nesting. The exception is the function whose name is a cell: no call of it is accepted,
because of the parenthesis after the cell. -/
theorem parse_call {function : FunctionInfo} {name : Text} {arguments : List (Text × Expr)}
    (listed : function ∈ Catalog.functions) (spelled : name.upper = function.name)
    (parsed : ∀ argument ∈ arguments, parse argument.1 = .ok argument.2)
    (short : (callText name (arguments.map Prod.fst)).length ≤ lengthLimit)
    (shallow : ∀ tokens, Token.scanAll (callText name (arguments.map Prod.fst)) = .ok tokens →
      isShallow tokens = true) :
    parse (callText name (arguments.map Prod.fst)) =
      if function.name = "LOG10".toList then .error (.unexpectedToken 1)
      else .ok (.call function.name (arguments.map Prod.snd)) := by
  have isStep := isStep_catalogName listed spelled
  unfold nameToken at isStep
  split at isStep
  · next isCell =>
      rw [if_pos isCell]
      exact parse_of_scanned_cell isStep parsed short shallow
  · next isName =>
      rw [if_neg isName]
      exact parse_of_scanned_name isStep parsed short shallow

/-- A name with a point in mixed letter case, with marks inside of the arguments, and the name that
is a cell. -/
theorem parse_call_of_two_names :
    let arguments : List (Text × Expr) :=
      [("\"1,(\"".toList, .text "1,(".toList), (" c3:$A$1 ".toList, .range none ⟨2, 2⟩ ⟨0, 0⟩)]
    (∀ argument ∈ arguments, parse argument.1 = .ok argument.2) ∧
      parse (callText "stDev.P".toList (arguments.map Prod.fst)) =
        .ok (.call "STDEV.P".toList (arguments.map Prod.snd)) ∧
      parse (callText "Log10".toList (arguments.map Prod.fst)) = .error (.unexpectedToken 1) := by
  intro arguments
  have parsed : ∀ argument ∈ arguments, parse argument.1 = .ok argument.2 := by
    simp only [arguments, List.forall_mem_cons]
    refine ⟨?_, ?_, by simp⟩
    · exact parse_of_single (by decide) (by decide +kernel) (by decide) (.text _)
    · exact parse_of_single (by decide) (by decide +kernel) (by decide)
        (.reference (.range _ _ false false true true))
  have call {function : FunctionInfo} {name : Text} (listed : function ∈ Catalog.functions)
      (spelled : name.upper = function.name)
      (short : (callText name (arguments.map Prod.fst)).length ≤ lengthLimit)
      (shallow : (Token.scanAll (callText name (arguments.map Prod.fst))).toOption.any isShallow =
        true) := by
    refine parse_call listed spelled parsed short fun tokens scanned => ?_
    rw [scanned] at shallow
    exact shallow
  obtain ⟨deviation, listed, named⟩ :
      ∃ function ∈ Catalog.functions, function.name = "STDEV.P".toList := by decide +kernel
  obtain ⟨logarithm, listedLogarithm, namedLogarithm⟩ :
      ∃ function ∈ Catalog.functions, function.name = "LOG10".toList := by decide +kernel
  refine ⟨parsed, ?_, ?_⟩
  · rw [call listed (by rw [named]; decide) (by decide) (by decide +kernel), named]
    rfl
  · rw [call listedLogarithm (by rw [namedLogarithm]; decide) (by decide) (by decide +kernel),
      namedLogarithm]
    rfl

/-- Not every built-in function can be called. -/
theorem not_parse_call :
    ¬ ∀ function ∈ Catalog.functions, ∀ (name : Text) (arguments : List (Text × Expr)),
      name.upper = function.name →
      (∀ argument ∈ arguments, parse argument.1 = .ok argument.2) →
      (callText name (arguments.map Prod.fst)).length ≤ lengthLimit →
      (∀ tokens, Token.scanAll (callText name (arguments.map Prod.fst)) = .ok tokens →
        isShallow tokens = true) →
      parse (callText name (arguments.map Prod.fst)) =
        .ok (.call function.name (arguments.map Prod.snd)) := by
  intro called
  obtain ⟨logarithm, listed, named⟩ :
      ∃ function ∈ Catalog.functions, function.name = "LOG10".toList := by decide +kernel
  have hundred : parse "100".toList = .ok (.number ⟨0x4059000000000000⟩) :=
    parse_of_single (by decide) (by decide +kernel) (by decide) (.number _)
  have shallow : (Token.scanAll "LOG10(100)".toList).toOption.any isShallow = true := by
    decide +kernel
  have rejected : (parse "LOG10(100)".toList).isOk = false := by decide +kernel
  have accepted := called logarithm listed "LOG10".toList [("100".toList, _)] (by rw [named]; decide)
    (by simpa using hundred) (by decide) fun tokens scanned => by
      change Token.scanAll "LOG10(100)".toList = _ at scanned
      rw [scanned] at shallow
      exact shallow
  change parse "LOG10(100)".toList = _ at accepted
  rw [accepted] at rejected
  cases rejected

end SheetEditor.Formula
