import SheetEditor.Draft.Analysis
import SheetEditor.Proofs.Draft.Operands
import SheetEditor.Proofs.Draft.Outline
import SheetEditor.Proofs.Draft.Tiling

/-!
Contract: the call that signature help shows while its arguments are typed.

Owns: the open parentheses after the tokens of whole arguments, the token of a
function name in front of a parenthesis, the function and the argument found at
the end of a call that is still open, and the calls in which that argument is not
the one being typed.

The argument is a number of commas, since the tokens around it are not parsed. The
semicolons that separate arguments are left out of it, and the commas of an array
constant are counted like others.
-/

namespace SheetEditor.Draft

open Text (Nested Outlines Stops)

variable {text rest following : Text} {first : Char}

/-! ## Open parentheses after tokens -/

namespace Frame

variable {tokens : List Token} {previous : Option Token} {frames outer : List Frame}
  {innermost : Frame}

theorem afterTokens_append (previous : Option Token) (frames : List Frame)
    (before tokens : List Token) :
    ∃ last, afterTokens previous frames (before ++ tokens) =
      afterTokens last (afterTokens previous frames before) tokens := by
  induction before generalizing previous frames with
  | nil => exact ⟨previous, rfl⟩
  | cons token before inductionHypothesis => exact inductionHypothesis _ _

/-- The parentheses among tokens are single characters. -/
def AreSingle (tokens : List Token) : Prop :=
  ∀ token ∈ tokens, token.kind = .parenthesis → token.text = ['('] ∨ token.text = [')']

theorem AreSingle.of_subset {others : List Token} (single : AreSingle tokens)
    (subset : others ⊆ tokens) : AreSingle others :=
  fun token member => single token (subset member)

theorem step_of_outlined?_eq_none {token : Token} (none : token.outlined? = none) :
    step previous frames token = frames := by
  obtain ⟨kind, text, start⟩ := token
  cases kind with
  | parenthesis =>
      simp only [Token.outlined?] at none
      split at none <;> cases none
  | comma => cases none
  | _ => rfl

theorem afterTokens_of_outlined?_eq_none (none : ∀ token ∈ tokens, token.outlined? = none) :
    afterTokens previous frames tokens = frames := by
  induction tokens generalizing previous with
  | nil => rfl
  | cons token tokens inductionHypothesis =>
      rw [List.forall_mem_cons] at none
      rw [afterTokens, step_of_outlined?_eq_none none.1, inductionHypothesis none.2]

theorem step_of_comma {token : Token} (isComma : token.outlined? = some ',') :
    step previous (innermost :: outer) token =
      { innermost with argument := innermost.argument + 1 } :: outer := by
  obtain ⟨kind, _⟩ | ⟨_, ⟨_, other⟩ | ⟨_, other⟩⟩ := Token.outlined?_cases isComma
  · unfold step
    rw [kind]
  · cases other
  · cases other

theorem step_of_open {token : Token} (isOpen : token.outlined? = some '(') :
    ∃ function, step previous frames token = ⟨function, 0⟩ :: frames := by
  obtain ⟨_, other⟩ | ⟨kind, ⟨opens, _⟩ | ⟨_, other⟩⟩ := Token.outlined?_cases isOpen
  · cases other
  · unfold step
    rw [kind]
    exact ⟨_, if_pos opens⟩
  · cases other

theorem step_of_close {token : Token} (isClose : token.outlined? = some ')')
    (single : token.kind = .parenthesis → token.text = ['('] ∨ token.text = [')']) :
    step previous frames token = frames.tail := by
  obtain ⟨_, other⟩ | ⟨kind, ⟨_, other⟩ | ⟨notOpen, _⟩⟩ := Token.outlined?_cases isClose
  · cases other
  · cases other
  · have closes := (single kind).resolve_left notOpen
    unfold step
    rw [kind]
    exact (if_neg notOpen).trans (if_pos closes)

/-- The tokens up to the first one of an outline change nothing. -/
theorem afterTokens_of_cons {character : Char} {outline : Text}
    (outlined : tokens.filterMap Token.outlined? = character :: outline)
    (previous : Option Token) (frames : List Frame) :
    ∃ last token after, token ∈ tokens ∧ token.outlined? = some character ∧ after ⊆ tokens ∧
      after.filterMap Token.outlined? = outline ∧
      afterTokens previous frames tokens = afterTokens (some token) (step last frames token) after := by
  obtain ⟨before, token, after, rfl, none, isFirst, outlined⟩ :=
    List.filterMap_eq_cons_iff.mp outlined
  obtain ⟨last, reached⟩ := afterTokens_append previous frames before (token :: after)
  rw [afterTokens_of_outlined?_eq_none none] at reached
  exact ⟨last, token, after, List.mem_append_right _ List.mem_cons_self, isFirst,
    fun other member => List.mem_append_right _ (List.mem_cons_of_mem _ member), outlined, reached⟩

/-- Tokens whose parentheses pair up leave the innermost open parenthesis open, with the commas
outside of them counted. -/
theorem afterTokens_of_nested {outline : Text} {commas : Nat} (nested : Nested outline commas)
    (outlined : tokens.filterMap Token.outlined? = outline) (single : AreSingle tokens) :
    afterTokens previous (innermost :: outer) tokens =
      { innermost with argument := innermost.argument + commas } :: outer := by
  induction nested generalizing tokens previous innermost outer with
  | nil => exact afterTokens_of_outlined?_eq_none (List.filterMap_eq_nil_iff.mp outlined)
  | @comma later commas _ inductionHypothesis =>
      obtain ⟨_, _, after, _, isComma, subset, outlined, reached⟩ :=
        afterTokens_of_cons outlined previous (innermost :: outer)
      rw [reached, step_of_comma isComma, inductionHypothesis outlined (single.of_subset subset),
        Nat.add_assoc, Nat.add_comm 1]
  | @group inside later inner commas _ _ insideHypothesis laterHypothesis =>
      -- Whatever function the group belongs to, its commas are counted in a frame of its own, and
      -- the closing parenthesis drops that frame.
      obtain ⟨_, opening, afterOpening, _, isOpen, subset, outlined, opened⟩ :=
        afterTokens_of_cons outlined previous (innermost :: outer)
      obtain ⟨function, stepOpen⟩ := step_of_open isOpen
      obtain ⟨enclosed, fromClosing, rfl, enclosedOutlined, outlined⟩ :=
        List.filterMap_eq_append_iff.mp outlined
      have singleAfter := single.of_subset subset
      obtain ⟨last, passed⟩ := afterTokens_append (some opening)
        (⟨function, 0⟩ :: innermost :: outer) enclosed fromClosing
      rw [insideHypothesis enclosedOutlined
        (singleAfter.of_subset (List.subset_append_left _ _))] at passed
      have singleClosing := singleAfter.of_subset (List.subset_append_right enclosed fromClosing)
      obtain ⟨_, closing, after, member, isClose, subset, outlined, closed⟩ :=
        afterTokens_of_cons outlined last (⟨function, 0 + inner⟩ :: innermost :: outer)
      rw [opened, stepOpen, passed, closed, step_of_close isClose (singleClosing closing member)]
      exact laterHypothesis outlined (singleClosing.of_subset subset)

end Frame

/-! ## Names of functions -/

namespace Token

/-- Only an identifier is a token of a function. -/
theorem identifierRule_of_classify (isFunction : (classify first following).1 = .function) :
    ∃ length, identifierRule (first :: following) = some (.function, length) ∧
      (classify first following).2 = length - 1 := by
  rcases classify_cases first following with ⟨rule, member, length, recognised, countEq⟩ | single
  · rw [isFunction] at recognised
    rcases rule_cases member recognised with ⟨isString, _⟩ | ⟨_, isIdentifier⟩ | listed
    · cases isString
    · exact ⟨length, isIdentifier, countEq⟩
    · simp at listed
  · rw [single] at isFunction
    dsimp only [punctuationKind] at isFunction
    split at isFunction <;> cases isFunction

/-- An identifier in front of a parenthesis is a token of a function. -/
theorem classify_called (begins : first.isAlpha = true ∨ first = '_')
    (inside : ∀ character ∈ following, inName character = true) (rest : Text) :
    classify first (following ++ '(' :: rest) = (.function, following.length) := by
  have stops : Stops continuesArea ('(' :: rest) := Text.stops_cons.mpr rfl
  have named := identifierLength?_run begins inside (stops_name stops)
  have insideAll : ∀ character ∈ first :: following, inName character = true :=
    List.forall_mem_cons.mpr ⟨inName_of_begins begins, inside⟩
  have insideRun : ∀ character ∈ first :: following, inRun character = true :=
    fun character member => by rw [inRun, insideAll character member, Bool.true_or]
  have unqualified : qualifierLength? (first :: following ++ '(' :: rest) = none :=
    qualifierLength?_append_eq_none (plain_of_class (by decide) insideAll) stops
  have unread : referenceLength? (first :: following ++ '(' :: rest) = none := by
    by_contra read
    obtain ⟨length, found⟩ := Option.ne_none_iff_exists'.mp read
    have boundary := (referenceLength?_run insideRun unqualified
      (stops.mono fun _ => continuesArea_of_inArea) found).2
    cases boundary
  have solid : SheetEditor.isBlank '(' = false := by decide
  have called : identifierRule (first :: (following ++ '(' :: rest)) =
      some (.function, following.length + 1) := by
    rw [identifierRule, named]
    simp [solid]
  rw [List.cons_append] at unqualified unread
  unfold classify
  rw [findSome?_of_unqualified (solid_of_inRun (insideRun first List.mem_cons_self)).1 unqualified,
    referenceRule, unread, called]
  rfl

/-- Whether a text is the token of a function when a parenthesis follows it. -/
def isFunctionName (function : Text) : Bool :=
  (scanAll (function ++ ['('])).head? = some ⟨.function, function, 0⟩

theorem exists_identifier_of_isFunctionName {function : Text}
    (isName : isFunctionName function = true) :
    ∃ first following, function = first :: following ∧ (first.isAlpha = true ∨ first = '_') ∧
      ∀ character ∈ following, inName character = true := by
  obtain ⟨first, following, written⟩ : ∃ first following, function ++ ['('] = first :: following :=
    List.exists_cons_of_ne_nil (by simp)
  have token : (⟨(classify first following).1, first :: following.take (classify first following).2,
      0⟩ : Token) = ⟨.function, function, 0⟩ := by
    have scanned := of_decide_eq_true isName
    rw [written, scanAll, scanFrom_cons] at scanned
    exact Option.some.inj scanned
  obtain ⟨length, recognised, countEq⟩ := identifierRule_of_classify (congrArg Token.kind token)
  obtain ⟨nameLength, named, pair⟩ := Option.bind_eq_some_iff.mp recognised
  obtain ⟨-, rfl⟩ : _ ∧ nameLength = length := by simpa using pair
  have begins : first.isAlpha = true ∨ first = '_' := by
    by_contra outside
    rw [not_or, Bool.not_eq_true] at outside
    rw [identifierLength?_eq_none_of_ne outside.1 outside.2] at named
    cases named
  have members := inName_of_identifierLength? named
  obtain ⟨count, rfl⟩ := Nat.exists_eq_succ_of_ne_zero (identifierLength?_pos named).ne'
  rw [List.take_succ_cons, List.forall_mem_cons] at members
  have text := congrArg Token.text token
  rw [countEq] at text
  exact ⟨first, following.take count, text.symm, begins, members.2⟩

/-- The first tokens of a call are its function and a parenthesis. -/
theorem scanFrom_call {function : Text} (isName : isFunctionName function = true) (start : Nat)
    (rest : Text) :
    scanFrom start (function ++ '(' :: rest) =
      ⟨.function, function, start⟩ :: ⟨.parenthesis, ['('], start + function.length⟩ ::
        scanFrom (start + function.length + 1) rest := by
  obtain ⟨first, following, rfl, begins, inside⟩ := exists_identifier_of_isFunctionName isName
  have opened : classify '(' rest = (.parenthesis, 0) :=
    classify_of_standsAlone rfl (longOperatorRule_eq_none (by decide) (by decide))
  rw [List.cons_append, scanFrom_cons, classify_called begins inside, List.take_left,
    List.drop_left, scanFrom_cons, opened]
  rfl

end Token

/-! ## Whole arguments -/

/-- What stands between the arguments of a call. -/
inductive Separator where
  | comma
  | semicolon
deriving DecidableEq, Repr

namespace Separator

def mark : Separator → Char
  | .comma => ','
  | .semicolon => ';'

/-- Number of commas that a separator is. -/
def commas : Separator → Nat
  | .comma => 1
  | .semicolon => 0

/-- The outline of what follows a separator, with the separator in front. -/
theorem outlines_cons (separator : Separator) {outline : Text} {commas : Nat}
    (outlines : Outlines rest outline) (nested : Nested outline commas) :
    ∃ whole, Outlines (separator.mark :: rest) whole ∧
      Nested whole (separator.commas + commas) := by
  cases separator with
  | comma => exact ⟨_, .kept (.inr (.inr rfl)) outlines, Nat.add_comm 1 commas ▸ .comma nested⟩
  | semicolon => exact ⟨_, .plain rfl outlines, (Nat.zero_add commas).symm ▸ nested⟩

end Separator

/-- Number of commas in a body outside of its parentheses. In a formula they stand between the items
of array constants. -/
def outerCommas (body : Text) : Nat :=
  match Formula.Token.scanAll body with
  | .ok tokens => Text.outerCommas 0 (Formula.outline tokens)
  | .error _ => 0

/-- Whether no sheet prefix of a formula is empty. -/
def namesSheets (body : Text) : Bool :=
  match Formula.Token.scanAll body with
  | .ok tokens => .qualifier [] ∉ tokens
  | .error _ => true

/-- Whether a body is accepted by itself and names every sheet that it refers to. -/
def isArgument (body : Text) : Bool := (Formula.parse body).isOk && namesSheets body

/-- Whether an accepted body has an array constant among its operands, other than inside of calls. -/
def hasArrayOperand (body : Text) : Bool :=
  (Formula.parse body).toOption.any Formula.hasArrayOperand

/-- An argument outlines parentheses that pair up. Only array constants have commas outside of
them. -/
theorem exists_outline_of_isArgument {body : Text} (accepted : isArgument body = true) :
    ∃ outline, Outlines body outline ∧ Nested outline (outerCommas body) ∧
      (hasArrayOperand body = false → outerCommas body = 0) := by
  obtain ⟨parses, named⟩ := Bool.and_eq_true_iff.mp accepted
  cases parsed : Formula.parse body with
  | error failure => simp [parsed, Except.isOk, Except.toBool] at parses
  | ok value =>
      obtain ⟨tokens, scanned, derives⟩ := Formula.derives_of_parse parsed
      obtain ⟨lexemes, _, cuts, rfl⟩ := Formula.exists_lexemes scanned
      obtain ⟨commas, nested⟩ := derives.isNested
      have names : .qualifier [] ∉ Formula.Lexeme.tokens lexemes := by
        simpa [namesSheets, scanned] using named
      have counted {commas : Nat}
          (nested : Nested (Formula.outline (Formula.Lexeme.tokens lexemes)) commas) :
          outerCommas body = commas := by
        rw [outerCommas, scanned]
        exact nested.outerCommas_eq
      refine ⟨_, cuts.outlines names, counted nested ▸ nested, fun without => ?_⟩
      have noOperand : Formula.hasArrayOperand value = false := by
        simpa [hasArrayOperand, parsed, Except.toOption] using without
      exact counted (derives.nested_zero noOperand)

/-! ## Calls that are still open -/

/-- Arguments with the separators between them. -/
def argumentsText (first : Text) (others : List (Separator × Text)) : Text :=
  first ++ others.flatMap fun (separator, argument) => separator.mark :: argument

/-- A call up to the end of an argument. -/
def openCall (function first : Text) (others : List (Separator × Text)) : Text :=
  function ++ '(' :: argumentsText first others

/-- The commas that the arguments bring with them: those that separate arguments, and those inside
of arguments, but outside of their parentheses. -/
def typedCommas : Text → List (Separator × Text) → Nat
  | first, [] => outerCommas first
  | first, (separator, argument) :: others =>
      outerCommas first + (separator.commas + typedCommas argument others)

/-- What signature help shows at the end of a call that is still open. -/
def shownCall (function first : Text) (others : List (Separator × Text)) : Option ActiveCall :=
  (Analysis.ofText ('=' :: openCall function first others)
    ((openCall function first others).length + 1)).activeCall

variable {function argument : Text} {others : List (Separator × Text)}

/-- Whole arguments and their separators outline parentheses that pair up. -/
theorem exists_outline_argumentsText
    (accepted : ∀ body ∈ argument :: others.map Prod.snd, isArgument body = true) :
    ∃ outline, Outlines (argumentsText argument others) outline ∧
      Nested outline (typedCommas argument others) := by
  induction others generalizing argument with
  | nil =>
      obtain ⟨outline, outlines, nested, _⟩ :=
        exists_outline_of_isArgument (accepted argument List.mem_cons_self)
      exact ⟨outline, by simpa [argumentsText] using outlines, nested⟩
  | cons next others inductionHypothesis =>
      obtain ⟨separator, second⟩ := next
      obtain ⟨acceptedFirst, acceptedOthers⟩ := List.forall_mem_cons.mp accepted
      obtain ⟨outline, outlines, nested, _⟩ := exists_outline_of_isArgument acceptedFirst
      obtain ⟨later, laterOutlines, laterNested⟩ := inductionHypothesis acceptedOthers
      obtain ⟨behind, behindOutlines, behindNested⟩ :=
        separator.outlines_cons laterOutlines laterNested
      refine ⟨outline ++ behind, ?_, ?_⟩
      · have whole := outlines.append behindOutlines
          (Text.stops_cons.mpr (by cases separator <;> rfl))
        simpa [argumentsText] using whole
      · exact nested.append behindNested

/-- Between commas, without array constants, there is one comma for every argument after the
first. -/
theorem typedCommas_eq_length
    (accepted : ∀ body ∈ argument :: others.map Prod.snd, isArgument body = true)
    (without : ∀ body ∈ argument :: others.map Prod.snd, hasArrayOperand body = false)
    (commas : ∀ other ∈ others, other.1 = .comma) : typedCommas argument others = others.length := by
  have noneOutside {body : Text} (member : body ∈ argument :: others.map Prod.snd) :
      outerCommas body = 0 := by
    obtain ⟨_, _, _, outerCommasEq⟩ := exists_outline_of_isArgument (accepted body member)
    exact outerCommasEq (without body member)
  induction others generalizing argument with
  | nil => exact noneOutside List.mem_cons_self
  | cons next others inductionHypothesis =>
      obtain ⟨separator, second⟩ := next
      obtain ⟨rfl, commasOthers⟩ := List.forall_mem_cons.mp commas
      have later := inductionHypothesis (List.forall_mem_cons.mp accepted).2
        (List.forall_mem_cons.mp without).2 commasOthers
        fun member => noneOutside (List.mem_cons_of_mem _ member)
      rw [typedCommas, noneOutside List.mem_cons_self, later, List.length_cons, Nat.zero_add]
      exact Nat.add_comm 1 _

theorem stop_le_of_mem_scanFrom {start : Nat} {token : Token}
    (scanned : token ∈ Token.scanFrom start text) : token.stop ≤ start + text.length := by
  obtain ⟨-, before, after, placed, startEq⟩ :=
    (Token.tiles_scanFrom start text).exists_around scanned
  rw [Token.stop, startEq, placed]
  simp only [List.length_append]
  omega

/-- At the end of a formula, all tokens other than blanks count. -/
theorem tokensBefore_end (body : Text) :
    tokensBefore (Analysis.tokensOfBody body) (body.length + 1) =
      (Analysis.tokensOfBody body).filter fun token => !token.isBlank := by
  rw [tokensBefore, List.takeWhile_eq_self_iff]
  intro token member
  obtain ⟨scanned, isScanned, rfl⟩ := List.mem_map.mp (List.mem_of_mem_filter member)
  have stops := stop_le_of_mem_scanFrom isScanned
  refine decide_eq_true ?_
  simp only [Token.stop, Token.shift] at stops ⊢
  omega

/-- Blanks do not matter for the outline of tokens, and neither do the positions of tokens. -/
theorem filterMap_outlined?_solid (tokens : List Token) :
    ((tokens.map (·.shift 1)).filter fun token => !token.isBlank).filterMap Token.outlined? =
      tokens.filterMap Token.outlined? := by
  rw [List.filterMap_filter, List.filterMap_map]
  refine List.filterMap_congr fun token _ => ?_
  obtain ⟨kind, text, start⟩ := token
  cases kind <;> rfl

/-- At the end of an open call, its parenthesis is the innermost one, with the commas of the
arguments counted. -/
theorem shownCall_eq (isName : Token.isFunctionName function = true)
    (accepted : ∀ body ∈ argument :: others.map Prod.snd, isArgument body = true) :
    shownCall function argument others = some ⟨function.upper, typedCommas argument others⟩ := by
  obtain ⟨outline, outlines, nested⟩ := exists_outline_argumentsText accepted
  let behind := Token.scanFrom (function.length + 1) (argumentsText argument others)
  let solid := (behind.map (·.shift 1)).filter fun token => !token.isBlank
  have single : Frame.AreSingle solid := by
    intro token member isParenthesis
    obtain ⟨scanned, isScanned, rfl⟩ := List.mem_map.mp (List.mem_of_mem_filter member)
    have single : scanned.text = ['('] ∨ scanned.text = [')'] :=
      Token.text_of_parenthesis isScanned isParenthesis
    exact single
  have outlined : solid.filterMap Token.outlined? = outline :=
    (filterMap_outlined?_solid behind).trans (Token.filterMap_outlined?_of_outlines outlines _)
  have tokens : tokensBefore (Analysis.tokensOfBody (openCall function argument others))
      ((openCall function argument others).length + 1) =
        ⟨.function, function, 1⟩ :: ⟨.parenthesis, ['('], function.length + 1⟩ :: solid := by
    rw [tokensBefore_end, Analysis.tokensOfBody, Token.scanAll, openCall,
      Token.scanFrom_call isName, Nat.zero_add]
    rfl
  have frames : Frame.afterTokens none [] (⟨.function, function, 1⟩ ::
      ⟨.parenthesis, ['('], function.length + 1⟩ :: solid) =
        [⟨some function.upper, 0 + typedCommas argument others⟩] :=
    Frame.afterTokens_of_nested nested outlined single
  have shown : shownCall function argument others =
      activeCall? (Analysis.tokensOfBody (openCall function argument others))
        ((openCall function argument others).length + 1) := rfl
  rw [shown, activeCall?, tokens, frames, Nat.zero_add]
  rfl

/-- After whole arguments of a call, signature help shows the function in upper case, and as the
argument the number of commas outside of their parentheses. With nothing but commas between the
arguments, and no array constant among their operands, it is the number of arguments before the last
one. -/
theorem shown_call_counts_commas {function first : Text} {others : List (Separator × Text)}
    (isName : Token.isFunctionName function = true)
    (accepted : ∀ body ∈ first :: others.map Prod.snd, isArgument body = true) :
    shownCall function first others = some ⟨function.upper, typedCommas first others⟩ ∧
      ((∀ other ∈ others, other.1 = .comma) →
        (∀ body ∈ first :: others.map Prod.snd, hasArrayOperand body = false) →
          shownCall function first others = some ⟨function.upper, others.length⟩) := by
  have shown := shownCall_eq isName accepted
  refine ⟨shown, fun commas without => ?_⟩
  rw [shown, typedCommas_eq_length accepted without commas]

/-- Calls, strings, groups, quoted sheet names and array constants between both separators. -/
theorem shown_call_in_if :
    let function := "If".toList
    let first := "SUM(A1;{1,2;3},(B2:B3))>3".toList
    let others : List (Separator × Text) :=
      [(.comma, "\"a,(\"\"b\" & 'It''s, (x)'!C4".toList), (.semicolon, "{1,-2;3}*(4)".toList),
        (.comma, " Max( ,2)% ".toList)]
    Token.isFunctionName function = true ∧
      (∀ body ∈ first :: others.map Prod.snd, isArgument body = true) ∧
      shownCall function first others = some ⟨"IF".toList, 3⟩ ∧
      shownCall function first (others.take 1) = some ⟨"IF".toList, 1⟩ := by
  intro function first others
  have isName : Token.isFunctionName function = true := by decide +kernel
  have accepted : ∀ body ∈ first :: others.map Prod.snd, isArgument body = true := by
    decide +kernel
  have upper : Text.upper function = "IF".toList := by decide +kernel
  have commas : typedCommas first others = 3 := by decide +kernel
  refine ⟨isName, accepted, ?_, ?_⟩
  · rw [(shown_call_counts_commas isName accepted).1, upper, commas]
  · rw [← upper]
    refine (shown_call_counts_commas isName ?_).2 ?_ ?_ <;> decide +kernel

/-! ## Arguments that commas do not count -/

/-- Number of arguments of a call. -/
def arity? : Expr → Option Nat
  | .call _ arguments => some arguments.length
  | _ => none

/-- Whether signature help shows the function and the number of arguments before the caret, after
some arguments of a call that is accepted when it is complete. -/
def ShowsPosition (function first : Text) (others : List (Separator × Text)) (typed : Nat) : Prop :=
  Token.isFunctionName function = true →
  (∀ body ∈ first :: others.map Prod.snd, (Formula.parse body).isOk = true) →
  (Formula.parse (openCall function first others ++ [')'])).toOption.bind arity? =
    some (others.length + 1) →
  typed ≤ others.length →
  shownCall function first (others.take typed) = some ⟨function.upper, typed⟩

instance (function first : Text) (others : List (Separator × Text)) (typed : Nat) :
    Decidable (ShowsPosition function first others typed) :=
  inferInstanceAs (Decidable (_ → _))

/-- A semicolon between arguments is not counted, and a comma between the items of an array constant
is. The quotes of a sheet prefix without a name begin a quoted name, which can hide a comma. -/
theorem not_showsPosition :
    ¬ ShowsPosition "SUM".toList "1".toList [(.semicolon, "2".toList)] 1 ∧
      ¬ ShowsPosition "SUM".toList "{1,2}".toList [] 0 ∧
      ¬ ShowsPosition "SUM".toList "''!A1".toList [(.comma, "'!'!B1".toList)] 1 := by
  decide +kernel

end SheetEditor.Draft
