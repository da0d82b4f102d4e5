import SheetEditor.Proofs.Draft.ActiveCall
import SheetEditor.Proofs.Draft.ReferenceSpans

/-!
Contract: the call around the caret after groups and calls that are complete.

Owns: the tokens that stop between two carets, when their parentheses pair up, the commas among them
that stand outside of these parentheses, and what such tokens leave of the open parentheses.

Does not own: that the tokens of a whole argument are of this kind
(`SheetEditor.Proofs.Draft.ActiveCall`).

Tokens that never close more than they open put frames on top of those that are there, and only take
away what they put there. The frames below stay as they are, but for the commas that the innermost of
them counts.
-/

namespace SheetEditor.Draft

variable {tokens : List Token} {caret later : Nat}

/-! ## Tokens between two carets -/

/-- The tokens other than blanks that stop behind one caret, but not behind a later one. -/
def tokensBetween (tokens : List Token) (caret later : Nat) : List Token :=
  tokens.filter fun token => !token.isBlank && (caret < token.stop && token.stop ≤ later)

/-- In a list in which the stops do not decrease, the tokens up to a caret are a first part. -/
theorem takeWhile_eq_filter_stop (inOrder : tokens.Pairwise fun earlier next =>
    earlier.stop ≤ next.stop) (caret : Nat) :
    tokens.takeWhile (fun token => token.stop ≤ caret) =
      tokens.filter fun token => token.stop ≤ caret := by
  induction tokens with
  | nil => rfl
  | cons token rest inductionHypothesis =>
      obtain ⟨behind, restInOrder⟩ := List.pairwise_cons.mp inOrder
      by_cases within : token.stop ≤ caret
      · rw [List.takeWhile_cons_of_pos (by simpa using within),
          List.filter_cons_of_pos (by simpa using within), inductionHypothesis restInOrder]
      · rw [List.takeWhile_cons_of_neg (by simpa using within),
          List.filter_cons_of_neg (by simpa using within)]
        refine (List.filter_eq_nil_iff.mpr fun next member => ?_).symm
        have stops := behind next member
        rw [decide_eq_true_iff]
        omega

/-- The tokens up to a later caret are those up to the first one and those between the two. -/
theorem filter_stop_append (inOrder : tokens.Pairwise fun earlier next =>
    earlier.stop ≤ next.stop) (ordered : caret ≤ later) :
    tokens.filter (fun token => token.stop ≤ later) =
      tokens.filter (fun token => token.stop ≤ caret) ++
        tokens.filter fun token => caret < token.stop && token.stop ≤ later := by
  induction tokens with
  | nil => rfl
  | cons token rest inductionHypothesis =>
      obtain ⟨behind, restInOrder⟩ := List.pairwise_cons.mp inOrder
      have appended := inductionHypothesis restInOrder
      by_cases within : token.stop ≤ caret
      · have withinLater : token.stop ≤ later := within.trans ordered
        have notBetween : ¬caret < token.stop := Nat.not_lt.mpr within
        simp [within, withinLater, notBetween, appended]
      · have noneWithin : rest.filter (fun token => token.stop ≤ caret) = [] := by
          refine List.filter_eq_nil_iff.mpr fun next member => ?_
          have stops := behind next member
          rw [decide_eq_true_iff]
          omega
        have between : caret < token.stop := Nat.lt_of_not_le within
        rw [noneWithin, List.nil_append] at appended
        simp [List.filter_cons, within, between, noneWithin, appended]

/-- Between two carets of a formula, the tokens that count become more by those between them. -/
theorem tokensBefore_append (body : Text) (ordered : caret ≤ later) :
    tokensBefore (Analysis.tokensOfBody body) later =
      tokensBefore (Analysis.tokensOfBody body) caret ++
        tokensBetween (Analysis.tokensOfBody body) caret later := by
  have scanned : Analysis.tokensOfBody body = Token.scanFrom 1 body := Token.map_shift_scanAll body
  have inOrder := (Token.tiles_scanFrom 1 body).stops_inOrder.filter fun token => !token.isBlank
  have between : tokensBetween (Token.scanFrom 1 body) caret later =
      ((Token.scanFrom 1 body).filter fun token => !token.isBlank).filter
        fun token => caret < token.stop && token.stop ≤ later := by
    rw [List.filter_filter]
    exact List.filter_congr fun token _ => Bool.and_comm ..
  rw [scanned, tokensBefore, tokensBefore, takeWhile_eq_filter_stop inOrder,
    takeWhile_eq_filter_stop inOrder, between, filter_stop_append inOrder ordered]

/-! ## Parentheses that pair up -/

def Token.closesParenthesis (token : Token) : Bool :=
  token.kind = .parenthesis && token.text = [')']

def openings (tokens : List Token) : Nat := tokens.countP (·.opensParenthesis)

def closings (tokens : List Token) : Nat := tokens.countP (·.closesParenthesis)

/-- The parentheses of tokens pair up: a beginning of the tokens closes at most what it opens, and all
of them close what they open. -/
structure Balanced (tokens : List Token) : Prop where
  closings_le : ∀ before, before <+: tokens → closings before ≤ openings before
  total : closings tokens = openings tokens

instance (tokens : List Token) : Decidable (Balanced tokens) :=
  decidable_of_iff ((∀ before ∈ tokens.inits, closings before ≤ openings before) ∧
      closings tokens = openings tokens)
    ⟨fun ⟨below, total⟩ => ⟨fun before isPrefix => below before ((List.mem_inits _ _).mpr isPrefix), total⟩,
      fun ⟨below, total⟩ => ⟨fun before member => below before ((List.mem_inits _ _).mp member), total⟩⟩

/-- Number of commas among tokens that are outside of the parentheses when so many others are open:
the tokens in front of such a comma have closed all of these. -/
def commasAt (depth : Nat) (tokens : List Token) : Nat :=
  (tokens.inits.zip tokens).countP fun (before, token) =>
    token.kind = .comma && depth + openings before = closings before

/-- Number of commas that stand outside of every parenthesis of the tokens. -/
def outsideCommas (tokens : List Token) : Nat := commasAt 0 tokens

theorem openings_cons (token : Token) (rest : List Token) :
    openings (token :: rest) = openings [token] + openings rest := by
  rw [← List.singleton_append]
  exact List.countP_append

theorem closings_cons (token : Token) (rest : List Token) :
    closings (token :: rest) = closings [token] + closings rest := by
  rw [← List.singleton_append]
  exact List.countP_append

/-- Behind the first token, the count goes on with the parentheses that are open then. -/
theorem commasAt_cons {depth next : Nat} {token : Token}
    (moves : next + closings [token] = depth + openings [token]) (rest : List Token) :
    commasAt depth (token :: rest) =
      commasAt next rest + if token.kind = .comma ∧ depth = 0 then 1 else 0 := by
  have moved (before : List Token) : depth + openings (token :: before) = closings (token :: before) ↔
      next + openings before = closings before := by
    rw [openings_cons, closings_cons]
    omega
  have none : openings [] = 0 ∧ closings [] = 0 := ⟨rfl, rfl⟩
  simp [commasAt, List.zip_map_left, List.countP_map, List.countP_cons, Function.comp_def, moved, none]

/-! ## Frames below a stretch of tokens -/

namespace Frame

/-- The open parentheses with more commas counted in the innermost one. -/
def counting (commas : Nat) : List Frame → List Frame
  | [] => []
  | innermost :: outer => { innermost with argument := innermost.argument + commas } :: outer

@[simp] theorem counting_zero (frames : List Frame) : counting 0 frames = frames := by
  cases frames <;> rfl

theorem counting_counting (first second : Nat) (frames : List Frame) :
    counting second (counting first frames) = counting (first + second) frames := by
  cases frames with
  | nil => rfl
  | cons innermost outer => simp [counting, Nat.add_assoc]

/-- What a token does to the open parentheses. -/
theorem step_cases (previous : Option Token) (frames : List Frame) (token : Token) :
    (openings [token] = 1 ∧ closings [token] = 0 ∧ token.kind ≠ .comma ∧
        ∃ function, step previous frames token = ⟨function, 0⟩ :: frames) ∨
      (openings [token] = 0 ∧ closings [token] = 1 ∧ token.kind ≠ .comma ∧
        step previous frames token = frames.tail) ∨
      (openings [token] = 0 ∧ closings [token] = 0 ∧
        step previous frames token = counting (if token.kind = .comma then 1 else 0) frames) := by
  obtain ⟨kind, text, start⟩ := token
  cases kind with
  | parenthesis =>
      by_cases opens : text = ['(']
      · subst opens
        exact .inl ⟨rfl, rfl, by simp, _, rfl⟩
      · by_cases closes : text = [')']
        · subst closes
          exact .inr (.inl ⟨rfl, rfl, by simp, rfl⟩)
        · refine .inr (.inr ⟨?_, ?_, ?_⟩)
          · simp [openings, Token.opensParenthesis, opens]
          · simp [closings, Token.closesParenthesis, closes]
          · simp [step, opens, closes]
  | comma =>
      refine .inr (.inr ⟨rfl, rfl, ?_⟩)
      cases frames <;> rfl
  | _ => exact .inr (.inr ⟨rfl, rfl, (counting_zero frames).symm⟩)

/-- Tokens that never close more than they open and others opened before them leave the frames below
those others as they are, but for the commas that are outside of all these parentheses. -/
theorem afterTokens_above {tokens : List Token} {inner : List Frame}
    (covered : ∀ before, before <+: tokens → closings before ≤ inner.length + openings before)
    (previous : Option Token) (outer : List Frame) :
    ∃ above : List Frame, above.length + closings tokens = inner.length + openings tokens ∧
      afterTokens previous (inner ++ outer) tokens =
        above ++ counting (commasAt inner.length tokens) outer := by
  induction tokens generalizing inner previous outer with
  | nil => exact ⟨inner, rfl, by simp [afterTokens, commasAt]⟩
  | cons token rest inductionHypothesis =>
      -- The frames after the token are again some that were opened, above those that were there.
      obtain ⟨opened, below, lengthEq, stepEq, belowEq⟩ : ∃ opened below : List Frame,
          opened.length + closings [token] = inner.length + openings [token] ∧
          step previous (inner ++ outer) token = opened ++ below ∧
          below = counting (if token.kind = .comma ∧ inner.length = 0 then 1 else 0) outer := by
        rcases step_cases previous (inner ++ outer) token with
          ⟨opens, closes, notComma, function, stepEq⟩ | ⟨opens, closes, notComma, stepEq⟩ |
          ⟨opens, closes, stepEq⟩
        · exact ⟨⟨function, 0⟩ :: inner, outer, by simp [opens, closes], stepEq, by simp [notComma]⟩
        · have first := covered [token] (List.prefix_append [token] rest)
          cases inner with
          | nil => simp [opens, closes] at first
          | cons innermost inner =>
              exact ⟨inner, outer, by simp [opens, closes], stepEq, by simp [notComma]⟩
        · cases inner with
          | nil =>
              exact ⟨[], counting (if token.kind = .comma then 1 else 0) outer,
                by simp [opens, closes], stepEq, by simp⟩
          | cons innermost inner =>
              exact ⟨counting (if token.kind = .comma then 1 else 0) (innermost :: inner), outer,
                by simp [counting, opens, closes], stepEq, by simp⟩
      have coveredRest : ∀ before, before <+: rest →
          closings before ≤ opened.length + openings before := by
        intro before isPrefix
        have bound := covered (token :: before) (List.cons_prefix_cons.mpr ⟨rfl, isPrefix⟩)
        rw [closings_cons, openings_cons] at bound
        omega
      obtain ⟨above, aboveLength, reached⟩ := inductionHypothesis coveredRest (some token) below
      refine ⟨above, ?_, ?_⟩
      · rw [closings_cons, openings_cons]
        omega
      · rw [afterTokens, stepEq, reached, belowEq, counting_counting, commasAt_cons lengthEq,
          Nat.add_comm (commasAt _ _)]

/-- Tokens whose parentheses pair up only count commas. -/
theorem afterTokens_of_balanced {tokens : List Token} (balanced : Balanced tokens)
    (previous : Option Token) (frames : List Frame) :
    afterTokens previous frames tokens = counting (outsideCommas tokens) frames := by
  have covered : ∀ before, before <+: tokens →
      closings before ≤ ([] : List Frame).length + openings before := by
    simpa using balanced.closings_le
  obtain ⟨above, length, reached⟩ := afterTokens_above covered previous frames
  have noneAbove : above = [] := by
    rw [balanced.total, List.length_nil, Nat.zero_add, Nat.add_eq_right] at length
    exact List.eq_nil_of_length_eq_zero length
  rw [List.nil_append, noneAbove, List.nil_append] at reached
  exact reached

end Frame

/-! ## The call around a later caret -/

/-- Groups and calls that are complete do not change which call a caret is in. If the parentheses of
the tokens between two carets pair up, the call is the same at both, and the argument is greater by
the commas that stand outside of these parentheses. In no call, the later caret is in none either. -/
theorem activeCall_behind_balanced_tokens (body : Text) {caret later : Nat} (ordered : caret ≤ later)
    (balanced : Balanced (tokensBetween (Analysis.tokensOfBody body) caret later)) :
    (Analysis.ofText ('=' :: body) later).activeCall =
      (Analysis.ofText ('=' :: body) caret).activeCall.map fun call =>
        { call with argument := call.argument +
            outsideCommas (tokensBetween (Analysis.tokensOfBody body) caret later) } := by
  have atCaret (caret : Nat) : (Analysis.ofText ('=' :: body) caret).activeCall =
      activeCall? (Analysis.tokensOfBody body) caret := rfl
  obtain ⟨last, reached⟩ := Frame.afterTokens_append none []
    (tokensBefore (Analysis.tokensOfBody body) caret)
    (tokensBetween (Analysis.tokensOfBody body) caret later)
  rw [atCaret, atCaret, activeCall?, activeCall?, tokensBefore_append body ordered, reached,
    Frame.afterTokens_of_balanced balanced]
  cases Frame.afterTokens none [] (tokensBefore (Analysis.tokensOfBody body) caret) with
  | nil => rfl
  | cons innermost outer =>
      obtain ⟨function, argument⟩ := innermost
      cases function <;> rfl

/-- Between two commas of a call: another call with a group, and a string with a parenthesis. -/
theorem activeCall_behind_completed_call :
    let body := "IF(A1, SUM((B2,3),4)&\"a,(\" , (5".toList
    Balanced (tokensBetween (Analysis.tokensOfBody body) 6 29) ∧
      (Analysis.ofText ('=' :: body) 6).activeCall = some ⟨"IF".toList, 0⟩ ∧
      (Analysis.ofText ('=' :: body) 29).activeCall = some ⟨"IF".toList, 2⟩ := by
  intro body
  have balanced : Balanced (tokensBetween (Analysis.tokensOfBody body) 6 29) := by decide +kernel
  have earlier : (Analysis.ofText ('=' :: body) 6).activeCall = some ⟨"IF".toList, 0⟩ := by
    decide +kernel
  have commas : outsideCommas (tokensBetween (Analysis.tokensOfBody body) 6 29) = 2 := by
    decide +kernel
  refine ⟨balanced, earlier, ?_⟩
  rw [activeCall_behind_balanced_tokens body (by decide) balanced, earlier, commas]
  rfl

end SheetEditor.Draft
