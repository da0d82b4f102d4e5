import SheetEditor.Proofs.Draft.Rules

/-!
Contract: the tokens of a draft, one after another.

Owns: the first token of a text and the tokens after it, strings that nothing
closes, and the tokens of a text that another one follows.
-/

namespace SheetEditor.Draft.Token

open Text (Stops)

variable {text rest following : Text} {first : Char} {start : Nat}

/-! ## One token after another -/

theorem scanFrom_nil (start : Nat) : scanFrom start [] = [] := by rw [scanFrom]

theorem scanFrom_cons (start : Nat) (first : Char) (following : Text) :
    scanFrom start (first :: following) =
      ⟨(classify first following).1, first :: following.take (classify first following).2, start⟩ ::
        scanFrom (start + ((classify first following).2 + 1))
          (following.drop (classify first following).2) := by
  rw [scanFrom]
  simp only [List.length_cons, List.length_take, Nat.min_eq_left (classify_le first following)]

/-- What holds of the empty text, and of a text if it holds of what its first token leaves, holds of
every text. -/
theorem scan_induction {motive : Text → Prop} (nil : motive [])
    (cons : ∀ first following, motive (following.drop (classify first following).2) →
      motive (first :: following)) : ∀ text, motive text
  | [] => nil
  | first :: following => cons first following (scan_induction nil cons _)
termination_by text => text.length
decreasing_by
  simp only [List.length_drop, List.length_cons]
  omega

/-! ## Classes of tokens -/

/-- Strings and functions each have a rule of their own. -/
theorem rule_cases {rule : Rule} (member : rule ∈ rules) {kind : TokenKind} {length : Nat}
    (recognised : rule text = some (kind, length)) :
    kind = .string ∧ stringRule text = some (kind, length) ∨
      kind = .function ∧ identifierRule text = some (kind, length) ∨
        kind ∈ [.blank, .literal, .reference, .operator] := by
  have listed {other : TokenKind} {count : Nat} (same : (other, count) = (kind, length))
      (isListed : other ∈ [.blank, .literal, .reference, .operator]) :
      kind ∈ [.blank, .literal, .reference, .operator] := by
    cases same
    exact isListed
  have mapped {Part : Type} {found : Option Part} {other : TokenKind} {count : Part → Nat}
      (same : found.map (fun part => (other, count part)) = some (kind, length))
      (isListed : other ∈ [.blank, .literal, .reference, .operator]) :
      kind ∈ [.blank, .literal, .reference, .operator] := by
    obtain ⟨_, _, pair⟩ := Option.map_eq_some_iff.mp same
    exact listed pair isListed
  simp only [rules, List.mem_cons, List.not_mem_nil, or_false] at member
  rcases member with rfl | rfl | rfl | rfl | rfl | rfl | rfl | rfl
  · unfold blankRule at recognised
    dsimp only at recognised
    split at recognised
    · cases recognised
    · exact .inr (.inr (listed (Option.some.inj recognised) (by decide)))
  · exact .inr (.inr (mapped recognised (by decide)))
  · refine .inl ⟨?_, recognised⟩
    unfold stringRule at recognised
    split at recognised
    · split at recognised <;> cases recognised <;> rfl
    · cases recognised
  · exact .inr (.inr (mapped recognised (by decide)))
  · exact .inr (.inr (mapped recognised (by decide)))
  · obtain ⟨_, _, pair⟩ := Option.bind_eq_some_iff.mp recognised
    have kindEq := congrArg Prod.fst (Option.some.inj pair)
    dsimp only at kindEq
    split at kindEq
    · exact .inr (.inr (listed rfl (kindEq ▸ by decide)))
    · exact .inr (.inl ⟨kindEq.symm, recognised⟩)
  · unfold numberRule at recognised
    dsimp only at recognised
    split at recognised
    · cases recognised
    · exact .inr (.inr (listed (Option.some.inj recognised) (by decide)))
  · unfold longOperatorRule at recognised
    split at recognised
    · exact .inr (.inr (listed (Option.some.inj recognised) (by decide)))
    · exact .inr (.inr (listed (Option.some.inj recognised) (by decide)))
    · exact .inr (.inr (listed (Option.some.inj recognised) (by decide)))
    · cases recognised

/-! ## Open strings -/

/-- Whether a token is a string that nothing closes. -/
def isOpenString (token : Token) : Bool :=
  token.kind = .string && (Text.readQuoted? '"' token.text.tail).isNone

/-- A text that begins with an open string is a single token. -/
theorem scanFrom_openString (start : Nat) (isOpen : Text.readQuoted? '"' following = none) :
    scanFrom start ('"' :: following) = [⟨.string, '"' :: following, start⟩] := by
  rw [scanFrom_cons, classify_quote, isOpen]
  simp [scanFrom_nil]

theorem isOpenString_openString (isOpen : Text.readQuoted? '"' following = none) :
    (⟨.string, '"' :: following, start⟩ : Token).isOpenString = true := by
  simp [isOpenString, isOpen]

/-- Only a quote begins a string. -/
theorem eq_quote_of_classify (isString : (classify first following).1 = .string) : first = '"' := by
  rcases classify_cases first following with ⟨rule, member, length, recognised, _⟩ | single
  · rw [isString] at recognised
    rcases rule_cases member recognised with ⟨_, isString⟩ | ⟨isFunction, _⟩ | listed
    · by_contra different
      rw [stringRule_eq_none different] at isString
      cases isString
    · cases isFunction
    · simp at listed
  · rw [single] at isString
    dsimp only [punctuationKind] at isString
    split at isString <;> cases isString

/-- The first token of a text is open only if no quote closes the string that it begins. -/
theorem readQuoted?_of_isOpenString
    (isOpen : (⟨(classify first following).1, first :: following.take (classify first following).2,
      start⟩ : Token).isOpenString = true) :
    first = '"' ∧ Text.readQuoted? '"' following = none := by
  simp only [isOpenString, Bool.and_eq_true, decide_eq_true_eq, List.tail_cons,
    Option.isNone_iff_eq_none] at isOpen
  obtain ⟨isString, unread⟩ := isOpen
  obtain rfl := eq_quote_of_classify isString
  refine ⟨rfl, ?_⟩
  by_contra read
  obtain ⟨⟨content, count⟩, read⟩ := Option.ne_none_iff_exists'.mp read
  rw [classify_quote, read] at unread
  obtain ⟨rfl, rest, rfl, _⟩ := Text.readQuoted?_eq_some_iff.mp read
  have closed : Text.readQuoted? '"' (Text.doubleQuotes '"' content ++ ['"']) = _ :=
    Text.readQuoted?_closed content Text.stops_nil
  simp only [Option.map_some, Option.getD_some] at unread
  rw [List.append_cons, ← List.length_singleton, ← List.length_append, List.take_left, closed] at unread
  cases unread

theorem closesString_of_not_open
    (closed : ∀ token ∈ scanFrom start (first :: following), token.isOpenString = false) :
    ClosesString (first :: following) := by
  rintro inside ⟨rfl, rfl⟩ isOpen
  rw [scanFrom_openString start isOpen] at closed
  have token := closed _ (List.mem_singleton_self _)
  rw [isOpenString_openString isOpen] at token
  cases token

/-! ## A text that another one follows -/

/-- A text that cannot be read with the text before it has tokens of its own, if that leaves no string
open. -/
theorem scanFrom_append (stops : Stops joinsText rest) (noQuote : SheetName.quote ∉ rest)
    (closed : ∀ token ∈ scanFrom start text, token.isOpenString = false) :
    scanFrom start (text ++ rest) = scanFrom start text ++ scanFrom (start + text.length) rest := by
  induction text using scan_induction generalizing start with
  | nil => rw [scanFrom_nil]; rfl
  | cons first following inductionHypothesis =>
      have same := classify_append (closesString_of_not_open closed)
        (fun _ _ _ => noQuote) stops
      have fits := classify_le first following
      rw [scanFrom_cons] at closed
      have later := inductionHypothesis fun token member =>
        closed token (List.mem_cons_of_mem _ member)
      rw [List.cons_append, scanFrom_cons, same, List.take_append_of_le_length fits,
        List.drop_append_of_le_length fits, later, scanFrom_cons, List.cons_append,
        List.length_drop, List.length_cons]
      congr 3
      omega

end SheetEditor.Draft.Token
