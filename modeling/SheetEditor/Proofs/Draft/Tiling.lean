import Mathlib.Data.List.Chain
import SheetEditor.Proofs.Draft.Scan
import SheetEditor.Proofs.Text.Offsets

/-!
Contract: the tokens of a draft tile the draft.

Owns: that every rule of the scan makes progress, the scan as a loop that takes what is recognised
as it is, and how its tokens lie in the text: none empty, without a gap or an overlap, with offsets
in characters that are in step with offsets into the UTF-8 encoding.

The scan itself takes at least one character at each place and never more than there are, whatever a
rule answers. The loop does neither, so that it ends, and ends with the same tokens, is a fact about
the rules.
-/

namespace SheetEditor.Draft.Token

variable {text body : Text} {kind : TokenKind} {length start : Nat} {tokens : List Token}

/-! ## Progress -/

/-- A rule advances if it recognises at least one character whenever it recognises something. -/
def Rule.Advances (rule : Rule) : Prop :=
  ∀ ⦃text kind length⦄, rule text = some (kind, length) → 0 < length

theorem blankRule_advances : Rule.Advances blankRule := by
  intro text kind length found
  unfold blankRule at found
  dsimp only at found
  split at found
  · cases found
  · next nonempty =>
      cases found
      exact List.length_pos_iff.mpr nonempty

theorem errorLiteralRule_advances : Rule.Advances errorLiteralRule := by
  intro text kind length found
  obtain ⟨literal, -, pair⟩ := Option.map_eq_some_iff.mp found
  cases pair
  cases literal <;> exact Nat.succ_pos _

theorem stringRule_advances : Rule.Advances stringRule := by
  intro text kind length found
  unfold stringRule at found
  split at found
  · split at found <;> cases found <;> exact Nat.succ_pos _
  · cases found

theorem referenceRule_advances : Rule.Advances referenceRule := by
  intro text kind length found
  obtain ⟨total, foundLength, pair⟩ := Option.map_eq_some_iff.mp found
  cases pair
  obtain ⟨area, foundArea, foundTotal⟩ := Option.bind_eq_some_iff.mp foundLength
  have positive := areaLength?_pos foundArea
  split at foundTotal
  · cases foundTotal
    exact Nat.add_pos_right _ positive
  · cases foundTotal

theorem qualifierRule_advances : Rule.Advances qualifierRule := by
  intro text kind length found
  obtain ⟨total, foundLength, pair⟩ := Option.map_eq_some_iff.mp found
  cases pair
  obtain ⟨name, -, foundTotal⟩ := Option.bind_eq_some_iff.mp foundLength
  split at foundTotal
  · cases foundTotal
    exact Nat.succ_pos _
  · cases foundTotal

theorem identifierRule_advances : Rule.Advances identifierRule := by
  intro text kind length found
  obtain ⟨name, foundName, pair⟩ := Option.bind_eq_some_iff.mp found
  cases pair
  exact identifierLength?_pos foundName

theorem numberRule_advances : Rule.Advances numberRule := by
  intro text kind length found
  rw [numberRule_eq] at found
  split at found
  · cases found
  · next nonempty =>
      cases found
      have digits := List.length_pos_iff.mpr nonempty
      rw [List.length_append] at digits
      unfold Decimal.numeralLength
      dsimp only
      omega

theorem longOperatorRule_advances : Rule.Advances longOperatorRule := by
  intro text kind length found
  unfold longOperatorRule at found
  split at found <;> cases found <;> exact Nat.succ_pos _

theorem advances_of_mem_rules {rule : Rule} (member : rule ∈ rules) : rule.Advances := by
  have advance : ∀ rule ∈ rules, Rule.Advances rule := by
    simp only [rules, List.forall_mem_cons]
    exact ⟨blankRule_advances, errorLiteralRule_advances, stringRule_advances,
      referenceRule_advances, qualifierRule_advances, identifierRule_advances,
      numberRule_advances, longOperatorRule_advances, List.forall_mem_nil _⟩
  exact advance rule member

/-! ## The scan as a loop -/

/-- What is recognised at the start of a text: the class and the length that the first rule to apply
gives, or a single character. Nothing is recognised at the end. -/
def recognise? : Text → Option (TokenKind × Nat)
  | [] => none
  | first :: following =>
      (rules.findSome? fun rule => rule (first :: following)).or (some (punctuationKind first, 1))

/-- The loop from an offset on: while something is recognised, it is taken, and the loop goes on
behind it. A run of the loop is finite. -/
inductive Loop : Nat → Text → List Token → Prop where
  | stop {start : Nat} {text : Text} (atEnd : recognise? text = none) : Loop start text []
  | take {start : Nat} {text : Text} {kind : TokenKind} {length : Nat} {rest : List Token}
      (recognised : recognise? text = some (kind, length))
      (later : Loop (start + length) (text.drop length) rest) :
      Loop start text (⟨kind, text.take length, start⟩ :: rest)

/-- What is recognised is a character at least, and no more than there is. The scan takes it. -/
theorem scanFrom_of_recognise? (start : Nat) (recognised : recognise? text = some (kind, length)) :
    0 < length ∧ length ≤ text.length ∧
      scanFrom start text =
        ⟨kind, text.take length, start⟩ :: scanFrom (start + length) (text.drop length) := by
  cases text with
  | nil => cases recognised
  | cons first following =>
      have fits := classify_le first following
      have taken : 0 < length ∧ classify first following = (kind, length - 1) := by
        rw [recognise?] at recognised
        unfold classify
        cases found : rules.findSome? fun rule => rule (first :: following) with
        | none =>
            rw [found] at recognised
            cases recognised
            exact ⟨Nat.one_pos, rfl⟩
        | some result =>
            rw [found] at recognised
            cases recognised
            obtain ⟨rule, member, applied⟩ := List.exists_of_findSome?_eq_some found
            exact ⟨advances_of_mem_rules member applied, rfl⟩
      obtain ⟨positive, classified⟩ := taken
      obtain ⟨count, rfl⟩ := Nat.exists_eq_add_of_lt positive
      rw [Nat.zero_add] at *
      rw [classified, Nat.add_sub_cancel] at fits
      refine ⟨positive, Nat.succ_le_succ fits, ?_⟩
      rw [scanFrom_cons, classified, Nat.add_sub_cancel, List.take_succ_cons, List.drop_succ_cons]

theorem recognise?_eq_none (atEnd : recognise? text = none) : text = [] := by
  cases text with
  | nil => rfl
  | cons first following => simp [recognise?] at atEnd

/-- The loop ends, with the tokens of the scan. -/
theorem loop_scanFrom (start : Nat) (text : Text) : Loop start text (scanFrom start text) := by
  cases recognised : recognise? text with
  | none =>
      obtain rfl := recognise?_eq_none recognised
      rw [scanFrom_nil]
      exact .stop recognised
  | some found =>
      obtain ⟨kind, length⟩ := found
      obtain ⟨positive, fits, scanned⟩ := scanFrom_of_recognise? start recognised
      rw [scanned]
      exact .take recognised (loop_scanFrom (start + length) (text.drop length))
termination_by text.length
decreasing_by
  rw [List.length_drop]
  omega

/-- The loop has no other run. -/
theorem Loop.eq_scanFrom (loop : Loop start text tokens) : tokens = scanFrom start text := by
  induction loop with
  | stop atEnd => rw [recognise?_eq_none atEnd, scanFrom_nil]
  | @take start text kind length rest recognised later inductionHypothesis =>
      rw [(scanFrom_of_recognise? start recognised).2.2, inductionHypothesis]

/-! ## Tilings -/

/-- Tokens tile a text from an offset on: none is empty, each begins where the one before stops, and
the first at the offset, and put together they are the text. -/
inductive Tiles : Nat → List Token → Text → Prop where
  | nil (start : Nat) : Tiles start [] []
  | cons {start : Nat} {token : Token} {rest : List Token} {text : Text}
      (begins : token.start = start) (nonempty : token.text ≠ [])
      (later : Tiles token.stop rest text) : Tiles start (token :: rest) (token.text ++ text)

theorem tiles_scanFrom (start : Nat) (text : Text) : Tiles start (scanFrom start text) text := by
  induction text using scan_induction generalizing start with
  | nil =>
      rw [scanFrom_nil]
      exact .nil start
  | cons first following inductionHypothesis =>
      have fits := classify_le first following
      let token : Token :=
        ⟨(classify first following).1, first :: following.take (classify first following).2, start⟩
      have tile : Tiles start (token :: scanFrom token.stop _) _ :=
        .cons rfl (List.cons_ne_nil _ _) (inductionHypothesis token.stop)
      have stopEq : token.stop = start + ((classify first following).2 + 1) := by
        simp only [token, stop, List.length_cons, List.length_take, Nat.min_eq_left fits]
      rw [stopEq, List.cons_append, List.take_append_drop] at tile
      rw [scanFrom_cons]
      exact tile

namespace Tiles

theorem joined (tiles : Tiles start tokens text) : tokens.flatMap (·.text) = text := by
  induction tiles with
  | nil => rfl
  | cons _ _ _ inductionHypothesis => rw [List.flatMap_cons, inductionHypothesis]

theorem start_eq (tiles : Tiles start tokens text) :
    ∀ first ∈ tokens.head?, first.start = start := by
  cases tiles with
  | nil => simp
  | cons begins => simpa using begins

theorem isChain (tiles : Tiles start tokens text) :
    tokens.IsChain fun earlier later => later.start = earlier.stop := by
  induction tiles with
  | nil => exact .nil
  | cons _ _ later inductionHypothesis =>
      exact List.isChain_cons.mpr ⟨later.start_eq, inductionHypothesis⟩

theorem stop_eq (tiles : Tiles start tokens text) :
    ∀ last ∈ tokens.getLast?, last.stop = start + text.length := by
  induction tiles with
  | nil => simp
  | @cons start token rest text begins _ later inductionHypothesis =>
      intro last isLast
      rw [List.length_append, ← Nat.add_assoc, ← begins]
      cases later with
      | nil =>
          cases isLast
          rfl
      | cons => exact inductionHypothesis last (by simpa using isLast)

/-- Where a token stands in the text. -/
theorem exists_around (tiles : Tiles start tokens text) {token : Token} (member : token ∈ tokens) :
    token.text ≠ [] ∧ ∃ before after, text = before ++ token.text ++ after ∧
      token.start = start + before.length := by
  induction tiles with
  | nil => cases member
  | @cons start first rest text begins nonempty later inductionHypothesis =>
      cases List.mem_cons.mp member with
      | inl isFirst =>
          subst isFirst
          exact ⟨nonempty, [], text, rfl, begins⟩
      | inr isLater =>
          obtain ⟨nonemptyLater, before, after, rfl, startEq⟩ := inductionHypothesis isLater
          refine ⟨nonemptyLater, first.text ++ before, after, by simp, ?_⟩
          rw [startEq, stop, begins, List.length_append, Nat.add_assoc]

/-- A token is what the text has between its offsets, in characters and in bytes. -/
theorem slice_eq (tiles : Tiles 0 tokens text) {token : Token} (member : token ∈ tokens) :
    text.slice token.start token.stop = token.text ∧
      text.byteOffset token.stop = text.byteOffset token.start + token.text.byteLength := by
  obtain ⟨-, before, after, rfl, startEq⟩ := tiles.exists_around member
  rw [Nat.zero_add] at startEq
  have stopEq : token.stop = (before ++ token.text).length := by
    rw [stop, startEq, List.length_append]
  refine ⟨?_, ?_⟩
  · rw [Text.slice, stop, startEq, Nat.add_sub_cancel_left, List.append_assoc, List.drop_left,
      List.take_left]
  · rw [stopEq, Text.byteOffset_append, startEq, List.append_assoc, Text.byteOffset_append,
      Text.byteLength_append]

end Tiles

/-- The tokens of a draft tile it. For every text the scan ends with one list of tokens. Put together
they are the text; none of them is empty; each is as long as its offsets say and is what the text has
between them, in characters and in bytes; the first begins at the beginning, each of the others where
the one before stops, and the last stops at the end. -/
theorem scanAll_tiles (body : Text) :
    let tokens := scanAll body
    (∀ result, Loop 0 body result ↔ result = tokens) ∧
      tokens.flatMap (·.text) = body ∧
      (∀ token ∈ tokens, token.text ≠ [] ∧ token.stop - token.start = token.text.length ∧
        body.slice token.start token.stop = token.text ∧
        body.byteOffset token.stop = body.byteOffset token.start + token.text.byteLength) ∧
      (∀ first ∈ tokens.head?, first.start = 0) ∧
      tokens.IsChain (fun earlier later => later.start = earlier.stop) ∧
      ∀ last ∈ tokens.getLast?, last.stop = body.length := by
  intro tokens
  have tiles : Tiles 0 tokens body := tiles_scanFrom 0 body
  refine ⟨fun result => ⟨Loop.eq_scanFrom, fun same => same ▸ loop_scanFrom 0 body⟩, tiles.joined,
    ?_, tiles.start_eq, tiles.isChain, ?_⟩
  · intro token member
    exact ⟨(tiles.exists_around member).1, Nat.add_sub_cancel_left .., tiles.slice_eq member⟩
  · intro last isLast
    rw [tiles.stop_eq last isLast, Nat.zero_add]

/-- The reference behind a string with a letter of two bytes: characters 4 to 6, bytes 5 to 7. -/
theorem scanAll_tiles_behind_umlaut :
    let body : Text := "\"ü\"&A1".toList
    let token : Token := ⟨.reference, "A1".toList, 4⟩
    token ∈ scanAll body ∧ body.slice 4 6 = "A1".toList ∧ body.byteOffset 4 = 5 ∧
      body.byteOffset 6 = body.byteOffset 4 + 2 := by
  intro body token
  have member : token ∈ scanAll body := by decide +kernel
  obtain ⟨-, -, each, -⟩ := scanAll_tiles body
  obtain ⟨-, -, inText, inBytes⟩ := each token member
  exact ⟨member, inText, rfl, inBytes⟩

end SheetEditor.Draft.Token
