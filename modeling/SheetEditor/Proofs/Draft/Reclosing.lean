import SheetEditor.Proofs.Draft.Closing
import SheetEditor.Proofs.Draft.Scan

/-!
Contract: parentheses counted again after they were closed.

Owns: the parentheses that a draft leaves open after closing ones were put at its
end, and the drafts for which closing them twice is closing them once.

A string that nothing closes takes the parentheses put at its end into it. Nothing
else at the end of a draft does.
-/

namespace SheetEditor.Draft

open Text (Stops)

variable {body : Text} {start depth count : Nat}

/-! ## Closing parentheses alone -/

theorem stops_closers (count : Nat) : Stops Token.joinsText (List.replicate count ')') := by
  cases count with
  | zero => exact Text.stops_nil
  | succ count => exact Text.stops_cons.mpr rfl

theorem not_mem_closers {character : Char} (different : character ≠ ')') (count : Nat) :
    character ∉ List.replicate count ')' := fun member =>
  different (List.eq_of_mem_replicate member)

/-- Each closing parenthesis closes one. -/
theorem foldl_closers (start depth count : Nat) :
    (Token.scanFrom start (List.replicate count ')')).foldl stepDepth depth = depth - count := by
  induction count generalizing start depth with
  | zero => rw [List.replicate_zero, Token.scanFrom_nil, List.foldl_nil, Nat.sub_zero]
  | succ count inductionHypothesis =>
      have single : Token.classify ')' (List.replicate count ')') = (.parenthesis, 0) :=
        Token.classify_of_standsAlone rfl (Token.longOperatorRule_eq_none (by decide) (by decide))
      rw [List.replicate_succ, Token.scanFrom_cons, single, List.foldl_cons, List.drop_zero,
        inductionHypothesis]
      have closes : stepDepth depth ⟨.parenthesis, [')'], start⟩ = depth - 1 := rfl
      rw [List.take_zero, closes, Nat.sub_sub, Nat.add_comm]

/-! ## Closing parentheses at the end of a body -/

/-- Whether a body ends inside a string that nothing closes. -/
def endsInString (body : Text) : Bool := (Token.scanAll body).any Token.isOpenString

theorem openDepth_append_closers (closed : endsInString body = false) (count : Nat) :
    openDepth (Token.scanAll (body ++ List.replicate count ')')) =
      openDepth (Token.scanAll body) - count := by
  have noneOpen : ∀ token ∈ Token.scanFrom 0 body, token.isOpenString = false := by
    simpa [endsInString, Token.scanAll] using closed
  unfold openDepth Token.scanAll
  rw [Token.scanFrom_append (stops_closers count) (not_mem_closers (by decide) count) noneOpen,
    List.foldl_append, foldl_closers]

/-- An open string takes in what is put at its end. -/
theorem foldl_append_closers (isOpen : ∃ token ∈ Token.scanFrom start body, token.isOpenString = true)
    (depth count : Nat) :
    (Token.scanFrom start (body ++ List.replicate count ')')).foldl stepDepth depth =
      (Token.scanFrom start body).foldl stepDepth depth := by
  induction body using Token.scan_induction generalizing start depth with
  | nil =>
      obtain ⟨token, member, _⟩ := isOpen
      rw [Token.scanFrom_nil] at member
      cases member
  | cons first following inductionHypothesis =>
      by_cases closes : Token.ClosesString (first :: following)
      · have same := Token.classify_append closes
          (fun _ _ _ => not_mem_closers (by decide) count) (stops_closers count)
        have fits := Token.classify_le first following
        rw [List.cons_append, Token.scanFrom_cons, Token.scanFrom_cons, same,
          List.take_append_of_le_length fits, List.drop_append_of_le_length fits, List.foldl_cons,
          List.foldl_cons]
        apply inductionHypothesis
        obtain ⟨token, member, openToken⟩ := isOpen
        rw [Token.scanFrom_cons] at member
        rcases List.mem_cons.mp member with isFirst | isLater
        · subst isFirst
          obtain ⟨rfl, unread⟩ := Token.readQuoted?_of_isOpenString openToken
          exact absurd unread (closes following rfl)
        · exact ⟨token, isLater, openToken⟩
      · unfold Token.ClosesString at closes
        push Not at closes
        obtain ⟨inside, textEq, unread⟩ := closes
        cases textEq
        have stillUnread := Text.readQuoted?_append_eq_none unread
          (not_mem_closers (by decide) count)
        rw [List.cons_append, Token.scanFrom_openString start stillUnread,
          Token.scanFrom_openString start unread]
        rfl

theorem openDepth_append_of_endsInString (isOpen : endsInString body = true) (count : Nat) :
    openDepth (Token.scanAll (body ++ List.replicate count ')')) =
      openDepth (Token.scanAll body) :=
  foldl_append_closers (by simpa [endsInString, Token.scanAll] using isOpen) 0 count

/-! ## Closing twice -/

/-- The parentheses that are open after all were closed: none, unless a string takes them in. -/
theorem openDepth_closed (body : Text) :
    openDepth (Token.scanAll
        (body ++ List.replicate (openDepth (Token.scanAll body)) ')')) =
      if endsInString body then openDepth (Token.scanAll body) else 0 := by
  cases isOpen : endsInString body with
  | true => exact openDepth_append_of_endsInString isOpen _
  | false => exact (openDepth_append_closers isOpen _).trans (Nat.sub_self _)

/-- Closing again changes nothing if nothing is open any more. -/
theorem closeParentheses_eq_self_of_balanced
    (balanced : openDepth (Token.scanAll body) = 0) :
    closeParentheses ('=' :: body) = '=' :: body := by
  rw [closeParentheses, balanced, List.replicate_zero, List.append_nil]

end SheetEditor.Draft
