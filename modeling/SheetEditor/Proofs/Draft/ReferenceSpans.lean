import SheetEditor.Draft.Analysis
import SheetEditor.Proofs.Draft.CellPlaces
import SheetEditor.Proofs.Draft.Targets
import SheetEditor.Proofs.Draft.Tiling

/-!
Contract: the highlights of references lie where the references are written.

Owns: the places of the references of a draft, one after another, their colours, and that the text has
them in these places.

Does not own: which cells a reference covers (`SheetEditor.Proofs.Draft.Targets`).

The tokens of a draft tile it. The references are those of the tokens that resolve, so they inherit
the order of the tokens and what stands between their offsets.
-/

namespace SheetEditor.Draft

variable {tokens : List Token} {text : Text} {start : Nat}

namespace Token.Tiles

/-- Each token of a tiling stops before the later ones start. -/
theorem pairwise (tiles : Tiles start tokens text) :
    tokens.Pairwise fun earlier later => earlier.stop ≤ later.start := by
  induction tiles with
  | nil => exact .nil
  | @cons start token rest text _ _ later inductionHypothesis =>
      refine List.pairwise_cons.mpr ⟨fun other member => ?_, inductionHypothesis⟩
      obtain ⟨_, before, after, _, startEq⟩ := later.exists_around member
      rw [startEq]
      exact Nat.le_add_right _ _

/-- Two tokens of a tiling do not overlap. -/
theorem apart (tiles : Tiles start tokens text) {token other : Token} (member : token ∈ tokens)
    (otherMember : other ∈ tokens) (different : other ≠ token) :
    other.stop ≤ token.start ∨ token.stop ≤ other.start := by
  have symmetric : Std.Symm fun earlier later : Token =>
      earlier.stop ≤ later.start ∨ later.stop ≤ earlier.start := ⟨fun _ _ => Or.symm⟩
  have either : tokens.Pairwise fun earlier later : Token =>
      earlier.stop ≤ later.start ∨ later.stop ≤ earlier.start := tiles.pairwise.imp Or.inl
  exact either.forall otherMember member different

theorem stops_inOrder (tiles : Tiles start tokens text) :
    tokens.Pairwise fun earlier later => earlier.stop ≤ later.stop :=
  tiles.pairwise.imp fun apart => apart.trans (Nat.le_add_right _ _)

/-- A token is what a longer text has between its offsets, if the tiling begins where the rest of the
text does. -/
theorem slice_behind (front : Text) (tiles : Tiles front.length tokens text) {token : Token}
    (member : token ∈ tokens) :
    token.start < token.stop ∧ token.stop ≤ (front ++ text).length ∧
      (front ++ text).slice token.start token.stop = token.text := by
  obtain ⟨nonempty, before, after, rfl, startEq⟩ := tiles.exists_around member
  have positive := List.length_pos_iff.mpr nonempty
  have behind : (front ++ before).length = token.start := by rw [List.length_append, startEq]
  refine ⟨Nat.lt_add_of_pos_right positive, ?_, ?_⟩
  · simp only [stop, List.length_append, startEq]
    omega
  · rw [Text.slice, stop, Nat.add_sub_cancel_left, ← behind, List.append_assoc,
      ← List.append_assoc front, List.drop_left, List.take_left]

end Token.Tiles

/-! ## References among the tokens -/

theorem Token.place?_eq_some_iff {token : Token} {target : Target} {start stop : Nat} :
    token.place? = some (target, start, stop) ↔
      token.kind = .reference ∧ Target.ofText? token.text = some target ∧ start = token.start ∧
        stop = token.stop := by
  rw [Token.place?, resolve?]
  split
  · next isReference => simp [isReference, eq_comm]
  · next other => simp [other]

namespace Reference

variable {reference : Reference} {found : Nat}

/-- A reference is a token that resolves. -/
theorem exists_token (member : reference ∈ ofTokensFrom found tokens) :
    ∃ token ∈ tokens, token.kind = .reference ∧
      Target.ofText? token.text = some reference.target ∧ reference.start = token.start ∧
      reference.stop = token.stop := by
  have placed := List.mem_map_of_mem (f := place) member
  rw [map_place_ofTokensFrom] at placed
  obtain ⟨token, isToken, resolves⟩ := List.mem_filterMap.mp placed
  exact ⟨token, isToken, Token.place?_eq_some_iff.mp resolves⟩

/-- A token that resolves is a reference. -/
theorem exists_of_resolves (found : Nat) {token : Token} {target : Target} (member : token ∈ tokens)
    (isReference : token.kind = .reference) (resolves : Target.ofText? token.text = some target) :
    ∃ reference ∈ ofTokensFrom found tokens, reference.target = target ∧
      reference.start = token.start ∧ reference.stop = token.stop := by
  have placed : (target, token.start, token.stop) ∈ (ofTokensFrom found tokens).map place := by
    rw [map_place_ofTokensFrom]
    exact List.mem_filterMap.mpr
      ⟨token, member, Token.place?_eq_some_iff.mpr ⟨isReference, resolves, rfl, rfl⟩⟩
  obtain ⟨reference, isListed, same⟩ := List.mem_map.mp placed
  rw [place, Prod.mk.injEq, Prod.mk.injEq] at same
  exact ⟨reference, isListed, same⟩

/-- References keep the order of the tokens. -/
theorem pairwise_ofTokensFrom (found : Nat)
    (apart : tokens.Pairwise fun earlier later => earlier.stop ≤ later.start) :
    (ofTokensFrom found tokens).Pairwise fun earlier later => earlier.stop ≤ later.start := by
  have places : ((ofTokensFrom found tokens).map place).Pairwise
      fun earlier later => earlier.2.2 ≤ later.2.1 := by
    rw [map_place_ofTokensFrom, List.pairwise_filterMap]
    refine apart.imp ?_
    rintro earlier later inOrder ⟨_, _, _⟩ isEarlier ⟨_, _, _⟩ isLater
    obtain ⟨_, _, _, rfl⟩ := Token.place?_eq_some_iff.mp isEarlier
    obtain ⟨_, _, rfl, _⟩ := Token.place?_eq_some_iff.mp isLater
    exact inOrder
  exact List.pairwise_map.mp places

/-- Colours are given in turn. -/
theorem colour_of_getElem? {index : Nat}
    (isAt : (ofTokensFrom found tokens)[index]? = some reference) :
    reference.colour = (found + index) % Palette.size := by
  induction tokens generalizing found index with
  | nil => cases isAt
  | cons token others inductionHypothesis =>
      rw [ofTokensFrom_cons] at isAt
      split at isAt
      · cases index with
        | zero =>
            cases isAt
            rfl
        | succ index =>
            rw [inductionHypothesis isAt, Nat.add_assoc, Nat.add_comm 1]
      · exact inductionHypothesis isAt

/-! ## References in the text of a tiling -/

section Tiling

variable {front : Text} (tiles : Token.Tiles front.length tokens text)

include tiles

/-- A reference is what the text has between its offsets. -/
theorem resolves_slice (member : reference ∈ ofTokensFrom found tokens) :
    reference.start < reference.stop ∧ reference.stop ≤ (front ++ text).length ∧
      Target.ofText? ((front ++ text).slice reference.start reference.stop) =
        some reference.target := by
  obtain ⟨token, isToken, _, resolves, startEq, stopEq⟩ := exists_token member
  obtain ⟨positive, within, sliceEq⟩ := Token.Tiles.slice_behind front tiles isToken
  rw [startEq, stopEq, sliceEq]
  exact ⟨positive, within, resolves⟩

/-- A token of the class of references has a reference in its place if and only if it resolves. -/
theorem exists_in_place_iff (found : Nat) {token : Token} (member : token ∈ tokens)
    (isReference : token.kind = .reference) :
    (∃ reference ∈ ofTokensFrom found tokens,
        reference.start = token.start ∧ reference.stop = token.stop) ↔
      (Target.ofText? token.text).isSome = true := by
  constructor
  · rintro ⟨reference, isListed, sameStart, sameStop⟩
    obtain ⟨_, _, resolves⟩ := resolves_slice tiles isListed
    obtain ⟨_, _, sliceEq⟩ := Token.Tiles.slice_behind front tiles member
    rw [sameStart, sameStop, sliceEq] at resolves
    rw [resolves]
    rfl
  · intro resolves
    obtain ⟨target, resolves⟩ := Option.isSome_iff_exists.mp resolves
    obtain ⟨reference, isListed, _, sameStart, sameStop⟩ :=
      exists_of_resolves found member isReference resolves
    exact ⟨reference, isListed, sameStart, sameStop⟩

end Tiling

end Reference

theorem Analysis.references_ofText_formula (body : Text) (caret : Nat) :
    (Analysis.ofText ('=' :: body) caret).references =
      Reference.ofTokensFrom 0 (Token.scanFrom 1 body) :=
  congrArg Reference.ofTokens (Token.map_shift_scanAll body)

/-- The highlights of a formula line up with its text, wherever the caret is. They are in the order of
the text and do not overlap; each is the reference that the text has between its offsets, in
characters; their colours take turns. A token of the class of references is highlighted if and only if
it resolves. -/
theorem highlights_line_up (body : Text) (caret : Nat) :
    let text : Text := '=' :: body
    let references := (Analysis.ofText text caret).references
    references.Pairwise (fun earlier later => earlier.stop ≤ later.start) ∧
      (∀ reference ∈ references,
        reference.start < reference.stop ∧ reference.stop ≤ text.length ∧
          Target.ofText? (text.slice reference.start reference.stop) = some reference.target) ∧
      (∀ index reference, references[index]? = some reference → reference.colour = index % 8) ∧
      ∀ token ∈ Token.scanAll body, token.kind = .reference →
        ((∃ reference ∈ references,
            reference.start = token.start + 1 ∧ reference.stop = token.stop + 1) ↔
          (Target.ofText? token.text).isSome = true) := by
  have tiles : Token.Tiles ['='].length (Token.scanFrom 1 body) body := Token.tiles_scanFrom 1 body
  dsimp only
  rw [Analysis.references_ofText_formula]
  refine ⟨Reference.pairwise_ofTokensFrom 0 tiles.pairwise,
    fun reference member => Reference.resolves_slice tiles member,
    fun index reference isAt => ?_, fun token member isReference => ?_⟩
  · rw [Reference.colour_of_getElem? isAt, Nat.zero_add]
    rfl
  · have isShifted : token.shift 1 ∈ Token.scanFrom 1 body :=
      Token.map_shift_scanAll body ▸ List.mem_map_of_mem member
    have stopEq : (token.shift 1).stop = token.stop + 1 := Nat.add_right_comm ..
    rw [← stopEq]
    exact Reference.exists_in_place_iff tiles 0 isShifted isReference

/-- A reference on a quoted sheet, behind a cell that no sheet has and a letter of two bytes. -/
theorem highlights_around_unresolved :
    let body : Text := "\"ü\"&A1+XFE1*'Ä b'!$b2:C3".toList
    let references := (Analysis.ofText ('=' :: body) 0).references
    let last : Reference := ⟨⟨⟨⟨1, 1⟩, ⟨2, 2⟩⟩, some "Ä b".toList⟩, 13, 25, 1⟩
    references = [⟨⟨.single ⟨0, 0⟩, none⟩, 5, 7, 0⟩, last] ∧
      Target.ofText? (Text.slice ('=' :: body) 13 25) = some last.target ∧ last.colour = 1 % 8 ∧
      (⟨.reference, "XFE1".toList, 7⟩ : Token) ∈ Token.scanAll body ∧
      ¬∃ reference ∈ references, reference.start = 8 ∧ reference.stop = 12 := by
  intro body references last
  have found : references = [⟨⟨.single ⟨0, 0⟩, none⟩, 5, 7, 0⟩, last] := by decide +kernel
  have unresolved : (⟨.reference, "XFE1".toList, 7⟩ : Token) ∈ Token.scanAll body := by
    decide +kernel
  obtain ⟨_, resolved, coloured, listed⟩ := highlights_line_up body 0
  have isLast : references[1]? = some last := by rw [found]; rfl
  refine ⟨found, (resolved last (List.mem_of_getElem? isLast)).2.2, coloured 1 last isLast, unresolved,
    fun isListed => ?_⟩
  have resolves := (listed _ unresolved rfl).mp isListed
  revert resolves
  decide +kernel

end SheetEditor.Draft
