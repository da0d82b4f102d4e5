import SheetEditor.Draft.Analysis
import SheetEditor.Proofs.Formula.Picking

/-!
Contract: a formula made by picking ranges one after the other, with operators
between them.

Owns: the references of such a formula with their places and colours, and the
expression that it parses to, whose operands are the picked ranges in order.

The draft and the parser each read the text from the left. An operator ends the
picked range before it for both, so one range after the other is read off.
-/

namespace SheetEditor.Draft

open Formula (Scanned)
open Text (Stops)

/-! ## Operators between ranges -/

/-- The operators typed between picked ranges. -/
inductive Joiner where
  | add
  | subtract
  | multiply
  | divide
  | power
  | concatenate
deriving DecidableEq, Repr

namespace Joiner

def mark : Joiner → Char
  | .add => '+'
  | .subtract => '-'
  | .multiply => '*'
  | .divide => '/'
  | .power => '^'
  | .concatenate => '&'

def operator : Joiner → BinaryOperator
  | .add => .add
  | .subtract => .subtract
  | .multiply => .multiply
  | .divide => .divide
  | .power => .power
  | .concatenate => .concatenate

variable (joiner : Joiner) (rest : Text)

theorem stops_area : Stops continuesArea (joiner.mark :: rest) :=
  Text.stops_cons.mpr (by cases joiner <;> rfl)

theorem stops_identifier : Stops Formula.continuesIdentifier (joiner.mark :: rest) :=
  Text.stops_cons.mpr (by cases joiner <;> rfl)

theorem isBoundary_cons : Token.isBoundary (joiner.mark :: rest) = true := by
  cases joiner <;> rfl

theorem scanFrom_cons (start : Nat) :
    Token.scanFrom start (joiner.mark :: rest) =
      ⟨.operator, [joiner.mark], start⟩ :: Token.scanFrom (start + 1) rest := by
  have classified : Token.classify joiner.mark rest = (.operator, 0) := by
    cases joiner <;>
      exact Token.classify_of_standsAlone rfl
        (Token.longOperatorRule_eq_none (by decide) (by decide))
  rw [Token.scanFrom_cons, classified]
  rfl

theorem scanned_cons {rest : Text} {tokens : List Formula.Token} (later : Scanned rest tokens) :
    Scanned (joiner.mark :: rest) (.operator joiner.operator :: tokens) := by
  have step (position : Nat) : Formula.Token.scan position joiner.mark rest =
      .ok (some (.operator joiner.operator), 0) := by
    cases joiner <;> rfl
  exact Scanned.cons step later

end Joiner

/-! ## Picked ranges in a row -/

/-- A range picked while a formula on the sheet `current` is edited, with the sheet on screen. -/
structure Pick where
  range : CellRange
  current : Text
  target : Option Text
deriving DecidableEq, Repr

namespace Pick

def text (pick : Pick) : Text := referenceText pick.range pick.current pick.target

/-- The sheet that the picked range names: the one on screen, unless it is that of the formula. -/
def sheet? (pick : Pick) : Option Text := pickedSheet? pick.current pick.target

def resolved (pick : Pick) : Target := ⟨pick.range, pick.sheet?⟩

def expression (pick : Pick) : Expr := Formula.rangeExpression pick.sheet? pick.range

/-- The corners are on the sheet, and the sheet on screen has a name. -/
structure Allowed (pick : Pick) : Prop where
  inBounds : pick.range.InBounds
  named : ∀ sheet ∈ pick.target, sheet ≠ []

end Pick

/-- Picked ranges with an operator before each but the first. -/
def joined (first : Pick) (rest : List (Joiner × Pick)) : Text :=
  first.text ++ rest.flatMap fun (joiner, pick) => joiner.mark :: pick.text

/-- Where a picked range begins, if the first one begins at `start`. -/
def offset (start : Nat) (picks : List Pick) (index : Nat) : Nat :=
  start + ((picks.take index).map fun pick => pick.text.length + 1).sum

theorem offset_succ (start : Nat) (pick : Pick) (picks : List Pick) (index : Nat) :
    offset start (pick :: picks) (index + 1) =
      offset (start + (pick.text.length + 1)) picks index := by
  simp only [offset, List.take_succ_cons, List.map_cons, List.sum_cons]
  omega

variable {first : Pick} {rest : List (Joiner × Pick)}

theorem joined_cons (first : Pick) (joiner : Joiner) (pick : Pick) (rest : List (Joiner × Pick)) :
    joined first ((joiner, pick) :: rest) = first.text ++ joiner.mark :: joined pick rest := by
  simp [joined]

/-! ## References of the draft -/

/-- The token of a picked range, at its offset after the equals sign, gives one reference. -/
theorem ofTokensFrom_pick {pick : Pick} (allowed : pick.Allowed) (found start : Nat)
    (tokens : List Token) :
    Reference.ofTokensFrom found (Token.shift 1 ⟨.reference, pick.text, start⟩ :: tokens) =
      ⟨pick.resolved, start + 1, start + 1 + pick.text.length, found % Palette.size⟩ ::
        Reference.ofTokensFrom (found + 1) tokens := by
  have resolves : Target.ofText? pick.text = some pick.resolved :=
    ofText?_referenceText allowed.inBounds allowed.named
  rw [Reference.ofTokensFrom, Token.shift, if_pos rfl, resolves]
  rfl

theorem ofTokensFrom_joined (allowed : ∀ pick ∈ first :: rest.map Prod.snd, pick.Allowed)
    (found start : Nat) :
    Reference.ofTokensFrom found ((Token.scanFrom start (joined first rest)).map (Token.shift 1)) =
      (first :: rest.map Prod.snd).mapIdx fun index pick =>
        ⟨pick.resolved, offset (start + 1) (first :: rest.map Prod.snd) index,
          offset (start + 1) (first :: rest.map Prod.snd) index + pick.text.length,
          (found + index) % Palette.size⟩ := by
  induction rest generalizing first found start with
  | nil =>
      have allowedFirst := allowed first List.mem_cons_self
      have token := scanFrom_referenceText first.current start allowedFirst.inBounds
        allowedFirst.named Text.stops_nil rfl
      rw [Token.scanFrom_nil] at token
      rw [joined, List.flatMap_nil, Pick.text, token, List.map_singleton]
      exact ofTokensFrom_pick allowedFirst found start []
  | cons next rest inductionHypothesis =>
      obtain ⟨joiner, pick⟩ := next
      obtain ⟨allowedFirst, allowedRest⟩ := List.forall_mem_cons.mp allowed
      have token := scanFrom_referenceText first.current start allowedFirst.inBounds
        allowedFirst.named (joiner.stops_area (joined pick rest))
        (joiner.isBoundary_cons (joined pick rest))
      rw [joined_cons, Pick.text, token, joiner.scanFrom_cons, List.map_cons, List.map_cons,
        ← Pick.text, ofTokensFrom_pick allowedFirst]
      have later := inductionHypothesis allowedRest (found + 1) (start + first.text.length + 1)
      have skip (tokens : List Token) :
          Reference.ofTokensFrom (found + 1) (Token.shift 1 ⟨.operator, [joiner.mark],
            start + first.text.length⟩ :: tokens) = Reference.ofTokensFrom (found + 1) tokens := rfl
      have shifted (index : Nat) :
          offset (start + 1) (first :: pick :: rest.map Prod.snd) (index + 1) =
            offset (start + first.text.length + 1 + 1) (pick :: rest.map Prod.snd) index := by
        rw [offset_succ]
        congr 1
        omega
      have coloured (index : Nat) : found + (index + 1) = found + 1 + index := by omega
      rw [skip, List.map_cons, List.mapIdx_cons, later]
      refine congrArg (List.cons _) (congrArg (List.mapIdx · _) ?_)
      funext index other
      rw [shifted, coloured index]

/-! ## The expression of the parser -/

/-- The tokens of picked ranges in a row. -/
def joinedTokens (first : Pick) (rest : List (Joiner × Pick)) : List Formula.Token :=
  Formula.pickedTokens first.sheet? first.range ++ rest.flatMap fun (joiner, pick) =>
    .operator joiner.operator :: Formula.pickedTokens pick.sheet? pick.range

theorem scanned_joined (allowed : ∀ pick ∈ first :: rest.map Prod.snd, pick.Allowed) :
    Scanned (joined first rest) (joinedTokens first rest) := by
  induction rest generalizing first with
  | nil =>
      have allowedFirst := allowed first List.mem_cons_self
      exact Formula.scanned_referenceText allowedFirst.inBounds allowedFirst.named Text.stops_nil
        Formula.scanned_nil
  | cons next rest inductionHypothesis =>
      obtain ⟨joiner, pick⟩ := next
      obtain ⟨allowedFirst, allowedRest⟩ := List.forall_mem_cons.mp allowed
      rw [joined_cons]
      exact Formula.scanned_referenceText allowedFirst.inBounds allowedFirst.named
        (joiner.stops_identifier _) (joiner.scanned_cons (inductionHypothesis allowedRest))

theorem isShallow_joinedTokens (first : Pick) (rest : List (Joiner × Pick)) :
    Formula.isShallow (joinedTokens first rest) = true := by
  have later : Formula.Nesting.staysWithinLimit ⟨0, 0, true⟩ (rest.flatMap fun (joiner, pick) =>
      .operator joiner.operator :: Formula.pickedTokens pick.sheet? pick.range) = true := by
    induction rest with
    | nil => rfl
    | cons next rest inductionHypothesis =>
        rw [List.flatMap_cons, List.cons_append, Formula.staysWithinLimit_operator,
          Formula.staysWithinLimit_pickedTokens, inductionHypothesis]
  exact (Formula.staysWithinLimit_pickedTokens first.sheet? first.range false _).trans later

/-- The tokens of picked ranges in a row derive an expression of these operands. -/
theorem exists_derives_joinedTokens (first : Pick) (rest : List (Joiner × Pick)) :
    ∃ value, Formula.Derives (joinedTokens first rest) (.joined .comparison value) ∧
      value.operands = (first :: rest.map Prod.snd).map Pick.expression := by
  have derives (pick : Pick) := Formula.derives_pickedTokens pick.sheet? pick.range
  have operands (pick : Pick) : pick.expression.operands = [pick.expression] :=
    Formula.operands_rangeExpression pick.sheet? pick.range
  obtain ⟨value, derived, operandsEq⟩ := Formula.Derives.extend_chain rest
    (fun item => item.1.operator) (fun item => Formula.pickedTokens item.2.sheet? item.2.range)
    (fun item => item.2.expression) (fun item _ => derives item.2)
    ((derives first).joined_of_signed .comparison)
  refine ⟨value, derived, ?_⟩
  rw [operandsEq, List.map_cons, List.map_map]
  change first.expression.operands ++ _ = _
  rw [operands first, List.singleton_append, List.flatMap_congr fun item _ => operands item.2,
    ← List.map_eq_flatMap]
  rfl

/-! ## Both readings -/

/-- A formula of picked ranges, joined by any operators, reads back as it was picked. At any caret,
the references of the draft are the picked ranges in order: each covers exactly the text that was
inserted for it, resolves to its range and the sheet that it names, and takes the next colour. If
the body is not too long, the parser accepts it, and the operands are the same ranges in the same
order. -/
theorem picked_ranges_read_back (first : Pick) (rest : List (Joiner × Pick)) (caret : Nat)
    (allowed : ∀ pick ∈ first :: rest.map Prod.snd, pick.Allowed) :
    let picks := first :: rest.map Prod.snd
    (Analysis.ofText ('=' :: joined first rest) caret).references =
        (picks.mapIdx fun index pick =>
          ⟨⟨pick.range, pick.sheet?⟩, offset 1 picks index,
            offset 1 picks index + pick.text.length, index % 8⟩) ∧
      ((joined first rest).length ≤ Formula.lengthLimit →
        ∃ value, Formula.parse (joined first rest) = .ok value ∧
          value.operands = picks.map Pick.expression) := by
  intro picks
  refine ⟨?_, fun short => ?_⟩
  · have references := ofTokensFrom_joined allowed 0 0
    simp only [Nat.zero_add] at references
    exact references
  · obtain ⟨value, derives, operandsEq⟩ := exists_derives_joinedTokens first rest
    exact ⟨value, Formula.parse_of_derives short (scanned_joined allowed 0)
      (isShallow_joinedTokens first rest) derives, operandsEq⟩

/-- A range on the sheet of the formula, one on a sheet with a quote, an exclamation mark and an
operator in its name, and the last cell of a sheet. -/
theorem picked_ranges_on_three_sheets :
    let data := "Data".toList
    let first : Pick := ⟨⟨⟨4, 1⟩, ⟨4, 1⟩⟩, data, some data⟩
    let rest : List (Joiner × Pick) :=
      [(.multiply, ⟨⟨⟨3, 2⟩, ⟨1, 27⟩⟩, data, some "It's (a+b)!".toList⟩),
        (.power, ⟨⟨⟨1048575, 16383⟩, ⟨1048575, 16383⟩⟩, data, some "Sheet_2".toList⟩)]
    let picks := first :: rest.map Prod.snd
    joined first rest = "B5*'It''s (a+b)!'!C4:AB2^Sheet_2!XFD1048576".toList ∧
      (∀ pick ∈ picks, pick.Allowed) ∧
      (Analysis.ofText ('=' :: joined first rest) 4).references =
        (picks.mapIdx fun index pick =>
          ⟨⟨pick.range, pick.sheet?⟩, offset 1 picks index,
            offset 1 picks index + pick.text.length, index % 8⟩) ∧
      ∃ value, Formula.parse (joined first rest) = .ok value ∧
        value.operands = picks.map Pick.expression := by
  intro data first rest picks
  have text : joined first rest = "B5*'It''s (a+b)!'!C4:AB2^Sheet_2!XFD1048576".toList := by
    decide +kernel
  have allowed : ∀ pick ∈ picks, pick.Allowed := by
    intro pick member
    simp only [picks, first, rest, List.map_cons, List.map_nil, List.mem_cons, List.not_mem_nil,
      or_false] at member
    rcases member with rfl | rfl | rfl <;>
      exact ⟨by decide, by rintro _ ⟨⟩; decide⟩
  obtain ⟨references, accepted⟩ := picked_ranges_read_back first rest 4 allowed
  exact ⟨text, allowed, references, accepted (text ▸ by decide)⟩

end SheetEditor.Draft
