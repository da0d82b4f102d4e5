import SheetEditor.Formula.Parser
import SheetEditor.Proofs.Formula.Completeness

/-!
Contract: operands in a row, joined by binary operators.

Owns: the operands of an expression in the order of the text, that any row of
them can go on with a further operator and operand, and that a body whose tokens
derive an expression is accepted.

How the operators group their operands depends on how tightly they bind. The
order of the operands does not.
-/

namespace SheetEditor

namespace Expr

/-- The operands that binary operators join, in the order of the text. -/
def operands : Expr → List Expr
  | .binary _ left right => operands left ++ operands right
  | operand => [operand]

end Expr

namespace Formula

variable {tokens after : List Token} {value operand : Expr} {level : Binding}
  {operator : BinaryOperator}

/-- An operand stands on every level. -/
theorem Derives.joined_of_signed (derives : Derives tokens (.signed value)) (level : Binding) :
    Derives tokens (.joined level value) := by
  have power : Derives tokens (.joined .power value) := .alone derives
  have product : Derives tokens (.joined .product value) := .alone power
  have sum : Derives tokens (.joined .sum value) := .alone product
  have concatenation : Derives tokens (.joined .concatenation value) := .alone sum
  cases level with
  | comparison => exact .alone concatenation
  | concatenation => exact concatenation
  | sum => exact sum
  | product => exact product
  | power => exact power

theorem Derives.operandPhrase_of_signed (derives : Derives tokens (.signed value))
    (level : Binding) : Derives tokens (operandPhrase level value) := by
  cases level with
  | comparison | concatenation | sum | product => exact derives.joined_of_signed _
  | power => exact derives

/-- Where an operator binds tighter than a level, the operands of the level are themselves joined, on
the next level. -/
theorem exists_operandPhrase (binds : level.tightness ≤ operator.binding.tightness)
    (other : operator.binding ≠ level) :
    ∃ tighter : Binding, tighter.tightness ≤ operator.binding.tightness ∧
      ∀ value, operandPhrase level value = .joined tighter value := by
  generalize operator.binding = binding at binds other
  cases level with
  | comparison =>
      exact ⟨.concatenation, by cases binding <;> first | contradiction | decide, fun _ => rfl⟩
  | concatenation => exact ⟨.sum, by cases binding <;> first | contradiction | decide, fun _ => rfl⟩
  | sum => exact ⟨.product, by cases binding <;> first | contradiction | decide, fun _ => rfl⟩
  | product => exact ⟨.power, by cases binding <;> first | contradiction | decide, fun _ => rfl⟩
  | power => cases binding <;> contradiction

/-- What a level joins goes on with any operator that binds as tightly as the level or tighter: the
operator joins its operand to all of it, or to the last of its operands. -/
theorem Derives.extend {phrase : Phrase} (derives : Derives tokens phrase)
    (joined : phrase = .joined level value) (next : Derives after (.signed operand))
    (binds : level.tightness ≤ operator.binding.tightness) :
    ∃ extended, Derives (tokens ++ .operator operator :: after) (.joined level extended) ∧
      extended.operands = value.operands ++ operand.operands := by
  induction derives generalizing level value with
  | @alone level _ value derives inductionHypothesis =>
      cases joined
      by_cases same : operator.binding = level
      · exact ⟨.binary operator value operand,
          .binary (.alone derives) same (next.operandPhrase_of_signed level), rfl⟩
      · obtain ⟨tighter, bindsTighter, phraseEq⟩ := exists_operandPhrase binds same
        obtain ⟨extended, derived, operandsEq⟩ := inductionHypothesis (phraseEq value) bindsTighter
        rw [← phraseEq] at derived
        exact ⟨extended, .alone derived, operandsEq⟩
  | @binary level before last left right other leftDerives otherBinds rightDerives _ inductionHypothesis =>
      cases joined
      by_cases same : operator.binding = level
      · exact ⟨.binary operator (.binary other left right) operand,
          .binary (.binary leftDerives otherBinds rightDerives) same
            (next.operandPhrase_of_signed level), rfl⟩
      · obtain ⟨tighter, bindsTighter, phraseEq⟩ := exists_operandPhrase binds same
        obtain ⟨extended, derived, operandsEq⟩ := inductionHypothesis (phraseEq right) bindsTighter
        rw [← phraseEq] at derived
        refine ⟨.binary other left extended, ?_, ?_⟩
        · rw [List.append_assoc, List.cons_append]
          exact .binary leftDerives otherBinds derived
        · rw [Expr.operands, operandsEq, Expr.operands, List.append_assoc]
  | _ => cases joined

/-- An expression goes on with any row of operators, each with an operand after it. -/
theorem Derives.extend_chain {Item : Type} (items : List Item) (operatorOf : Item → BinaryOperator)
    (tokensOf : Item → List Token) (valueOf : Item → Expr)
    (operands : ∀ item ∈ items, Derives (tokensOf item) (.signed (valueOf item)))
    (derives : Derives tokens (.joined .comparison value)) :
    ∃ extended,
      Derives (tokens ++ items.flatMap fun item => .operator (operatorOf item) :: tokensOf item)
        (.joined .comparison extended) ∧
      extended.operands = value.operands ++ items.flatMap fun item => (valueOf item).operands := by
  induction items generalizing tokens value with
  | nil => exact ⟨value, by simpa using derives, by simp⟩
  | cons item items inductionHypothesis =>
      rw [List.forall_mem_cons] at operands
      have loosest : Binding.comparison.tightness ≤ (operatorOf item).binding.tightness :=
        Nat.zero_le _
      obtain ⟨extended, derived, operandsEq⟩ := derives.extend rfl operands.1 loosest
      obtain ⟨whole, derivedWhole, wholeEq⟩ := inductionHypothesis operands.2 derived
      refine ⟨whole, ?_, ?_⟩
      · simpa using derivedWhole
      · simp [wholeEq, operandsEq]

/-! ## Acceptance -/

theorem parseTokens_of_derives (derives : Derives tokens (.joined .comparison value)) :
    parseTokens tokens = .ok value := by
  rw [parseTokens, derives.descend_eq_ok]

/-- A body that is not too long is accepted if its tokens respect the limits on nesting and derive an
expression. -/
theorem parse_of_derives {body : Text} (short : body.length ≤ lengthLimit)
    (scanned : Token.scanAll body = .ok tokens) (shallow : isShallow tokens = true)
    (derives : Derives tokens (.joined .comparison value)) : parse body = .ok value := by
  have nonempty : tokens ≠ [] := by
    obtain ⟨first, rest, rfl, _⟩ := derives.begins
    exact List.cons_ne_nil first rest
  unfold parse
  rw [if_neg (Nat.not_lt.mpr short), scanned]
  simp only [bind, Except.bind]
  rw [if_neg nonempty, shallow]
  exact parseTokens_of_derives derives

/-- An accepted body is not too long. -/
theorem length_le_of_parse {body : Text} (parsed : parse body = .ok value) :
    body.length ≤ lengthLimit := by
  unfold parse at parsed
  split at parsed
  · cases parsed
  · next short => exact Nat.le_of_not_lt short

/-- An operand that its tokens derive is all of a short body. -/
theorem parse_of_single {body : Text} (short : body.length ≤ lengthLimit)
    (scanned : Token.scanAll body = .ok tokens) (shallow : isShallow tokens = true)
    (derives : Derives tokens (.single value)) : parse body = .ok value :=
  parse_of_derives short scanned shallow
    (.joined_of_signed (.unsigned (.unmarked derives)) .comparison)

end Formula

end SheetEditor
