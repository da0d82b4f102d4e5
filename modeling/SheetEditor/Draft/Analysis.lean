import SheetEditor.Draft.Reference
import SheetEditor.Formula.Parser

/-!
Contract: everything known about a text being edited, at one caret.

Owns: the analysis of a text (its expression if it parses, its tokens and
references at their offsets in the text, and the call that the caret is in), and
a memory of the last analysis.

A text that does not begin with an equals sign is not a formula and has an empty
analysis. A formula that does not parse still has tokens, references and calls.
-/

namespace SheetEditor.Draft

/-! ## The call around the caret -/

/-- The call whose arguments the caret is in: its function in upper case, and the argument,
counted from zero. -/
structure ActiveCall where
  function : Text
  argument : Nat
deriving DecidableEq, Repr, Inhabited

/-- A parenthesis that is open: the function before it, if there is one, and the number of commas
inside it so far. -/
structure Frame where
  function : Option Text
  argument : Nat
deriving DecidableEq, Repr, Inhabited

namespace Frame

/-- The open parentheses after one more token, innermost first. -/
def step (previous : Option Token) (frames : List Frame) (token : Token) : List Frame :=
  match token.kind with
  | .parenthesis =>
      if token.text = ['('] then
        let function := (previous.filter (·.kind = .function)).map (·.text.upper)
        ⟨function, 0⟩ :: frames
      else if token.text = [')'] then frames.tail
      else frames
  | .comma =>
      match frames with
      | [] => []
      | innermost :: outer => { innermost with argument := innermost.argument + 1 } :: outer
  | _ => frames

def afterTokens : Option Token → List Frame → List Token → List Frame
  | _, frames, [] => frames
  | previous, frames, token :: rest =>
      afterTokens (some token) (step previous frames token) rest

end Frame

/-- The tokens other than blanks that end at or before the caret. -/
def tokensBefore (tokens : List Token) (caret : Nat) : List Token :=
  (tokens.filter fun token => !token.isBlank).takeWhile fun token => token.stop ≤ caret

/-- The call around the caret, if the innermost open parenthesis belongs to a call. -/
def activeCall? (tokens : List Token) (caret : Nat) : Option ActiveCall := do
  let innermost ← (Frame.afterTokens none [] (tokensBefore tokens caret)).head?
  let function ← innermost.function
  some ⟨function, innermost.argument⟩

/-! ## Analysis -/

structure Analysis where
  expression : Option Expr
  tokens : List Token
  references : List Reference
  activeCall : Option ActiveCall
deriving Inhabited

namespace Analysis

def empty : Analysis := ⟨none, [], [], none⟩

def isValid (analysis : Analysis) : Bool := analysis.expression.isSome

/-- The tokens of a formula's body at their offsets after the equals sign. -/
def tokensOfBody (body : Text) : List Token := (Token.scanAll body).map (·.shift 1)

def ofTextWith (parse : Text → Except ParseError Expr) (text : Text) (caret : Nat) : Analysis :=
  match text with
  | '=' :: body =>
      let tokens := tokensOfBody body
      ⟨(parse body).toOption, tokens, Reference.ofTokens tokens, activeCall? tokens caret⟩
  | _ => empty

def ofText (text : Text) (caret : Nat) : Analysis := ofTextWith Formula.parse text caret

end Analysis

/-! ## Memory -/

structure Remembered where
  text : Text
  caret : Nat
  analysis : Analysis

/-- A memory of the last analysis, with counts of the questions it could and could not answer. -/
structure AnalysisMemory where
  last : Option Remembered
  hits : Nat
  misses : Nat

namespace AnalysisMemory

def new : AnalysisMemory := ⟨none, 0, 0⟩

/-- The remembered analysis, if it belongs to this text and caret. -/
def remembered? (memory : AnalysisMemory) (text : Text) (caret : Nat) : Option Analysis :=
  memory.last.bind fun last =>
    if last.caret = caret ∧ last.text = text then some last.analysis else none

/-- The analysis of a text, remembered or made anew, and the memory afterwards. -/
def analyze (memory : AnalysisMemory) (text : Text) (caret : Nat) : Analysis × AnalysisMemory :=
  match memory.remembered? text caret with
  | some analysis => (analysis, { memory with hits := memory.hits + 1 })
  | none =>
      let analysis := Analysis.ofText text caret
      (analysis, ⟨some ⟨text, caret, analysis⟩, memory.hits, memory.misses + 1⟩)

/-- Forgets the analysis; the counts stay. -/
def clear (memory : AnalysisMemory) : AnalysisMemory := { memory with last := none }

end AnalysisMemory

end SheetEditor.Draft
