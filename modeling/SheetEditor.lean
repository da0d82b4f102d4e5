import SheetEditor.Draft.Anchor
import SheetEditor.Draft.Closing
import SheetEditor.Draft.SignatureHelp
import SheetEditor.Session.Key
import SheetEditor.Settings.File
import SheetEditor.Proofs.Workbook.Operations
import SheetEditor.Proofs.Numeric.ReadBack
import SheetEditor.Proofs.Draft.Closing
import SheetEditor.Proofs.Formula.Completeness
import SheetEditor.Proofs.Session.Timeline
import SheetEditor.Proofs.Session.Effect
import SheetEditor.Proofs.Session.WellFormed
import SheetEditor.Proofs.Session.CommitTarget
import SheetEditor.Proofs.Session.Recommit
import SheetEditor.Proofs.Session.Reversal
import SheetEditor.Proofs.Text.Run
import SheetEditor.Proofs.Draft.Area
import SheetEditor.Proofs.Draft.Rules
import SheetEditor.Proofs.Draft.Scan
import SheetEditor.Proofs.Draft.Reclosing
import SheetEditor.Proofs.Session.ClosedFormula
import SheetEditor.Proofs.Formula.Lexeme
import SheetEditor.Proofs.Draft.Characters
import SheetEditor.Proofs.Formula.Parentheses
import SheetEditor.Proofs.Draft.Outline
import SheetEditor.Proofs.Formula.References
import SheetEditor.Proofs.Draft.Targets
import SheetEditor.Proofs.Draft.Operands
import SheetEditor.Proofs.Draft.Highlight
import SheetEditor.Proofs.Workbook.Numbering
import SheetEditor.Proofs.Workbook.Consistency
import SheetEditor.Proofs.Grid.CellName
import SheetEditor.Proofs.Draft.Picking
import SheetEditor.Proofs.Session.PickedRange
import SheetEditor.Proofs.Formula.Chain
import SheetEditor.Proofs.Formula.Picking
import SheetEditor.Proofs.Draft.PickedReferences
import SheetEditor.Proofs.Draft.ActiveCall
import SheetEditor.Proofs.Session.BoundedTimeline
import SheetEditor.Proofs.Workbook.DocumentStep
import SheetEditor.Proofs.Session.SheetIdentity
import SheetEditor.Proofs.Formula.Separation
import SheetEditor.Proofs.Formula.LetterCase
import SheetEditor.Proofs.Formula.Call
import SheetEditor.Proofs.Formula.Anchors
import SheetEditor.Proofs.Formula.Respelling
import SheetEditor.Proofs.Draft.CellPlaces
import SheetEditor.Proofs.Draft.AreaParts
import SheetEditor.Proofs.Draft.CellLexemes
import SheetEditor.Proofs.Draft.AnchorCycle
import SheetEditor.Proofs.Session.Refusal
import SheetEditor.Proofs.Session.ViewActions
import SheetEditor.Proofs.Draft.Tiling
import SheetEditor.Proofs.Session.CompositionStart
import SheetEditor.Proofs.Draft.NameAtCaret
import SheetEditor.Proofs.Session.AcceptedSuggestion
import SheetEditor.Proofs.Formula.Budget
import SheetEditor.Proofs.Formula.NestingLimit
import SheetEditor.Proofs.Numeric.WholeNumber
import SheetEditor.Proofs.Draft.WholeRanges
import SheetEditor.Proofs.Formula.WholeRanges
import SheetEditor.Proofs.Draft.Exchange
import SheetEditor.Proofs.Draft.CellExchange
import SheetEditor.Proofs.Draft.AnchorPeriod
import SheetEditor.Proofs.Formula.Gaps
import SheetEditor.Proofs.Formula.StringLiteral
import SheetEditor.Proofs.Draft.ReferenceSpans
import SheetEditor.Proofs.Text.UpperCase
import SheetEditor.Proofs.Numeric.NumeralCase
import SheetEditor.Proofs.Formula.Contents
import SheetEditor.Proofs.Formula.UpperCase
import SheetEditor.Proofs.Draft.CompletedGroups
import SheetEditor.Proofs.Draft.MarkedSpan
import SheetEditor.Proofs.Formula.SheetBounds
import SheetEditor.Proofs.Draft.SuggestionOrder
import SheetEditor.Proofs.Workbook.FreeNumber
import SheetEditor.Proofs.Grid.NameReading
import SheetEditor.Proofs.Formula.CellReaders
import SheetEditor.Proofs.Settings.SavedFile
import SheetEditor.Proofs.Draft.AnalysisMemory
import SheetEditor.Proofs.Workbook.LastWrites
