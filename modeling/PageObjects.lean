import PageObjects.Collections.Distinct
import PageObjects.Compile.Action
import PageObjects.Compile.Argument
import PageObjects.Compile.Declaration
import PageObjects.Compile.Element
import PageObjects.Compile.Elements
import PageObjects.Compile.Method
import PageObjects.Compile.PageObject
import PageObjects.Compile.Rendering
import PageObjects.Compile.Scope
import PageObjects.Decimal.Binary64
import PageObjects.Decimal.Shortest
import PageObjects.Decimal.Text
import PageObjects.Document.Address
import PageObjects.Document.Identifier
import PageObjects.Document.Uri
import PageObjects.Editor.Completion
import PageObjects.Editor.Diagnostic
import PageObjects.Editor.Hover
import PageObjects.Editor.Position
import PageObjects.Error
import PageObjects.Grammar.Reader
import PageObjects.Grammar.Spec
import PageObjects.Json.Basic
import PageObjects.Json.Display
import PageObjects.Json.Parser
import PageObjects.Json.Printer
import PageObjects.Main
import PageObjects.Parameter
import PageObjects.Selector.Basic
import PageObjects.Selector.Template
import PageObjects.Settings.Basic
import PageObjects.Settings.Parser
import PageObjects.Settings.Printer
import PageObjects.Settings.Token
import PageObjects.Text.Alnum
import PageObjects.Text.Blank
import PageObjects.Text.Case
import PageObjects.Text.CodePoint
import PageObjects.Text.CodeRanges
import PageObjects.Text.Digit
import PageObjects.Text.Printable
import PageObjects.Text.Quoted
import PageObjects.Text.Utf8
import PageObjects.Types.Basic
import PageObjects.Types.Naming
import PageObjects.Types.Registry
import PageObjects.UiSelector.Parser
import PageObjects.UiSelector.Printer
import PageObjects.UiSelector.Token
import PageObjects.Proofs.Stages
import PageObjects.Proofs.ScopeValidation
import PageObjects.Proofs.MethodNames
import PageObjects.Proofs.Statements
import PageObjects.Proofs.GetterCalls
import PageObjects.Proofs.Predicates
import PageObjects.Proofs.Signatures
import PageObjects.Proofs.ParameterNames
import PageObjects.Proofs.Imports
import PageObjects.Proofs.Diagnostics
import PageObjects.Proofs.Failures
import PageObjects.Proofs.PredicateDepth
import PageObjects.Proofs.StrictGrammar
import PageObjects.Proofs.ComposeBodies
import PageObjects.Proofs.Batches
import PageObjects.Proofs.SelectorTemplates
import PageObjects.Proofs.ElementTree
import PageObjects.Proofs.Views
import PageObjects.Proofs.ListDepth
import PageObjects.Proofs.Overloads
import PageObjects.Proofs.DocumentShapes
import PageObjects.Proofs.Lexemes
import PageObjects.Proofs.SelectorLexemes
import PageObjects.Proofs.SelectorChains
import PageObjects.Proofs.SettingsFiles
import PageObjects.Proofs.SettingsValidation
import PageObjects.Proofs.HoverWords
import PageObjects.Proofs.SettingsLines
import PageObjects.Proofs.HeldTexts
import PageObjects.Proofs.EditorPositions
import PageObjects.Proofs.OwnerEntries
