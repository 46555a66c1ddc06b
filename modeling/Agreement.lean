import Agreement.Article
import Agreement.CommandLine.Arguments
import Agreement.CommandLine.Option
import Agreement.CommandLine.Session
import Agreement.Decimal.Binary64
import Agreement.Decimal.Integer
import Agreement.Decimal.Notation
import Agreement.Format.Conversion
import Agreement.Format.Fill
import Agreement.Main
import Agreement.Noun.Affix
import Agreement.Noun.English
import Agreement.Noun.Inflection
import Agreement.Noun.Lexicon
import Agreement.Noun.Phrase
import Agreement.Noun.PhraseText
import Agreement.Noun.Rule
import Agreement.Noun.RuleText
import Agreement.Number.Grouped
import Agreement.Number.Roman
import Agreement.Number.Words
import Agreement.Pattern.Basic
import Agreement.Pattern.Error
import Agreement.Pattern.Reader
import Agreement.Proofs.Article
import Agreement.Proofs.Decimal.ReadBack
import Agreement.Proofs.Decimal.Written
import Agreement.Proofs.Noun.BoundedForms
import Agreement.Proofs.Noun.CompoundLine
import Agreement.Proofs.Noun.English
import Agreement.Proofs.Noun.EnglishFiles
import Agreement.Proofs.Noun.Families
import Agreement.Proofs.Noun.Fields
import Agreement.Proofs.Noun.HeadFirst
import Agreement.Proofs.Noun.HeadInflection
import Agreement.Proofs.Noun.IrregularForms
import Agreement.Proofs.Noun.LineForms
import Agreement.Proofs.Noun.LiteralSuffix
import Agreement.Proofs.Noun.Loaders
import Agreement.Proofs.Noun.PreferredPlural
import Agreement.Proofs.Noun.ReadingModes
import Agreement.Proofs.Noun.Refusal
import Agreement.Proofs.Noun.Registration
import Agreement.Proofs.Noun.SolidPieces
import Agreement.Proofs.Noun.SpacedForms
import Agreement.Proofs.Noun.SpacedRules
import Agreement.Proofs.Noun.SpacedVariant
import Agreement.Proofs.Noun.Unchanged
import Agreement.Proofs.Noun.WrittenPhrases
import Agreement.Proofs.Number.CardinalReading
import Agreement.Proofs.Number.DigitGroups
import Agreement.Proofs.Number.OrdinalMarks
import Agreement.Proofs.Number.RomanReading
import Agreement.Proofs.Pattern.Matching
import Agreement.Proofs.Pattern.Reading
import Agreement.Proofs.Success
import Agreement.Proofs.Template.Articles
import Agreement.Proofs.Template.Boundaries
import Agreement.Proofs.Template.Brackets
import Agreement.Proofs.Template.CaseFolding
import Agreement.Proofs.Template.Decomposition
import Agreement.Proofs.Template.Diagnostics
import Agreement.Proofs.Template.Escape
import Agreement.Proofs.Template.Failures
import Agreement.Proofs.Template.HiddenArticles
import Agreement.Proofs.Template.IssuePlaces
import Agreement.Proofs.Template.Kinds
import Agreement.Proofs.Template.Marks
import Agreement.Proofs.Template.OptionGrammar
import Agreement.Proofs.Template.OptionText
import Agreement.Proofs.Template.Outcomes
import Agreement.Proofs.Template.Printing
import Agreement.Proofs.Template.Reading
import Agreement.Proofs.Template.Silencing
import Agreement.Proofs.Template.Slots
import Agreement.Proofs.Template.TokenCuts
import Agreement.Proofs.Template.VariableNames
import Agreement.Proofs.Template.Walking
import Agreement.Proofs.Text.Case
import Agreement.Proofs.Text.Cuts
import Agreement.Render
import Agreement.Settings
import Agreement.Template.Compiled
import Agreement.Template.Directive
import Agreement.Template.Execution
import Agreement.Template.Issue
import Agreement.Template.Options
import Agreement.Template.Token
import Agreement.Text.Basic
import Agreement.Text.CaseMap
import Agreement.Text.CaseTable
import Agreement.Text.CharRange
import Agreement.Text.Letter
import Agreement.Text.Quoted
import Agreement.Text.WordChar
import Agreement.Value
