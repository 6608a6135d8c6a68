import FilterTemplate.Delimiters
import FilterTemplate.Extract
import FilterTemplate.Fault
import FilterTemplate.Filter.Apply
import FilterTemplate.Filter.Basic
import FilterTemplate.Filter.Describe
import FilterTemplate.Filter.Read
import FilterTemplate.Filter.Reference
import FilterTemplate.Pad
import FilterTemplate.Path
import FilterTemplate.Proofs.Except
import FilterTemplate.Proofs.Lexemes
import FilterTemplate.Proofs.Tokens
import FilterTemplate.Proofs.Segments
import FilterTemplate.Proofs.Shift
import FilterTemplate.Proofs.Concatenation
import FilterTemplate.Proofs.Numeral
import FilterTemplate.Proofs.Spelling
import FilterTemplate.Proofs.Validity
import FilterTemplate.Proofs.Replacement
import FilterTemplate.Proofs.Stages
import FilterTemplate.Proofs.Evaluation
import FilterTemplate.Proofs.Escape
import FilterTemplate.Proofs.Printing
import FilterTemplate.Regex.Attempt
import FilterTemplate.Regex.CharTest
import FilterTemplate.Regex.Cursor
import FilterTemplate.Regex.Error
import FilterTemplate.Regex.Fold
import FilterTemplate.Regex.Group
import FilterTemplate.Regex.Marks
import FilterTemplate.Regex.Match
import FilterTemplate.Regex.Node
import FilterTemplate.Regex.Pattern
import FilterTemplate.Regex.Reader
import FilterTemplate.Regex.Repetition
import FilterTemplate.Regex.Replacement
import FilterTemplate.Regex.Syntax
import FilterTemplate.Regex.Token
import FilterTemplate.Replace
import FilterTemplate.Report
import FilterTemplate.Session
import FilterTemplate.Proofs.Sessions
import FilterTemplate.Template.Basic
import FilterTemplate.Template.Explain
import FilterTemplate.Template.Lexer
import FilterTemplate.Template.Piece
import FilterTemplate.Template.Run
import FilterTemplate.Text.Basic
import FilterTemplate.Text.Numeral
import FilterTemplate.Text.Quoted
import FilterTemplate.Transliterate
import FilterTemplate.Trim
import FilterTemplate.Unicode.Case
import FilterTemplate.Unicode.Case.Context
import FilterTemplate.Unicode.Case.Lower
import FilterTemplate.Unicode.Case.Shift
import FilterTemplate.Unicode.Case.Upper
import FilterTemplate.Unicode.Decomposition
import FilterTemplate.Unicode.Decomposition.Composite
import FilterTemplate.Unicode.Decomposition.Singleton
import FilterTemplate.Unicode.Identifier
import FilterTemplate.Unicode.Letter
import FilterTemplate.Unicode.Name
import FilterTemplate.Unicode.Name.Alias
import FilterTemplate.Unicode.Name.Ancient
import FilterTemplate.Unicode.Name.Brahmic
import FilterTemplate.Unicode.Name.Compatibility
import FilterTemplate.Unicode.Name.Cuneiform
import FilterTemplate.Unicode.Name.Dingbat
import FilterTemplate.Unicode.Name.EastAsian
import FilterTemplate.Unicode.Name.European
import FilterTemplate.Unicode.Name.Hieroglyph
import FilterTemplate.Unicode.Name.Ideographic
import FilterTemplate.Unicode.Name.Indic
import FilterTemplate.Unicode.Name.MiddleEastern
import FilterTemplate.Unicode.Name.Notation
import FilterTemplate.Unicode.Name.Phonetic
import FilterTemplate.Unicode.Name.Pictograph
import FilterTemplate.Unicode.Name.Regional
import FilterTemplate.Unicode.Name.Run
import FilterTemplate.Unicode.Name.Southeast
import FilterTemplate.Unicode.Name.Special
import FilterTemplate.Unicode.Name.Syllabary
import FilterTemplate.Unicode.Name.Syllabic
import FilterTemplate.Unicode.Name.Symbol
import FilterTemplate.Unicode.Number
import FilterTemplate.Unicode.Printable
import FilterTemplate.Unicode.Range
import FilterTemplate.Unicode.Space
import FilterTemplate.Proofs.Pieces
import FilterTemplate.Proofs.Positions
import FilterTemplate.Proofs.Misreading
import FilterTemplate.Proofs.Failures
import FilterTemplate.Proofs.FaultSpans
import FilterTemplate.Proofs.FaultFragments
import FilterTemplate.Proofs.Composition
import FilterTemplate.Proofs.Slices
import FilterTemplate.Proofs.Explanation
import FilterTemplate.Proofs.LoneChains
import FilterTemplate.Proofs.Arguments
import FilterTemplate.Proofs.Ranges
import FilterTemplate.Proofs.Rendering
import FilterTemplate.Proofs.RangeTexts
import FilterTemplate.Proofs.Padding
import FilterTemplate.Proofs.Transliteration
import FilterTemplate.Proofs.Paths
import FilterTemplate.Proofs.PathParts
import FilterTemplate.Proofs.Occurrences
import FilterTemplate.Proofs.LiteralPatterns
import FilterTemplate.Proofs.LiteralMatches
import FilterTemplate.Proofs.AsciiSpellings
import FilterTemplate.Proofs.StuckTexts
import FilterTemplate.Proofs.MarkerLines
import FilterTemplate.Proofs.Places
import FilterTemplate.Proofs.MatchOrder
import FilterTemplate.Proofs.GroupMarks
import FilterTemplate.Proofs.OrderedRuns
import FilterTemplate.Proofs.QuietReaders
import FilterTemplate.Proofs.GroupNumbers
import FilterTemplate.Proofs.SearchEnds
import FilterTemplate.Proofs.RegexFilters
import FilterTemplate.Proofs.PlainReports
import FilterTemplate.Proofs.EscapeRuns
import FilterTemplate.Proofs.EscapeCodec
