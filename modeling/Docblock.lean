import Docblock.Block.Basic
import Docblock.Block.Comment
import Docblock.Block.Import
import Docblock.Block.Line
import Docblock.Block.Tag
import Docblock.Check.Checker
import Docblock.Check.Demand
import Docblock.Check.Failure
import Docblock.Check.Report
import Docblock.Corpus
import Docblock.Fault
import Docblock.Filter.Check
import Docblock.Filter.Literal
import Docblock.Filter.Rule
import Docblock.Filter.Tail
import Docblock.Library.Basic
import Docblock.Library.Path
import Docblock.Library.Storage
import Docblock.Net.Address
import Docblock.Net.Direction
import Docblock.Net.Joining
import Docblock.Net.Label
import Docblock.Net.Mapping
import Docblock.Net.Url
import Docblock.Number.Basic
import Docblock.Number.Double
import Docblock.Number.Literal
import Docblock.Number.Shortest
import Docblock.Pattern.Basic
import Docblock.Pattern.Fault
import Docblock.Pattern.Format
import Docblock.Pattern.Matcher
import Docblock.Pattern.Reader
import Docblock.Pattern.Token
import Docblock.Proofs.Outcome
import Docblock.Proofs.Schema.Filtered
import Docblock.Remaining
import Docblock.Schema.Basic
import Docblock.Schema.Layer
import Docblock.Schema.Reader
import Docblock.Settings
import Docblock.Text.Blank
import Docblock.Text.Bracket
import Docblock.Text.Bytes
import Docblock.Text.Case
import Docblock.Text.CharSet
import Docblock.Text.CombiningClass
import Docblock.Text.Composed
import Docblock.Text.Decomposition
import Docblock.Text.Designated
import Docblock.Text.Digit
import Docblock.Text.DoubleByte
import Docblock.Text.Encoding
import Docblock.Text.Escaped
import Docblock.Text.Identifier
import Docblock.Text.Insertion
import Docblock.Text.Integer
import Docblock.Text.Japanese
import Docblock.Text.Letter
import Docblock.Text.Mark
import Docblock.Text.Name
import Docblock.Text.Names.Abugidas
import Docblock.Text.Names.Aliases
import Docblock.Text.Names.Alphabets
import Docblock.Text.Names.Ancient
import Docblock.Text.Names.Brahmic
import Docblock.Text.Names.EastAsia
import Docblock.Text.Names.Glyphs
import Docblock.Text.Names.Notations
import Docblock.Text.Names.Pictographs
import Docblock.Text.Names.SignWriting
import Docblock.Text.Names.Syllables
import Docblock.Text.Names.Symbols
import Docblock.Text.Numeral
import Docblock.Text.Packed
import Docblock.Text.Page
import Docblock.Text.Pages.Desktop
import Docblock.Text.Pages.Dos
import Docblock.Text.Pages.Mainframe
import Docblock.Text.Pages.Standard
import Docblock.Text.Pages.Windows
import Docblock.Text.Printable
import Docblock.Text.Quoted
import Docblock.Text.Ranges
import Docblock.Text.Remark
import Docblock.Text.Sets.Big5
import Docblock.Text.Sets.Cp932
import Docblock.Text.Sets.Gb2312
import Docblock.Text.Sets.Gbk
import Docblock.Text.Sets.Hkscs
import Docblock.Text.Sets.Jisx0208
import Docblock.Text.Sets.Jisx0212
import Docblock.Text.Sets.Jisx0213
import Docblock.Text.Sets.Ksx1001
import Docblock.Text.Sets.Uhc
import Docblock.Text.Shifted
import Docblock.Text.Split
import Docblock.Text.Transfer
import Docblock.Value.Basic
import Docblock.Value.Member
import Docblock.Value.Text
import Docblock.Proofs.Block.Filtered
import Docblock.Proofs.Check.Meaning
import Docblock.Proofs.Check.Agreement
import Docblock.Proofs.Check.OneSource
import Docblock.Proofs.Value.Walk
import Docblock.Proofs.Check.Trail
import Docblock.Proofs.Check.Report
import Docblock.Proofs.Text.Scan
import Docblock.Proofs.Text.Plain
import Docblock.Proofs.Number.Whole
import Docblock.Proofs.Schema.Syntax
import Docblock.Proofs.Schema.Printed
import Docblock.Proofs.Schema.Forms
import Docblock.Proofs.Schema.RoundTrip
import Docblock.Proofs.Library.Growth
import Docblock.Proofs.Library.Sound
import Docblock.Proofs.Library.Sighted
import Docblock.Proofs.Library.Reach
import Docblock.Proofs.Library.Independence
import Docblock.Proofs.Library.Session
import Docblock.Proofs.Library.Naming
import Docblock.Proofs.Library.Ambient
import Docblock.Proofs.Library.Registered
import Docblock.Proofs.Library.Errand
import Docblock.Proofs.Library.Progress
import Docblock.Proofs.Library.Intact
import Docblock.Proofs.Filter.Break
import Docblock.Proofs.Check.Break
import Docblock.Proofs.Check.Returns
import Docblock.Proofs.Check.Guard
import Docblock.Proofs.Check.Reference
import Docblock.Proofs.Check.Trial
import Docblock.Proofs.Check.Ends
import Docblock.Proofs.Check.Notes
import Docblock.Proofs.Check.Result
import Docblock.Proofs.Check.Fitness
import Docblock.Proofs.Text.Trim
import Docblock.Proofs.Text.Nesting
import Docblock.Proofs.Number.Extend
import Docblock.Proofs.Filter.Extend
import Docblock.Proofs.Filter.Cut
import Docblock.Proofs.Block.Places
import Docblock.Proofs.Block.Written
import Docblock.Proofs.Block.Layout
import Docblock.Proofs.Check.Answer
import Docblock.Proofs.Check.ByName
import Docblock.Proofs.Check.Use
import Docblock.Proofs.Check.Strictness
import Docblock.Proofs.Check.Arguments
import Docblock.Proofs.Check.Marks
import Docblock.Proofs.Check.Forced
import Docblock.Proofs.Block.Owners
import Docblock.Proofs.Block.Unmarked
import Docblock.Proofs.Block.Rendered
import Docblock.Proofs.Block.Spelling
import Docblock.Proofs.Text.LineEnds
import Docblock.Proofs.Block.LineEnds
import Docblock.Proofs.Library.Readers
import Docblock.Proofs.Library.Sharing
import Docblock.Proofs.Check.Groups
import Docblock.Proofs.Check.Omitted
import Docblock.Proofs.Check.Dotted
import Docblock.Proofs.Check.Union
import Docblock.Proofs.Text.Closed
import Docblock.Proofs.Text.Paired
import Docblock.Proofs.Schema.Alternatives
import Docblock.Proofs.Schema.Ends
import Docblock.Proofs.Schema.Parentheses
import Docblock.Proofs.Schema.Suffix
import Docblock.Proofs.Schema.Quoted
import Docblock.Proofs.Filter.Printed
import Docblock.Proofs.Schema.Remarks
import Docblock.Proofs.Text.Remark
import Docblock.Proofs.Schema.Noted
import Docblock.Proofs.Block.Inline
import Docblock.Proofs.Block.Typed
import Docblock.Proofs.Check.Phrase
import Docblock.Proofs.Number.Order
import Docblock.Proofs.Number.Nearest
import Docblock.Proofs.Filter.Bounds
import Docblock.Proofs.Check.Whole
import Docblock.Proofs.Block.TagNames
import Docblock.Proofs.Block.Announced
import Docblock.Proofs.Block.Located
import Docblock.Proofs.Text.Members
import Docblock.Proofs.Text.Opaque
import Docblock.Proofs.Block.Parameter
import Docblock.Proofs.Text.Escapes
import Docblock.Proofs.Block.Words
import Docblock.Proofs.Block.Lookup
