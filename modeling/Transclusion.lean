import Transclusion.Assemblage
import Transclusion.Assembly
import Transclusion.Backend
import Transclusion.Charset.Basic
import Transclusion.Charset.CodePage
import Transclusion.Charset.Codec
import Transclusion.Charset.DoubleByte
import Transclusion.Charset.Gb18030
import Transclusion.Charset.Grid
import Transclusion.Charset.Index
import Transclusion.Charset.Index.Big5
import Transclusion.Charset.Index.EucKr
import Transclusion.Charset.Index.Gb18030
import Transclusion.Charset.Index.Jis0208
import Transclusion.Charset.Index.Jis0212
import Transclusion.Charset.Iso2022Jp
import Transclusion.Charset.MultiByte
import Transclusion.Charset.Utf16
import Transclusion.Charset.Utf8
import Transclusion.Command.Arguments
import Transclusion.Command.Check
import Transclusion.Command.Json
import Transclusion.Command.Line
import Transclusion.Command.Rules
import Transclusion.Command.Serve
import Transclusion.Config.Basic
import Transclusion.Config.Rules
import Transclusion.Content
import Transclusion.Document.Node
import Transclusion.Document.Place
import Transclusion.Document.Property
import Transclusion.Document.Scalar
import Transclusion.Document.Token
import Transclusion.Document.Tree
import Transclusion.Engine
import Transclusion.Failure
import Transclusion.Main
import Transclusion.Matcher
import Transclusion.Message.Basic
import Transclusion.Message.Body
import Transclusion.Message.Grammar
import Transclusion.Message.Headers
import Transclusion.Message.MediaType
import Transclusion.Origin
import Transclusion.Pattern.Basic
import Transclusion.Pattern.CharSet
import Transclusion.Pattern.Expr
import Transclusion.Pattern.Program
import Transclusion.Pattern.Reader
import Transclusion.Pattern.Search
import Transclusion.Pattern.Template
import Transclusion.Plan
import Transclusion.Proofs.Agreement
import Transclusion.Proofs.Assemblage.Adjusters
import Transclusion.Proofs.Assemblage.Rendering
import Transclusion.Proofs.Assemblage.Slots
import Transclusion.Proofs.Assemblage.Tokens
import Transclusion.Proofs.Assembly.DepthLimit
import Transclusion.Proofs.Assembly.Evaluation
import Transclusion.Proofs.Assembly.Identity
import Transclusion.Proofs.Assembly.Layout
import Transclusion.Proofs.Assembly.Nesting
import Transclusion.Proofs.Assembly.Provenance
import Transclusion.Proofs.Assembly.Segment
import Transclusion.Proofs.Assembly.Segmentation
import Transclusion.Proofs.Assembly.Skipping
import Transclusion.Proofs.Backend
import Transclusion.Proofs.BoundedRead
import Transclusion.Proofs.Charset.CodePage
import Transclusion.Proofs.Charset.Codec
import Transclusion.Proofs.Charset.DoubleByte
import Transclusion.Proofs.Charset.Gb18030
import Transclusion.Proofs.Charset.Iso2022Jp
import Transclusion.Proofs.Charset.RoundTrip
import Transclusion.Proofs.Charset.Sequences
import Transclusion.Proofs.Charset.Utf16
import Transclusion.Proofs.Charset.Utf8
import Transclusion.Proofs.Command.Json
import Transclusion.Proofs.Command.Preview
import Transclusion.Proofs.Config.Compilation
import Transclusion.Proofs.Config.Fields
import Transclusion.Proofs.Config.Loading
import Transclusion.Proofs.ContentTypes
import Transclusion.Proofs.Engine.Assembled
import Transclusion.Proofs.Engine.Ceiling
import Transclusion.Proofs.Engine.Chunking
import Transclusion.Proofs.Engine.Containment
import Transclusion.Proofs.Engine.Delivery
import Transclusion.Proofs.Engine.Requests
import Transclusion.Proofs.Engine.TriggerNames
import Transclusion.Proofs.Engine.Untouched
import Transclusion.Proofs.Fetching
import Transclusion.Proofs.Headers
import Transclusion.Proofs.Headers.Multimap
import Transclusion.Proofs.MediaType
import Transclusion.Proofs.Pattern.Code
import Transclusion.Proofs.Pattern.Filling
import Transclusion.Proofs.Pattern.Leftmost
import Transclusion.Proofs.Pattern.Numbering
import Transclusion.Proofs.Pattern.Range
import Transclusion.Proofs.Pattern.Runs
import Transclusion.Proofs.Pattern.Template
import Transclusion.Proofs.Pattern.Threads
import Transclusion.Proofs.Plan.Claims
import Transclusion.Proofs.Plan.Enlarging
import Transclusion.Proofs.Plan.NameSets
import Transclusion.Proofs.Plan.Ownership
import Transclusion.Proofs.Plan.Stripping
import Transclusion.Proofs.Plan.Wildcard
import Transclusion.Proofs.Proxy.Answers
import Transclusion.Proofs.Proxy.Framing
import Transclusion.Proofs.Proxy.Limits
import Transclusion.Proofs.Proxy.Transparency
import Transclusion.Proofs.Reading
import Transclusion.Proofs.Reference
import Transclusion.Proofs.Repository
import Transclusion.Proofs.Text.Casing
import Transclusion.Proofs.Text.Pieces
import Transclusion.Proofs.Trace
import Transclusion.Proofs.Trigger
import Transclusion.Proofs.Trigger.Spelling
import Transclusion.Proofs.Url.Authority
import Transclusion.Proofs.Url.Path
import Transclusion.Proxy.Basic
import Transclusion.Proxy.Target
import Transclusion.Reference
import Transclusion.Repository
import Transclusion.Settings
import Transclusion.Text.Blank
import Transclusion.Text.Category
import Transclusion.Text.CodeRange
import Transclusion.Text.Folding
import Transclusion.Text.Script
import Transclusion.Text.Split
import Transclusion.Trigger
import Transclusion.Url.Basic
import Transclusion.Url.Form
import Transclusion.Url.Host
import Transclusion.Url.Percent
import Transclusion.Url.Punycode
