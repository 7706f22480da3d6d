import DiagramWeave.Text.Ranges
import DiagramWeave.Text.Digit
import DiagramWeave.Text.Blank
import DiagramWeave.Text.Word
import DiagramWeave.Text.Printable
import DiagramWeave.Text.SmallLetters
import DiagramWeave.Text.Pieces
import DiagramWeave.Text.SharedCapitals
import DiagramWeave.Block.Basic
import DiagramWeave.Block.Header
import DiagramWeave.Block.Scan
import DiagramWeave.Block.Search
import DiagramWeave.Locator
import DiagramWeave.Rewrite
import DiagramWeave.Value
import DiagramWeave.Decimal.Binary
import DiagramWeave.Decimal.Shortest
import DiagramWeave.Decimal.Read
import DiagramWeave.Json.Write
import DiagramWeave.Json.Read
import DiagramWeave.Deflate.Symbol
import DiagramWeave.Deflate.Bits
import DiagramWeave.Deflate.Slots
import DiagramWeave.Deflate.Matching
import DiagramWeave.Deflate.Tree
import DiagramWeave.Deflate.Code
import DiagramWeave.Deflate.Lengths
import DiagramWeave.Deflate.Compress
import DiagramWeave.Token
import DiagramWeave.Shell
import DiagramWeave.FilePath
import DiagramWeave.Environment
import DiagramWeave.Config.Basic
import DiagramWeave.Config.Coerce
import DiagramWeave.Config.Options
import DiagramWeave.Yaml.Cursor
import DiagramWeave.Yaml.Token
import DiagramWeave.Yaml.Quoted
import DiagramWeave.Yaml.Plain
import DiagramWeave.Yaml.Block
import DiagramWeave.Yaml.Scan
import DiagramWeave.Yaml.Resolve
import DiagramWeave.Yaml.Node
import DiagramWeave.Yaml.Scalar
import DiagramWeave.Yaml.Construct
import DiagramWeave.Text.Quoted
import DiagramWeave.World.Disk
import DiagramWeave.World.Span
import DiagramWeave.Failure
import DiagramWeave.World.Basic
import DiagramWeave.World.TextFile
import DiagramWeave.Config.Load
import DiagramWeave.Http
import DiagramWeave.Render.Assign
import DiagramWeave.Render.Local
import DiagramWeave.Render.Remote
import DiagramWeave.Render.Stations
import DiagramWeave.Pipeline
import DiagramWeave.Render.Shop
import DiagramWeave.Decimal.Integer
import DiagramWeave.Text.Lines
import DiagramWeave.Console.Cells
import DiagramWeave.Console.Picture
import DiagramWeave.Console.Style
import DiagramWeave.Console.Markup
import DiagramWeave.Console.Layout
import DiagramWeave.Console.Table
import DiagramWeave.CommandLine.Options
import DiagramWeave.CommandLine.Command
import DiagramWeave.CommandLine.Run
import DiagramWeave.PublicNames
import DiagramWeave.Main
import DiagramWeave.Proofs.Block.Grammar
import DiagramWeave.Proofs.Block.Titled
import DiagramWeave.Proofs.Text.Cuts
import DiagramWeave.Proofs.Text.Lowering
import DiagramWeave.Proofs.Block.Header
import DiagramWeave.Proofs.Block.FoundAgain
import DiagramWeave.Proofs.Rewrite.Splice
import DiagramWeave.Proofs.Rewrite.Success
import DiagramWeave.Proofs.Deflate.Inflate
import DiagramWeave.Proofs.Deflate.Bits
import DiagramWeave.Proofs.Deflate.Canonical
import DiagramWeave.Proofs.Deflate.Tree
import DiagramWeave.Proofs.Deflate.CodeLengths
import DiagramWeave.Proofs.Deflate.Lengths
import DiagramWeave.Proofs.Deflate.Symbols
import DiagramWeave.Proofs.Deflate.Matching
import DiagramWeave.Proofs.Deflate.Blocks
import DiagramWeave.Proofs.Deflate.Lossless
import DiagramWeave.Proofs.Token.Letters
import DiagramWeave.Proofs.Token.Lossless
import DiagramWeave.Proofs.Token.ChangeOfBase
import DiagramWeave.Proofs.Rewrite.Rescan
import DiagramWeave.Proofs.Pipeline.Stages
import DiagramWeave.Proofs.Pipeline.Links
import DiagramWeave.Proofs.Render.InTurn
import DiagramWeave.Proofs.Render.Pool
import DiagramWeave.Proofs.Render.SideBySide
import DiagramWeave.Proofs.World.Files
import DiagramWeave.Proofs.Render.Command
import DiagramWeave.Proofs.Render.Fetch
import DiagramWeave.Proofs.Pipeline.InOrder
import DiagramWeave.Proofs.World.Paths
import DiagramWeave.Proofs.Config.Entries
import DiagramWeave.Proofs.Failure
import DiagramWeave.Proofs.Config.Layers
import DiagramWeave.Proofs.Render.Stations
import DiagramWeave.Proofs.Render.Bench
import DiagramWeave.Proofs.Render.Shop
import DiagramWeave.Proofs.Pipeline.Moments
import DiagramWeave.Proofs.Render.CommandSteps
import DiagramWeave.Proofs.Render.FetchSteps
import DiagramWeave.Proofs.Pipeline.Asked
import DiagramWeave.Proofs.Pipeline.Contained
import DiagramWeave.Proofs.Pipeline.Leftovers
import DiagramWeave.Proofs.Locator.UrlPrefix
import DiagramWeave.Proofs.Locator.Distinct
import DiagramWeave.Proofs.Locator.PathPrefix
import DiagramWeave.Proofs.Render.Results
import DiagramWeave.Proofs.Pipeline.Outcomes
import DiagramWeave.Proofs.Pipeline.References
import DiagramWeave.Proofs.Pipeline.Foreseen
import DiagramWeave.Proofs.Config.Leaves
import DiagramWeave.Proofs.Config.Loading
import DiagramWeave.Proofs.Block.LineEnds
import DiagramWeave.Proofs.Rewrite.Outside
import DiagramWeave.Proofs.CommandLine.Document
import DiagramWeave.Proofs.Block.TitleSearch
import DiagramWeave.Proofs.Rewrite.Placed
import DiagramWeave.Proofs.Rewrite.Selected
import DiagramWeave.Proofs.Pipeline.Untouched
import DiagramWeave.Proofs.Console.Escape
import DiagramWeave.Proofs.CommandLine.Publishing
import DiagramWeave.Proofs.Block.Written
import DiagramWeave.Proofs.Rewrite.ReadBack
import DiagramWeave.Proofs.Environment.OnePass
import DiagramWeave.Proofs.Environment.Expansion
import DiagramWeave.Proofs.Yaml.Keys
import DiagramWeave.Proofs.Config.Sources
import DiagramWeave.Proofs.Config.Faults
import DiagramWeave.Proofs.Config.Nulls
import DiagramWeave.Proofs.Config.Strategies
import DiagramWeave.Proofs.Json.Numbers
import DiagramWeave.Proofs.Json.Lossless
import DiagramWeave.Proofs.World.Spans
import DiagramWeave.Proofs.World.Trace
import DiagramWeave.Proofs.Pipeline.Trace
import DiagramWeave.Proofs.Console.Wrapping
import DiagramWeave.Proofs.Console.Pictures
import DiagramWeave.Proofs.Console.Stretches
import DiagramWeave.Proofs.Console.Joints
import DiagramWeave.Proofs.Console.Literal
import DiagramWeave.Proofs.CommandLine.Diagnostics
