import PullReview.Batch
import PullReview.Breaking
import PullReview.ChangedFile
import PullReview.Command
import PullReview.Command.Arguments
import PullReview.Command.Run
import PullReview.Comment
import PullReview.Config
import PullReview.Config.Values
import PullReview.Diff.Hunk
import PullReview.Diff.LineMap
import PullReview.Diff.Script
import PullReview.Duplicate
import PullReview.Embedding
import PullReview.Embedding.Digest
import PullReview.Embedding.Store
import PullReview.Embedding.Vector
import PullReview.Extract
import PullReview.Extract.Reader
import PullReview.Feature
import PullReview.FileTree
import PullReview.Impact
import PullReview.Impact.Area
import PullReview.Impact.Cascade
import PullReview.Impact.Chain
import PullReview.Impact.Prediction
import PullReview.Impact.Summary
import PullReview.Index
import PullReview.Json
import PullReview.Json.Display
import PullReview.Json.Reader
import PullReview.Json.Writer
import PullReview.LanguageModel
import PullReview.LanguageModel.Provider
import PullReview.LanguageModel.Reply
import PullReview.Level
import PullReview.Main
import PullReview.Number.Binary64
import PullReview.Number.Decimal
import PullReview.Number.Reading
import PullReview.Number.Whole
import PullReview.Path
import PullReview.Project
import PullReview.Proofs.Diff.Script
import PullReview.Proofs.Impact.CallPath
import PullReview.Proofs.Impact.Layers
import PullReview.Proofs.Impact.Reach
import PullReview.Proofs.Impact.Walk
import PullReview.Proofs.Review.Unchanged
import PullReview.Proofs.Table
import PullReview.Proofs.Text.Lines
import PullReview.Python.Literal
import PullReview.Python.Parse
import PullReview.Python.Parse.Expression
import PullReview.Python.Parse.Pattern
import PullReview.Python.Parse.Statement
import PullReview.Python.Render
import PullReview.Python.Syntax
import PullReview.Python.Token
import PullReview.Python.Token.Number
import PullReview.Python.Token.Quote
import PullReview.Python.Token.Scanner
import PullReview.Report.Display
import PullReview.Report.Record
import PullReview.Repository
import PullReview.Repository.Indexing
import PullReview.Review
import PullReview.Review.Changes
import PullReview.Similarity
import PullReview.Similarity.Normal
import PullReview.Symbol
import PullReview.Symbol.Record
import PullReview.Table
import PullReview.Text.Blank
import PullReview.Text.Case
import PullReview.Text.CharName
import PullReview.Text.Compatibility
import PullReview.Text.Digit
import PullReview.Text.Grid
import PullReview.Text.Identifier
import PullReview.Text.Lines
import PullReview.Text.Printable
import PullReview.Text.Quoted
import PullReview.Text.Ranges
import PullReview.Text.Search
import PullReview.Text.Utf8
import PullReview.Text.Width
import PullReview.Timestamp
import PullReview.Toml.Moment
import PullReview.Toml.Notation
import PullReview.Toml.Reader
import PullReview.Toml.Value
import PullReview.Toml.Writer
import PullReview.Proofs.Diff.Header
import PullReview.Proofs.Diff.Hunk
import PullReview.Proofs.Diff.LineMap
import PullReview.Proofs.Repository.Indexing
import PullReview.Proofs.Diff.Patch
import PullReview.Proofs.Extract.Definitions
import PullReview.Proofs.Index
import PullReview.Proofs.Embedding.Store
import PullReview.Proofs.Repository.Reindexing
import PullReview.Proofs.Duplicate.Across
import PullReview.Proofs.Path
import PullReview.Proofs.FileTree
import PullReview.Proofs.Review.Changes
import PullReview.Proofs.Table.Order
import PullReview.Proofs.Feature
import PullReview.Proofs.Impact.Partition
import PullReview.Proofs.Breaking
import PullReview.Proofs.Index.History
import PullReview.Proofs.Comment
import PullReview.Proofs.FileTree.Change
import PullReview.Proofs.Project
import PullReview.Proofs.Text.Utf8
import PullReview.Proofs.Toml.Writer
import PullReview.Proofs.Config
import PullReview.Proofs.Json.Reader
import PullReview.Proofs.LanguageModel
import PullReview.Proofs.Extract.Visit
import PullReview.Proofs.Python.Tree
import PullReview.Proofs.Python.Place
import PullReview.Proofs.Python.Rules
import PullReview.Proofs.Extract.Symbols
import PullReview.Proofs.Extract.Calls
import PullReview.Proofs.Extract.DirectCalls
import PullReview.Proofs.Json.RoundTrip
import PullReview.Proofs.Symbol.Record
import PullReview.Proofs.Embedding.Search
import PullReview.Proofs.Diff.Numbering
import PullReview.Proofs.Python.Scan
import PullReview.Proofs.Python.Decorators
import PullReview.Proofs.Python.Statements
import PullReview.Proofs.Python.Name
import PullReview.Proofs.Extract.Signature
import PullReview.Proofs.Text.Cut
import PullReview.Proofs.Extract.Extent
import PullReview.Proofs.Extract.Code
import PullReview.Proofs.Impact.Depth
import PullReview.Proofs.Impact.Cascade
import PullReview.Proofs.Embedding.Ranking
import PullReview.Proofs.Duplicate.Search
import PullReview.Proofs.Embedding.FailedWrite
import PullReview.Proofs.Similarity
import PullReview.Proofs.Duplicate.Within
import PullReview.Proofs.Embedding.Neighbours
import PullReview.Proofs.Duplicate.Vectors
import PullReview.Proofs.FileTree.Removal
import PullReview.Proofs.Project.Deletion
import PullReview.Proofs.Text.Thinned
import PullReview.Proofs.Similarity.Normal
import PullReview.Proofs.Config.Loading
import PullReview.Proofs.Json.Spelling
import PullReview.Proofs.LanguageModel.Reply
import PullReview.Proofs.Impact.Termination
import PullReview.Proofs.Extract.Origin
import PullReview.Proofs.Symbol.Identity
