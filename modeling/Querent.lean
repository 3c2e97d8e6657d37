import Querent.Backend.Basic
import Querent.Backend.Scripted
import Querent.Backend.Sqlite
import Querent.Cache.Entry
import Querent.Cache.Store
import Querent.Clause.Basic
import Querent.Clause.Compiler
import Querent.Condition.Basic
import Querent.Condition.Operator
import Querent.Config.Basic
import Querent.Config.Stored
import Querent.Digest.Sha256
import Querent.Disk
import Querent.Disk.Node
import Querent.Disk.Path
import Querent.Error
import Querent.Json.Basic
import Querent.Json.Decoder
import Querent.Json.Document
import Querent.Json.Numeral
import Querent.Json.Printer
import Querent.NameMap
import Querent.Number.Binary64
import Querent.Number.Layout
import Querent.Number.Shortest
import Querent.Placeholder.ByteScan
import Querent.Placeholder.Scanner
import Querent.Placeholder.Statement
import Querent.Registry
import Querent.Report
import Querent.Result.Row
import Querent.Result.Set
import Querent.Session.Basic
import Querent.Session.Reader
import Querent.Session.Record
import Querent.Session.Run
import Querent.Session.Statement
import Querent.Statement.Assembly
import Querent.Statement.Kind
import Querent.Text.Blank
import Querent.Text.Bytes
import Querent.Text.Hex
import Querent.Text.Hidden
import Querent.Text.Quoted
import Querent.Text.Search
import Querent.Text.Utf8
import Querent.Time.Duration
import Querent.Time.Reader
import Querent.Time.Timestamp
import Querent.Value.Basic
import Querent.Value.Stored
import Querent.Proofs.Placeholder.Grammar
import Querent.Proofs.Placeholder.Reading
import Querent.Proofs.Placeholder.Translation
import Querent.Proofs.Number.Basin
import Querent.Proofs.Json.Numeral
import Querent.Proofs.Number.Layout
import Querent.Proofs.Json.Reading
import Querent.Proofs.Json.Visible
import Querent.Proofs.Session.CacheText
import Querent.Proofs.Clause.Template
import Querent.Proofs.Text.Blank
import Querent.Proofs.Clause.Comparison
import Querent.Proofs.Clause.Compiler
import Querent.Proofs.Statement.Template
import Querent.Proofs.Statement.Texts
import Querent.Proofs.Statement.Markers
import Querent.Proofs.Json.Quantity
import Querent.Proofs.Time.Reader
import Querent.Proofs.Json.Decoder
import Querent.Proofs.Cache.Entry
import Querent.Proofs.Placeholder.Calm
import Querent.Proofs.Statement.Joined
import Querent.Proofs.Statement.Quiet
import Querent.Proofs.Session.Calls
import Querent.Proofs.Session.Handed
import Querent.Proofs.Statement.Literals
import Querent.Proofs.Statement.Alike
import Querent.Proofs.Statement.Sealed
import Querent.Proofs.Digest.Sha256
import Querent.Proofs.Disk.Node
import Querent.Proofs.Disk.Directory
import Querent.Proofs.Cache.Files
import Querent.Proofs.Cache.Calls
import Querent.Proofs.Cache.History
import Querent.Proofs.Statement.Calls
import Querent.Proofs.Session.Operation
import Querent.Proofs.Session.Given
import Querent.Proofs.Session.Pending
import Querent.Proofs.Cache.Replacement
import Querent.Proofs.Session.Agreement
import Querent.Proofs.Session.Uncached
import Querent.Proofs.Session.Failing
import Querent.Proofs.Disk.Files
import Querent.Proofs.Placeholder.Rereading
import Querent.Proofs.Cache.Interleaving
import Querent.Proofs.Cache.Markers
import Querent.Proofs.Session.Files
import Querent.Proofs.Session.Staleness
import Querent.Proofs.Statement.PassedOn
import Querent.Proofs.Result.Shapes
import Querent.Proofs.Session.Beside
import Querent.Proofs.Session.Undone
import Querent.Proofs.Number.Rounding
import Querent.Proofs.Json.Gathering
import Querent.Proofs.Json.Nesting
import Querent.Proofs.Cache.Readable
import Querent.Proofs.Text.Search
import Querent.Proofs.Text.Fields
import Querent.Proofs.Clause.Combined
import Querent.Proofs.Clause.Delimited
import Querent.Proofs.Clause.Opposite
import Querent.Proofs.Statement.Wildcard
import Querent.Proofs.Statement.Verb
import Querent.Proofs.Session.Exchange
import Querent.Proofs.Session.Writing
import Querent.Proofs.Statement.Grouping
import Querent.Proofs.Statement.Composed
import Querent.Proofs.Clause.Windows
import Querent.Proofs.Clause.Keyword
import Querent.Proofs.Session.Reading
import Querent.Proofs.Session.Errors
import Querent.Proofs.Session.Bookkeeping
import Querent.Proofs.Session.LastCall
import Querent.Proofs.NameMap
import Querent.Proofs.Config.Stored
import Querent.Proofs.Text.Bytes
import Querent.Proofs.Placeholder.Stride
import Querent.Proofs.Placeholder.ByteScan
