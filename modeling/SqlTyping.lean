import SqlTyping.Catalog
import SqlTyping.Catalog.File
import SqlTyping.Command
import SqlTyping.Command.Failure
import SqlTyping.Command.Flag
import SqlTyping.Command.Line
import SqlTyping.Command.Listing
import SqlTyping.Command.Query
import SqlTyping.Command.Run
import SqlTyping.Command.Usage
import SqlTyping.Conversion
import SqlTyping.Diagnostic
import SqlTyping.Family
import SqlTyping.Host.Representation
import SqlTyping.Host.Signature
import SqlTyping.Journal
import SqlTyping.Journal.Datum
import SqlTyping.Journal.Lock
import SqlTyping.Journal.Log
import SqlTyping.Journal.Message
import SqlTyping.Journal.Template
import SqlTyping.Main
import SqlTyping.Proofs.Conversion
import SqlTyping.Proofs.Unification.Pair
import SqlTyping.Proofs.WellFormed
import SqlTyping.Routine.Argument
import SqlTyping.Routine.Declaration
import SqlTyping.Routine.Resolution
import SqlTyping.Routine.Signature
import SqlTyping.Setting
import SqlTyping.Setting.Engine
import SqlTyping.Setting.File
import SqlTyping.SqlState
import SqlTyping.SqlType
import SqlTyping.SqlType.Reader
import SqlTyping.Statement.Compilation
import SqlTyping.Statement.Evaluation
import SqlTyping.Statement.Reader
import SqlTyping.Statement.Site
import SqlTyping.Table
import SqlTyping.Text.Case
import SqlTyping.Text.Delimited
import SqlTyping.Text.Masked
import SqlTyping.Text.Numeral
import SqlTyping.Text.Printable
import SqlTyping.Text.Quoted
import SqlTyping.Text.Space
import SqlTyping.Text.Utf8
import SqlTyping.Text.Width
import SqlTyping.Unification
import SqlTyping.Unification.Attributes
import SqlTyping.Value.Binary64
import SqlTyping.Value.Datetime
import SqlTyping.Value.Decimal
import SqlTyping.Yaml.Cursor
import SqlTyping.Yaml.Decoding
import SqlTyping.Yaml.Node
import SqlTyping.Yaml.Node.Reader
import SqlTyping.Yaml.Scalar
import SqlTyping.Yaml.Timestamp
import SqlTyping.Yaml.Token
import SqlTyping.Yaml.Token.Property
import SqlTyping.Yaml.Token.Scalar
import SqlTyping.Yaml.Token.Stream
import SqlTyping.Yaml.Value
import SqlTyping.Proofs.Unification.Merge
import SqlTyping.Proofs.Unification.Outcome
import SqlTyping.Proofs.Unification.Grouping
import SqlTyping.Proofs.Unification.Rejection
import SqlTyping.Proofs.Unification.Capacity
import SqlTyping.Proofs.Unification.Soundness
import SqlTyping.Proofs.Unification.DecimalUnion
import SqlTyping.Proofs.Text.Reading
import SqlTyping.Proofs.TypeName
import SqlTyping.Proofs.Statement.Operand
import SqlTyping.Proofs.Host.Signature
import SqlTyping.Proofs.Statement.Site
import SqlTyping.Proofs.Routine.CandidateOrder
import SqlTyping.Proofs.Setting.Reachable
import SqlTyping.Proofs.Statement.Decision
import SqlTyping.Proofs.Statement.Memo
import SqlTyping.Proofs.Text.Case
import SqlTyping.Proofs.Catalog.Index
import SqlTyping.Proofs.Catalog.Ledger
import SqlTyping.Proofs.Catalog.DeclarationOrder
import SqlTyping.Proofs.Routine.Applicable
import SqlTyping.Proofs.Statement.Crash
import SqlTyping.Proofs.Catalog.Ambiguity
import SqlTyping.Proofs.Routine.Spelling
import SqlTyping.Proofs.Catalog.Naming
import SqlTyping.Proofs.Statement.Evaluation
import SqlTyping.Proofs.Routine.Minimum
import SqlTyping.Proofs.Routine.Dominance
import SqlTyping.Proofs.Routine.Agreement
import SqlTyping.Proofs.Routine.Presentation
import SqlTyping.Proofs.Text.Bytes
import SqlTyping.Proofs.Statement.Totality
import SqlTyping.Proofs.Setting.Run
import SqlTyping.Proofs.Statement.Failure
import SqlTyping.Proofs.Diagnostic
import SqlTyping.Proofs.Unification.PrecisionBound
import SqlTyping.Proofs.Unification.Mismatch
import SqlTyping.Proofs.Unification.Safety
import SqlTyping.Proofs.Value.DecimalWidth
import SqlTyping.Proofs.Host.Acceptance
import SqlTyping.Proofs.TypeName.Grammar
import SqlTyping.Proofs.TypeName.Readers
import SqlTyping.Proofs.TypeName.Acceptance
import SqlTyping.Proofs.Value.DatetimeForm
import SqlTyping.Proofs.Value.Datetime
import SqlTyping.Diagnostic.Handling
import SqlTyping.Proofs.Command.Query
import SqlTyping.Proofs.Diagnostic.Handling
import SqlTyping.Proofs.FamilyName
import SqlTyping.Proofs.Routine.Sifting
import SqlTyping.Proofs.Statement.Splitting
import SqlTyping.Proofs.Unification.Promotion
