import SignatureLint.CommandLine.Arguments
import SignatureLint.CommandLine.Command
import SignatureLint.CommandLine.Files
import SignatureLint.CommandLine.Invocation
import SignatureLint.CommandLine.Listing
import SignatureLint.CommandLine.Run
import SignatureLint.Declaration.Basic
import SignatureLint.Declaration.Error
import SignatureLint.Declaration.Json
import SignatureLint.Declaration.Platform
import SignatureLint.Dump.Counter
import SignatureLint.Dump.Diagnostic
import SignatureLint.Dump.Index
import SignatureLint.Dump.Line
import SignatureLint.Dump.Reading
import SignatureLint.Dump.Stream
import SignatureLint.Grammar.Header
import SignatureLint.Grammar.Member
import SignatureLint.Grammar.Sequence
import SignatureLint.Grammar.Step
import SignatureLint.Grammar.Type
import SignatureLint.Hash.Sha256
import SignatureLint.Json.Basic
import SignatureLint.Json.Printer
import SignatureLint.Lint.Config
import SignatureLint.Lint.ConfigFile
import SignatureLint.Lint.Examination
import SignatureLint.Lint.Findings
import SignatureLint.Lint.Fingerprint
import SignatureLint.Lint.Report
import SignatureLint.Lint.Rule
import SignatureLint.Lint.Rules.Callbacks
import SignatureLint.Lint.Rules.Constants
import SignatureLint.Lint.Rules.Equality
import SignatureLint.Lint.Rules.Exceptions
import SignatureLint.Lint.Rules.Parcelable
import SignatureLint.Lint.Violation
import SignatureLint.Main
import SignatureLint.Pairing.Baseline
import SignatureLint.Pairing.Cursor
import SignatureLint.Pairing.Order
import SignatureLint.Pairing.Seek
import SignatureLint.Pairing.Visit
import SignatureLint.Positional.Declaration
import SignatureLint.Positional.Filter
import SignatureLint.Proofs.CommandLine.Status
import SignatureLint.Proofs.Dump.Account
import SignatureLint.Proofs.Dump.Belonging
import SignatureLint.Proofs.Dump.Blame
import SignatureLint.Proofs.Dump.BlameText
import SignatureLint.Proofs.Dump.Blamed
import SignatureLint.Proofs.Dump.BlankLines
import SignatureLint.Proofs.Dump.Counter
import SignatureLint.Proofs.Dump.Drain
import SignatureLint.Proofs.Dump.FromLines
import SignatureLint.Proofs.Dump.Index
import SignatureLint.Proofs.Dump.Ledger
import SignatureLint.Proofs.Dump.Names
import SignatureLint.Proofs.Dump.Origin
import SignatureLint.Proofs.Dump.Qualified
import SignatureLint.Proofs.Dump.RawText
import SignatureLint.Proofs.Dump.Reformatted
import SignatureLint.Proofs.Dump.Respaced
import SignatureLint.Proofs.Dump.Rewritten
import SignatureLint.Proofs.Dump.Shape
import SignatureLint.Proofs.Dump.Step
import SignatureLint.Proofs.Dump.Turn
import SignatureLint.Proofs.Dump.Unread
import SignatureLint.Proofs.Dump.Values
import SignatureLint.Proofs.Grammar.Ahead
import SignatureLint.Proofs.Grammar.Dotted
import SignatureLint.Proofs.Grammar.Header
import SignatureLint.Proofs.Grammar.Member
import SignatureLint.Proofs.Grammar.Parts
import SignatureLint.Proofs.Grammar.Phrase
import SignatureLint.Proofs.Grammar.Reference
import SignatureLint.Proofs.Grammar.Rest
import SignatureLint.Proofs.Grammar.Slot
import SignatureLint.Proofs.Grammar.Type
import SignatureLint.Proofs.Hash.Digest
import SignatureLint.Proofs.Lint.Classwise
import SignatureLint.Proofs.Lint.Configuration
import SignatureLint.Proofs.Lint.Counter
import SignatureLint.Proofs.Lint.Diagnostics
import SignatureLint.Proofs.Lint.Difference
import SignatureLint.Proofs.Lint.Fingerprint
import SignatureLint.Proofs.Lint.Identity
import SignatureLint.Proofs.Lint.Inherited
import SignatureLint.Proofs.Lint.MemberSets
import SignatureLint.Proofs.Lint.Origin
import SignatureLint.Proofs.Lint.Recorded
import SignatureLint.Proofs.Lint.Report
import SignatureLint.Proofs.Lint.Restrict
import SignatureLint.Proofs.Lint.Signature
import SignatureLint.Proofs.Lint.StandIn
import SignatureLint.Proofs.Lint.Unchanged
import SignatureLint.Proofs.Pairing.AnyOrder
import SignatureLint.Proofs.Pairing.Baseline
import SignatureLint.Proofs.Pairing.Merge
import SignatureLint.Proofs.Pairing.Order
import SignatureLint.Proofs.Pairing.Replay
import SignatureLint.Proofs.Pairing.Seek
import SignatureLint.Proofs.Pairing.Tape
import SignatureLint.Proofs.Pairing.Targets
import SignatureLint.Proofs.Pairing.Walk
import SignatureLint.Proofs.Positional.Filter
import SignatureLint.Proofs.Positional.Header
import SignatureLint.Proofs.Positional.Member
import SignatureLint.Proofs.Positional.Scan
import SignatureLint.Proofs.Token.Lexeme
import SignatureLint.Proofs.Token.Spacing
import SignatureLint.Proofs.Token.Splice
import SignatureLint.Proofs.Token.Step
import SignatureLint.SortedBy
import SignatureLint.Table
import SignatureLint.Text.Alphanumeric
import SignatureLint.Text.Blank
import SignatureLint.Text.Grapheme
import SignatureLint.Text.Lines
import SignatureLint.Text.Printable
import SignatureLint.Text.Quoted
import SignatureLint.Text.Ranges
import SignatureLint.Token.Basic
import SignatureLint.Token.Lexer
import SignatureLint.Toml.Lists
import SignatureLint.Toml.Text
