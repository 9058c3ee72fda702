import CssMinifier.Text.Class
import CssMinifier.Text.Fields
import CssMinifier.Text.Printable
import CssMinifier.Text.Quoted
import CssMinifier.Text.Word
import CssMinifier.Stylesheet.Comment
import CssMinifier.Stylesheet.Spacing
import CssMinifier.Stylesheet.Rule
import CssMinifier.Number.Rounding
import CssMinifier.Number.Binary64
import CssMinifier.Number.Shortest
import CssMinifier.Number.Reading
import CssMinifier.Settings
import CssMinifier.Size
import CssMinifier.Path
import CssMinifier.Url.Host
import CssMinifier.Url
import CssMinifier.Source
import CssMinifier.Text.Paragraph
import CssMinifier.Text.Template
import CssMinifier.Options.Argument
import CssMinifier.Options
import CssMinifier.Encoding.Fault
import CssMinifier.Encoding.Utf8
import CssMinifier.Encoding.Utf16
import CssMinifier.Encoding.SingleByte
import CssMinifier.Encoding
import CssMinifier.Encoding.Name
import CssMinifier.Encoding.Coding
import CssMinifier.Disk
import CssMinifier.Failure
import CssMinifier.Screen
import CssMinifier.Report
import CssMinifier.Usage
import CssMinifier.CommandLine
import CssMinifier.Log
import CssMinifier.Machine
import CssMinifier.Job
import CssMinifier.Session
import CssMinifier.Main
import CssMinifier.Proofs.Stylesheet.Layout
import CssMinifier.Proofs.Stylesheet.Spread
import CssMinifier.Proofs.Stylesheet.Assembly
import CssMinifier.Proofs.Stylesheet.Comment
import CssMinifier.Proofs.Stylesheet.Scan
import CssMinifier.Proofs.Stylesheet.Compact
import CssMinifier.Proofs.Stylesheet.Idempotence
import CssMinifier.Proofs.Stylesheet.Collapse
import CssMinifier.Proofs.Encoding.Codec
import CssMinifier.Proofs.Encoding.Decoding
import CssMinifier.Proofs.Encoding.ByteCount
import CssMinifier.Proofs.Number.Rounding
import CssMinifier.Proofs.Number.Quotient
import CssMinifier.Proofs.Number.Numeral
import CssMinifier.Proofs.Size.Compression
import CssMinifier.Proofs.Disk
import CssMinifier.Proofs.Job.Reading
import CssMinifier.Proofs.Job.Writing
import CssMinifier.Proofs.Job.Failing
import CssMinifier.Proofs.Job.Atomicity
import CssMinifier.Proofs.Job.Encodability
import CssMinifier.Proofs.Job.Finishing
import CssMinifier.Proofs.Job.Effect
import CssMinifier.Proofs.Job.Reordering
import CssMinifier.Proofs.Job.Growth
import CssMinifier.Proofs.Text.Fields
import CssMinifier.Proofs.Path
import CssMinifier.Proofs.Job.Readback
import CssMinifier.Proofs.Job.Agreement
import CssMinifier.Proofs.Options.Collecting
import CssMinifier.Proofs.Options.Quiet
import CssMinifier.Proofs.Log
import CssMinifier.Proofs.Session.Command
import CssMinifier.Proofs.Session.Quiet
import CssMinifier.Proofs.Session.Logging
import CssMinifier.Proofs.Naming
import CssMinifier.Proofs.Naming.Beside
import CssMinifier.Proofs.Naming.Address
import CssMinifier.Proofs.Session.DefaultInput
import CssMinifier.Proofs.Report
import CssMinifier.Proofs.Options.Values
import CssMinifier.Proofs.Options.Item
import CssMinifier.Proofs.Options.Interleaving
import CssMinifier.Proofs.Options.Separated
import CssMinifier.Proofs.Job.Escaping
import CssMinifier.Proofs.Session.Ending
import CssMinifier.Proofs.Stylesheet.Shape
import CssMinifier.Proofs.Stylesheet.Respacing
import CssMinifier.Proofs.Stylesheet.Concatenation
import CssMinifier.Proofs.Stylesheet.RuleOrder
import CssMinifier.Proofs.Size.Format
