import SecretScan.Log.Template
import SecretScan.Main
import SecretScan.Proofs.Detection.Anchors
import SecretScan.Proofs.Detection.Coverage
import SecretScan.Proofs.Detection.Disclosure
import SecretScan.Proofs.Scan.Faults
import SecretScan.Proofs.Scan.PassedOver
import SecretScan.Proofs.Scan.Thresholds
import SecretScan.Proofs.Settings.Faults
import SecretScan.Proofs.FileTree.Writing
import SecretScan.Proofs.Sarif.Results
import SecretScan.Proofs.CommandLine.Agreement
import SecretScan.Proofs.Text.Graphemes
import SecretScan.Proofs.Text.Wrapping
import SecretScan.Proofs.Markup
import SecretScan.Proofs.Table
import SecretScan.Proofs.Report.Table
import SecretScan.Proofs.Text.LetterCase
import SecretScan.Proofs.Detection.Assignments
import SecretScan.Proofs.Detection.Columns
import SecretScan.Proofs.Text.SameAscii
import SecretScan.Proofs.Text.Utf8
import SecretScan.Proofs.Pattern.Rest
import SecretScan.Proofs.Detection.Decoding
import SecretScan.Proofs.Detection.Order
import SecretScan.Proofs.Detection.Stricter
import SecretScan.Proofs.Scan.TextNames
import SecretScan.Proofs.Sarif.Rules
import SecretScan.Proofs.Decimal.Exact
import SecretScan.Proofs.Settings.Loading
import SecretScan.Proofs.Settings.Requests
import SecretScan.Proofs.Report.Redaction
import SecretScan.Proofs.Decimal.Rounding
import SecretScan.Proofs.Decimal.Nearest
import SecretScan.Proofs.Decimal.Numerals
import SecretScan.Proofs.Settings.Limits
import SecretScan.Proofs.Detection.Confidence
import SecretScan.Proofs.Scan.Logs
import SecretScan.Proofs.Scan.Collecting
