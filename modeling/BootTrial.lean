import BootTrial.Text.Alphabetic
import BootTrial.Text.DecimalDigit
import BootTrial.Text.Printable
import BootTrial.Text.LowerCase
import BootTrial.Text.Blank
import BootTrial.Text.Count
import BootTrial.Text.Utf8
import BootTrial.Text.Quoted
import BootTrial.Text.ShellWords
import BootTrial.Text.Style
import BootTrial.File.Walk
import BootTrial.Bench.Files
import BootTrial.Table.Reader
import BootTrial.Scenario.Record
import BootTrial.Response.Menu
import BootTrial.Toml.Document
import BootTrial.Main
import BootTrial.Machine.Scripted
import BootTrial.Cycle
import BootTrial.Report
import BootTrial.Operator.Prompt
import BootTrial.Operator.Scripted
import BootTrial.Proofs.Choice
import BootTrial.Proofs.Decision
import BootTrial.Proofs.Draining
import BootTrial.Proofs.Reporting
import BootTrial.Proofs.Recovery
import BootTrial.Proofs.Growing
import BootTrial.Proofs.Handling
import BootTrial.Proofs.Restarting
import BootTrial.Proofs.Boots
import BootTrial.Proofs.Dispatch
import BootTrial.Proofs.Compiling
import BootTrial.Proofs.Gating
import BootTrial.Proofs.Recompiling
import BootTrial.Proofs.Faithful
import BootTrial.Proofs.Rereading
import BootTrial.Proofs.Writing
import BootTrial.Proofs.Lagging
import BootTrial.Proofs.Transparency
import BootTrial.Proofs.Decoding
import BootTrial.Proofs.Queue
import BootTrial.Proofs.Folding
import BootTrial.Proofs.Conversing
import BootTrial.Proofs.Keying
import BootTrial.Proofs.Probing
import BootTrial.Proofs.Highlighting
import BootTrial.Proofs.Normalizing
import BootTrial.Proofs.Gathering
import BootTrial.Proofs.Tabulating
import BootTrial.Proofs.Aligning
import BootTrial.Proofs.Pinning
import BootTrial.Proofs.Repeating
