import VirtualMocap.Bytes.Base64
import VirtualMocap.Bytes.Hex
import VirtualMocap.Bytes.Word
import VirtualMocap.Cli.Arguments
import VirtualMocap.Cli.Command
import VirtualMocap.Config.Load
import VirtualMocap.Config.Merge
import VirtualMocap.Config.Settings
import VirtualMocap.Config.Standard
import VirtualMocap.Decimal.Read
import VirtualMocap.Decimal.Shortest
import VirtualMocap.Decimal.Text
import VirtualMocap.Json.Issue
import VirtualMocap.Json.Loose
import VirtualMocap.Json.Mapping
import VirtualMocap.Json.Number
import VirtualMocap.Json.Read
import VirtualMocap.Json.Value
import VirtualMocap.Json.Write
import VirtualMocap.Main
import VirtualMocap.Motion.Basic
import VirtualMocap.Motion.Catalog
import VirtualMocap.Motion.Demo
import VirtualMocap.Motion.Fields
import VirtualMocap.Motion.Message
import VirtualMocap.Motion.Parse
import VirtualMocap.Motion.Recording
import VirtualMocap.Motion.Wire
import VirtualMocap.Number.Binary32
import VirtualMocap.Number.Binary64
import VirtualMocap.Number.Format
import VirtualMocap.Number.Numeral
import VirtualMocap.Number.Power
import VirtualMocap.Osc.Decode
import VirtualMocap.Osc.Encode
import VirtualMocap.Osc.Packet
import VirtualMocap.Osc.TimeTag
import VirtualMocap.Osc.Value
import VirtualMocap.Session.Log
import VirtualMocap.Session.Marionette
import VirtualMocap.Session.Performer
import VirtualMocap.Session.Pump
import VirtualMocap.Text.Blank
import VirtualMocap.Text.Case
import VirtualMocap.Text.Digit
import VirtualMocap.Text.Printable
import VirtualMocap.Text.Quoted
import VirtualMocap.Text.Utf8
import VirtualMocap.Transport.Fault
import VirtualMocap.Transport.Link
import VirtualMocap.Transport.Socket
import VirtualMocap.Yaml.Node
import VirtualMocap.Yaml.Parser
import VirtualMocap.Yaml.Resolve
import VirtualMocap.Yaml.Scanner
import VirtualMocap.Yaml.Timestamp
import VirtualMocap.Yaml.Token
import VirtualMocap.Yaml.Value
import VirtualMocap.Proofs.Text.Utf8
import VirtualMocap.Proofs.Number.Rounding
import VirtualMocap.Proofs.Osc.Layout
import VirtualMocap.Proofs.Osc.ReadBack
import VirtualMocap.Proofs.Osc.RoundTrip
import VirtualMocap.Proofs.Osc.Decoded
import VirtualMocap.Proofs.Osc.Refusal
import VirtualMocap.Proofs.Osc.CallRoom
import VirtualMocap.Proofs.Osc.Canonical
import VirtualMocap.Proofs.Osc.Truncation
import VirtualMocap.Proofs.Osc.ValueAt
import VirtualMocap.Proofs.Osc.DepthLimit
import VirtualMocap.Proofs.Motion.Catalog
import VirtualMocap.Proofs.Motion.RoundTrip
import VirtualMocap.Proofs.Motion.Dispatch
import VirtualMocap.Proofs.Motion.Variants
import VirtualMocap.Proofs.Motion.NormalForm
import VirtualMocap.Proofs.Motion.Recorder
import VirtualMocap.Proofs.Session.Pull
import VirtualMocap.Proofs.Session.Loops
import VirtualMocap.Proofs.Transport.Loop
import VirtualMocap.Proofs.Transport.Queue
import VirtualMocap.Proofs.Transport.Waiting
import VirtualMocap.Proofs.Transport.Send
import VirtualMocap.Proofs.Decimal.Shortest
import VirtualMocap.Proofs.Json.Document
import VirtualMocap.Proofs.Json.Loose
import VirtualMocap.Proofs.Json.Line
import VirtualMocap.Proofs.Config.Merge
import VirtualMocap.Proofs.Config.Validation
import VirtualMocap.Proofs.Cli.Overrides
import VirtualMocap.Proofs.Session.Reporting
import VirtualMocap.Proofs.Motion.RecordingForm
import VirtualMocap.Proofs.Motion.LooseAdapters
import VirtualMocap.Proofs.Motion.RecordingFile
