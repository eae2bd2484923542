import StreamRelay.Base64
import StreamRelay.Binary64
import StreamRelay.Binary64.Decimal
import StreamRelay.Decision
import StreamRelay.Dispatch
import StreamRelay.FanOut
import StreamRelay.Fault
import StreamRelay.Gate
import StreamRelay.Image
import StreamRelay.Invocation
import StreamRelay.Log
import StreamRelay.Log.Console
import StreamRelay.Message
import StreamRelay.Outcome
import StreamRelay.Publisher
import StreamRelay.Publisher.Memory
import StreamRelay.Publisher.Sqs
import StreamRelay.Relay
import StreamRelay.Send
import StreamRelay.Settings
import StreamRelay.Settings.CommandLine
import StreamRelay.Settings.Dotenv
import StreamRelay.Settings.Reading
import StreamRelay.Stopwatch
import StreamRelay.StreamRecord
import StreamRelay.Text.Blank
import StreamRelay.Text.Cased
import StreamRelay.Text.Charset
import StreamRelay.Text.Charset.Bytes
import StreamRelay.Text.Lower
import StreamRelay.Text.Printable
import StreamRelay.Text.Quoted
import StreamRelay.Value
import StreamRelay.Value.Display
import StreamRelay.Value.Plain
import StreamRelay.Proofs.Reading
import StreamRelay.Proofs.Filter
import StreamRelay.Proofs.Turns
import StreamRelay.Proofs.Jobs
import StreamRelay.Proofs.Offering
import StreamRelay.Proofs.Delivery
import StreamRelay.Proofs.Writing
import StreamRelay.Proofs.Gates
import StreamRelay.Proofs.Outcomes
import StreamRelay.Proofs.Aborting
import StreamRelay.Proofs.Carrying
import StreamRelay.Proofs.Holders
import StreamRelay.Proofs.Lifecycle
import StreamRelay.Proofs.Mirroring
import StreamRelay.Proofs.Translation
import StreamRelay.Proofs.Closing
import StreamRelay.Proofs.Spelling
import StreamRelay.Proofs.Fidelity
import StreamRelay.Proofs.Beginnings
import StreamRelay.Proofs.Requests
import StreamRelay.Proofs.Naming
import StreamRelay.Proofs.Course
import StreamRelay.Proofs.Stepping
import StreamRelay.Proofs.Container
import StreamRelay.Proofs.Timing
import StreamRelay.Proofs.Grammar
import StreamRelay.Proofs.Sight
import StreamRelay.Proofs.Audit
import StreamRelay.Proofs.Batching
import StreamRelay.Proofs.Bodies
import StreamRelay.Proofs.Offences
