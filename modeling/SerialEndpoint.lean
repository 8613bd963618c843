import SerialEndpoint.Number.Decimal
import SerialEndpoint.Text.Utf8
import SerialEndpoint.Text.Blank
import SerialEndpoint.Text.Quoted
import SerialEndpoint.Text.Duration
import SerialEndpoint.Pin.Allocation
import SerialEndpoint.Keymap.Export
import SerialEndpoint.Agent.Reading
import SerialEndpoint.Settings.Reading
import SerialEndpoint.Sketch
import SerialEndpoint.Board
import SerialEndpoint.Board.Wired
import SerialEndpoint.Link
import SerialEndpoint.Link.Frame
import SerialEndpoint.Link.Transport
import SerialEndpoint.Device
import SerialEndpoint.Link.Rehearsal
import SerialEndpoint.Generation
import SerialEndpoint.Generation.Output
import SerialEndpoint.Storage.Tree
import SerialEndpoint.CommandLine
import SerialEndpoint.CommandLine.Help
import SerialEndpoint.Keymap.Loading
import SerialEndpoint.Program
import SerialEndpoint.Main
import SerialEndpoint.Proofs.Number.Rounding
import SerialEndpoint.Proofs.Number.Printing
import SerialEndpoint.Proofs.Utf8
import SerialEndpoint.Proofs.Pools
import SerialEndpoint.Proofs.Discovery
import SerialEndpoint.Proofs.Allocation
import SerialEndpoint.Proofs.Rendering
import SerialEndpoint.Proofs.Demands
import SerialEndpoint.Proofs.Renderable
import SerialEndpoint.Proofs.CommandLines
import SerialEndpoint.Proofs.Number.Reading
import SerialEndpoint.Proofs.Keymaps
import SerialEndpoint.Proofs.Sketch.Lines
import SerialEndpoint.Proofs.Sketch.Forms
import SerialEndpoint.Proofs.Sketch.Sections
import SerialEndpoint.Proofs.Agreement
import SerialEndpoint.Proofs.Board.Runs
import SerialEndpoint.Proofs.Board.Truncation
import SerialEndpoint.Proofs.Sketch.Program
import SerialEndpoint.Proofs.Sketch.Machine
import SerialEndpoint.Proofs.Sketch.Reading
import SerialEndpoint.Proofs.Board.Slots
import SerialEndpoint.Proofs.Sketch.Functions
import SerialEndpoint.Proofs.Sketch.Scaling
import SerialEndpoint.Proofs.Sketch.Calls
import SerialEndpoint.Proofs.Sketch.Outputs
import SerialEndpoint.Proofs.Sketch.Dispatch
import SerialEndpoint.Proofs.Sketch.Refinement
import SerialEndpoint.Proofs.Sketch.Tokens
import SerialEndpoint.Proofs.Sketch.Mentions
import SerialEndpoint.Proofs.Sketch.Declarations
import SerialEndpoint.Proofs.Sketch.Blocks
import SerialEndpoint.Proofs.Sketch.Braces
import SerialEndpoint.Proofs.Sketch.Nesting
import SerialEndpoint.Proofs.Board.Numerals
import SerialEndpoint.Proofs.Board.Rest
import SerialEndpoint.Proofs.Grants
import SerialEndpoint.Proofs.Device.Duty
import SerialEndpoint.Proofs.Device.Requests
import SerialEndpoint.Proofs.Device.Driving
import SerialEndpoint.Proofs.Device.Brakes
import SerialEndpoint.Proofs.Device.Calls
import SerialEndpoint.Proofs.Device.Stopping
import SerialEndpoint.Proofs.Device.Failing
import SerialEndpoint.Proofs.Device.Held
import SerialEndpoint.Proofs.Device.Missing
import SerialEndpoint.Proofs.Device.Ranging
import SerialEndpoint.Proofs.Link.Sharing
import SerialEndpoint.Proofs.Link.Turns
import SerialEndpoint.Proofs.Link.Alone
import SerialEndpoint.Proofs.Link.Asking
import SerialEndpoint.Proofs.Link.Exchanges
import SerialEndpoint.Proofs.Link.Lines
import SerialEndpoint.Proofs.Link.Receiving
import SerialEndpoint.Proofs.Link.Sending
import SerialEndpoint.Proofs.Link.Correspondence
import SerialEndpoint.Proofs.Link.Trials
import SerialEndpoint.Proofs.Link.Statistics
import SerialEndpoint.Proofs.Link.Returned
import SerialEndpoint.Proofs.Link.FollowUps
import SerialEndpoint.Proofs.Board.LineMachine
import SerialEndpoint.Proofs.Board.Parameter
import SerialEndpoint.Proofs.Board.Voltage
import SerialEndpoint.Proofs.Board.Mirroring
import SerialEndpoint.Proofs.Board.Order
import SerialEndpoint.Proofs.Keymap.RoundTrip
import SerialEndpoint.Proofs.FailedGeneration
import SerialEndpoint.Proofs.WrittenDirectory
import SerialEndpoint.Proofs.ExactAllocation
import SerialEndpoint.Proofs.Edits
