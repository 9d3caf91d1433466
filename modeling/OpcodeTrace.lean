import OpcodeTrace.Console.Bounded
import OpcodeTrace.Main
import OpcodeTrace.Proofs.Reader.Operation
import OpcodeTrace.Proofs.Reader.Driving
import OpcodeTrace.Proofs.Listing.Following
import OpcodeTrace.Proofs.Listing.Tiling
import OpcodeTrace.Proofs.Opcode.Decoding
import OpcodeTrace.Proofs.Reader.Terminator
import OpcodeTrace.Proofs.Console.Watched
import OpcodeTrace.Proofs.Session.Surfacing
import OpcodeTrace.Proofs.Reader.Grid
import OpcodeTrace.Proofs.Session.Repetition
import OpcodeTrace.Proofs.Session.Script
import OpcodeTrace.Proofs.Session.BlankLines
import OpcodeTrace.Proofs.Console.Simulation
import OpcodeTrace.Proofs.Console.Transcribed
import OpcodeTrace.Proofs.Session.Joining
import OpcodeTrace.Proofs.Console.Offering
import OpcodeTrace.Proofs.Session.Truncation
import OpcodeTrace.Proofs.Session.Faults
import OpcodeTrace.Proofs.Session.Templates
import OpcodeTrace.Proofs.Text.Decimal
import OpcodeTrace.Proofs.Text.Words
import OpcodeTrace.Proofs.Command.Rendering
import OpcodeTrace.Proofs.Reader.Landings
import OpcodeTrace.Proofs.Reader.Breakpoints
import OpcodeTrace.Proofs.Reader.Frames
import OpcodeTrace.Proofs.Checked.Trace
import OpcodeTrace.Proofs.Checked.Reader
import OpcodeTrace.Proofs.Checked.Safety
import OpcodeTrace.Proofs.Reader.Walk
import OpcodeTrace.Proofs.Reader.Resume
import OpcodeTrace.Proofs.Reader.Stops
import OpcodeTrace.Proofs.Config.Writing
import OpcodeTrace.Proofs.Reader.Return
import OpcodeTrace.Proofs.Listing.Framed
import OpcodeTrace.Proofs.Listing.Pages
import OpcodeTrace.Proofs.Listing.Synchronisation
import OpcodeTrace.Proofs.Template.Expansion
import OpcodeTrace.Proofs.Text.Numeral
import OpcodeTrace.Proofs.Command.Grammar
import OpcodeTrace.Proofs.Text.Printed
import OpcodeTrace.Proofs.Session.Answers
import OpcodeTrace.Proofs.Session.Dumps
import OpcodeTrace.Proofs.Reader.Warnings
import OpcodeTrace.Proofs.Session.Scope
import OpcodeTrace.Proofs.Session.Insertion
import OpcodeTrace.Proofs.Text.Quoted
import OpcodeTrace.Proofs.Session.Quotations
import OpcodeTrace.Proofs.Json.Values
import OpcodeTrace.Proofs.Opcode.Names
import OpcodeTrace.Proofs.Session.Counts
import OpcodeTrace.Proofs.Json.Grammar
import OpcodeTrace.Proofs.Config.Layout
import OpcodeTrace.Proofs.Arguments.Spelling
import OpcodeTrace.Proofs.Launch.Precedence
