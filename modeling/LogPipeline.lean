import LogPipeline.Books
import LogPipeline.Chunk
import LogPipeline.Counters
import LogPipeline.Destination
import LogPipeline.Distributor
import LogPipeline.Failure
import LogPipeline.Json.Decimal
import LogPipeline.Json.Quoted
import LogPipeline.Json.Reading
import LogPipeline.Json.Token
import LogPipeline.Json.Value
import LogPipeline.Json.Written
import LogPipeline.KeySet.Fields
import LogPipeline.KeySet.Framing
import LogPipeline.KeySet.KeyMap
import LogPipeline.KeySet.TagTemplate
import LogPipeline.Line
import LogPipeline.LogLevel
import LogPipeline.Orchestrator
import LogPipeline.Output
import LogPipeline.Pattern.CharSet
import LogPipeline.Pattern.Expr
import LogPipeline.Pattern.Parser
import LogPipeline.Pattern.Program
import LogPipeline.Pattern.Property
import LogPipeline.Pattern.Replacement
import LogPipeline.Pattern.Search
import LogPipeline.Pattern.Tree
import LogPipeline.Pipeline
import LogPipeline.Plant
import LogPipeline.Processor
import LogPipeline.Proofs.Ages
import LogPipeline.Proofs.Attendance
import LogPipeline.Proofs.Backlogs
import LogPipeline.Proofs.Backpressure
import LogPipeline.Proofs.Bundles
import LogPipeline.Proofs.Census
import LogPipeline.Proofs.Clocks
import LogPipeline.Proofs.Closings
import LogPipeline.Proofs.Collisions
import LogPipeline.Proofs.Conservation
import LogPipeline.Proofs.Consignments
import LogPipeline.Proofs.Content
import LogPipeline.Proofs.Courses
import LogPipeline.Proofs.Crews
import LogPipeline.Proofs.Curfews
import LogPipeline.Proofs.Custody
import LogPipeline.Proofs.Decompositions
import LogPipeline.Proofs.Deliveries
import LogPipeline.Proofs.Demands
import LogPipeline.Proofs.Depots
import LogPipeline.Proofs.Diaries
import LogPipeline.Proofs.Directories
import LogPipeline.Proofs.Dispatches
import LogPipeline.Proofs.Dockets
import LogPipeline.Proofs.Effort
import LogPipeline.Proofs.Farewells
import LogPipeline.Proofs.Fates
import LogPipeline.Proofs.Fittings
import LogPipeline.Proofs.Foundations
import LogPipeline.Proofs.Frames
import LogPipeline.Proofs.Gathering
import LogPipeline.Proofs.Histories
import LogPipeline.Proofs.Holders
import LogPipeline.Proofs.Hoppers
import LogPipeline.Proofs.Inlets
import LogPipeline.Proofs.Instants
import LogPipeline.Proofs.Journals
import LogPipeline.Proofs.Lanes
import LogPipeline.Proofs.Lifetimes
import LogPipeline.Proofs.Lines
import LogPipeline.Proofs.Loans
import LogPipeline.Proofs.Logbooks
import LogPipeline.Proofs.Lookups
import LogPipeline.Proofs.Losses
import LogPipeline.Proofs.Moves
import LogPipeline.Proofs.Packing
import LogPipeline.Proofs.Passage
import LogPipeline.Proofs.Patience
import LogPipeline.Proofs.Plants
import LogPipeline.Proofs.Punctuality
import LogPipeline.Proofs.Quays
import LogPipeline.Proofs.Receipts
import LogPipeline.Proofs.Rosters
import LogPipeline.Proofs.Rotations
import LogPipeline.Proofs.Routes
import LogPipeline.Proofs.Runs
import LogPipeline.Proofs.Safekeeping
import LogPipeline.Proofs.Seats
import LogPipeline.Proofs.Shifts
import LogPipeline.Proofs.Shutdowns
import LogPipeline.Proofs.Stance
import LogPipeline.Proofs.Standstill
import LogPipeline.Proofs.Stewardship
import LogPipeline.Proofs.Strays
import LogPipeline.Proofs.Streams
import LogPipeline.Proofs.Tasks
import LogPipeline.Proofs.Teardowns
import LogPipeline.Proofs.Templates
import LogPipeline.Proofs.Tickets
import LogPipeline.Proofs.Timesheets
import LogPipeline.Proofs.Traffic
import LogPipeline.Proofs.Transcripts
import LogPipeline.Proofs.Turns
import LogPipeline.Proofs.Upkeep
import LogPipeline.Proofs.Verdicts
import LogPipeline.Proofs.Wakings
import LogPipeline.Queue
import LogPipeline.Record
import LogPipeline.RecordPool
import LogPipeline.Rig.Buffers
import LogPipeline.Rig.Desks
import LogPipeline.Rig.Fan
import LogPipeline.Rig.Feed
import LogPipeline.Rig.Mailbox
import LogPipeline.Rig.Script
import LogPipeline.Rig.Spout
import LogPipeline.Rule
import LogPipeline.Rule.Settings
import LogPipeline.Schedule
import LogPipeline.SendBuffer
import LogPipeline.Sequencer
import LogPipeline.Sequencer.Waiting
import LogPipeline.Settings
import LogPipeline.Settings.Reading
import LogPipeline.Sink
import LogPipeline.Text.Numeral
import LogPipeline.Text.Shown
import LogPipeline.Total
import LogPipeline.Unicode.Case
import LogPipeline.Unicode.Category
import LogPipeline.Unicode.Property
import LogPipeline.Unicode.Ranges
import LogPipeline.Unicode.Script
import LogPipeline.Worker
