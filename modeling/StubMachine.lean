import StubMachine.Bytecode.Listing
import StubMachine.Bytecode.Opcode
import StubMachine.Bytecode.Record
import StubMachine.Bytecode.Stub
import StubMachine.Config
import StubMachine.Console.Arguments
import StubMachine.Console.Disk
import StubMachine.Console.Report
import StubMachine.Fault
import StubMachine.Json.Exchange
import StubMachine.Json.Numeral
import StubMachine.Json.Reader
import StubMachine.Json.Tree
import StubMachine.Machine.Access
import StubMachine.Machine.Action
import StubMachine.Machine.Asking
import StubMachine.Machine.Calling
import StubMachine.Machine.Conversion
import StubMachine.Machine.Description
import StubMachine.Machine.Engine
import StubMachine.Machine.Frames
import StubMachine.Machine.Listen
import StubMachine.Machine.Loop
import StubMachine.Machine.Module
import StubMachine.Machine.Operation
import StubMachine.Machine.Perform
import StubMachine.Machine.Referrable
import StubMachine.Machine.State
import StubMachine.Machine.Step
import StubMachine.Main
import StubMachine.Native.Argument
import StubMachine.Native.Catalog
import StubMachine.Native.Collection
import StubMachine.Native.Primitive
import StubMachine.Native.Text
import StubMachine.Numeral.Binary64
import StubMachine.Numeral.Literal
import StubMachine.Numeral.Shortest
import StubMachine.Numeral.Style
import StubMachine.Operator
import StubMachine.OrderedMap
import StubMachine.Proofs.Ancestry
import StubMachine.Proofs.Binding
import StubMachine.Proofs.Bitwise
import StubMachine.Proofs.Branding
import StubMachine.Proofs.Bytecode.Boundary
import StubMachine.Proofs.Bytecode.Reading
import StubMachine.Proofs.Bytecode.RoundTrip
import StubMachine.Proofs.Bytecode.Spelling
import StubMachine.Proofs.Bytecode.Walk
import StubMachine.Proofs.Bytecode.Writing
import StubMachine.Proofs.Callbacks
import StubMachine.Proofs.Calling
import StubMachine.Proofs.ClosedObjects
import StubMachine.Proofs.Coherence
import StubMachine.Proofs.Comparison
import StubMachine.Proofs.ConsoleErrors
import StubMachine.Proofs.Consulting
import StubMachine.Proofs.Containment
import StubMachine.Proofs.Conversion
import StubMachine.Proofs.Course
import StubMachine.Proofs.Custody
import StubMachine.Proofs.Custody.Native
import StubMachine.Proofs.Custody.Requests
import StubMachine.Proofs.Demand
import StubMachine.Proofs.DepthLimit
import StubMachine.Proofs.Development
import StubMachine.Proofs.Development.Native
import StubMachine.Proofs.Development.Registry
import StubMachine.Proofs.Development.Requests
import StubMachine.Proofs.Discretion
import StubMachine.Proofs.Embedder
import StubMachine.Proofs.Entries
import StubMachine.Proofs.Entry
import StubMachine.Proofs.Enumeration
import StubMachine.Proofs.Evolution
import StubMachine.Proofs.Evolution.Backing
import StubMachine.Proofs.Evolution.Elementary
import StubMachine.Proofs.Evolution.Instruction
import StubMachine.Proofs.Evolution.Native
import StubMachine.Proofs.Evolution.Primitive
import StubMachine.Proofs.Evolution.Requests
import StubMachine.Proofs.Facets
import StubMachine.Proofs.FailedWrites
import StubMachine.Proofs.Finality
import StubMachine.Proofs.FrameDiscipline
import StubMachine.Proofs.Growth
import StubMachine.Proofs.Imports
import StubMachine.Proofs.InTurn
import StubMachine.Proofs.IndexLimit
import StubMachine.Proofs.Insertion
import StubMachine.Proofs.Interfaces
import StubMachine.Proofs.Json.Codec
import StubMachine.Proofs.Json.Graph
import StubMachine.Proofs.Json.Members
import StubMachine.Proofs.Layouts
import StubMachine.Proofs.Likeness
import StubMachine.Proofs.Likeness.Instruction
import StubMachine.Proofs.Likeness.Member
import StubMachine.Proofs.Likeness.Native
import StubMachine.Proofs.Likeness.Requests
import StubMachine.Proofs.Listening
import StubMachine.Proofs.Loop.Count
import StubMachine.Proofs.Loop.Entries
import StubMachine.Proofs.Loop.Frame
import StubMachine.Proofs.Loop.Pass
import StubMachine.Proofs.Numeral.Fields
import StubMachine.Proofs.Numeral.Integer
import StubMachine.Proofs.Numeral.Whole
import StubMachine.Proofs.Numeral.Word
import StubMachine.Proofs.OrderedMap
import StubMachine.Proofs.OrderedMap.History
import StubMachine.Proofs.Passage
import StubMachine.Proofs.Pool
import StubMachine.Proofs.PrivateBinding
import StubMachine.Proofs.Raising
import StubMachine.Proofs.Routine
import StubMachine.Proofs.Routine.Instruction
import StubMachine.Proofs.Routine.Lockstep
import StubMachine.Proofs.Routine.Member
import StubMachine.Proofs.Routine.Native
import StubMachine.Proofs.Session
import StubMachine.Proofs.Settling
import StubMachine.Proofs.Sharing
import StubMachine.Proofs.Sorting
import StubMachine.Proofs.Termination
import StubMachine.Proofs.Text.Cutting
import StubMachine.Proofs.Text.Occurrence
import StubMachine.Proofs.Text.Order
import StubMachine.Proofs.Text.Searching
import StubMachine.Proofs.Text.Templates
import StubMachine.Proofs.TypedCalls
import StubMachine.Query
import StubMachine.Store.Object
import StubMachine.Store.Scope
import StubMachine.Store.TypeTable
import StubMachine.Store.Value
import StubMachine.Text.Blank
import StubMachine.Text.CaseTable
import StubMachine.Text.Casing
import StubMachine.Text.Occurrence
import StubMachine.Text.Printable
import StubMachine.Text.Quoted
import StubMachine.Text.Ranges
import StubMachine.Toml.Reader
import StubMachine.Toml.Scalar
import StubMachine.Toml.Settings
import StubMachine.Toml.Text
import StubMachine.Toml.Tree
