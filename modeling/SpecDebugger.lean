import SpecDebugger.Command.Completion
import SpecDebugger.Json.Printer
import SpecDebugger.Main
import SpecDebugger.Debugger.Condition
import SpecDebugger.Debugger.InMemory
import SpecDebugger.Launch.OnFiles
import SpecDebugger.Proofs.Directory
import SpecDebugger.Proofs.Launching
import SpecDebugger.Proofs.Index.Order
import SpecDebugger.Proofs.Evaluation
import SpecDebugger.Proofs.ScopeReading
import SpecDebugger.Proofs.Decoding
import SpecDebugger.Proofs.Choice
import SpecDebugger.Proofs.Effects
import SpecDebugger.Proofs.LineLookup
import SpecDebugger.Proofs.Resolution
import SpecDebugger.Proofs.InMemory.Table
import SpecDebugger.Proofs.SessionMoves
import SpecDebugger.Proofs.InMemory.History
import SpecDebugger.Proofs.InMemory.Breakpoints
import SpecDebugger.Proofs.MachineInterface.Grammar
import SpecDebugger.Proofs.MachineInterface.Recognition
import SpecDebugger.Proofs.MachineInterface.Calls
import SpecDebugger.Proofs.MachineInterface.Framing
import SpecDebugger.Proofs.MachineInterface.Noise
import SpecDebugger.Proofs.MachineInterface.Stops
import SpecDebugger.Proofs.GroupRuns
import SpecDebugger.Proofs.Landing
import SpecDebugger.Proofs.SteppingOut
import SpecDebugger.Proofs.LocationText
import SpecDebugger.Proofs.CommandText
import SpecDebugger.Proofs.Outcomes
import SpecDebugger.Proofs.ChannelFailures
import SpecDebugger.Proofs.Rounds
import SpecDebugger.Proofs.Loop
import SpecDebugger.Proofs.InMemory.Failures
import SpecDebugger.Proofs.InMemory.Markers
import SpecDebugger.Proofs.CompletedLines
import SpecDebugger.Proofs.Json.Numerals
import SpecDebugger.Proofs.Json.Printing
import SpecDebugger.Proofs.Index.Fields
import SpecDebugger.Proofs.Index.Record
import SpecDebugger.Proofs.LoadedLocations
import SpecDebugger.Proofs.LaterFrames
import SpecDebugger.Proofs.InMemory.NextStops
import SpecDebugger.Proofs.InMemory.SteppingInside
import SpecDebugger.Proofs.Index.Acceptance
import SpecDebugger.Proofs.Matching
import SpecDebugger.Proofs.Menu
import SpecDebugger.Proofs.MachineInterface.Quoting
import SpecDebugger.Proofs.InMemory.Reports
import SpecDebugger.Proofs.InMemory.Conditions
import SpecDebugger.Proofs.ListedCommands
import SpecDebugger.Proofs.OfferedNames
import SpecDebugger.Proofs.ReportedValues
import SpecDebugger.Proofs.MachineInterface.Inspection
import SpecDebugger.Proofs.Launching
