import Circuitry.Text.Printable
import Circuitry.Text.Case
import Circuitry.Text.Quote
import Circuitry.Text.Space
import Circuitry.Text.Utf8
import Circuitry.Syntax.Keyword
import Circuitry.Syntax.Token
import Circuitry.Syntax.Fault
import Circuitry.Syntax.Token.Scan
import Circuitry.Syntax.Program
import Circuitry.Syntax.Chain
import Circuitry.Syntax.Program.Parse
import Circuitry.Syntax.Node
import Circuitry.Signal.Level
import Circuitry.Journal
import Circuitry.Simulation.Fault
import Circuitry.Simulation.Instance
import Circuitry.Simulation.Evaluate
import Circuitry.Simulation.Engine
import Circuitry.Simulation.Simulate
import Circuitry.Number.Integer
import Circuitry.Number.Binary64
import Circuitry.Number.Real
import Circuitry.Number.Shortest
import Circuitry.Number.Duration
import Circuitry.Settings.Schema
import Circuitry.Settings.Scalar
import Circuitry.Settings.Defaults
import Circuitry.Settings.Environment
import Circuitry.Settings.Json.Syntax
import Circuitry.Settings.Json.Decode
import Circuitry.Settings.Yaml.Scan
import Circuitry.Settings.Yaml.Resolve
import Circuitry.Settings.Yaml.Parse
import Circuitry.Settings.Yaml.Decode
import Circuitry.Settings.Files
import Circuitry.Settings.Load
import Circuitry.Simulation.Settings
import Circuitry.Proofs.Syntax.Read
import Circuitry.Proofs.Syntax.Print
import Circuitry.Proofs.Syntax.WellFormed
import Circuitry.Proofs.Syntax.Grouping
import Circuitry.Proofs.Syntax.ReadWellFormed
import Circuitry.Proofs.Syntax.Spelling
import Circuitry.Proofs.Syntax.Reread
import Circuitry.Proofs.Syntax.RoundTrip
import Circuitry.Proofs.Syntax.Extension
import Circuitry.Proofs.Syntax.Completion
import Circuitry.Proofs.Syntax.Viability
import Circuitry.Proofs.Syntax.Progress
import Circuitry.Proofs.Syntax.Climbing
import Circuitry.Proofs.Syntax.Balance
import Circuitry.Proofs.Token.Lexing
import Circuitry.Proofs.Token.ScanLexes
import Circuitry.Proofs.Simulation.Setup
import Circuitry.Proofs.Simulation.Frame
import Circuitry.Proofs.Simulation.Isolation
import Circuitry.Proofs.Simulation.Instantiation
import Circuitry.Proofs.Simulation.Lockstep
import Circuitry.Proofs.Simulation.Bundles
import Circuitry.Proofs.Simulation.Trace
import Circuitry.Proofs.Simulation.Replay
import Circuitry.Proofs.Simulation.Combinational
import Circuitry.Proofs.Simulation.Nesting
import Circuitry.Proofs.Simulation.Recursion
import Circuitry.Proofs.Simulation.Chains
import Circuitry.Proofs.Simulation.Stimulus
import Circuitry.Proofs.Syntax.Rendering
import Circuitry.Proofs.Simulation.Resolution
import Circuitry.Proofs.Settings.Integers
import Circuitry.Proofs.Settings.Collections
import Circuitry.Proofs.Settings.SnakeCase
