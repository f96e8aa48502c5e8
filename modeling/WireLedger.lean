import WireLedger.Block.Register
import WireLedger.Diagnostic.Report
import WireLedger.Generator.Fleet
import WireLedger.Generator.Pool
import WireLedger.Log.Output
import WireLedger.Log.Sample
import WireLedger.Proofs.Store.Chronicle
import WireLedger.Proofs.Symbol.Shape
import WireLedger.Settings.Load
import WireLedger.Store.Session
import WireLedger.Symbol.Bench
import WireLedger.Proofs.Store.Refinement
import WireLedger.Proofs.Store.Simulation
import WireLedger.Proofs.Store.Consistency
import WireLedger.Proofs.Store.SingleAssignment
import WireLedger.Proofs.Store.Handle
import WireLedger.Proofs.Store.Clones
import WireLedger.Proofs.Block.Geometric
import WireLedger.Proofs.Block.Orbit
import WireLedger.Proofs.Generator.Overlap
import WireLedger.Proofs.Block.Period
import WireLedger.Proofs.Generator.Period
import WireLedger.Proofs.Block.Register
import WireLedger.Proofs.Generator.Calls
import WireLedger.Proofs.Generator.Handles
import WireLedger.Proofs.Generator.Ledger
import WireLedger.Proofs.Store.Refusal
import WireLedger.Proofs.Store.Verdict
import WireLedger.Proofs.Store.Independence
import WireLedger.Proofs.Store.Journal
import WireLedger.Proofs.Store.Rewiring
import WireLedger.Proofs.Store.Wires
import WireLedger.Proofs.Generator.Draws
import WireLedger.Proofs.Generator.Fleet
import WireLedger.Proofs.Symbol.Outcome
import WireLedger.Proofs.Symbol.Past
import WireLedger.Proofs.Store.Past
import WireLedger.Proofs.Store.Workshop
import WireLedger.Proofs.Store.Derivations
import WireLedger.Proofs.Block.Text
import WireLedger.Proofs.Settings.Environment
import WireLedger.Proofs.Settings.Directive
import WireLedger.Proofs.Symbol.Message
