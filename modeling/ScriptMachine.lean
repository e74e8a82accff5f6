import ScriptMachine.Main
import ScriptMachine.Message
import ScriptMachine.Proofs.BoundedRuns
import ScriptMachine.Proofs.CommandOutcomes
import ScriptMachine.Proofs.Composition
import ScriptMachine.Proofs.CutOff
import ScriptMachine.Proofs.FailureReport
import ScriptMachine.Proofs.HexRefusals
import ScriptMachine.Proofs.HexRoundTrip
import ScriptMachine.Proofs.Isolation
import ScriptMachine.Proofs.KeptProperties
import ScriptMachine.Proofs.LogFiltering
import ScriptMachine.Proofs.MinimalEncoding
import ScriptMachine.Proofs.OutputModes
import ScriptMachine.Proofs.PointwiseExpansion
import ScriptMachine.Proofs.Resumption
import ScriptMachine.Proofs.RoundTrip
import ScriptMachine.Proofs.StateReports
import ScriptMachine.Proofs.TallyBalance
import ScriptMachine.Proofs.TemplatePieces
import ScriptMachine.Proofs.Truncation
import ScriptMachine.Proofs.WordArithmetic
import ScriptMachine.Tally
