import Nullness.Frame.Operation
import Nullness.Frame.Layout
import Nullness.Main
import Nullness.Proofs.ValueNumbering
import Nullness.Proofs.Transfer
import Nullness.Proofs.Description
import Nullness.Proofs.DescribedSteps
import Nullness.Proofs.DescribedEdges
import Nullness.Proofs.Knowledge
import Nullness.Proofs.DefiniteValues
import Nullness.Proofs.NumberedDepths
import Nullness.Proofs.FrameDepths
import Nullness.Proofs.Ascent
import Nullness.Proofs.AvailableLoads
import Nullness.Proofs.Convergence
import Nullness.Proofs.CheckedCalls
import Nullness.Proofs.CalledLocals
import Nullness.Proofs.StoredNull
import Nullness.Proofs.Refinement
import Nullness.Proofs.HandlerLoads
import Nullness.Proofs.Receivers
import Nullness.Proofs.ComparedResults
import Nullness.Proofs.RequiredArguments
import Nullness.Proofs.Isolation
import Nullness.Proofs.ProgramOrder
import Nullness.Proofs.ThrowerGuards
import Nullness.Proofs.MergeNumbers
import Nullness.Proofs.FrameLattice
import Nullness.Proofs.RedundantLoads
import Nullness.Proofs.CursorSearch
import Nullness.Proofs.SettledTables
import Nullness.Proofs.NearestDeclarations
import Nullness.Proofs.Explorations
import Nullness.Proofs.LocationQueries
import Nullness.Proofs.NewNulls
import Nullness.Proofs.DescriptorText
import Nullness.Proofs.FrameLayout
import Nullness.Proofs.UntrackedNumbers
import Nullness.Proofs.ArgumentLoads
