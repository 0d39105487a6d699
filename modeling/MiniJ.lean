import MiniJ.Main
import MiniJ.Proofs.Recognition.Acceptance
import MiniJ.Proofs.Recognition.Agenda
import MiniJ.Proofs.Recognition.Descent
import MiniJ.Proofs.Recognition.StepBound
import MiniJ.Proofs.Recognition.Streaming
import MiniJ.Proofs.Language.Completeness
import MiniJ.Proofs.Language.Exactness
import MiniJ.Proofs.Scanning.Offset
import MiniJ.Proofs.Scanning.Tiling
import MiniJ.Proofs.Recognition.Progress
import MiniJ.Proofs.Recognition.Layout
import MiniJ.Proofs.Scanning.Again
import MiniJ.Proofs.Scanning.Relexing
import MiniJ.Proofs.Scanning.Widening
import MiniJ.Proofs.Scanning.Ending
import MiniJ.Proofs.Scanning.Blanking
import MiniJ.Proofs.Language.Inclusion
import MiniJ.Proofs.Language.Packaging
import MiniJ.Proofs.Language.Updates
import MiniJ.Proofs.Scanning.Munch
import MiniJ.Proofs.Runs.Batch
import MiniJ.Proofs.Language.Types
import MiniJ.Proofs.Language.Clauses
import MiniJ.Proofs.Language.LoopHeads
import MiniJ.Proofs.Recognition.ErrorPlaces
import MiniJ.Proofs.Recognition.TraceOrder
import MiniJ.Proofs.Recognition.OpenConstructs
import MiniJ.Proofs.Language.MemberHeads
import MiniJ.Proofs.Runs.LimitedOutput
import MiniJ.Proofs.Reports.Rendering
import MiniJ.Proofs.Runs.Options
import MiniJ.Proofs.Runs.Decoding
import MiniJ.Proofs.Recognition.CursorRequests
import MiniJ.Proofs.Scanning.CursorMoves
