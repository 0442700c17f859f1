import VoxelCache.FileTree
import VoxelCache.Main
import VoxelCache.Workbench.Run
import VoxelCache.Proofs.Deeds
import VoxelCache.Proofs.Letters
import VoxelCache.Proofs.Bookkeeping
import VoxelCache.Proofs.Runs
import VoxelCache.Proofs.Alike
import VoxelCache.Proofs.Moves
import VoxelCache.Proofs.Operations
import VoxelCache.Proofs.SlotPartition
import VoxelCache.Proofs.LookUpEntries
import VoxelCache.Proofs.Rounding
import VoxelCache.Proofs.Provenance
import VoxelCache.Proofs.RasterBytes
import VoxelCache.Proofs.SlotTextures
import VoxelCache.Proofs.Delivery
import VoxelCache.Proofs.Activating
import VoxelCache.Proofs.Staleness
import VoxelCache.Proofs.Stock
import VoxelCache.Proofs.HandingOut
import VoxelCache.Proofs.Updating
import VoxelCache.Proofs.Accounts
import VoxelCache.Proofs.Sessions
import VoxelCache.Proofs.Handshake
import VoxelCache.Proofs.Attention
import VoxelCache.Proofs.Completion
import VoxelCache.Proofs.Planning
import VoxelCache.Proofs.Sizing
import VoxelCache.Proofs.RequestOrder
import VoxelCache.Proofs.Marking
import VoxelCache.Proofs.Lineage
import VoxelCache.Proofs.Depots
import VoxelCache.Proofs.Interests
import VoxelCache.Proofs.Displaying
import VoxelCache.Proofs.Redelivery
import VoxelCache.Proofs.Cells
import VoxelCache.Proofs.SessionMoves
import VoxelCache.Proofs.UpdateFailures
import VoxelCache.Proofs.Activations
import VoxelCache.Proofs.NewTextures
import VoxelCache.Proofs.UploadedEntries
import VoxelCache.Proofs.QueueOrder
import VoxelCache.Proofs.Misfits
import VoxelCache.Proofs.Thinning
import VoxelCache.Proofs.Footprint
import VoxelCache.Proofs.Agreement
import VoxelCache.Proofs.Listening
import VoxelCache.Proofs.Collecting
import VoxelCache.Proofs.Borders
import VoxelCache.Proofs.Selections
import VoxelCache.Proofs.RasterUpdates
import VoxelCache.Proofs.SlotTiling
import VoxelCache.Proofs.Coarsening
import VoxelCache.Proofs.Lifecycle
import VoxelCache.Proofs.WindowNumbers
