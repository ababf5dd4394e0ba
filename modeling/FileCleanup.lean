import FileCleanup.Main
import FileCleanup.Proofs.Store.World
import FileCleanup.Record.Json
import FileCleanup.Simulation.DatabaseWorld
import FileCleanup.Simulation.Interleaving
import FileCleanup.Simulation.Scenario
import FileCleanup.Simulation.Crew
import FileCleanup.Proofs.Crew.Deeds
import FileCleanup.Time.Clock
import FileCleanup.Proofs.Batch.Run
import FileCleanup.Proofs.Store.ClaimOrder
import FileCleanup.Proofs.Batch.WorkedOff
import FileCleanup.Proofs.Batch.ClosedForm
import FileCleanup.Proofs.Interleaving.Flight
import FileCleanup.Proofs.Interleaving.Run
import FileCleanup.Proofs.Interleaving.Unexpired
import FileCleanup.Proofs.Interleaving.SoftDeletion
import FileCleanup.Proofs.Batch.Clearing
import FileCleanup.Proofs.Interleaving.Recovery
import FileCleanup.Proofs.Interleaving.WholeBatch
import FileCleanup.Proofs.Interleaving.Loops
import FileCleanup.Proofs.Interleaving.Timeline
import FileCleanup.Proofs.Batch.Protocol
import FileCleanup.Proofs.Database.Operations
import FileCleanup.Proofs.Interleaving.Exchanges
import FileCleanup.Proofs.Interleaving.Lifecycle
import FileCleanup.Proofs.Interleaving.Leases
import FileCleanup.Proofs.Database.Batches
import FileCleanup.Proofs.FileTree.Path
import FileCleanup.Proofs.FileTree.Removal
import FileCleanup.Proofs.Storage.Confinement
import FileCleanup.Proofs.Storage.Absence
import FileCleanup.Proofs.Storage.Buckets
import FileCleanup.Proofs.Crew.Turn
import FileCleanup.Proofs.Crew.Standing
import FileCleanup.Proofs.Crew.OneShot
import FileCleanup.Proofs.Crew.History
import FileCleanup.Proofs.Crew.Schedule
import FileCleanup.Proofs.Crew.Batches
import FileCleanup.Proofs.Crew.Exit
import FileCleanup.Proofs.Crew.Cancellation
import FileCleanup.Proofs.Crew.Stopping
import FileCleanup.Proofs.Crew.Playback
import FileCleanup.Proofs.Crew.Scenario
import FileCleanup.Proofs.Crew.Tokens
import FileCleanup.Proofs.FileTree.Gone
import FileCleanup.Proofs.Storage.Answers
import FileCleanup.Proofs.Storage.Isolation
import FileCleanup.Proofs.Batch.Timed
import FileCleanup.Proofs.Batch.Independence
import FileCleanup.Proofs.Batch.Backlog
import FileCleanup.Proofs.Store.Claims
import FileCleanup.Proofs.Store.Releases
import FileCleanup.Proofs.Store.Finalizing
import FileCleanup.Proofs.Settings.Accepted
import FileCleanup.Proofs.Settings.Region
import FileCleanup.Proofs.Batch.StandIn
import FileCleanup.Proofs.Database.StandIn
import FileCleanup.Proofs.Database.ClaimedRows
import FileCleanup.Proofs.Storage.Escaping
import FileCleanup.Proofs.Settings.Padding
import FileCleanup.Proofs.Record.Json
import FileCleanup.Proofs.Database.Committed
