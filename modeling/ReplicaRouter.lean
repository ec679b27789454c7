import ReplicaRouter.Backend
import ReplicaRouter.Cache
import ReplicaRouter.Cache.Keeper
import ReplicaRouter.Cache.Lemmas
import ReplicaRouter.Cache.Worker
import ReplicaRouter.Chain
import ReplicaRouter.CommandLine.Arguments
import ReplicaRouter.CommandLine.Directory
import ReplicaRouter.CommandLine.Help
import ReplicaRouter.CommandLine.LogFilter
import ReplicaRouter.CommandLine.Run
import ReplicaRouter.Connection
import ReplicaRouter.Duration
import ReplicaRouter.Error
import ReplicaRouter.Host
import ReplicaRouter.Host.Address
import ReplicaRouter.Host.Endpoint
import ReplicaRouter.HostList
import ReplicaRouter.Journal
import ReplicaRouter.Link
import ReplicaRouter.Main
import ReplicaRouter.Operation
import ReplicaRouter.Pool
import ReplicaRouter.Pool.Lending
import ReplicaRouter.Pool.Permits
import ReplicaRouter.Provider
import ReplicaRouter.Router
import ReplicaRouter.Routine
import ReplicaRouter.Routine.Schedule
import ReplicaRouter.Selector
import ReplicaRouter.Service
import ReplicaRouter.Settings
import ReplicaRouter.Settings.Document
import ReplicaRouter.Sim.Cluster
import ReplicaRouter.Sim.Line
import ReplicaRouter.Sim.Meters
import ReplicaRouter.Sim.Plugins
import ReplicaRouter.Sim.Rig
import ReplicaRouter.Sim.Session
import ReplicaRouter.Sim.Shelf
import ReplicaRouter.Splitting
import ReplicaRouter.Splitting.Plugin
import ReplicaRouter.Statement
import ReplicaRouter.Telemetry
import ReplicaRouter.Text.Blank
import ReplicaRouter.Text.Case
import ReplicaRouter.Text.CaseTable
import ReplicaRouter.Text.HiddenTable
import ReplicaRouter.Text.Quoted
import ReplicaRouter.Toml.Document
import ReplicaRouter.Toml.Lexical
import ReplicaRouter.Toml.Number
import ReplicaRouter.Toml.Reader
import ReplicaRouter.Toml.Text
import ReplicaRouter.Toml.Value
import ReplicaRouter.Toml.Writer
import ReplicaRouter.Transaction
import ReplicaRouter.World
import ReplicaRouter.Proofs.Ending
import ReplicaRouter.Proofs.Upkeep
import ReplicaRouter.Proofs.Provision
import ReplicaRouter.Proofs.Standing
import ReplicaRouter.Proofs.Switching
import ReplicaRouter.Proofs.Handling
import ReplicaRouter.Proofs.Session
import ReplicaRouter.Proofs.Pinning
import ReplicaRouter.Proofs.Routing
import ReplicaRouter.Proofs.Reach
import ReplicaRouter.Proofs.Failover
import ReplicaRouter.Proofs.Tracking
import ReplicaRouter.Proofs.Straddling
import ReplicaRouter.Proofs.Keeping
import ReplicaRouter.Proofs.Attempts
import ReplicaRouter.Proofs.Remembering
import ReplicaRouter.Proofs.Refusal
import ReplicaRouter.Proofs.Mode
import ReplicaRouter.Proofs.Lasting
import ReplicaRouter.Proofs.Coverage
import ReplicaRouter.Proofs.Relinking
import ReplicaRouter.Proofs.Leaks
import ReplicaRouter.Proofs.Interleaving
import ReplicaRouter.Proofs.Metering
import ReplicaRouter.Proofs.Stakes
import ReplicaRouter.Proofs.Ledger
import ReplicaRouter.Proofs.Borrowing
import ReplicaRouter.Proofs.Pooling
import ReplicaRouter.Proofs.Foreground
import ReplicaRouter.Proofs.Caching
import ReplicaRouter.Proofs.Chronicle
import ReplicaRouter.Proofs.Conservation
import ReplicaRouter.Proofs.Recency
import ReplicaRouter.Proofs.Custody
import ReplicaRouter.Proofs.Dealings
import ReplicaRouter.Proofs.Provenance
import ReplicaRouter.Proofs.Tending
import ReplicaRouter.Proofs.Holding
import ReplicaRouter.Proofs.Retaining
import ReplicaRouter.Proofs.Tenure
import ReplicaRouter.Proofs.Shutdown
import ReplicaRouter.Proofs.Circulation
import ReplicaRouter.Proofs.Handover
import ReplicaRouter.Proofs.Calmness
import ReplicaRouter.Proofs.Turnover
import ReplicaRouter.Proofs.Traffic
import ReplicaRouter.Proofs.Finality
import ReplicaRouter.Proofs.Contribution
import ReplicaRouter.Proofs.Vetting
import ReplicaRouter.Proofs.Sweeping
import ReplicaRouter.Proofs.Sparing
import ReplicaRouter.Proofs.Opening
import ReplicaRouter.Proofs.Residue
import ReplicaRouter.Proofs.Patience
import ReplicaRouter.Proofs.Conduct
import ReplicaRouter.Proofs.Answering
import ReplicaRouter.Proofs.Turning
import ReplicaRouter.Proofs.Touring
import ReplicaRouter.Proofs.Searching
import ReplicaRouter.Proofs.Cornering
import ReplicaRouter.Proofs.Rotating
import ReplicaRouter.Proofs.Pairing
import ReplicaRouter.Proofs.Clearing
import ReplicaRouter.Proofs.Furnishing
import ReplicaRouter.Proofs.Sheltering
import ReplicaRouter.Proofs.Abiding
import ReplicaRouter.Proofs.Settling
import ReplicaRouter.Proofs.Kinds
import ReplicaRouter.Proofs.Reckoning
import ReplicaRouter.Proofs.Identifying
import ReplicaRouter.Proofs.Register
import ReplicaRouter.Proofs.Building
import ReplicaRouter.Proofs.Pacing
import ReplicaRouter.Proofs.Calendar
import ReplicaRouter.Proofs.Spacing
import ReplicaRouter.Proofs.Spelling
import ReplicaRouter.Proofs.Commenting
import ReplicaRouter.Proofs.Classes
import ReplicaRouter.Proofs.Tearing
import ReplicaRouter.Proofs.Assigning
import ReplicaRouter.Proofs.Roster
import ReplicaRouter.Proofs.Oversight
import ReplicaRouter.Proofs.Coding
import ReplicaRouter.Proofs.Passing
import ReplicaRouter.Proofs.Quoting
import ReplicaRouter.Proofs.Printing
import ReplicaRouter.Proofs.Saving
