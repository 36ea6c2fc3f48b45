import CompletionRing.Setup.Written
import CompletionRing.Simulation.Basic
import CompletionRing.Simulation.Gallery
import CompletionRing.Proofs.Traces
import CompletionRing.Proofs.Memory.Access
import CompletionRing.Proofs.Record.Fields
import CompletionRing.Proofs.Record.Stores
import CompletionRing.Proofs.Ring.Operations
import CompletionRing.Proofs.Ring.Window
import CompletionRing.Proofs.Observer.FanOut
import CompletionRing.Proofs.Ring.Steps
import CompletionRing.Proofs.Ring.Creation
import CompletionRing.Proofs.Ring.Reachable
import CompletionRing.Proofs.Ring.Slots
import CompletionRing.Proofs.Ring.Latching
import CompletionRing.Proofs.Ring.Fences
import CompletionRing.Proofs.Ring.LateRetirement
import CompletionRing.Proofs.Ring.Occupancy
import CompletionRing.Proofs.Ring.Accounting
import CompletionRing.Proofs.Ring.Independence
import CompletionRing.Proofs.Ring.Announcements
import CompletionRing.Proofs.Archive.Basic
import CompletionRing.Proofs.Archive.Simulation
import CompletionRing.Proofs.Archive.Refinement
import CompletionRing.Proofs.Device.Ledger
import CompletionRing.Proofs.Device.Jobs
import CompletionRing.Proofs.Device.Plant
import CompletionRing.Proofs.Device.Files
import CompletionRing.Proofs.Device.Orderly
import CompletionRing.Proofs.Device.Reduction
import CompletionRing.Proofs.Ring.Calls
import CompletionRing.Proofs.Ring.Places
import CompletionRing.Proofs.Session.Submission
import CompletionRing.Proofs.Ring.Newcomers
import CompletionRing.Proofs.Session.Budgets
import CompletionRing.Proofs.Ring.Reordering
import CompletionRing.Proofs.Record.Changes
import CompletionRing.Proofs.Ring.Isolation
import CompletionRing.Proofs.Memory.Pools
import CompletionRing.Proofs.Ring.Allocation
import CompletionRing.Proofs.Ring.Faults
import CompletionRing.Proofs.Session.Waits
import CompletionRing.Proofs.Session.OpenBudgets
import CompletionRing.Proofs.Observer.Lateness
import CompletionRing.Proofs.Ring.Aliasing
import CompletionRing.Proofs.Archive.SingleFiles
import CompletionRing.Proofs.Device.Traffic
import CompletionRing.Proofs.Device.Retries
import CompletionRing.Proofs.Memory.Histories
import CompletionRing.Proofs.Memory.Ledger
import CompletionRing.Proofs.Record.Footprints
import CompletionRing.Proofs.Ring.Footprints
import CompletionRing.Proofs.Ring.Names
import CompletionRing.Proofs.Session.Addresses
import CompletionRing.Proofs.Observer.Rolls
import CompletionRing.Proofs.Observer.Promotions
import CompletionRing.Proofs.Ring.Channels
import CompletionRing.Proofs.Ring.Counters
import CompletionRing.Proofs.Setup.Flaws
import CompletionRing.Proofs.Ring.Engines
import CompletionRing.Proofs.Setup.Spellings
import CompletionRing.Proofs.Device.Commands
import CompletionRing.Proofs.Device.Conservation
import CompletionRing.Proofs.Device.Dockets
import CompletionRing.Proofs.Observer.Identifiers
import CompletionRing.Proofs.Device.Checksums
