import Handoff.Handle.Scenario
import Handoff.OneShot.Scenario
import Handoff.OneShot.Transfer
import Handoff.Ring.Scenario
import Handoff.Ring.Transfer
import Handoff.Strategy.Rehearsal
import Handoff.Wake.Relay
import Handoff.Wake.Scenario
import Handoff.Proofs.Ring.Ledger
import Handoff.Proofs.Ring.Placement
import Handoff.Proofs.Ring.Balance
import Handoff.Proofs.Ring.Position
import Handoff.Proofs.Ring.Representation
import Handoff.Proofs.Ring.Simulation
import Handoff.Proofs.Ring.Refinement
import Handoff.Proofs.Ring.Alone
import Handoff.Proofs.Ring.Conservation
import Handoff.Proofs.Ring.Coherence
import Handoff.Proofs.Ring.SenderSteps
import Handoff.Proofs.Ring.ReceiverSteps
import Handoff.Proofs.Ring.Threads
import Handoff.Proofs.Wake.Lock
import Handoff.Proofs.Wake.Reach
import Handoff.Proofs.Runs
import Handoff.Proofs.Wake.Attended
import Handoff.Proofs.Wake.Threads
import Handoff.Proofs.Ring.Lossless
import Handoff.Proofs.Ring.Occupancy
import Handoff.Proofs.Ring.Caches
import Handoff.Proofs.Ring.Patience
import Handoff.Proofs.Ring.Readiness
import Handoff.Proofs.OneShot.Coherence
import Handoff.Proofs.Readiness
import Handoff.Proofs.Ring.Notifications
import Handoff.Proofs.Notifications
import Handoff.Proofs.Ring.Failures
import Handoff.Proofs.Failures
import Handoff.Proofs.Handle.Counting
import Handoff.Proofs.Handle.Naming
import Handoff.Proofs.Handle.Ownership
import Handoff.Proofs.Handle.Threads
import Handoff.Proofs.Handle.Balance
import Handoff.Proofs.Handle.Mutation
import Handoff.Proofs.OneShot.History
import Handoff.Proofs.OneShot.Delivery
import Handoff.Proofs.Outlook
import Handoff.Proofs.Ring.Kept
import Handoff.Proofs.Ring.Wraparound
import Handoff.Proofs.Ring.Retry
import Handoff.Proofs.Ring.Skipped
import Handoff.Proofs.OneShot.Retry
import Handoff.Proofs.Retry
import Handoff.Proofs.Wake.Passes
import Handoff.Proofs.Wake.Heeding
import Handoff.Proofs.Wake.Settling
import Handoff.Proofs.OneShot.Chronicle
import Handoff.Proofs.OneShot.Custody
import Handoff.Proofs.Ring.Draining
import Handoff.Proofs.Ring.Addressing
import Handoff.Proofs.Wake.Sharing
import Handoff.Proofs.Wake.Custody
