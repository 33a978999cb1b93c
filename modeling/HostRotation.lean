import HostRotation.Main
import HostRotation.Pool.Survey
import HostRotation.Proofs.Acceptances
import HostRotation.Proofs.Agreement
import HostRotation.Proofs.BatchLaws
import HostRotation.Proofs.CheckSlots
import HostRotation.Proofs.ClosingReport
import HostRotation.Proofs.Conservation
import HostRotation.Proofs.Crossings
import HostRotation.Proofs.Draws
import HostRotation.Proofs.Episodes
import HostRotation.Proofs.Finality
import HostRotation.Proofs.HostLife
import HostRotation.Proofs.Orphans
import HostRotation.Proofs.Resolutions
import HostRotation.Proofs.Searches
import HostRotation.Proofs.Shares
import HostRotation.Proofs.Starvation
import HostRotation.Proofs.Stops
import HostRotation.Proofs.Teardown
import HostRotation.Proofs.Uninterrupted
import HostRotation.Proofs.WindowBounds
import HostRotation.Rehearsal.Folder
