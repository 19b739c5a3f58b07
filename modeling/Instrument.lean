import Instrument.Main
import Instrument.Expand
import Instrument.Proofs.Agreement
import Instrument.Proofs.Runs
import Instrument.Proofs.Visitor
import Instrument.Proofs.Rescan
import Instrument.Proofs.Expansion
import Instrument.Proofs.Heading
import Instrument.Proofs.Printing
import Instrument.Proofs.Unmentioned
import Instrument.Proofs.Staging.Success
import Instrument.Proofs.Staging.Links
import Instrument.Proofs.Attachments
import Instrument.Proofs.Changed
import Instrument.Proofs.Staging.Foretelling
import Instrument.Proofs.Commands.Confinement
import Instrument.Proofs.SecondPass
import Instrument.Proofs.Independence
import Instrument.Proofs.Sharing
import Instrument.Proofs.Occupants
import Instrument.Proofs.Members
import Instrument.Proofs.Settings.Nearest
import Instrument.Proofs.Settings.Values
import Instrument.Proofs.Containers
import Instrument.Proofs.Acceptance
import Instrument.Proofs.Order.Reports
import Instrument.Proofs.Depth.Items
import Instrument.Proofs.Depth.Scanning
