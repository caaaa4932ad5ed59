import SingleRoot.Host.Change
import SingleRoot.Session.Host
import SingleRoot.Session.Inventory
import SingleRoot.Proofs.Host.Path
import SingleRoot.Proofs.Text.Counts
import SingleRoot.Proofs.Text.Decoding
import SingleRoot.Proofs.Host.Arrival
import SingleRoot.Proofs.Host.Writing
import SingleRoot.Proofs.Host.Keeping
import SingleRoot.Proofs.Device.Course
import SingleRoot.Proofs.Device.Driver
import SingleRoot.Proofs.Device.Report
import SingleRoot.Proofs.Device.Binding
import SingleRoot.Proofs.Session.Lifecycle
import SingleRoot.Proofs.Device.Provisioning
import SingleRoot.Proofs.Session.Counts
import SingleRoot.Proofs.Host.Names
import SingleRoot.Proofs.Host.Overwriting
import SingleRoot.Proofs.Device.Standing
import SingleRoot.Proofs.Device.Enumeration
import SingleRoot.Proofs.Representation
import SingleRoot.Proofs.Session.Steps
import SingleRoot.Proofs.Session.Simulation
import SingleRoot.Proofs.Device.Survey
import SingleRoot.Proofs.Device.Books
import SingleRoot.Proofs.Host.ReadBack
import SingleRoot.Proofs.Device.Clearing
import SingleRoot.Proofs.Device.Confinement
import SingleRoot.Proofs.Session.Accounts
import SingleRoot.Proofs.Session.Confinement
import SingleRoot.Proofs.Session.Locality
import SingleRoot.Proofs.Session.Causes
import SingleRoot.Proofs.Host.Relocation
import SingleRoot.Proofs.Device.Mirror
import SingleRoot.Proofs.Device.Parallel
import SingleRoot.Proofs.Host.Enclosure
import SingleRoot.Proofs.Descriptor.Records
import SingleRoot.Proofs.Descriptor.Spelling
import SingleRoot.Proofs.Device.Interruptions
import SingleRoot.Proofs.Session.Relocation
import SingleRoot.Proofs.Host.Parents
import SingleRoot.Proofs.Device.Opening
import SingleRoot.Proofs.Device.Absence
import SingleRoot.Proofs.Session.Absence
import SingleRoot.Proofs.Host.Destinations
import SingleRoot.Proofs.Host.Imprint
import SingleRoot.Proofs.Device.Footprint
import SingleRoot.Proofs.Host.Withdrawal
import SingleRoot.Proofs.Device.Readiness
import SingleRoot.Proofs.Rebinding
import SingleRoot.Proofs.Text.Trimming
import SingleRoot.Proofs.Device.CountFiles
import SingleRoot.Proofs.Device.Counting
import SingleRoot.Proofs.Device.Settlement
import SingleRoot.Proofs.Host.Endings
import SingleRoot.Proofs.Device.Links
import SingleRoot.Proofs.Descriptor.Validation
import SingleRoot.Proofs.Session.Admission
import SingleRoot.Proofs.Device.Interface
