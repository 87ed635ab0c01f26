import HostSnapshot.Main
import HostSnapshot.Proofs.Boot.Markers
import HostSnapshot.Proofs.Boot.Readers
import HostSnapshot.Proofs.Discovery.Agreement
import HostSnapshot.Proofs.Discovery.Commands
import HostSnapshot.Proofs.Discovery.Failures
import HostSnapshot.Proofs.Discovery.Independence
import HostSnapshot.Proofs.Discovery.Order
import HostSnapshot.Proofs.Discovery.Refinement
import HostSnapshot.Proofs.Discovery.Regrouping
import HostSnapshot.Proofs.Discovery.Sizes
import HostSnapshot.Proofs.Discovery.Unlisted
import HostSnapshot.Proofs.Discovery.Volumes
import HostSnapshot.Proofs.Facts.Processors
import HostSnapshot.Proofs.Facts.Sections
import HostSnapshot.Proofs.Identity.Foreign
import HostSnapshot.Proofs.Identity.HostName
import HostSnapshot.Proofs.Identity.Learnt
import HostSnapshot.Proofs.Json.Edit
import HostSnapshot.Proofs.Json.Field
import HostSnapshot.Proofs.Json.Leaf
import HostSnapshot.Proofs.Json.Printed
import HostSnapshot.Proofs.Json.Records
import HostSnapshot.Proofs.Mounts.First
import HostSnapshot.Proofs.Mounts.ReadOnly
import HostSnapshot.Proofs.Mounts.Union
import HostSnapshot.Proofs.Mounts.Written
import HostSnapshot.Proofs.Query.Paths
import HostSnapshot.Proofs.Query.Scanning
import HostSnapshot.Proofs.Query.Spelling
import HostSnapshot.Proofs.Release.Written
import HostSnapshot.Proofs.Snapshot.Acceptance
import HostSnapshot.Proofs.Snapshot.Answer
import HostSnapshot.Proofs.Snapshot.Outline
import HostSnapshot.Proofs.Snapshot.Rendering
import HostSnapshot.Proofs.Snapshot.ScalarLine
import HostSnapshot.Proofs.Text.FirstLine
import HostSnapshot.Proofs.Text.Plain
import HostSnapshot.Session
import HostSnapshot.Snapshot.Validation
import HostSnapshot.Text.Basic
