import Ebms.Envelope.Document
import Ebms.Failure
import Ebms.Mode.Document
import Ebms.Proofs.Certificate.Canonical
import Ebms.Proofs.Envelope.Asides
import Ebms.Proofs.Envelope.Surplus
import Ebms.Proofs.Exchange.Acceptance
import Ebms.Proofs.Exchange.Duration
import Ebms.Proofs.Exchange.RetryReports
import Ebms.Proofs.Exchange.ServerErrors
import Ebms.Proofs.Exchange.Stages
import Ebms.Proofs.Exchange.Trace
import Ebms.Proofs.Exchange.Transmissions
import Ebms.Proofs.Framing
import Ebms.Proofs.Keyring.Reopening
import Ebms.Proofs.Markup.Trees
import Ebms.Proofs.Multipart.MediaTypes
import Ebms.Proofs.Multipart.Related
import Ebms.Proofs.Multipart.Slicing
import Ebms.Proofs.Resources.Handles
import Ebms.Proofs.Sealing.Exactness
import Ebms.Proofs.Security.Coverage
import Ebms.Proofs.Security.Stamping
import Ebms.Proofs.Security.Tampering
import Ebms.Proofs.Security.Truststores
import Ebms.Proofs.Sending.Channels
import Ebms.Proofs.Settings.Backoffs
import Ebms.Rehearsal.Script
import Ebms.Sealing.Standard
import Ebms.Sending.Sender
import Ebms.Settings.Environment
import Ebms.Settings.Use
import Ebms.Suite.Standard
import Ebms.Text.LowerCase
import Ebms.Wire
