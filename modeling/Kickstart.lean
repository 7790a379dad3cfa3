import Kickstart.Main
import Kickstart.Watch
import Kickstart.Proofs.Document.Mirror
import Kickstart.Proofs.Document.History
import Kickstart.Proofs.Document.OnLine
import Kickstart.Proofs.Document.Cursor
import Kickstart.Proofs.Document.AtOnce
import Kickstart.Proofs.Report.RoundTrip
import Kickstart.Proofs.Report.Noise
import Kickstart.Proofs.Lint
import Kickstart.Proofs.Lint.Verdict
import Kickstart.Proofs.Settings.Section
import Kickstart.Proofs.Settings.Sharing
import Kickstart.Proofs.Service.Cleanup
import Kickstart.Proofs.Service.Handshake
import Kickstart.Proofs.Service.InForce
import Kickstart.Proofs.Service.Independence
import Kickstart.Proofs.Service.Interleaving
import Kickstart.Proofs.Completion.FirstWord
import Kickstart.Proofs.Report.Layout
import Kickstart.Proofs.Files.Lifetimes
import Kickstart.Proofs.Report.Mention
import Kickstart.Proofs.Service.Announcement
