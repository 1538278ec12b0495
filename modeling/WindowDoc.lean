import WindowDoc.Load
import WindowDoc.Window.Source
import WindowDoc.Proofs.EarliestError
import WindowDoc.Proofs.RoundTrip
import WindowDoc.Proofs.Descent.Theorems
import WindowDoc.Proofs.ExpectedKinds
import WindowDoc.Proofs.Cutting
import WindowDoc.Proofs.Grammar.Script
import WindowDoc.Proofs.Grammar.Enactment
import WindowDoc.Proofs.Completion
import WindowDoc.Proofs.CallsBeforeFault
import WindowDoc.Proofs.Arena.Slots
import WindowDoc.Proofs.Arena.Forest
import WindowDoc.Proofs.Arena.Unfolding
import WindowDoc.Proofs.Arena.Exhibits
import WindowDoc.Proofs.Arena.ForeignHandles
import WindowDoc.Proofs.Segmentation.Basic
import WindowDoc.Proofs.Segmentation.Scanning
import WindowDoc.Proofs.Segmentation.Theorems
import WindowDoc.Proofs.Drawing
import WindowDoc.Proofs.Reuse
import WindowDoc.Proofs.CanonicalForm
import WindowDoc.Proofs.Likeness
import WindowDoc.Proofs.Protocol.Basic
import WindowDoc.Proofs.Protocol.Theorems
import WindowDoc.Proofs.Padding
import WindowDoc.Proofs.LetterCase
import WindowDoc.Proofs.Trailing
import WindowDoc.Proofs.Replay.Basic
import WindowDoc.Proofs.Replay.Course
import WindowDoc.Proofs.Replay.Copy
import WindowDoc.Proofs.Renumbering
import WindowDoc.Proofs.Replay.Mirror
import WindowDoc.Proofs.Arena.Heeded
import WindowDoc.Proofs.NestingLimit
import WindowDoc.Proofs.Arena.Groups
import WindowDoc.Proofs.Arena.Showing
import WindowDoc.Proofs.TreeWalk
import WindowDoc.Proofs.Rounding
import WindowDoc.Proofs.Truncation
import WindowDoc.Proofs.Delivery
import WindowDoc.Proofs.Cursor.Basic
import WindowDoc.Proofs.Cursor.Recovery
import WindowDoc.Proofs.Cursor.Tracking
import WindowDoc.Proofs.Encoding
import WindowDoc.Proofs.Loading
