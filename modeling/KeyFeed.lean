import KeyFeed.Main
import KeyFeed.Script.Folder
import KeyFeed.Proofs.Echo.Aside
import KeyFeed.Proofs.Typing.Steps
import KeyFeed.Proofs.Typing.Calls
import KeyFeed.Proofs.Typing.Course
import KeyFeed.Proofs.Typing.Alone
import KeyFeed.Proofs.Typing.Planted
import KeyFeed.Proofs.Rig.GoesOn
import KeyFeed.Proofs.Session.Phases
import KeyFeed.Proofs.Session.Custody
import KeyFeed.Proofs.Command.Custody
import KeyFeed.Proofs.Typing.Thriving
import KeyFeed.Proofs.Session.Success
import KeyFeed.Proofs.Command.Success
import KeyFeed.Proofs.Echo.Tending
import KeyFeed.Proofs.Session.Abiding
import KeyFeed.Proofs.Session.Lifecycle
import KeyFeed.Proofs.Link.Closing
import KeyFeed.Proofs.Typing.Endless
import KeyFeed.Proofs.Typing.Alike
import KeyFeed.Proofs.Typing.CutOff
import KeyFeed.Proofs.Command.Verdict
import KeyFeed.Proofs.Session.Forwarding
import KeyFeed.Proofs.Link.Usage
import KeyFeed.Proofs.Command.WriteFaults
import KeyFeed.Proofs.Charset.RoundTrip
import KeyFeed.Proofs.Typing.Returns
import KeyFeed.Proofs.Command.LineEndings
import KeyFeed.Proofs.Charset.LineEnd
import KeyFeed.Proofs.Typing.Framing
import KeyFeed.Proofs.Keyboard.Taking
import KeyFeed.Proofs.Keyboard.Interleaving
import KeyFeed.Proofs.Script.Grammar
import KeyFeed.Proofs.Typing.Settling
import KeyFeed.Proofs.Typing.Repetition
import KeyFeed.Proofs.Typing.Idling
import KeyFeed.Proofs.Echo.Steps
import KeyFeed.Proofs.Echo.Loop
import KeyFeed.Proofs.Charset.Exactness
import KeyFeed.Proofs.Charset.Wide
import KeyFeed.Proofs.Typing.OnePiece
import KeyFeed.Proofs.Session.Restoring
import KeyFeed.Proofs.Session.Scenes
import KeyFeed.Proofs.Session.Silence
import KeyFeed.Proofs.Script.Drawing
import KeyFeed.Proofs.Command.Unavailable
import KeyFeed.Proofs.Command.Encodings
import KeyFeed.Proofs.Command.Times
