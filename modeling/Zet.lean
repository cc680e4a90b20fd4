import Zet.Agent.LinkReading
import Zet.Agent.MuxLink
import Zet.Agent.PtyOutput
import Zet.Agent.SnapshotSupply
import Zet.App.Backoff
import Zet.App.EscapeScanner
import Zet.App.Keystrokes
import Zet.App.MuxFrames
import Zet.App.NothingLost
import Zet.Core.ShellQuote
import Zet.Lib.BinarySearch
import Zet.Lib.Loop
import Zet.Lib.Parcels
import Zet.Lib.Switching
import Zet.Lib.Tokens
import Zet.Lib.Utf8
import Zet.Lib.Watch
import Zet.Mux.Handoff
import Zet.Mux.HandoffLines
import Zet.Mux.HandoffSteps
import Zet.Mux.HandoffWorld
import Zet.Mux.Mux
import Zet.Mux.Tables
import Zet.Mux.Told
import Zet.Net.Delivery
import Zet.Net.Ending
import Zet.Net.Ratchet
import Zet.Net.Reception
import Zet.Session.Bootstrap
import Zet.Session.BootstrapAgreement
import Zet.Session.DetachedOverflow
import Zet.Session.FirstFrame
import Zet.Session.GridTransfer
import Zet.Session.MuxLaws
import Zet.Session.Opening
import Zet.Session.Refusal
import Zet.Session.SlidingWindow
import Zet.Session.Supersession
import Zet.Session.TakeBack
import Zet.Session.Wakeups
import Zet.Terminal.CleanCells
import Zet.Terminal.CursorMotion
import Zet.Terminal.Decoder
import Zet.Terminal.Emulation
import Zet.Terminal.EncodedSize
import Zet.Terminal.History
import Zet.Terminal.Ladder
import Zet.Terminal.Lines
import Zet.Terminal.Painting
import Zet.Terminal.Parameters
import Zet.Terminal.Representation
import Zet.Terminal.Resizing
import Zet.Terminal.SavedCursors
import Zet.Terminal.ScrollHistory
import Zet.Terminal.Scrolling
import Zet.Terminal.Sequences
import Zet.Terminal.SgrRoundTrip
import Zet.Terminal.Snapshot
import Zet.Terminal.TextDecoding
import Zet.Terminal.WidePairs
import Zet.Wire.Armor
import Zet.Wire.Probe
import Zet.Wire.Readback
import Zet.Wire.Reassembly
