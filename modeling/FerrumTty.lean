import FerrumTty.Crypto.NonceSequence
import FerrumTty.Wire.Fragment
import FerrumTty.Wire.Message
import FerrumTty.State.RemoteTerminalState
import FerrumTty.State.Reconstruction
import FerrumTty.State.LineTerminal
import FerrumTty.State.ScreenDiff
import FerrumTty.Session.ClientProtocol
import FerrumTty.Session.Operations
import FerrumTty.Session.RemoteUpdates
import FerrumTty.Wire.StoredCodec
import FerrumTty.Wire.FragmentCodec
import FerrumTty.Wire.MessageRoundTrip
import FerrumTty.Wire.Reassembly
import FerrumTty.Session.Transport
import FerrumTty.Session.Controls
import FerrumTty.Session.Progress
import FerrumTty.Session.ServerStream
import FerrumTty.State.FullHistory
import FerrumTty.Session.Assemblies
import FerrumTty.Session.Outgoing
import FerrumTty.Session.Identifiers
import FerrumTty.Runtime.SessionRuntime
import FerrumTty.Session.Carried
import FerrumTty.Library.StateSync
import FerrumTty.Runtime.Operations
import FerrumTty.Runtime.Polls
import FerrumTty.Runtime.Receives
import FerrumTty.Runtime.Ledger
import FerrumTty.Runtime.LocalInput
import FerrumTty.Runtime.Drives
import FerrumTty.Runtime.PeerShutdown
import FerrumTty.Library.SlidingWindow
import FerrumTty.Session.Replay
import FerrumTty.Library.Insertions
import FerrumTty.Runtime.Rejections
import FerrumTty.Session.ReceivedStates
import FerrumTty.Runtime.Handshake
import FerrumTty.Runtime.LocalShutdown
import FerrumTty.Runtime.Acknowledged
import FerrumTty.Runtime.ServerOutput
import FerrumTty.Wire.AnyOrder
import FerrumTty.Session.StateNumbers
import FerrumTty.Runtime.FailedPolls
import FerrumTty.Runtime.TimedOut
import FerrumTty.State.Clones
import FerrumTty.State.HiddenParts
import FerrumTty.Client.Messages
import FerrumTty.Client.DrainNetwork
import FerrumTty.Library.TerminalRow
import FerrumTty.Predict.Offers
import FerrumTty.Predict.PredictionOverlay
import FerrumTty.Predict.Operations
import FerrumTty.Predict.Reconciliation
import FerrumTty.Predict.Barriers
import FerrumTty.Predict.Restored
import FerrumTty.Runtime.Pauses
import FerrumTty.Runtime.Deadline
import FerrumTty.Runtime.PredictionFrame
import FerrumTty.Client.DrainTerminal
import FerrumTty.State.Atomicity
import FerrumTty.State.SuffixDiff
import FerrumTty.Session.SentHistory
import FerrumTty.Wire.RejectedPushes
import FerrumTty.Wire.Soundness
import FerrumTty.Terminal.TitleFilter
import FerrumTty.Terminal.TitleConservation
import FerrumTty.Terminal.TitleStorage
import FerrumTty.Terminal.TitleText
import FerrumTty.Terminal.TitleReader
import FerrumTty.Terminal.UnprefixedTitles
import FerrumTty.Library.WireGrammar
import FerrumTty.Wire.Validator
import FerrumTty.Runtime.Bursts
import FerrumTty.Runtime.QueueBound
import FerrumTty.Runtime.RoundTrips
import FerrumTty.Library.TruncatingAverage
import FerrumTty.Runtime.RetransmitTimeout
import FerrumTty.State.CommonHistory
import FerrumTty.Client.Conversation
import FerrumTty.Client.Delivery
import FerrumTty.Runtime.Spelled
import FerrumTty.Terminal.GivenBack
import FerrumTty.Client.Quitting
import FerrumTty.Runtime.HostView
import FerrumTty.Client.CommandGrammar
import FerrumTty.Client.OnTheWire
import FerrumTty.Library.CappedMap
import FerrumTty.Library.Stamped
import FerrumTty.Predict.Confidence
import FerrumTty.Runtime.Answers
import FerrumTty.Session.Footprint
import FerrumTty.Terminal.EscapeRuns
import FerrumTty.Client.CleanExit
import FerrumTty.Client.Program
import FerrumTty.Client.TerminalKept
