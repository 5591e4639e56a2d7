import OpenVnc.Interaction.Program
import OpenVnc.Interaction.Executions
import OpenVnc.Interaction.Runs
import OpenVnc.Interaction.Compositions
import OpenVnc.Interaction.Observations
import OpenVnc.Interaction.Handlers
import OpenVnc.Interaction.Simulations
import OpenVnc.Interaction.Monitors
import OpenVnc.Interaction.Progress
import OpenVnc.Interaction.Ledgers
import OpenVnc.Interaction.Translations
import OpenVnc.Interaction.Shadows
import OpenVnc.Interaction.Imitations
import OpenVnc.Interaction.Couplings
import OpenVnc.Interaction.Interleavings
import OpenVnc.Interaction.Networks
import OpenVnc.Interaction.Cleanups
import OpenVnc.Codec.Repetition
import OpenVnc.Codec.Decoding
import OpenVnc.Codec.Streams
import OpenVnc.Codec.Reactors
import OpenVnc.Common
import OpenVnc.ByteOrder
import OpenVnc.Pixel
import OpenVnc.Internal
import OpenVnc.Transport
import OpenVnc.Socket
import OpenVnc.SocketConnect
import OpenVnc.Descriptors
import OpenVnc.Wire
import OpenVnc.Transfers
import OpenVnc.SendMessages
import OpenVnc.ClientMessages
import OpenVnc.Sending
import OpenVnc.Encoding
import OpenVnc.RecvMessages
import OpenVnc.Handshake
import OpenVnc.Client
import OpenVnc.Process
import OpenVnc.Parts
import OpenVnc.Levels
import OpenVnc.Environment
import OpenVnc.Frame
import OpenVnc.HangUp
import OpenVnc.Receiving
import OpenVnc.Calls
import OpenVnc.Primitives
import OpenVnc.Reentry
import OpenVnc.Posix
import OpenVnc.SocketCalls
import OpenVnc.OpenSockets
import OpenVnc.Ownership
import OpenVnc.SendCalls
import OpenVnc.Announcements
import OpenVnc.AnnouncedMessages
import OpenVnc.AnnouncedCalls
import OpenVnc.Feed
import OpenVnc.Endings
import OpenVnc.Coherence
import OpenVnc.ServerMessages
import OpenVnc.Session
import OpenVnc.HandshakePeers
import OpenVnc.Viewer
import OpenVnc.Properties.FramebufferBounds
import OpenVnc.Properties.MessageDecoding
import OpenVnc.Properties.Lifecycle
import OpenVnc.Properties.CallbackDisconnect
import OpenVnc.Properties.SecurityGate
import OpenVnc.Properties.SentMessages
import OpenVnc.Properties.SendFailures
import OpenVnc.Properties.ConcurrentSending
import OpenVnc.Properties.FormatAgreement
import OpenVnc.Properties.HandshakeCompleteness
import OpenVnc.Properties.Fragmentation
import OpenVnc.Properties.Truncation
import OpenVnc.Properties.RunLoop
import OpenVnc.Properties.CutTextStorage
import OpenVnc.Properties.FormatFailures
import OpenVnc.Properties.RawRectangles
import OpenVnc.Properties.SizeArithmetic
import OpenVnc.Properties.FramebufferLedger
import OpenVnc.Properties.RetriedConnect
import OpenVnc.Properties.EmptyAllocations
import OpenVnc.Properties.VersionNegotiation
import OpenVnc.Properties.RawPainting
import OpenVnc.Properties.ResizeFailures
import OpenVnc.Properties.ServerName
import OpenVnc.Properties.EncodingLists
import OpenVnc.Properties.UpdateRequests
import OpenVnc.Properties.ConnectLoop
import OpenVnc.Properties.SocketRefinement
import OpenVnc.Properties.SocketLedger
import OpenVnc.Properties.Reentrancy
import OpenVnc.ViewerRuns
import OpenVnc.Heap
import OpenVnc.HeapErasure
import OpenVnc.LiveBlocks
import OpenVnc.HeapCalls
import OpenVnc.HeapProcess
import OpenVnc.Properties.FlowControl
import OpenVnc.Properties.Mirror
import OpenVnc.Properties.Acceptance
import OpenVnc.Properties.StreamReading
import OpenVnc.Properties.HeapRefinement
import OpenVnc.Properties.HeapLedger
import OpenVnc.Properties.Greetings
import OpenVnc.Properties.GreetingReading
import OpenVnc.Properties.SessionReading
