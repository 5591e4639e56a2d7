import OpenVnc.ClientMessages
import OpenVnc.Feed
import OpenVnc.ServerMessages

/-!
# A session with a conforming server

A connected client and a server with one channel of bytes in each direction. The server
handles the client's messages in order, answers each request for an update at any later
time, and encodes every rectangle in the format of the last SetPixelFormat it has
handled. The client's calls run as they are, against a host whose unread and sent bytes
are the two channels. A call that waits for bytes is a step when the last of them is
there.
-/

namespace OpenVnc

open Interaction Interaction.Program Codec

/-- The rectangle has pixels in the format of the session: a Raw or a Cursor rectangle. -/
def RectUpdate.HasPixels : RectUpdate → Prop
  | raw .. | cursor .. => True
  | desktopSize _ => False

/-- Some rectangle of the message has pixels. -/
def ServerMessage.HasPixels (message : ServerMessage) : Prop :=
  ∃ update ∈ message.rects, update.HasPixels

/-- The server: its format, the size of its framebuffer, and the requests it has not
answered. -/
structure ConformingServer where
  format : PixelFormat
  extent : Extent
  requests : Nat

namespace ConformingServer

/-- The server after a message of the client. -/
def handle (server : ConformingServer) : ClientMessage → ConformingServer
  | .setPixelFormat format => { server with format := format }
  | .fbUpdateRequest .. => { server with requests := server.requests + 1 }
  | _ => server

/-- An update needs a request, and its rectangles are encoded in the server's format. -/
def MaySend (server : ConformingServer) (message : ServerMessage) : Prop :=
  RectUpdate.AllWellFormed server.format.pixelBytes server.extent message.rects ∧
    match message with
    | .framebufferUpdate _ => 0 < server.requests
    | _ => True

/-- The server after it has sent a message. -/
def send (server : ConformingServer) (message : ServerMessage) : ConformingServer :=
  { server with
    extent := RectUpdate.resizeAll server.extent message.rects
    requests := match message with
      | .framebufferUpdate _ => server.requests - 1
      | _ => server.requests }

end ConformingServer

/-- A message of the server and the bytes per pixel it was encoded with. -/
structure Delivery where
  message : ServerMessage
  bytesPerPixel : Nat

/-- The calls of a session. -/
def ApiCall.Exchanges : ApiCall → Prop
  | requestUpdate .. | setPixelFormat _ | processMessage => True
  | _ => False

/-- The client and its side of the channels, and the server. Two observations are
recorded: the messages that were sent and that no call has processed yet, and those that
one has, with the client's bytes per pixel at that time. -/
structure Session where
  memory : Memory
  feed : Feed
  server : ConformingServer
  inFlight : List Delivery := []
  processed : List (Delivery × Nat) := []

namespace Session

/-- What happens in a session. -/
inductive Action where
  | called (call : ApiCall) (result : Except Error Unit)
  | handled (message : ClientMessage)
  | sent (message : ServerMessage)

/-- The client's framebuffer. -/
def framebuffer (session : Session) : Framebuffer := session.memory.client.framebuffer

/-- The session after a call. A call that processes a message is meant to process the
first one in flight. -/
def afterCall (session : Session) (call : ApiCall) (memory : Memory) (feed : Feed) : Session :=
  match call, session.inFlight with
  | .processMessage, delivery :: deliveries => { session with
      memory := memory
      feed := feed
      inFlight := deliveries
      processed := session.processed ++ [(delivery, session.framebuffer.format.pixelBytes)] }
  | _, _ => { session with memory := memory, feed := feed }

/-- The steps of the client and of the server, in any order. -/
inductive Step (host : Host) : Session → Action → Session → Prop where
  | called {session : Session} {call : ApiCall} {result : Except Error Unit} {memory : Memory}
      {feed : Feed} (made : call.Exchanges)
      (ran : (perform .bits64 0 call).run host.feed session.memory session.feed =
        (Outcome.finished result, memory, feed)) :
      Step host session (.called call result) (session.afterCall call memory feed)
  | handled {session : Session} {message : ClientMessage} {rest : List UInt8}
      (arrived : Grammar.clientMessage session.feed.sent = some (message, rest)) :
      Step host session (.handled message) { session with
        feed := { session.feed with sent := rest }
        server := session.server.handle message }
  | sent {session : Session} {message : ServerMessage} (conforms : session.server.MaySend message) :
      Step host session (.sent message) { session with
        feed := { session.feed with unread := session.feed.unread ++ message.encode }
        server := session.server.send message
        inFlight := session.inFlight ++ [⟨message, session.server.format.pixelBytes⟩] }

/-- The client's read position is between two messages. -/
def Aligned (session : Session) : Prop :=
  session.feed.unread = session.inFlight.flatMap (fun delivery => delivery.message.encode)

/-- Every message with pixels was processed with the bytes per pixel of its encoding. -/
def Agreed (session : Session) : Prop :=
  ∀ entry ∈ session.processed, entry.1.message.HasPixels → entry.1.bytesPerPixel = entry.2

/-- The format the server will have after the messages on their way to it. -/
def latest (format : PixelFormat) (queued : List ClientMessage) : PixelFormat :=
  queued.foldl (fun format message =>
    match message with
    | .setPixelFormat chosen => chosen
    | _ => format) format

/-- The messages on their way to the server. -/
def Queued (session : Session) (queued : List ClientMessage) : Prop :=
  session.feed.sent = queued.flatMap ClientMessage.encode ∧ ∀ message ∈ queued, message.Encodable

/-- A session as a handshake leaves it: nothing is on its way to the client, the two
sides have the same size, and they will have the same format. -/
structure Opened (session : Session) : Prop where
  connected : session.memory.client.state = .connected
  attached : session.memory.client.transport ≠ none
  coherent : session.framebuffer.Coherent
  unread : session.feed.unread = []
  inFlight : session.inFlight = []
  processed : session.processed = []
  extent : session.server.extent = session.framebuffer.extent
  queued : ∃ queued, session.Queued queued ∧
    latest session.server.format queued = session.framebuffer.format

end Session

end OpenVnc
