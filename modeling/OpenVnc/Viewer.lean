import OpenVnc.Reentry
import OpenVnc.Session

/-!
# The example client and a server with a screen

`examples/simple_client.c` asks for the whole picture once it is connected, and for what has
changed whenever an update is complete; the request goes out from inside the callback. Its
server is a conforming one that keeps a screen and a note of the pixels that have changed since
they were last sent.
-/

namespace OpenVnc

open Interaction Interaction.Program Codec

/-! ## The application -/

/-- The callbacks that `main` sets. -/
def simpleClientCallbacks : ClientCallbacks where
  framebufferUpdate := true
  framebufferUpdateFinished := true
  bell := true
  serverCutText := true
  disconnected := true

/-- The configuration that `main` fills in. -/
def simpleClientConfig (host : String) (port : UInt16) : ClientConfig where
  host := some host
  port := port
  shared := 1
  encodings := some [encodingRaw, encodingDesktopSize, encodingCursor]

/-- What the callbacks do besides printing: `on_update_finished` requests the next incremental
update. -/
def simpleClientReaction : Callback → Reaction
  | .framebufferUpdateFinished => .makes (.requestUpdate none 1) 0 (fun _ => .leave)
  | _ => .leave

/-- A host with an application. Nested requests are answered as those of the library are. -/
def Host.reacting (host : Host) (app : Callback → Reaction) :
    Handler ReentrantRequest ReentrantAnswer Feed
  | .outside request, feed => host.feed request feed
  | .nested request, feed => host.feed request feed
  | .enter call, feed => (some (app call), { feed with fired := feed.fired ++ [call] })

/-! ## The server's screen -/

/-- The bytes of the pixels, in the format of the session. -/
abbrev Screen := Nat → Nat → Nat → UInt8

/-- A set of pixels. -/
abbrev Region := Nat → Nat → Prop

/-- A pixel of a rectangle. -/
def Rect.Contains (rect : Rect) (x y : Nat) : Prop :=
  rect.x.toNat ≤ x ∧ x < rect.x.toNat + rect.width.toNat ∧
    rect.y.toNat ≤ y ∧ y < rect.y.toNat + rect.height.toNat

namespace RectUpdate

/-- A Raw rectangle has the pixels of the screen. -/
def Depicts (bpp : Nat) (screen : Screen) : RectUpdate → Prop
  | raw rect pixels => ∀ x y byte, rect.Contains x y → byte < bpp →
      pixels[((y - rect.y.toNat) * rect.width.toNat + (x - rect.x.toNat)) * bpp + byte]? =
        some (screen x y byte)
  | _ => True

/-- The pixels that remain to be sent after a rectangle. After a change of size it is all of
them. -/
def remaining (dirty : Region) : RectUpdate → Region
  | raw rect _ => fun x y => dirty x y ∧ ¬ rect.Contains x y
  | desktopSize _ => fun _ _ => True
  | cursor .. => dirty

/-- The pixels that remain to be sent after a list of rectangles. -/
def remainingAll (dirty : Region) (updates : List RectUpdate) : Region :=
  updates.foldl remaining dirty

end RectUpdate

/-! ## Steps -/

/-- The session of the client, and the server's screen with the pixels that have changed since
they were last sent. -/
structure Viewer where
  session : Session
  screen : Screen
  dirty : Region

namespace Viewer

/-- What happens. -/
inductive Action where
  | iterated (result : Except Error Unit)
  | handled (message : ClientMessage)
  | sent (message : ServerMessage)
  | drawn

/-- One iteration of `ovnc_client_run`, which does what `ovnc_client_process_message` does, with
the callbacks of the example; the steps of the server's protocol, which sends the pixels of its
screen; and a change of the screen, of which the server notes at least the pixels that differ. -/
inductive Step (host : Host) : Viewer → Action → Viewer → Prop where
  | iterated {viewer : Viewer} {result : Except Error Unit} {memory : Memory} {feed : Feed}
      (ran : (reenter .bits64 (perform .bits64 0 .processMessage)).run
        (host.reacting simpleClientReaction) viewer.session.memory viewer.session.feed =
          (Outcome.finished result, memory, feed)) :
      Step host viewer (.iterated result)
        { viewer with session := viewer.session.afterCall .processMessage memory feed }
  | handled {viewer : Viewer} {message : ClientMessage} {rest : List UInt8}
      (arrived : Grammar.clientMessage viewer.session.feed.sent = some (message, rest)) :
      Step host viewer (.handled message) { viewer with session := { viewer.session with
        feed := { viewer.session.feed with sent := rest }
        server := viewer.session.server.handle message } }
  | sent {viewer : Viewer} {message : ServerMessage}
      (conforms : viewer.session.server.MaySend message)
      (depicts : ∀ update ∈ message.rects,
        update.Depicts viewer.session.server.format.pixelBytes viewer.screen) :
      Step host viewer (.sent message)
        { session := { viewer.session with
            feed := { viewer.session.feed with
              unread := viewer.session.feed.unread ++ message.encode }
            server := viewer.session.server.send message
            inFlight := viewer.session.inFlight ++
              [⟨message, viewer.session.server.format.pixelBytes⟩] }
          screen := viewer.screen
          dirty := RectUpdate.remainingAll viewer.dirty message.rects }
  | drawn {viewer : Viewer} (screen : Screen) (dirty : Region)
      (kept : ∀ x y, viewer.dirty x y → dirty x y)
      (noted : ∀ x y byte, screen x y byte ≠ viewer.screen x y byte → dirty x y) :
      Step host viewer .drawn { viewer with screen := screen, dirty := dirty }

/-! ## Flow control -/

/-- A message that answers a request. -/
def isUpdate : ServerMessage → Bool
  | .framebufferUpdate _ => true
  | _ => false

/-- A request for an update. -/
def isRequest : ClientMessage → Bool
  | .fbUpdateRequest .. => true
  | _ => false

/-- The requests for updates on their way to the server. -/
def requestsIn (queued : List ClientMessage) : Nat := queued.countP isRequest

/-- The updates on their way to the client. -/
def updatesInFlight (session : Session) : Nat :=
  session.inFlight.countP (fun delivery => isUpdate delivery.message)

/-- The action takes what is under way further: the client has processed a message, the server
has handled one, or it has answered a request with an update. What the server sends of its own
accord does not count. -/
def Action.Advances : Action → Prop
  | iterated result => result = .ok ()
  | handled _ => True
  | sent message => isUpdate message = true
  | drawn => False

/-- A viewer of which the client has connected and requested the whole picture. Nothing of the
screen has been sent. -/
structure Started (host : Host) (viewer : Viewer) : Prop where
  requested : ∃ opened : Session, opened.Opened ∧ opened.server.requests = 0 ∧
    (∃ queued, opened.Queued queued ∧ requestsIn queued = 0 ∧
      ∀ format, .setPixelFormat format ∉ queued) ∧
    opened.memory.client.callbacks.framebufferUpdateFinished = true ∧
    Session.Step host opened (.called (.requestUpdate none 0) (.ok ())) viewer.session
  unsent : ∀ x y, viewer.dirty x y

end Viewer

end OpenVnc
