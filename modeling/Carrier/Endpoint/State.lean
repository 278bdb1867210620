import Carrier.Codec.Packet

/-!
# The endpoint's state

`endpoint::Endpoint` multiplexes encrypted channels over one UDP socket: the
channel to the broker, set up by `Endpoint::new`, and one channel per peer,
added by `accept_incomming` and `accept_outgoing`. Each channel owns a
`channel::Channel` engine (the Noise transport, retransmission and stream
framing), a path-discovery state (`AddressMode`) and the handlers of its
streams.

The engines, the stream handlers (osaka tasks), the socket, the clock and the
Noise handshake are not part of the sources. The model treats them as the
environment: what they answer is an input of the step that calls them, and
what the endpoint asks of them is recorded as an `Effect`. The one handler
whose code is in the sources, the `publish_stream` task of `Endpoint::publish`,
is modelled by its generator: it can panic when polled and when dropped. An engine is known
by a handle taken from a counter, so that a channel installed at a route that
already had one is told apart from the one it replaced. The decoders of the
header blocks and protobuf messages are the parameters collected in `Codecs`.

A `HashMap` is an `AList`. The order of its entries stands for the unspecified
iteration order of the map, and every result about a loop over a map holds for
every order.
-/

namespace Carrier

/-- `std::net::SocketAddr`. -/
structure SocketAddr where
  ip : List UInt8
  port : UInt16
  deriving DecidableEq, Repr

/-- `noise::HandshakeRequester`: the initiator's half of a handshake, opaque. -/
structure HandshakeRequester where
  handle : Nat
  deriving DecidableEq, Repr

/-- `noise::HandshakeResponder`: the responder's half of a handshake, opaque. -/
structure HandshakeResponder where
  handle : Nat
  deriving DecidableEq, Repr

/-- `identity::Secret`, opaque. -/
structure Secret where
  handle : Nat
  deriving DecidableEq, Repr

/-- `headers::Headers`. Modelled from the spec: an HPACK block of header pairs
in which `:path` names a request and `:status` (a code and a reason phrase)
answers one. -/
structure Headers where
  fields : List (String × String)
  deriving DecidableEq, Repr

namespace Headers

/-- `Headers::path`. -/
def path (h : Headers) : Option String := h.fields.lookup ":path"

/-- `Headers::with_path`. -/
def withPath (p : String) : Headers := ⟨[(":path", p)]⟩

/-- `Headers::with_error`. -/
def withError (code : Nat) (msg : String) : Headers := ⟨[(":status", toString code ++ " " ++ msg)]⟩

/-- `Headers::ok`. -/
def ok : Headers := withError 200 "ok"

end Headers

/-- The paths of the broker protocol that `endpoint.rs` opens or answers. -/
def peerConnectPath : String := "/carrier.broker.v1/peer/connect"
def brokerConnectPath : String := "/carrier.broker.v1/broker/connect"
def brokerPublishPath : String := "/carrier.broker.v1/broker/publish"

/-- The decoders `endpoint.rs` calls and whose code is not part of the sources:
`Headers::decode`, the prost decoders of the two broker messages it reads,
`Identity::from_bytes`, `str::parse::<SocketAddr>` and the `Display` of a
socket address. -/
structure Codecs where
  decodeHeaders : List UInt8 → Except Error Headers
  decodePeerConnectRequest : List UInt8 → Except Error Proto.PeerConnectRequest
  decodeConnectResponse : List UInt8 → Except Error Proto.ConnectResponse
  identityFromBytes : List UInt8 → Except Error Identity
  parseAddr : String → Except Error SocketAddr
  formatAddr : SocketAddr → String

/-- What the endpoint writes into a stream: the encoding of a message, kept as
the message itself since the encoders are not part of the sources. -/
inductive Payload
  | bytes (b : List UInt8)
  | headers (h : Headers)
  | connectRequest (m : Proto.ConnectRequest)
  | peerConnectResponse (m : Proto.PeerConnectResponse)
  | publishRequest (m : Proto.PublishRequest)
  deriving DecidableEq, Repr

/-- A call into a channel engine (`channel::Channel`). -/
inductive EngineCall
  | recv (pkt : EncryptedPacket)
  | progress
  | openStream (headers : Headers)
  | stream (stream : UInt32) (m : Payload)
  | close (stream : UInt32)
  deriving DecidableEq, Repr

/-- What the endpoint does to its collaborators: call the engine with handle
`chan`, send a datagram, or hand a frame to the handler of a stream of the
channel whose engine is `chan` (`driver.a.set(..); driver.f.wakeup_now()`). -/
inductive Effect
  | engine (chan : Nat) (call : EngineCall)
  | sendTo (pkt : List UInt8) (addr : SocketAddr)
  | deliver (chan : Nat) (stream : UInt32) (frame : List UInt8)
  deriving DecidableEq, Repr

/-- The candidate addresses of a channel: category and the number of datagrams
received from each. -/
abbrev Candidates := AList (fun _ : SocketAddr => Category × Nat)

/-- `AddressMode`: counting datagrams per candidate, or settled on `chosen` with
the candidates it was chosen from. -/
inductive AddressMode
  | discovering (addrs : Candidates)
  | established (chosen : SocketAddr) (previous : Candidates)

/-- Where the generator of `Endpoint::publish_stream` is: `fresh` until its
first poll, so that nothing of its body has run; `waiting` in
`osaka::sync!(stream)` for the broker's response headers, with the `defer`
that panics with "publish closed" armed; `parked` at `yield poll.never()`
once the headers decoded. -/
inductive PublishStage
  | fresh
  | waiting
  | parked
  deriving DecidableEq, Repr

/-- A publish handler: its generator, and the inbox of its stream (the `Cell`
that `driver.a.set(..)` fills and `Stream::poll` empties). -/
structure Publisher where
  stage : PublishStage
  inbox : Option (List UInt8)
  deriving DecidableEq, Repr

/-- `UdpChannel`. `chan` is the handle of its engine, `streams` the stream ids
that have a handler, `publishers` those of them whose handler is the
`publish_stream` task of `Endpoint::publish`, and `newhandl` whether it has a
stream factory. -/
structure UdpChannel where
  identity : Identity
  chan : Nat
  addrs : AddressMode
  streams : List UInt32
  publishers : AList (fun _ : UInt32 => Publisher)
  newhandl : Bool

/-- `ConnectResponseStage`: an outgoing connect waiting for the broker's response
headers, then for the `ConnectResponse`. -/
inductive ConnectResponseStage
  | waitingForHeaders (identity : Identity) (noise : HandshakeRequester)
  | waitingForResponse (identity : Identity) (noise : HandshakeRequester)
  deriving DecidableEq, Repr

/-- `Endpoint`. `engines` counts the engines made so far and `effects` lists
what the current call did to the collaborators, in order; neither is a field of
the source struct. -/
structure Endpoint where
  channels : AList (fun _ : RoutingKey => UdpChannel)
  brokerRoute : RoutingKey
  outstandingConnectIncomming : List UInt32
  outstandingConnectOutgoing : AList (fun _ : UInt32 => ConnectResponseStage)
  publishSecret : Option Secret
  engines : Nat
  effects : List Effect

/-- `endpoint::ConnectRequest`, handed to the caller by `Event::IncommingConnect`. -/
structure ConnectRequest where
  qstream : UInt32
  identity : Identity
  responder : HandshakeResponder
  cr : Proto.PeerConnectRequest
  deriving DecidableEq, Repr

/-- `endpoint::ConnectResponse`, handed to the caller by `Event::OutgoingConnect`. -/
structure ConnectResponse where
  identity : Identity
  cr : Option Proto.ConnectResponse
  requester : Option HandshakeRequester
  deriving DecidableEq, Repr

/-- `endpoint::Event`. -/
inductive Event
  | incommingConnect (q : ConnectRequest)
  | outgoingConnect (r : ConnectResponse)
  | disconnect (route : RoutingKey) (identity : Identity)
  deriving DecidableEq, Repr

/-- `channel::ChannelProgress`, the answer of `Channel::progress`. `later` is a
duration in milliseconds. -/
inductive ChannelProgress
  | later (dur : Nat)
  | sendPacket (pkt : List UInt8)
  | receiveHeader (stream : UInt32) (frame : List UInt8)
  | receiveStream (stream : UInt32) (frame : List UInt8)
  | close (stream : UInt32)
  | disconnect
  deriving DecidableEq, Repr

/-- What polling a stream handler (an `osaka::Task<()>`) answers: finished,
not yet (with the deadline it wants to be woken at), or a panic of the
handler's own code, which unwinds through `poll`. -/
inductive HandlerPoll
  | done
  | again (deadline : Option Nat)
  | panic (p : Panic)
  deriving DecidableEq, Repr

namespace Publisher

/-- The `defer` of a publish handler is armed once its generator has started. -/
def armed (p : Publisher) : Bool := p.stage != .fresh

/-- One poll of the generator of `publish_stream`. The first poll arms the
`defer`; while it waits in `osaka::sync!(stream)` it takes the frame in its
inbox, if any, and `Headers::decode(&m).unwrap()` panics on a block that does
not decode; then it yields `poll.never()`. A parked generator stays parked:
`poll.never()` is never ready (osaka is not part of the sources). -/
def poll (cx : Codecs) (p : Publisher) : Except Panic (Publisher × HandlerPoll) :=
  match p.stage, p.inbox with
  | .parked, _ => pure (p, .again none)
  | _, none => pure ({ p with stage := .waiting }, .again none)
  | _, some m => do
    let _ ← unwrapResult (cx.decodeHeaders m)
    pure ({ stage := .parked, inbox := none }, .again none)

end Publisher

namespace UdpChannel

/-- Poll the handler of `streamId` (`driver.f.poll()`): the publish handler by
its generator, any other by what the environment answers. -/
def pollHandler (cx : Codecs) (chan : UdpChannel) (polls : UInt32 → HandlerPoll) (streamId : UInt32) :
    Except Panic (UdpChannel × HandlerPoll) :=
  match chan.publishers.lookup streamId with
  | some p => do
    let (p, r) ← p.poll cx
    pure ({ chan with publishers := chan.publishers.insert streamId p }, r)
  | none => pure (chan, polls streamId)

/-- Drop the handler of `streamId`, as `chan.streams.remove(..)` or an `insert`
over it does: a publish handler whose `defer` is armed panics with
"publish closed". The caller updates `streams`. -/
def dropHandler (chan : UdpChannel) (streamId : UInt32) : Except Panic UdpChannel :=
  match chan.publishers.lookup streamId with
  | some p =>
    if p.armed then throw ⟨"publish closed"⟩
    else pure { chan with publishers := chan.publishers.erase streamId }
  | none => pure chan

/-- Drop a whole channel, with its handlers: an armed publish handler panics. -/
def drop (chan : UdpChannel) : Except Panic Unit :=
  if chan.publishers.entries.any (·.2.armed) then throw ⟨"publish closed"⟩ else pure ()

/-- `driver.a.set(Done(frame))`: a publish handler finds the frame in its inbox. -/
def fillInbox (chan : UdpChannel) (streamId : UInt32) (frame : List UInt8) : UdpChannel :=
  match chan.publishers.lookup streamId with
  | some p => { chan with publishers := chan.publishers.insert streamId { p with inbox := some frame } }
  | none => chan

/-- Polling a handler changes at most the generators of the publish handlers. -/
theorem pollHandler_eq_ok {cx : Codecs} {chan chan' : UdpChannel} {polls : UInt32 → HandlerPoll}
    {s : UInt32} {r : HandlerPoll} (h : chan.pollHandler cx polls s = .ok (chan', r)) :
    ∃ ps, chan' = { chan with publishers := ps } := by
  unfold pollHandler at h
  split at h
  · obtain ⟨⟨p, r'⟩, -, h⟩ := Except.bind_eq_ok.1 h
    cases h
    exact ⟨_, rfl⟩
  · cases h
    exact ⟨_, rfl⟩

/-- Dropping a handler changes at most the publish handlers. -/
theorem dropHandler_eq_ok {chan chan' : UdpChannel} {s : UInt32} (h : chan.dropHandler s = .ok chan') :
    ∃ ps, chan' = { chan with publishers := ps } := by
  unfold dropHandler at h
  split at h
  · split_ifs at h
    cases h
    exact ⟨_, rfl⟩
  · cases h
    exact ⟨_, rfl⟩

/-- Dropping a channel panics only when it has an armed publish handler. -/
theorem drop_eq_error {chan : UdpChannel} {e : Panic} (h : chan.drop = .error e) :
    ∃ s pub, chan.publishers.lookup s = some pub ∧ pub.armed = true := by
  unfold drop at h
  split_ifs at h with ha
  · obtain ⟨⟨s, pub⟩, hm, ha⟩ := List.any_eq_true.1 ha
    exact ⟨s, pub, AList.mem_lookup_iff.2 hm, ha⟩
  · cases h

/-- Filling an inbox changes only the publish handlers. -/
theorem fillInbox_eq (chan : UdpChannel) (s : UInt32) (f : List UInt8) :
    chan.fillInbox s f = { chan with publishers := (chan.fillInbox s f).publishers } := by
  unfold fillInbox
  split <;> rfl

end UdpChannel

namespace Endpoint

/-- `Endpoint::new`: the broker channel, established on the broker's address,
with the first engine and no stream factory. -/
def new (brokerRoute : RoutingKey) (identity : Identity) (addr : SocketAddr) : Endpoint where
  channels := AList.insert brokerRoute
    { identity, chan := 0, addrs := .established addr ∅, streams := [], publishers := ∅,
      newhandl := false } ∅
  brokerRoute := brokerRoute
  outstandingConnectIncomming := []
  outstandingConnectOutgoing := ∅
  publishSecret := none
  engines := 1
  effects := []

/-- Record an effect. -/
def log (ep : Endpoint) (e : Effect) : Endpoint := { ep with effects := ep.effects ++ [e] }

/-- Write a channel back into the map (`channels.insert` or a `get_mut` borrow
ending). -/
def setChannel (ep : Endpoint) (route : RoutingKey) (chan : UdpChannel) : Endpoint :=
  { ep with channels := ep.channels.insert route chan }

/-- Install a channel with a new engine (`Channel::new`), as the two `accept_*`
operations do. -/
def addChannel (ep : Endpoint) (route : RoutingKey) (identity : Identity) (addrs : Candidates) :
    Endpoint :=
  { ep with
    channels := ep.channels.insert route
      { identity, chan := ep.engines, addrs := .discovering addrs, streams := [], publishers := ∅,
        newhandl := true }
    engines := ep.engines + 1 }

@[simp] theorem log_channels (ep : Endpoint) (e : Effect) : (ep.log e).channels = ep.channels := rfl
@[simp] theorem log_brokerRoute (ep : Endpoint) (e : Effect) :
    (ep.log e).brokerRoute = ep.brokerRoute := rfl
@[simp] theorem log_outstandingConnectIncomming (ep : Endpoint) (e : Effect) :
    (ep.log e).outstandingConnectIncomming = ep.outstandingConnectIncomming := rfl
@[simp] theorem log_outstandingConnectOutgoing (ep : Endpoint) (e : Effect) :
    (ep.log e).outstandingConnectOutgoing = ep.outstandingConnectOutgoing := rfl
@[simp] theorem log_engines (ep : Endpoint) (e : Effect) : (ep.log e).engines = ep.engines := rfl
@[simp] theorem log_effects (ep : Endpoint) (e : Effect) :
    (ep.log e).effects = ep.effects ++ [e] := rfl

@[simp] theorem setChannel_channels (ep : Endpoint) (r : RoutingKey) (c : UdpChannel) :
    (ep.setChannel r c).channels = ep.channels.insert r c := rfl
@[simp] theorem setChannel_brokerRoute (ep : Endpoint) (r : RoutingKey) (c : UdpChannel) :
    (ep.setChannel r c).brokerRoute = ep.brokerRoute := rfl
@[simp] theorem setChannel_outstandingConnectIncomming (ep : Endpoint) (r : RoutingKey)
    (c : UdpChannel) :
    (ep.setChannel r c).outstandingConnectIncomming = ep.outstandingConnectIncomming := rfl
@[simp] theorem setChannel_outstandingConnectOutgoing (ep : Endpoint) (r : RoutingKey)
    (c : UdpChannel) :
    (ep.setChannel r c).outstandingConnectOutgoing = ep.outstandingConnectOutgoing := rfl
@[simp] theorem setChannel_engines (ep : Endpoint) (r : RoutingKey) (c : UdpChannel) :
    (ep.setChannel r c).engines = ep.engines := rfl
@[simp] theorem setChannel_effects (ep : Endpoint) (r : RoutingKey) (c : UdpChannel) :
    (ep.setChannel r c).effects = ep.effects := rfl

end Endpoint

end Carrier
