import Carrier.Endpoint.Discovery

/-!
# The endpoint's operations

The public methods of `Endpoint` other than `poll`: opening streams and writing
to them, asking the broker for a connection (`connect`), and answering the two
connect events (`accept_outgoing`, `accept_incomming`, `reject`).

Each operation returns `Except Panic`: the `unwrap`s of a missing channel, the
two identity and route checks of `accept_outgoing`, the seeding loop of the
`accept_*` operations, and the drop of a started publish handler (by `open`
over its stream id, or by an `accept_*` that replaces its channel) may panic. What the collaborators answer (the clock, the
Noise handshake, the engine's new stream id, the socket's local addresses) is
the operation's input record.
-/

namespace Carrier

namespace Endpoint

/-- The paths an endpoint announces: its local addresses, category `Local`. -/
def localPaths (cx : Codecs) (addrs : List SocketAddr) : List Proto.Path :=
  addrs.map fun addr => { category := Category.local.toI32, ipaddr := cx.formatAddr addr }

/-- `Endpoint::stream`: write a message into a stream of the channel at `route`. -/
def stream (ep : Endpoint) (route : RoutingKey) (streamId : UInt32) (m : Payload) :
    Except Panic Endpoint := do
  let chan ← unwrap (ep.channels.lookup route)
  pure (ep.log (.engine chan.chan (.stream streamId m)))

/-- `Endpoint::open`: open a stream on the channel at `route` (the engine names
it `streamId`) and register the handler `f` makes for it, dropping one already
registered under that id. `sends` are the messages `f` writes into the stream
when it is made, and `publisher` the generator of the handler when it is the
`publish_stream` task. -/
def openHandler (ep : Endpoint) (route : RoutingKey) (headers : Headers) (streamId : UInt32)
    (sends : List Payload) (publisher : Option Publisher) : Except Panic Endpoint := do
  let chan ← unwrap (ep.channels.lookup route)
  let ep := ep.log (.engine chan.chan (.openStream headers))
  let ep := sends.foldl (fun ep m => ep.log (.engine chan.chan (.stream streamId m))) ep
  let chan ← chan.dropHandler streamId
  let publishers := match publisher with
    | some p => chan.publishers.insert streamId p
    | none => chan.publishers
  pure (ep.setChannel route { chan with streams := chan.streams.insert streamId, publishers })

/-- `Endpoint::open` called by the endpoint's user: the handler is the
environment's. -/
def «open» (ep : Endpoint) (route : RoutingKey) (headers : Headers) (streamId : UInt32)
    (sends : List Payload) : Except Panic Endpoint :=
  ep.openHandler route headers streamId sends none

/-- The answers of the collaborators `Endpoint::publish` calls: `Secret::gen`
(used when no publish secret exists yet), the signed address, and the id of the
new broker stream. -/
structure PublishInput where
  gen : Secret
  xaddr : List UInt8
  streamId : UInt32

/-- `Endpoint::publish`: open a publish stream to the broker whose handler sends
the `PublishRequest` and is the `publish_stream` task, not yet started. -/
def publish (ep : Endpoint) (shadow : List UInt8) (i : PublishInput) : Except Panic Endpoint :=
  let ep := if ep.publishSecret.isNone then { ep with publishSecret := some i.gen } else ep
  ep.openHandler ep.brokerRoute (Headers.withPath brokerPublishPath) i.streamId
    [.publishRequest { xaddr := i.xaddr, shadow }] (some ⟨.fresh, none⟩)

/-- The answers of the collaborators `Endpoint::connect` calls: the network time,
`noise::initiate`, the local addresses of the socket and the id of the new
broker stream. -/
structure ConnectInput where
  timestamp : UInt64
  initiate : Except Error (HandshakeRequester × EncryptedPacket)
  localAddrs : List SocketAddr
  streamId : UInt32

/-- `Endpoint::connect`: send a `ConnectRequest` for `target` on a new broker
stream and wait for its response headers. -/
def connect (cx : Codecs) (ep : Endpoint) (target : Identity) (i : ConnectInput) :
    Except Panic (Endpoint × Except Error Unit) :=
  match i.initiate with
  | .error e => pure (ep, .error e)
  | .ok (noise, pkt) => do
    let chan ← unwrap (ep.channels.lookup ep.brokerRoute)
    let ep := ep.log (.engine chan.chan (.openStream (Headers.withPath brokerConnectPath)))
    let ep := ep.log (.engine chan.chan (.stream i.streamId (.connectRequest
      { identity := target.bytes, timestamp := i.timestamp, handshake := pkt.encode,
        paths := localPaths cx i.localAddrs })))
    pure ({ ep with outstandingConnectOutgoing :=
      ep.outstandingConnectOutgoing.insert i.streamId (.waitingForHeaders target noise) }, .ok ())

/-- `Endpoint::reject`: answer a peer's connect request with `ok: false`. -/
def reject (ep : Endpoint) (q : ConnectRequest) : Except Panic Endpoint :=
  ep.stream ep.brokerRoute q.qstream (.peerConnectResponse { ok := false, handshake := [], paths := [] })

/-- The broker's address joins the candidates of a new channel when the broker
channel is established. -/
def withBrokerOrigin (ep : Endpoint) (paths : Candidates) : Candidates :=
  match ep.channels.lookup ep.brokerRoute with
  | some { addrs := .established addr _, .. } => paths.insert addr (.brokerOrigin, 0)
  | _ => paths

/-- `channels.insert(route, ..)` drops the channel it replaces, if any. -/
def dropAt (ep : Endpoint) (route : RoutingKey) : Except Panic Unit :=
  match ep.channels.lookup route with
  | some chan => chan.drop
  | none => pure ()

/-- The answers of the collaborators `accept_outgoing` calls: `recv_response` of
the handshake, and the route of the transport `into_transport` makes. -/
structure AcceptOutgoingInput where
  recvResponse : Except Error Identity
  intoTransport : Except Error RoutingKey

/-- `Endpoint::accept_outgoing`: finish the handshake of an answered connect and
install the channel to the peer. -/
def acceptOutgoing (cx : Codecs) (ep : Endpoint) (q : ConnectResponse) (i : AcceptOutgoingInput) :
    Except Panic (Endpoint × Except Error RoutingKey) :=
  match q.cr, q.requester with
  | some cr, some _ =>
    if cr.ok != true then pure (ep, .error (.outgoingConnectFailed q.identity (some cr)))
    else match EncryptedPacket.decode cr.handshake with
    | .error e => pure (ep, .error e)
    | .ok _ => do
      let hsIdentity ← unwrapResult i.recvResponse
      match i.intoTransport with
      | .error e => pure (ep, .error e)
      | .ok route =>
        if q.identity ≠ hsIdentity then
          throw ⟨"SECURITY ALERT: handshake for outgoing connect has unexpected identity"⟩
        else if cr.route ≠ route then
          throw ⟨"BUG (in broker maybe): handshake for outgoing connect has unexpected route"⟩
        else do
          let paths ← seedPaths cx cr.paths
          ep.dropAt cr.route
          pure (ep.addChannel cr.route q.identity (ep.withBrokerOrigin paths), .ok cr.route)
  | cr, _ => pure (ep, .error (.outgoingConnectFailed q.identity cr))

/-- The answers of the collaborators `accept_incomming` calls: the handshake
packet of `send_response`, and the local addresses of the socket. -/
structure AcceptIncommingInput where
  sendResponse : Except Error EncryptedPacket
  localAddrs : List SocketAddr

/-- `Endpoint::accept_incomming`: answer the handshake, install the channel to
the peer and send the `PeerConnectResponse` back on the broker stream. -/
def acceptIncomming (cx : Codecs) (ep : Endpoint) (q : ConnectRequest) (i : AcceptIncommingInput) :
    Except Panic Endpoint := do
  let pkt ← expect i.sendResponse "send_response"
  let paths ← seedPaths cx q.cr.paths
  ep.dropAt q.cr.route
  let ep := ep.addChannel q.cr.route q.identity (ep.withBrokerOrigin paths)
  ep.stream ep.brokerRoute q.qstream
    (.peerConnectResponse { ok := true, handshake := pkt.encode, paths := localPaths cx i.localAddrs })

end Endpoint

end Carrier
