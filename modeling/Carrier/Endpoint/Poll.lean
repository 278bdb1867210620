import Carrier.Endpoint.Operations

/-!
# `Endpoint::poll`

`poll` first receives at most one datagram: it counts the datagram for path
discovery, settles or migrates the channel, and hands the packet to the
channel's engine. It then drives every channel in passes. Each visit of a
channel polls the channel's stream handlers, asks the engine for `progress()`,
acts on the answer, and polls the handlers again; some answers end `poll` at
once with an event or an error. After a pass the channels whose engine said
`Disconnect` are removed, and another pass follows while some channel made
progress.

This module holds the pieces: the datagram half (`receive`), one visit of a
channel (`visit`, with `dispatch` for the answer of `progress()`), and the
removal after a pass (`removeKilled`). `System` puts them together into steps.

A shake polls the publish handler by its generator (`Publisher.poll`), which
panics on a response header block that does not decode; a `Close` of its
stream and the removal of its channel drop it, which panics once it started.
-/

namespace Carrier

variable {cx : Codecs}

/-- `Again::merge` of osaka: the earlier of two wake-ups, `none` meaning never. -/
def merge : Option Nat → Option Nat → Option Nat
  | some a, some b => some (min a b)
  | some a, none => some a
  | none, b => b

/-- The identity an outgoing connect is for. -/
def ConnectResponseStage.identity : ConnectResponseStage → Identity
  | .waitingForHeaders identity _ => identity
  | .waitingForResponse identity _ => identity

/-- The locals of `poll`'s channel loop during a pass: the routes not yet
visited, `again`, `killme`, and `later`, the wake-up `poll` asks for. -/
structure Pass where
  todo : List RoutingKey
  again : Bool
  killme : List RoutingKey
  later : Option Nat

/-- What the collaborators answer while `poll` visits the channel at `route`:
each handler other than a publish handler at the first and at the second shake, the engine's `progress()`,
whether the channel's stream factory makes a handler for a peer-opened stream,
and `noise::respond` for a peer's connect request. -/
structure VisitInput where
  route : RoutingKey
  shake : UInt32 → HandlerPoll
  progress : Except Error ChannelProgress
  factory : Bool
  respond : Except Error (HandshakeResponder × Identity × UInt64)
  shakeAgain : UInt32 → HandlerPoll

/-- The address mode after the engine answered `recvResult` to a datagram from
`addr`: migrate when it accepted the datagram. -/
def AddressMode.afterRecv (mode : AddressMode) (recvResult : Except Error Unit) (addr : SocketAddr) :
    AddressMode :=
  match recvResult with
  | .ok () => mode.migrate addr
  | .error _ => mode

namespace Endpoint

/-- `Endpoint::peer_connect_request`: check a peer's connect request relayed by
the broker. `respond` is the answer of `noise::respond` to its handshake. -/
def peerConnectRequest (cx : Codecs) (qstream : UInt32) (frame : List UInt8)
    (respond : Except Error (HandshakeResponder × Identity × UInt64)) :
    Except Error ConnectRequest := do
  let cr ← cx.decodePeerConnectRequest frame
  let identity ← cx.identityFromBytes cr.identity
  let _ ← EncryptedPacket.decode cr.handshake
  let (responder, id2, ts) ← respond
  if id2 ≠ identity ∨ ts ≠ cr.timestamp then throw .securityViolation
  pure { identity, responder, cr, qstream }

/-- One iteration of a shake: poll the handler of `streamId`; if it has
finished, drop it and close its stream on the engine. -/
def shakeStep (cx : Codecs) (polls : UInt32 → HandlerPoll) (acc : Endpoint × UdpChannel × Option Nat)
    (streamId : UInt32) : Except Panic (Endpoint × UdpChannel × Option Nat) := do
  let (chan, r) ← acc.2.1.pollHandler cx polls streamId
  match r with
  | .done => pure (acc.1.log (.engine chan.chan (.close streamId)),
      { chan with streams := chan.streams.erase streamId }, acc.2.2)
  | .again a2 => pure (acc.1, chan, merge acc.2.2 a2)
  | .panic p => throw p

/-- "shake every stream again": poll each handler of the channel once. -/
def shake (cx : Codecs) (ep : Endpoint) (chan : UdpChannel) (polls : UInt32 → HandlerPoll)
    (later : Option Nat) : Except Panic (Endpoint × UdpChannel × Option Nat) :=
  chan.streams.foldlM (shakeStep cx polls) (ep, chan, later)

/-- A relation between the accumulators of a shake that each of its steps bears,
and that composes, holds between its start and its end. -/
theorem foldlM_shakeStep_rel {polls : UInt32 → HandlerPoll}
    (R : Endpoint × UdpChannel × Option Nat → Endpoint × UdpChannel × Option Nat → Prop)
    (hrefl : ∀ a, R a a) (htrans : ∀ {a b c}, R a b → R b c → R a c)
    (hstep : ∀ {a b s}, shakeStep cx polls a s = .ok b → R a b) :
    ∀ {l : List UInt32} {a b}, l.foldlM (shakeStep cx polls) a = .ok b → R a b
  | [], _, _, h => by cases h; exact hrefl _
  | _ :: _, _, _, h => by
    obtain ⟨_, h₁, h⟩ := Except.bind_eq_ok.1 h
    exact htrans (hstep h₁) (foldlM_shakeStep_rel R hrefl htrans hstep h)

/-- `driver.a.set(Done(frame)); driver.f.wakeup_now()` when the stream has a
handler; otherwise the frame is dropped with a warning. -/
def deliver (ep : Endpoint) (chan : UdpChannel) (streamId : UInt32) (frame : List UInt8) : Endpoint :=
  if streamId ∈ chan.streams then ep.log (.deliver chan.chan streamId frame) else ep

@[simp] theorem deliver_brokerRoute (ep : Endpoint) (chan : UdpChannel) (s : UInt32) (f : List UInt8) :
    (ep.deliver chan s f).brokerRoute = ep.brokerRoute := by
  unfold deliver; split_ifs <;> rfl

@[simp] theorem deliver_outstandingConnectIncomming (ep : Endpoint) (chan : UdpChannel) (s : UInt32)
    (f : List UInt8) :
    (ep.deliver chan s f).outstandingConnectIncomming = ep.outstandingConnectIncomming := by
  unfold deliver; split_ifs <;> rfl

@[simp] theorem deliver_outstandingConnectOutgoing (ep : Endpoint) (chan : UdpChannel) (s : UInt32)
    (f : List UInt8) :
    (ep.deliver chan s f).outstandingConnectOutgoing = ep.outstandingConnectOutgoing := by
  unfold deliver; split_ifs <;> rfl

/-- `socket.send_to(pkt, addr)` for every address of the channel. -/
def sendPacket (ep : Endpoint) (chan : UdpChannel) (pkt : List UInt8) : Endpoint :=
  let targets := match chan.addrs with
    | .discovering addrs => addrs.keys
    | .established addr _ => [addr]
  targets.foldl (fun ep addr => ep.log (.sendTo pkt addr)) ep

/-- The `match r` of `poll`'s channel loop: what the endpoint does with one
answer of `progress()` from the channel `chan` at `route`. It returns the
endpoint, the channel and the pass, and the result `poll` returns with at once,
if any. -/
def dispatch (cx : Codecs) (ep : Endpoint) (route : RoutingKey) (chan : UdpChannel) (pass : Pass)
    (i : VisitInput) :
    ChannelProgress → Except Panic (Endpoint × UdpChannel × Pass × Option (Except Error Event))
  | .later dur => pure (ep, chan, { pass with later := merge pass.later (some dur) }, none)
  | .sendPacket pkt => pure (ep.sendPacket chan pkt, chan, { pass with again := true }, none)
  | .receiveHeader streamId frame =>
    match cx.decodeHeaders frame with
    | .error e => pure (ep, chan, pass, some (.error e))
    | .ok headers =>
      let pass := { pass with again := true }
      if route = ep.brokerRoute then
        if headers.path = some peerConnectPath then
          let ep := { ep with
            outstandingConnectIncomming := ep.outstandingConnectIncomming.insert streamId }
          pure (ep.log (.engine chan.chan (.stream streamId (.headers Headers.ok))), chan, pass, none)
        else
          pure (ep.log (.engine chan.chan (.stream streamId (.headers (Headers.withError 404 "not found")))),
            chan, pass, none)
      else if chan.newhandl then
        if i.factory then do
          let chan ← chan.dropHandler streamId
          pure (ep, { chan with streams := chan.streams.insert streamId }, pass, none)
        else pure (ep.log (.engine chan.chan (.close streamId)), chan, pass, none)
      else pure (ep, chan, pass, none)
  | .receiveStream streamId frame =>
    let pass := { pass with again := true }
    let removed := route = ep.brokerRoute ∧ streamId ∈ ep.outstandingConnectIncomming
    let ep := if route = ep.brokerRoute then
        { ep with outstandingConnectIncomming := ep.outstandingConnectIncomming.erase streamId }
      else ep
    if removed ∧ ep.publishSecret.isSome then
      match peerConnectRequest cx streamId frame i.respond with
      | .ok q => pure (ep, chan, pass, some (.ok (.incommingConnect q)))
      | .error _ =>
        let ep := ep.log (.engine chan.chan (.stream streamId
          (.peerConnectResponse { ok := false, handshake := [], paths := [] })))
        pure (ep.log (.engine chan.chan (.close streamId)), chan, pass, none)
    else if route = ep.brokerRoute then
      match ep.outstandingConnectOutgoing.lookup streamId with
      | some (.waitingForHeaders identity noise) => do
        let _ ← unwrapResult (cx.decodeHeaders frame)
        let outgoing := ep.outstandingConnectOutgoing.erase streamId
        pure ({ ep with outstandingConnectOutgoing :=
          outgoing.insert streamId (.waitingForResponse identity noise) }, chan, pass, none)
      | some (.waitingForResponse identity noise) => do
        let cr ← unwrapResult (cx.decodeConnectResponse frame)
        let ep := { ep with
          outstandingConnectOutgoing := ep.outstandingConnectOutgoing.erase streamId }
        pure (ep.log (.engine chan.chan (.close streamId)), chan, pass,
          some (.ok (.outgoingConnect { identity, requester := some noise, cr := some cr })))
      | none => pure (ep.deliver chan streamId frame, chan.fillInbox streamId frame, pass, none)
    else pure (ep.deliver chan streamId frame, chan.fillInbox streamId frame, pass, none)
  | .close streamId => do
    let chan ← chan.dropHandler streamId
    let chan := { chan with streams := chan.streams.erase streamId }
    let pass := { pass with again := true }
    if route = ep.brokerRoute then
      match ep.outstandingConnectOutgoing.lookup streamId with
      | some st =>
        pure ({ ep with outstandingConnectOutgoing := ep.outstandingConnectOutgoing.erase streamId },
          chan, pass, some (.ok (.outgoingConnect { identity := st.identity, cr := none, requester := none })))
      | none => pure (ep, chan, pass, none)
    else pure (ep, chan, pass, none)
  | .disconnect => pure (ep, chan, { pass with killme := pass.killme ++ [route] }, none)

/-- One iteration of `poll`'s channel loop, for the channel `chan` at `route`:
shake its handlers, ask its engine for progress, act on the answer and shake
the handlers again. The channel is written back into the map, also when `poll`
returns early. -/
def visit (cx : Codecs) (ep : Endpoint) (route : RoutingKey) (chan : UdpChannel) (pass : Pass)
    (i : VisitInput) : Except Panic (Endpoint × Pass × Option (Except Error Event)) := do
  let (ep, chan, later) ← ep.shake cx chan i.shake pass.later
  let pass := { pass with later }
  let ep := ep.log (.engine chan.chan .progress)
  match i.progress with
  | .error e => pure (ep.setChannel route chan, pass, some (.error e))
  | .ok p =>
    let (ep, chan, pass, ret) ← ep.dispatch cx route chan pass i p
    match ret with
    | some r => pure (ep.setChannel route chan, pass, some r)
    | none =>
      let (ep, chan, later) ← ep.shake cx chan i.shakeAgain pass.later
      pure (ep.setChannel route chan, { pass with later }, none)

/-- `for killme in killme { .. }` after a pass: remove the channels whose engine
disconnected, and return at the first one that was still in the map, which is
dropped with its handlers. -/
def removeKilled (ep : Endpoint) : List RoutingKey → Except Panic (Endpoint × Option Event)
  | [] => pure (ep, none)
  | k :: ks =>
    match ep.channels.lookup k with
    | some rm => do
      rm.drop
      pure ({ ep with channels := ep.channels.erase k }, some (.disconnect k rm.identity))
    | none => removeKilled { ep with channels := ep.channels.erase k } ks

/-- The first half of `poll`: receive at most one datagram, count it for path
discovery and hand it to the engine of its channel, whose `recv` answers
`recvResult`. It returns the error `poll` returns with when the socket failed. -/
def receive (ep : Endpoint) (datagram : Except IoErrorKind (List UInt8 × SocketAddr))
    (recvResult : Except Error Unit) : Except Panic (Endpoint × Option Error) :=
  match datagram with
  | .error k => pure (ep, if k ≠ .wouldBlock then some (.io k) else none)
  | .ok (bytes, addr) =>
    match EncryptedPacket.decode bytes with
    | .error _ => pure (ep, none)
    | .ok pkt =>
      match ep.channels.lookup pkt.route with
      | none => pure (ep, none)
      | some chan => do
        let addrs ← chan.addrs.receive addr
        let ep := ep.log (.engine chan.chan (.recv pkt))
        pure (ep.setChannel pkt.route { chan with addrs := addrs.afterRecv recvResult addr }, none)

end Endpoint

end Carrier
