import Carrier.Endpoint.Frame

/-!
# What goes through the socket

An endpoint shares one UDP socket among all its channels, and only `poll` uses
it. The datagram half reads at most one datagram and hands it to the engine of
the channel at the routing key `decode` read from it, a key whose direction bit
is clear. The channel loop sends only when the engine of the channel it visits
answers `SendPacket(pkt)`, and then sends `pkt` to the addresses of that channel
alone: the settled one, or each candidate while path discovery runs. Every other
operation talks to engines and never to the socket.

The sends are read off the effect log: `Endpoint.sent` lists the datagrams a
step sent, in order.
-/

namespace Carrier

variable {cx : Codecs} {ep ep' : Endpoint} {σ σ' : Sys} {op : Op} {rep : Reply}

/-- The datagram an effect puts on the socket, if any. -/
def Effect.sent : Effect → Option (List UInt8 × SocketAddr)
  | .sendTo pkt addr => some (pkt, addr)
  | _ => none

/-- The addresses the channel loop sends a channel's packets to: every candidate
while discovering, the settled address once established. -/
def AddressMode.targets : AddressMode → List SocketAddr
  | .discovering addrs => addrs.keys
  | .established addr _ => [addr]

open Endpoint

/-! ### The datagram half of `poll` -/

namespace Endpoint

/-- The datagram half of `poll` calls at most one engine, that of the channel
at the key `decode` read from the datagram, and logs nothing else. -/
theorem receive_effects {dg : Except IoErrorKind (List UInt8 × SocketAddr)}
    {rr : Except Error Unit} {e : Option Error} (h : ep.receive dg rr = .ok (ep', e)) :
    ep'.effects = ep.effects ∨ ∃ bytes addr pkt chan, dg = .ok (bytes, addr) ∧
      EncryptedPacket.decode bytes = .ok pkt ∧ ep.channels.lookup pkt.route = some chan ∧
      ep'.effects = ep.effects ++ [.engine chan.chan (.recv pkt)] := by
  unfold receive at h
  split at h
  · cases h; exact .inl rfl
  · split at h
    · cases h; exact .inl rfl
    · rename_i pkt hpkt
      split at h
      · cases h; exact .inl rfl
      · rename_i chan hchan
        obtain ⟨m, -, h⟩ := Except.bind_eq_ok.1 h
        cases h
        exact .inr ⟨_, _, pkt, chan, rfl, hpkt, hchan, rfl⟩

end Endpoint

/-- A receive step hands the datagram to one engine at most: that of the
channel at the key `decode` read, which is even, since `decode` clears the
direction bit. A channel at an odd key never receives a datagram. -/
theorem receive_routed {dg : Except IoErrorKind (List UInt8 × SocketAddr)}
    {rr : Except Error Unit} (h : step cx σ (.receive dg rr) = some (σ', rep)) :
    σ'.ep.effects = [] ∨ ∃ bytes addr pkt chan, dg = .ok (bytes, addr) ∧
      EncryptedPacket.decode bytes = .ok pkt ∧ pkt.route.toNat % 2 = 0 ∧
      σ.ep.channels.lookup pkt.route = some chan ∧ σ'.ep.effects = [.engine chan.chan (.recv pkt)] := by
  rcases step_cases h with ⟨p, he, -⟩ | ⟨-, -, hc⟩ | ⟨dg', rr', e, hop, -, hr, -⟩ |
    ⟨_, _, _, _, _, hop, -⟩ | ⟨_, _, hop, -⟩
  · exact .inl (by rw [he]; rfl)
  · exact hc.elim
  · cases hop
    rcases receive_effects hr with he | ⟨bytes, addr, pkt, chan, hdg, hpkt, hchan, he⟩
    · exact .inl he
    · exact .inr ⟨bytes, addr, pkt, chan, hdg, hpkt, EncryptedPacket.decode_route_even hpkt, hchan, he⟩
  · cases hop
  · cases hop

/-- A datagram whose last route byte carries the direction bit reaches the
broker channel at the even key 2. -/
theorem receive_routed_broker :
    ∃ σ' rep, step Codecs.sample (Sys.init 2 ⟨[1]⟩ ⟨[10, 0, 0, 1], 4000⟩)
      (.receive (.ok ([8, 0xff, 0xff, 0xff, 0, 0, 0, 0, 0, 0, 0, 3] ++ List.replicate 8 0,
        ⟨[10, 0, 0, 1], 4000⟩)) (.ok ())) = some (σ', rep) ∧
      (σ'.ep.effects = [] ∨ ∃ bytes addr pkt chan,
        (Except.ok ([8, 0xff, 0xff, 0xff, 0, 0, 0, 0, 0, 0, 0, 3] ++ List.replicate 8 0,
          ⟨[10, 0, 0, 1], 4000⟩) : Except IoErrorKind (List UInt8 × SocketAddr)) = .ok (bytes, addr) ∧
        EncryptedPacket.decode bytes = .ok pkt ∧ pkt.route.toNat % 2 = 0 ∧
        (Sys.init 2 ⟨[1]⟩ ⟨[10, 0, 0, 1], 4000⟩).ep.channels.lookup pkt.route = some chan ∧
        σ'.ep.effects = [.engine chan.chan (.recv pkt)]) :=
  have h : step Codecs.sample (Sys.init 2 ⟨[1]⟩ ⟨[10, 0, 0, 1], 4000⟩)
      (.receive (.ok ([8, 0xff, 0xff, 0xff, 0, 0, 0, 0, 0, 0, 0, 3] ++ List.replicate 8 0,
        ⟨[10, 0, 0, 1], 4000⟩)) (.ok ())) = some (_, _) := rfl
  ⟨_, _, h, receive_routed h⟩

/-! ### The datagrams the endpoint sends -/

namespace Endpoint

/-- The datagrams sent since the step began, in order. -/
def sent (ep : Endpoint) : List (List UInt8 × SocketAddr) := ep.effects.filterMap Effect.sent

@[simp] theorem sent_log_engine (ep : Endpoint) (c : Nat) (call : EngineCall) :
    (ep.log (.engine c call)).sent = ep.sent := by
  simp [sent, log, Effect.sent]

@[simp] theorem sent_setChannel (ep : Endpoint) (r : RoutingKey) (c : UdpChannel) :
    (ep.setChannel r c).sent = ep.sent := rfl

@[simp] theorem sent_deliver (ep : Endpoint) (chan : UdpChannel) (s : UInt32) (f : List UInt8) :
    (ep.deliver chan s f).sent = ep.sent := by
  unfold deliver; split_ifs <;> simp [sent, log, Effect.sent]

theorem sent_foldl_log_engine {α : Type} (l : List α) (c : Nat) (f : α → EngineCall) (ep : Endpoint) :
    (l.foldl (fun ep a => ep.log (.engine c (f a))) ep).sent = ep.sent := by
  induction l generalizing ep with
  | nil => rfl
  | cons a l ih => rw [List.foldl_cons, ih, sent_log_engine]

theorem sendPacket_sent (ep : Endpoint) (chan : UdpChannel) (pkt : List UInt8) :
    (ep.sendPacket chan pkt).sent = ep.sent ++ chan.addrs.targets.map (pkt, ·) := by
  have hcomp : Effect.sent ∘ (fun addr => Effect.sendTo pkt addr) = some ∘ (pkt, ·) := rfl
  unfold sendPacket
  cases chan.addrs <;> simp only [foldl_log, sent, AddressMode.targets, List.filterMap_append,
    List.filterMap_map, hcomp, List.filterMap_eq_map]

theorem stream_sent {r : RoutingKey} {s : UInt32} {m : Payload}
    (h : ep.stream r s m = .ok ep') : ep'.sent = ep.sent := by
  obtain ⟨_, -, rfl⟩ := stream_eq_ok.1 h
  exact sent_log_engine ..

theorem openHandler_sent {r : RoutingKey} {hs : Headers} {s : UInt32}
    {sends : List Payload} {pub : Option Publisher} (h : ep.openHandler r hs s sends pub = .ok ep') :
    ep'.sent = ep.sent := by
  obtain ⟨_, _, _, -, rfl⟩ := openHandler_eq_ok h
  simp [sent, Effect.sent, Function.comp_def]

theorem open_sent {r : RoutingKey} {hs : Headers} {s : UInt32}
    {sends : List Payload} (h : ep.open r hs s sends = .ok ep') : ep'.sent = ep.sent :=
  openHandler_sent h

theorem publish_sent {shadow : List UInt8} {i : PublishInput}
    (h : ep.publish shadow i = .ok ep') : ep'.sent = ep.sent := by
  unfold publish at h
  split at h <;> have := openHandler_sent h <;> exact this

theorem connect_sent {t : Identity} {i : ConnectInput}
    {r : Except Error Unit} (h : ep.connect cx t i = .ok (ep', r)) : ep'.sent = ep.sent := by
  unfold connect at h
  split at h
  · cases h; rfl
  · obtain ⟨chan, -, h⟩ := Except.bind_eq_ok.1 h
    cases h
    simp [sent, log, Effect.sent]

theorem acceptIncomming_sent {q : ConnectRequest}
    {i : AcceptIncommingInput} (h : ep.acceptIncomming cx q i = .ok ep') : ep'.sent = ep.sent := by
  unfold acceptIncomming at h
  obtain ⟨_, -, h⟩ := Except.bind_eq_ok.1 h
  obtain ⟨_, -, h⟩ := Except.bind_eq_ok.1 h
  obtain ⟨_, -, h⟩ := Except.bind_eq_ok.1 h
  have := stream_sent h
  exact this

theorem acceptOutgoing_sent {q : ConnectResponse}
    {i : AcceptOutgoingInput} {r : Except Error RoutingKey} (h : ep.acceptOutgoing cx q i = .ok (ep', r)) :
    ep'.sent = ep.sent := by
  rcases acceptOutgoing_eq_ok h with rfl | ⟨_, _, -, -, rfl, -⟩ <;> rfl

/-- No public call sends a datagram. -/
theorem call_sent
    (h : CallResult cx ep op ep' rep) : ep'.sent = ep.sent :=
  h.rel (fun a b => b.sent = a.sent) connect_sent open_sent stream_sent publish_sent
    acceptIncomming_sent acceptOutgoing_sent

theorem receive_sent {dg : Except IoErrorKind (List UInt8 × SocketAddr)}
    {rr : Except Error Unit} {e : Option Error} (h : ep.receive dg rr = .ok (ep', e)) :
    ep'.sent = ep.sent := by
  rcases receive_effects h with he | ⟨_, _, _, _, -, -, -, he⟩ <;>
    simp [sent, he, Effect.sent]

theorem shakeStep_sent {polls : UInt32 → HandlerPoll}
    {acc acc' : Endpoint × UdpChannel × Option Nat} {s : UInt32}
    (h : shakeStep cx polls acc s = .ok acc') : acc'.1.sent = acc.1.sent := by
  obtain ⟨⟨chan, r⟩, -, h⟩ := Except.bind_eq_ok.1 h
  dsimp only at h
  split at h <;> cases h <;> simp

theorem shake_sent {chan chan' : UdpChannel}
    {polls : UInt32 → HandlerPoll} {later later' : Option Nat}
    (h : ep.shake cx chan polls later = .ok (ep', chan', later')) : ep'.sent = ep.sent :=
  foldlM_shakeStep_rel (fun a b => b.1.sent = a.1.sent) (fun _ => rfl) (fun h₁ h₂ => h₂.trans h₁)
    shakeStep_sent h

/-- Of the answers of `progress()`, only `SendPacket(pkt)` sends, and it sends
`pkt` to each address of the channel. -/
theorem dispatch_sent {r : RoutingKey} {chan chan' : UdpChannel}
    {pass pass' : Pass} {i : VisitInput} {p : ChannelProgress} {ret : Option (Except Error Event)}
    (h : ep.dispatch cx r chan pass i p = .ok (ep', chan', pass', ret)) :
    ep'.sent = ep.sent ∨ ∃ pkt, p = .sendPacket pkt ∧
      ep'.sent = ep.sent ++ chan.addrs.targets.map (pkt, ·) := by
  cases p <;> simp only [dispatch] at h <;> (repeat' split at h)
  all_goals (try obtain ⟨_, -, h⟩ := Except.bind_eq_ok.1 h)
  all_goals cases h
  all_goals first
    | exact .inr ⟨_, rfl, sendPacket_sent ..⟩
    | exact .inl rfl
    | exact .inl (by simp only [sent_log_engine, sent_deliver] <;> rfl)

/-- A visit sends only when the engine answered `SendPacket(pkt)`, and then
sends `pkt` to each address of the visited channel. -/
theorem visit_sent {r : RoutingKey} {chan : UdpChannel}
    {pass pass' : Pass} {i : VisitInput} {ret : Option (Except Error Event)}
    (h : ep.visit cx r chan pass i = .ok (ep', pass', ret)) :
    ep'.sent = ep.sent ∨ ∃ pkt, i.progress = .ok (.sendPacket pkt) ∧
      ep'.sent = ep.sent ++ chan.addrs.targets.map (pkt, ·) := by
  unfold visit at h
  obtain ⟨⟨ep₁, chan₁, later₁⟩, hs, h⟩ := Except.bind_eq_ok.1 h
  have hs₁ := shake_sent hs
  obtain ⟨-, ss₁, ps₁, -, rfl⟩ := shake_frame hs
  dsimp only at h
  split at h
  · cases h; exact .inl (by simpa using hs₁)
  · rename_i p hp
    obtain ⟨⟨ep₂, chan₂, pass₂, ret₂⟩, hd, h⟩ := Except.bind_eq_ok.1 h
    have he : ep'.sent = ep₂.sent := by
      dsimp only at h
      split at h
      · cases h
        rfl
      · obtain ⟨_, hs', h⟩ := Except.bind_eq_ok.1 h
        cases h
        have := shake_sent hs'
        exact this
    rw [he]
    rcases dispatch_sent hd with h₂ | ⟨pkt, rfl, h₂⟩
    · exact .inl (by rw [h₂, sent_log_engine, hs₁])
    · exact .inr ⟨pkt, hp, by rw [h₂, sent_log_engine, hs₁]⟩

theorem removeKilled_sent {ks : List RoutingKey} {ev : Option Event}
    (h : ep.removeKilled ks = .ok (ep', ev)) : ep'.sent = ep.sent := by
  obtain ⟨_, rfl⟩ := removeKilled_eq_ok h
  rfl

end Endpoint

/-- A step sends datagrams only when it visits a channel whose engine answered
`SendPacket(pkt)`: it then sends `pkt` once to each address of that channel,
its settled address or every candidate while it discovers, and nothing else. -/
theorem step_sends
    (h : step cx σ op = some (σ', rep)) :
    σ'.ep.sent = [] ∨ ∃ i ch pkt, op = .visit i ∧ σ.ep.channels.lookup i.route = some ch ∧
      i.progress = .ok (.sendPacket pkt) ∧ σ'.ep.sent = ch.addrs.targets.map (pkt, ·) := by
  rcases step_cases h with ⟨p, he, -⟩ | ⟨-, -, hc⟩ | ⟨dg, rr, e, -, -, hr, -⟩ |
    ⟨i, pass, chan, pass', ret, rfl, -, -, hl, hv, -⟩ | ⟨pass, ev, -, -, -, hk, -⟩
  · exact .inl (by rw [he]; rfl)
  · exact .inl (call_sent hc)
  · exact .inl (receive_sent hr)
  · rcases visit_sent hv with he | ⟨pkt, hp, he⟩
    · exact .inl he
    · exact .inr ⟨i, chan, pkt, rfl, hl, hp, he⟩
  · exact .inl (removeKilled_sent hk)

/-- In the first pass of `poll` from `Endpoint::new`, a broker engine with a
packet to send has it sent to the broker's address. -/
theorem step_sends_broker :
    ∃ σ' rep, step Codecs.sample ⟨(Sys.init 1 ⟨[1]⟩ ⟨[10, 0, 0, 1], 4000⟩).ep.begin,
      .polling (Pass.start (Sys.init 1 ⟨[1]⟩ ⟨[10, 0, 0, 1], 4000⟩).ep.begin (some 600000))⟩
      (.visit (.answer 1 (.sendPacket [7]))) = some (σ', rep) ∧
    (σ'.ep.sent = [] ∨ ∃ i ch pkt, Op.visit (.answer 1 (.sendPacket [7])) = .visit i ∧
      (Sys.init 1 ⟨[1]⟩ ⟨[10, 0, 0, 1], 4000⟩).ep.begin.channels.lookup i.route = some ch ∧
      i.progress = .ok (.sendPacket pkt) ∧ σ'.ep.sent = ch.addrs.targets.map (pkt, ·)) :=
  have h : step Codecs.sample ⟨(Sys.init 1 ⟨[1]⟩ ⟨[10, 0, 0, 1], 4000⟩).ep.begin,
      .polling (Pass.start (Sys.init 1 ⟨[1]⟩ ⟨[10, 0, 0, 1], 4000⟩).ep.begin (some 600000))⟩
      (.visit (.answer 1 (.sendPacket [7]))) = some (_, _) := rfl
  have hs := step_sends h
  ⟨_, _, h, hs⟩

end Carrier
