import Carrier.Endpoint.Frame

/-!
# What each operation does to the pending connects

The endpoint keeps two sets of pending connects: the broker streams on which a
peer's connect request is awaited (`outstanding_connect_incomming`) and the
broker streams of its own connects (`outstanding_connect_outgoing`). Only
`connect` and the channel loop of `poll` change them. This module says so
operation by operation, and then what one answer of the broker engine does to
the entry of one stream.
-/

namespace Carrier

variable {cx : Codecs} {ep ep' : Endpoint} {s s' : Sys} {op : Op} {rep : Reply}

namespace Endpoint

/-- `ep'` has the broker route and both sets of pending connects of `ep`. -/
def KeepsConnects (ep ep' : Endpoint) : Prop :=
  ep'.brokerRoute = ep.brokerRoute ∧
  ep'.outstandingConnectIncomming = ep.outstandingConnectIncomming ∧
  ep'.outstandingConnectOutgoing = ep.outstandingConnectOutgoing

theorem KeepsConnects.refl (ep : Endpoint) : KeepsConnects ep ep := ⟨rfl, rfl, rfl⟩

theorem KeepsConnects.trans {a b c : Endpoint} (h₁ : KeepsConnects a b) (h₂ : KeepsConnects b c) :
    KeepsConnects a c :=
  ⟨h₂.1.trans h₁.1, h₂.2.1.trans h₁.2.1, h₂.2.2.trans h₁.2.2⟩

theorem stream_connects {r : RoutingKey} {s : UInt32} {m : Payload}
    (h : ep.stream r s m = .ok ep') : KeepsConnects ep ep' := by
  obtain ⟨_, -, rfl⟩ := stream_eq_ok.1 h
  exact .refl ep

theorem openHandler_connects {r : RoutingKey} {hs : Headers} {s : UInt32}
    {sends : List Payload} {pub : Option Publisher} (h : ep.openHandler r hs s sends pub = .ok ep') :
    KeepsConnects ep ep' := by
  obtain ⟨_, _, _, -, rfl⟩ := openHandler_eq_ok h
  exact .refl ep

theorem open_connects {r : RoutingKey} {hs : Headers} {s : UInt32}
    {sends : List Payload} (h : ep.open r hs s sends = .ok ep') : KeepsConnects ep ep' :=
  openHandler_connects h

theorem publish_connects {shadow : List UInt8} {i : PublishInput}
    (h : ep.publish shadow i = .ok ep') : KeepsConnects ep ep' := by
  unfold publish at h
  dsimp only at h
  split_ifs at h <;> have := openHandler_connects h <;> exact this

theorem acceptIncomming_connects {q : ConnectRequest}
    {i : AcceptIncommingInput} (h : ep.acceptIncomming cx q i = .ok ep') : KeepsConnects ep ep' := by
  obtain ⟨pkt, -, h⟩ := Except.bind_eq_ok.1 h
  obtain ⟨paths, -, h⟩ := Except.bind_eq_ok.1 h
  obtain ⟨_, -, h⟩ := Except.bind_eq_ok.1 h
  have := stream_connects h
  exact this

theorem acceptOutgoing_connects {q : ConnectResponse}
    {i : AcceptOutgoingInput} {r : Except Error RoutingKey}
    (h : ep.acceptOutgoing cx q i = .ok (ep', r)) : KeepsConnects ep ep' := by
  rcases acceptOutgoing_eq_ok h with rfl | ⟨cr, paths, -, -, rfl, -⟩
  exacts [.refl _, .refl _]

theorem receive_connects {dg : Except IoErrorKind (List UInt8 × SocketAddr)}
    {rr : Except Error Unit} {e : Option Error} (h : ep.receive dg rr = .ok (ep', e)) :
    KeepsConnects ep ep' := by
  rcases receive_frame h with ⟨es, rfl⟩ | ⟨-, -, -, -, -, -, -, -, -, rfl⟩ <;> exact .refl ep

theorem removeKilled_connects {ks : List RoutingKey} {ev : Option Event}
    (h : ep.removeKilled ks = .ok (ep', ev)) : KeepsConnects ep ep' := by
  obtain ⟨_, rfl⟩ := removeKilled_eq_ok h
  exact .refl ep

/-- The event `poll` returns after its pass is a `Disconnect` of a removed channel. -/
theorem removeKilled_event {ks : List RoutingKey} {e : Event}
    (h : ep.removeKilled ks = .ok (ep', some e)) : ∃ r identity, e = .disconnect r identity := by
  induction ks generalizing ep with
  | nil => cases h
  | cons k ks ih =>
    unfold removeKilled at h
    split at h
    · obtain ⟨_, -, h⟩ := Except.bind_eq_ok.1 h
      cases h
      exact ⟨_, _, rfl⟩
    · exact ih h

/-- `connect` registers its new broker stream as waiting for headers, or fails
and changes nothing. -/
theorem connect_eq_ok {t : Identity} {i : ConnectInput}
    {r : Except Error Unit} (h : ep.connect cx t i = .ok (ep', r)) :
    (∃ e, i.initiate = .error e ∧ r = .error e ∧ ep' = ep) ∨
    (∃ noise pkt, i.initiate = .ok (noise, pkt) ∧ r = .ok () ∧
      ep'.brokerRoute = ep.brokerRoute ∧
      ep'.outstandingConnectIncomming = ep.outstandingConnectIncomming ∧
      ep'.outstandingConnectOutgoing =
        ep.outstandingConnectOutgoing.insert i.streamId (.waitingForHeaders t noise)) := by
  unfold connect at h
  split at h
  · cases h; exact .inl ⟨_, ‹_›, rfl, rfl⟩
  · obtain ⟨chan, -, h⟩ := Except.bind_eq_ok.1 h
    cases h
    exact .inr ⟨_, _, ‹_›, rfl, rfl, rfl, rfl⟩

/-- A visit acts on the engine's answer with `dispatch`, between two shakes that
change neither the connects nor the result and only add to the log; the first
keeps the publish secret as well. -/
theorem visit_eq_ok {r : RoutingKey} {chan : UdpChannel}
    {pass pass' : Pass} {i : VisitInput} {ret : Option (Except Error Event)}
    (h : ep.visit cx r chan pass i = .ok (ep', pass', ret)) :
    (∃ e, i.progress = .error e ∧ ret = some (.error e) ∧ KeepsConnects ep ep') ∨
    ∃ p ep₁ chan₁ pass₁ ep₂ chan₂ pass₂, i.progress = .ok p ∧ KeepsConnects ep ep₁ ∧
      chan₁.chan = chan.chan ∧ ep₁.dispatch cx r chan₁ pass₁ i p = .ok (ep₂, chan₂, pass₂, ret) ∧
      KeepsConnects ep₂ ep' ∧ ep₂.effects <+: ep'.effects ∧ ep₁.publishSecret = ep.publishSecret := by
  unfold visit at h
  obtain ⟨⟨ep₁, chan₁, later₁⟩, hs, h⟩ := Except.bind_eq_ok.1 h
  obtain ⟨es₁, ss₁, ps₁, rfl, rfl⟩ := shake_frame hs
  dsimp only at h
  split at h
  · cases h; exact .inl ⟨_, ‹_›, rfl, .refl ep⟩
  · obtain ⟨⟨ep₂, chan₂, pass₂, ret₂⟩, hd, h⟩ := Except.bind_eq_ok.1 h
    dsimp only at h
    rcases ret₂ with _ | r₂
    · obtain ⟨⟨ep₃, chan₃, later₃⟩, hs', h⟩ := Except.bind_eq_ok.1 h
      obtain ⟨es₃, ss₃, ps₃, rfl, rfl⟩ := shake_frame hs'
      cases h
      refine .inr ⟨_, _, _, _, _, _, _, ‹_›, ?_, ?_, hd, .refl _, List.prefix_append _ _, rfl⟩
      exacts [⟨rfl, rfl, rfl⟩, rfl]
    · cases h
      refine .inr ⟨_, _, _, _, _, _, _, ‹_›, ?_, ?_, hd, .refl _, List.prefix_refl _, rfl⟩
      exacts [⟨rfl, rfl, rfl⟩, rfl]
end Endpoint

open Endpoint

/-- `op` is the broker engine announcing `s` as a stream a peer opened: a
`ReceiveHeader` for `s` whose headers carry the `/peer/connect` path. -/
def Announces (cx : Codecs) (brokerRoute : RoutingKey) (s : UInt32) : Op → Prop
  | .visit i => i.route = brokerRoute ∧ ∃ f h, i.progress = .ok (.receiveHeader s f) ∧
      cx.decodeHeaders f = .ok h ∧ h.path = some peerConnectPath
  | _ => False

/-- No step moves the broker route, and only the channel loop touches the
incoming set. -/
theorem step_keeps_broker
    (h : step cx s op = some (s', rep)) :
    s'.ep.brokerRoute = s.ep.brokerRoute ∧
      ((∀ i, op ≠ .visit i) → s'.ep.outstandingConnectIncomming = s.ep.outstandingConnectIncomming) := by
  rcases step_cases h with ⟨p, he, -⟩ | ⟨-, -, hc⟩ | ⟨dg, rr, e, rfl, -, hr, -⟩ |
    ⟨i, pass, chan, pass', ret, rfl, -, -, -, hv, -⟩ | ⟨pass, ev, rfl, -, -, hk, -⟩
  · rw [he]; exact ⟨rfl, fun _ => rfl⟩
  · have := hc.rel (fun a b => b.brokerRoute = a.brokerRoute ∧
        b.outstandingConnectIncomming = a.outstandingConnectIncomming)
      (fun h => (connect_eq_ok h).elim (fun ⟨_, _, _, he⟩ => he ▸ ⟨rfl, rfl⟩) fun ⟨_, _, _, _, hb, hi, _⟩ => ⟨hb, hi⟩)
      (fun h => (open_connects h).imp_right And.left) (fun h => (stream_connects h).imp_right And.left)
      (fun h => (publish_connects h).imp_right And.left)
      (fun h => (acceptIncomming_connects h).imp_right And.left)
      fun h => (acceptOutgoing_connects h).imp_right And.left
    exact ⟨this.1, fun _ => this.2⟩
  · exact ⟨(receive_connects hr).1, fun _ => (receive_connects hr).2.1⟩
  · obtain ⟨_, _, _, _, _, he⟩ := visit_frame hv
    rw [he]
    exact ⟨rfl, fun h => absurd rfl (h i)⟩
  · have := removeKilled_connects hk
    exact ⟨this.1, fun _ => this.2.1⟩

end Carrier
