import Carrier.Endpoint.Connects

/-!
# The incoming connect set

`poll` adds a broker stream to `outstanding_connect_incomming` when the broker
engine delivers headers for it with the `/carrier.broker.v1/peer/connect` path,
and takes it out again at the next frame of that stream on the broker channel,
the one that carries the peer's request. No other step touches the set: a
`Close` of the stream and the broker channel's `Disconnect` leave it as it is.

Over a whole run the set is therefore exactly the announced streams whose
request frame has not been processed since. That a close or a disconnect does
not clear an entry is shown on a run of the model.

The request frame of an announced stream becomes `Event::IncommingConnect` only
when the endpoint has a publish secret, which only `publish` sets, and only when
`peer_connect_request` accepts it: the request, the peer's identity and the
handshake decode, and the handshake names the request's identity and timestamp.
Over a run from `Endpoint::new`, an incoming connect is therefore reported only
after a `publish` returned and the broker announced the stream.
-/

namespace Carrier

open Endpoint

variable {cx : Codecs} {ep ep' : Endpoint} {σ σ' : Sys} {op : Op} {rep : Reply}

/-- Entry `x` of a run processed a frame of stream `t` on the broker channel. -/
def Takes (brokerRoute : RoutingKey) (t : UInt32) (x : Op × Reply × Sys) : Prop :=
  (∀ p, x.2.2.ctl ≠ .panicked p) ∧
    ∃ i f, x.1 = .visit i ∧ i.route = brokerRoute ∧ i.progress = .ok (.receiveStream t f)

/-- Entry `x` of a run processed the broker's announcement of stream `t`. -/
def Enters (cx : Codecs) (brokerRoute : RoutingKey) (t : UInt32) (x : Op × Reply × Sys) : Prop :=
  (∀ p, x.2.2.ctl ≠ .panicked p) ∧ Announces cx brokerRoute t x.1

theorem Announces.visit {b : RoutingKey} {t : UInt32}
    (h : Announces cx b t op) : ∃ i, op = .visit i := by
  cases op
  case visit i => exact ⟨i, rfl⟩
  all_goals exact h.elim

theorem not_takes_of_ne {b : RoutingKey} {t : UInt32} {x : Op × Reply × Sys}
    (hx : ∀ i, x.1 ≠ .visit i) : ¬ Takes b t x :=
  fun ⟨_, i, _, hi, _⟩ => hx i hi

theorem not_enters_of_ne {b : RoutingKey} {t : UInt32} {x : Op × Reply × Sys}
    (hx : ∀ i, x.1 ≠ .visit i) : ¬ Enters cx b t x :=
  fun ⟨_, ha⟩ => let ⟨i, hi⟩ := ha.visit; hx i hi

/-- What one answer of an engine does to the incoming set: the broker's
announcement of `t` adds it, a frame of `t` on the broker channel removes it,
and every other answer keeps it. -/
theorem dispatch_incomming {r : RoutingKey} {chan chan' : UdpChannel}
    {pass pass' : Pass} {i : VisitInput} {p : ChannelProgress} {ret : Option (Except Error Event)}
    (h : ep.dispatch cx r chan pass i p = .ok (ep', chan', pass', ret))
    (hnd : ep.outstandingConnectIncomming.Nodup) (t : UInt32) :
    ep'.outstandingConnectIncomming.Nodup ∧
    (t ∈ ep'.outstandingConnectIncomming ↔
      t ∈ ep.outstandingConnectIncomming ∧ ¬ (r = ep.brokerRoute ∧ ∃ f, p = .receiveStream t f) ∨
      r = ep.brokerRoute ∧ ∃ f hd, p = .receiveHeader t f ∧ cx.decodeHeaders f = .ok hd ∧
        hd.path = some peerConnectPath) := by
  cases p <;> simp only [dispatch] at h <;> (repeat' split at h)
  all_goals (try obtain ⟨_, -, h⟩ := Except.bind_eq_ok.1 h)
  all_goals cases h
  all_goals try simp only [sendPacket, foldl_log, deliver_outstandingConnectIncomming,
    log_outstandingConnectIncomming] at *
  all_goals first
    | exact ⟨hnd, by simp_all⟩
    | exact ⟨hnd.insert, by simp_all [List.mem_insert_iff, and_assoc, @eq_comm _ t, or_comm]⟩
    | exact ⟨hnd.erase _, by simp_all [hnd.mem_erase_iff, and_comm, @eq_comm _ t]⟩

/-- What one step does to the incoming set. -/
theorem step_incomming
    (h : step cx σ op = some (σ', rep)) (hnd : σ.ep.outstandingConnectIncomming.Nodup) (t : UInt32) :
    σ'.ep.outstandingConnectIncomming.Nodup ∧
    (t ∈ σ'.ep.outstandingConnectIncomming ↔
      t ∈ σ.ep.outstandingConnectIncomming ∧ ¬ Takes σ.ep.brokerRoute t (op, rep, σ') ∨
      Enters cx σ.ep.brokerRoute t (op, rep, σ')) := by
  cases op
  case visit i =>
    rcases step_cases h with ⟨p, he, hc, -⟩ | ⟨-, -, ⟨⟩⟩ | ⟨_, _, _, ⟨⟩, -⟩ |
      ⟨i', pass, chan, pass', ret, hi, -, -, -, hv, hret⟩ | ⟨_, _, ⟨⟩, -⟩
    · rw [he]
      simp [Takes, Enters, hc, hnd]
    · cases hi
      have hctl : ∀ p, σ'.ctl ≠ .panicked p := by
        rcases hret with ⟨-, hc, -⟩ | ⟨-, -, hc, -⟩ <;> simp [hc]
      rcases visit_eq_ok hv with ⟨e, hp, -, hk⟩ |
        ⟨p, ep₁, chan₁, pass₁, ep₂, chan₂, pass₂, hp, hk₁, -, hd, hk₂, -⟩
      · rw [hk.2.1]
        simp [Takes, Enters, Announces, hp, hnd]
      · obtain ⟨hnd₂, hiff⟩ := dispatch_incomming hd (hk₁.2.1 ▸ hnd) t
        rw [hk₂.2.1, hk₁.2.1, hk₁.1] at *
        refine ⟨hnd₂, hiff.trans ?_⟩
        simp only [begin_brokerRoute, begin_outstandingConnectIncomming]
        simp [Takes, Enters, Announces, hp, hctl]
  all_goals
    rw [(step_keeps_broker h).2 fun i hi => by cases hi]
    exact ⟨hnd, fun hm => .inl ⟨hm, not_takes_of_ne fun i hi => by cases hi⟩,
      fun hm => hm.elim And.left fun he => (not_enters_of_ne (fun i hi => by cases hi) he).elim⟩

/-- Whether `x` is in the set after an empty run. -/
theorem since_nil {α : Type} {P : Prop} {T E : α → Prop} :
    P ↔ (P ∧ ∀ x ∈ ([] : List α), ¬ T x) ∨
      ∃ pre x post, ([] : List α) = pre ++ x :: post ∧ E x ∧ ∀ y ∈ post, ¬ T y := by
  refine ⟨fun h => .inl ⟨h, fun _ hx => nomatch hx⟩, ?_⟩
  rintro (⟨h, -⟩ | ⟨pre, x, post, h, -⟩)
  · exact h
  · exact absurd h.symm (List.append_ne_nil_of_right_ne_nil _ (List.cons_ne_nil _ _))

/-- Whether `x` is in the set after one more entry of a run, in terms of the
set before it. -/
theorem since_cons {α : Type} {P : Prop} {T E : α → Prop} {x₀ : α} {xs : List α} :
    ((P ∧ ¬ T x₀ ∨ E x₀) ∧ (∀ x ∈ xs, ¬ T x) ∨
        ∃ pre x post, xs = pre ++ x :: post ∧ E x ∧ ∀ y ∈ post, ¬ T y) ↔
      (P ∧ ∀ x ∈ x₀ :: xs, ¬ T x) ∨
        ∃ pre x post, x₀ :: xs = pre ++ x :: post ∧ E x ∧ ∀ y ∈ post, ¬ T y := by
  rw [List.forall_mem_cons]
  constructor
  · rintro (⟨⟨hP, hT⟩ | hE, hxs⟩ | ⟨pre, x, post, rfl, hE, hpost⟩)
    · exact .inl ⟨hP, hT, hxs⟩
    · exact .inr ⟨[], x₀, xs, rfl, hE, hxs⟩
    · exact .inr ⟨x₀ :: pre, x, post, rfl, hE, hpost⟩
  · rintro (⟨hP, hT, hxs⟩ | ⟨_ | ⟨a, pre⟩, x, post, heq, hE, hpost⟩)
    · exact .inl ⟨.inl ⟨hP, hT⟩, hxs⟩
    · obtain ⟨rfl, rfl⟩ := List.cons.inj heq
      exact .inl ⟨.inr hE, hpost⟩
    · obtain ⟨rfl, rfl⟩ := List.cons.inj heq
      exact .inr ⟨pre, x, post, rfl, hE, hpost⟩

/-- Over a run, a stream is in the incoming set at the end exactly when it was
there at the start and no frame of it was processed on the broker channel, or
the broker announced it and no frame of it was processed on the broker channel
since. -/
theorem run_incomming (t : UInt32) :
    ∀ (ops : List Op) {σ : Sys}, σ.ep.outstandingConnectIncomming.Nodup →
      (t ∈ (σ.last (run cx σ ops)).ep.outstandingConnectIncomming ↔
        t ∈ σ.ep.outstandingConnectIncomming ∧ (∀ x ∈ run cx σ ops, ¬ Takes σ.ep.brokerRoute t x) ∨
        ∃ pre x post, run cx σ ops = pre ++ x :: post ∧ Enters cx σ.ep.brokerRoute t x ∧
          ∀ y ∈ post, ¬ Takes σ.ep.brokerRoute t y)
  | [], σ, _ => since_nil
  | op :: ops, σ, hnd => by
    simp only [run]
    split
    · rename_i σ' rep hst
      obtain ⟨hnd', hstep⟩ := step_incomming hst hnd t
      rw [Sys.last, run_incomming t ops hnd', hstep, (step_keeps_broker hst).1]
      exact since_cons
    · exact since_nil

/-- From `Endpoint::new`, a stream is in the incoming set exactly when the
broker announced it and no frame of it was processed on the broker channel
since. -/
theorem incomming_iff_announced (brokerRoute : RoutingKey) (identity : Identity)
    (addr : SocketAddr) (ops : List Op) (t : UInt32) :
    t ∈ ((Sys.init brokerRoute identity addr).last
        (run cx (Sys.init brokerRoute identity addr) ops)).ep.outstandingConnectIncomming ↔
      ∃ pre x post, run cx (Sys.init brokerRoute identity addr) ops = pre ++ x :: post ∧
        Enters cx brokerRoute t x ∧ ∀ y ∈ post, ¬ Takes brokerRoute t y := by
  rw [run_incomming t ops List.nodup_nil]
  exact or_iff_right (fun h => List.not_mem_nil t h.1)

/-- A stream the broker announced stays in the incoming set after the broker
engine closed it and after the broker channel's `Disconnect`. -/
theorem incomming_stale_after_close :
    (run Codecs.sample (Sys.init 1 ⟨[1]⟩ ⟨[10, 0, 0, 1], 4000⟩)
        [.receive (.error .wouldBlock) (.ok ()), .visit (.answer 1 (.receiveHeader 7 [1])), .endPass,
          .visit (.answer 1 (.close 7)), .endPass, .visit (.answer 1 .disconnect), .endPass]).map
        (·.2.1) =
      [.none, .none, .none, .none, .none, .none, .done (.ok (.disconnect 1 ⟨[1]⟩))] ∧
    7 ∈ ((Sys.init 1 ⟨[1]⟩ ⟨[10, 0, 0, 1], 4000⟩).last (run Codecs.sample (Sys.init 1 ⟨[1]⟩ ⟨[10, 0, 0, 1], 4000⟩)
        [.receive (.error .wouldBlock) (.ok ()), .visit (.answer 1 (.receiveHeader 7 [1])), .endPass,
          .visit (.answer 1 (.close 7)), .endPass, .visit (.answer 1 .disconnect), .endPass])).ep.outstandingConnectIncomming := by
  decide

/-! ### Reporting an incoming connect -/

namespace Endpoint

/-- A request `peer_connect_request` returns passed its checks: the request
and the peer's identity decode, the handshake decodes, and the handshake's
identity and timestamp are the request's. -/
theorem peerConnectRequest_eq_ok {s : UInt32} {f : List UInt8}
    {respond : Except Error (HandshakeResponder × Identity × UInt64)} {q : ConnectRequest}
    (h : peerConnectRequest cx s f respond = .ok q) :
    q.qstream = s ∧ cx.decodePeerConnectRequest f = .ok q.cr ∧
      cx.identityFromBytes q.cr.identity = .ok q.identity ∧
      (∃ pkt, EncryptedPacket.decode q.cr.handshake = .ok pkt) ∧
      respond = .ok (q.responder, q.identity, q.cr.timestamp) := by
  obtain ⟨cr, hcr, h⟩ := Except.bind_eq_ok.1 h
  obtain ⟨identity, hid, h⟩ := Except.bind_eq_ok.1 h
  obtain ⟨pkt, hpkt, h⟩ := Except.bind_eq_ok.1 h
  obtain ⟨⟨responder, id2, ts⟩, hr, h⟩ := Except.bind_eq_ok.1 h
  dsimp only at h
  split_ifs at h with hc
  · cases h
  · cases h
    simp only [not_or, not_not] at hc
    obtain ⟨rfl, rfl⟩ := hc
    exact ⟨rfl, hcr, hid, ⟨pkt, hpkt⟩, hr⟩

/-- The channel loop reports an incoming connect only for a frame on the broker
channel of a stream in the incoming set, when the endpoint has a publish
secret, with the request `peer_connect_request` returned for it. -/
theorem dispatch_incommingConnect {r : RoutingKey}
    {chan chan' : UdpChannel} {pass pass' : Pass} {i : VisitInput} {p : ChannelProgress}
    {q : ConnectRequest}
    (h : ep.dispatch cx r chan pass i p = .ok (ep', chan', pass', some (.ok (.incommingConnect q)))) :
    r = ep.brokerRoute ∧ ∃ s f, p = .receiveStream s f ∧ s ∈ ep.outstandingConnectIncomming ∧
      ep.publishSecret.isSome ∧ peerConnectRequest cx s f i.respond = .ok q := by
  cases p <;> simp only [dispatch] at h <;> (repeat' split at h)
  all_goals (try obtain ⟨_, -, h⟩ := Except.bind_eq_ok.1 h)
  all_goals cases h
  all_goals rename_i hc _ hq; exact ⟨hc.1.1, _, _, rfl, hc.1.2, by simpa using hc.2, hq⟩

theorem openHandler_publishSecret {r : RoutingKey} {hs : Headers} {s : UInt32}
    {sends : List Payload} {pub : Option Publisher} (h : ep.openHandler r hs s sends pub = .ok ep') :
    ep'.publishSecret = ep.publishSecret := by
  obtain ⟨_, _, _, -, rfl⟩ := openHandler_eq_ok h
  rfl

theorem stream_publishSecret {r : RoutingKey} {s : UInt32} {m : Payload}
    (h : ep.stream r s m = .ok ep') : ep'.publishSecret = ep.publishSecret := by
  obtain ⟨_, -, rfl⟩ := stream_eq_ok.1 h
  rfl

theorem removeKilled_publishSecret {ks : List RoutingKey} {ev : Option Event}
    (h : ep.removeKilled ks = .ok (ep', ev)) : ep'.publishSecret = ep.publishSecret := by
  obtain ⟨_, rfl⟩ := removeKilled_eq_ok h
  rfl

/-- Of the public calls only `publish` sets the publish secret, and only when
there is none yet. -/
theorem call_publishSecret
    (h : CallResult cx ep op ep' rep) :
    ep'.publishSecret = ep.publishSecret ∨
      ep.publishSecret = none ∧ ∃ shadow i, op = .publish shadow i ∧ ep'.publishSecret = some i.gen := by
  cases op with
  | connect =>
    obtain ⟨r, h, -⟩ := h
    unfold connect at h
    split at h
    · cases h; exact .inl rfl
    · obtain ⟨_, -, h⟩ := Except.bind_eq_ok.1 h
      cases h; exact .inl rfl
  | «open» => exact .inl (openHandler_publishSecret h.1)
  | stream | reject => exact .inl (stream_publishSecret h.1)
  | publish shadow i =>
    have h := h.1
    unfold publish at h
    dsimp only at h
    split_ifs at h with hn
    · exact .inr ⟨Option.isNone_iff_eq_none.1 hn, shadow, i, rfl, openHandler_publishSecret h⟩
    · exact .inl (openHandler_publishSecret h)
  | acceptIncomming =>
    obtain ⟨_, -, h⟩ := Except.bind_eq_ok.1 h.1
    obtain ⟨_, -, h⟩ := Except.bind_eq_ok.1 h
    obtain ⟨_, -, h⟩ := Except.bind_eq_ok.1 h
    dsimp only at h
    have := stream_publishSecret h
    exact .inl this
  | acceptOutgoing =>
    obtain ⟨r, h, -⟩ := h
    rcases acceptOutgoing_eq_ok h with rfl | ⟨_, _, -, -, rfl, -⟩ <;> exact .inl rfl
  | receive | visit | endPass => exact h.elim

end Endpoint

/-- The publish secret is set once, by the first `publish` that does not panic,
and no step changes it afterwards. -/
theorem step_publishSecret
    (h : step cx σ op = some (σ', rep)) :
    σ'.ep.publishSecret = σ.ep.publishSecret ∨
      σ.ep.publishSecret = none ∧ ∃ shadow i, op = .publish shadow i ∧ σ'.ctl = .idle ∧
        σ'.ep.publishSecret = some i.gen := by
  rcases step_cases h with ⟨p, he, -⟩ | ⟨-, hc, hcall⟩ | ⟨dg, rr, e, -, -, hr, -⟩ |
    ⟨i, pass, chan, pass', ret, -, -, -, -, hv, -⟩ | ⟨pass, ev, -, -, -, hk, -⟩
  · rw [he]; exact .inl rfl
  · exact (call_publishSecret hcall).imp id fun ⟨hn, shadow, i, hop, hs⟩ => ⟨hn, shadow, i, hop, hc, hs⟩
  · rcases receive_frame hr with ⟨es, he⟩ | ⟨_, _, _, _, _, -, -, -, -, he⟩ <;> rw [he] <;> exact .inl rfl
  · obtain ⟨_, _, _, _, _, he⟩ := visit_frame hv
    rw [he]; exact .inl rfl
  · have := removeKilled_publishSecret hk
    exact .inl this

/-- A step reports an incoming connect only on a visit of the broker channel
answering a frame of a stream in the incoming set, when the endpoint has a
publish secret, with the request `peer_connect_request` accepted. -/
theorem step_incommingConnect {q : ConnectRequest}
    (h : step cx σ op = some (σ', .done (.ok (.incommingConnect q)))) :
    σ.ep.publishSecret ≠ none ∧ q.qstream ∈ σ.ep.outstandingConnectIncomming ∧
      ∃ i f, op = .visit i ∧ i.route = σ.ep.brokerRoute ∧ i.progress = .ok (.receiveStream q.qstream f) ∧
        peerConnectRequest cx q.qstream f i.respond = .ok q := by
  rcases step_cases h with ⟨p, -, -, ⟨⟩⟩ | ⟨-, -, hc⟩ | ⟨_, _, _, -, -, -, ⟨-, -, ⟨⟩⟩ | ⟨_, -, -, ⟨⟩⟩⟩ |
    ⟨i, pass, chan, pass', ret, rfl, -, -, -, hv, ⟨-, -, ⟨⟩⟩ | ⟨r, rfl, -, hr⟩⟩ |
    ⟨pass, ev, -, -, -, hk, ⟨e, rfl, -, he⟩ | ⟨-, -, -, ⟨⟩⟩ | ⟨-, -, -, ⟨⟩⟩⟩
  · cases op <;> simp [CallResult] at hc
  · cases hr
    rcases visit_eq_ok hv with ⟨e, -, ⟨⟩, -⟩ |
      ⟨p, ep₁, chan₁, pass₁, ep₂, chan₂, pass₂, hp, hk₁, -, hd, -, -, hps⟩
    obtain ⟨hb, s, f, rfl, hs, hsec, hq⟩ := dispatch_incommingConnect hd
    obtain ⟨rfl, -⟩ := peerConnectRequest_eq_ok hq
    refine ⟨?_, hk₁.2.1 ▸ hs, i, f, rfl, hb.trans hk₁.1, hp, hq⟩
    rw [← begin_publishSecret, ← hps]
    exact Option.isSome_iff_ne_none.1 hsec
  · obtain ⟨_, _, rfl⟩ := removeKilled_event hk
    cases he

/-- What a run's history says about its state: the broker route is the one
`Endpoint::new` was given, every stream in the incoming set was announced by
the broker, and a publish secret was set by a `publish` that returned. -/
def ConnectHistory (cx : Codecs) (brokerRoute : RoutingKey) (pre : List (Op × Reply × Sys))
    (σ : Sys) : Prop :=
  σ.ep.brokerRoute = brokerRoute ∧ σ.ep.outstandingConnectIncomming.Nodup ∧
    (∀ t ∈ σ.ep.outstandingConnectIncomming, ∃ y ∈ pre, Enters cx brokerRoute t y) ∧
    (σ.ep.publishSecret ≠ none → ∃ y ∈ pre, ∃ shadow i, y.1 = .publish shadow i ∧ y.2.2.ctl = .idle)

theorem step_connectHistory {brokerRoute : RoutingKey} {pre : List (Op × Reply × Sys)}
    (hI : ConnectHistory cx brokerRoute pre σ)
    (h : step cx σ op = some (σ', rep)) : ConnectHistory cx brokerRoute (pre ++ [(op, rep, σ')]) σ' := by
  obtain ⟨hb, hnd, hinc, hpub⟩ := hI
  have hlast : (op, rep, σ') ∈ pre ++ [(op, rep, σ')] := List.mem_append_right _ (List.mem_singleton_self _)
  refine ⟨(step_keeps_broker h).1.trans hb, (step_incomming h hnd 0).1, fun t ht => ?_, fun hs => ?_⟩
  · rcases (step_incomming h hnd t).2.1 ht with ⟨ht, -⟩ | he
    · obtain ⟨y, hy, he⟩ := hinc t ht
      exact ⟨y, List.mem_append_left _ hy, he⟩
    · exact ⟨_, hlast, hb ▸ he⟩
  · rcases step_publishSecret h with he | ⟨-, shadow, i, rfl, hc, -⟩
    · obtain ⟨y, hy, hp⟩ := hpub (he ▸ hs)
      exact ⟨y, List.mem_append_left _ hy, hp⟩
    · exact ⟨_, hlast, shadow, i, rfl, hc⟩

/-- From `Endpoint::new`, `poll` reports an incoming connect only after a
`publish` returned, on a visit of the broker channel answering a frame of a
stream the broker announced earlier in the run, and with the request that
`peer_connect_request` accepted for that frame. -/
theorem incomming_connect_published {brokerRoute : RoutingKey} {identity : Identity}
    {addr : SocketAddr} {ops : List Op} {pre post : List (Op × Reply × Sys)} {x : Op × Reply × Sys}
    {q : ConnectRequest} (hrun : run cx (Sys.init brokerRoute identity addr) ops = pre ++ x :: post)
    (hx : x.2.1 = .done (.ok (.incommingConnect q))) :
    (∃ y ∈ pre, ∃ shadow i, y.1 = .publish shadow i ∧ y.2.2.ctl = .idle) ∧
      (∃ y ∈ pre, Enters cx brokerRoute q.qstream y) ∧
      ∃ i f, x.1 = .visit i ∧ i.route = brokerRoute ∧ i.progress = .ok (.receiveStream q.qstream f) ∧
        peerConnectRequest cx q.qstream f i.respond = .ok q := by
  have hinit : ConnectHistory cx brokerRoute [] (Sys.init brokerRoute identity addr) :=
    ⟨rfl, List.nodup_nil, fun _ h => (List.not_mem_nil _ h).elim, fun h => (h rfl).elim⟩
  obtain ⟨⟨hb, -, hinc, hpub⟩, hst⟩ := run_prefix_inv (ConnectHistory cx brokerRoute)
    step_connectHistory hinit hrun
  rw [hx] at hst
  obtain ⟨hs, hq, i, f, hop, hi, hp, hreq⟩ := step_incommingConnect hst
  exact ⟨hpub hs, hinc _ hq, i, f, hop, hi.trans hb, hp, hreq⟩

/-- The sample decoders, with every `/peer/connect` frame decoding to the
request of identity `[1]` for route 5 whose handshake is an empty packet. -/
def Codecs.relay : Codecs :=
  { Codecs.sample with
    decodePeerConnectRequest := fun _ =>
      .ok ⟨[1], 0, [8, 0xff, 0xff, 0xff] ++ List.replicate 16 0, [], 5⟩ }

/-- After `publish`, the broker announces stream 7 and then relays the peer's
request on it, which `poll` reports. -/
theorem incomming_connect_relayed :
    ∃ pre x post, run Codecs.relay (Sys.init 1 ⟨[1]⟩ ⟨[10, 0, 0, 1], 4000⟩)
        [.publish [] ⟨⟨0⟩, [], 2⟩, .receive (.error .wouldBlock) (.ok ()),
          .visit (.answer 1 (.receiveHeader 7 [1])), .endPass,
          .visit { VisitInput.answer 1 (.receiveStream 7 [2]) with respond := .ok (⟨0⟩, ⟨[1]⟩, 0) }] =
        pre ++ x :: post ∧
      x.2.1 = .done (.ok (.incommingConnect
        ⟨7, ⟨[1]⟩, ⟨0⟩, ⟨[1], 0, [8, 0xff, 0xff, 0xff] ++ List.replicate 16 0, [], 5⟩⟩)) ∧
      (∃ y ∈ pre, ∃ shadow i, y.1 = .publish shadow i ∧ y.2.2.ctl = .idle) ∧
      (∃ y ∈ pre, Enters Codecs.relay 1 7 y) ∧
      ∃ i f, x.1 = .visit i ∧ i.route = 1 ∧ i.progress = .ok (.receiveStream 7 f) ∧
        peerConnectRequest Codecs.relay 7 f i.respond =
          .ok ⟨7, ⟨[1]⟩, ⟨0⟩, ⟨[1], 0, [8, 0xff, 0xff, 0xff] ++ List.replicate 16 0, [], 5⟩⟩ := by
  have hrun := (List.dropLast_append_getLast (List.ne_nil_of_length_pos
    (show 0 < (run Codecs.relay (Sys.init 1 ⟨[1]⟩ ⟨[10, 0, 0, 1], 4000⟩)
        [.publish [] ⟨⟨0⟩, [], 2⟩, .receive (.error .wouldBlock) (.ok ()),
          .visit (.answer 1 (.receiveHeader 7 [1])), .endPass,
          .visit { VisitInput.answer 1 (.receiveStream 7 [2]) with respond := .ok (⟨0⟩, ⟨[1]⟩, 0) }]).length
      by decide))).symm
  exact ⟨_, _, [], hrun, (and_iff_left_of_imp (incomming_connect_published hrun)).2 (by decide)⟩

end Carrier
