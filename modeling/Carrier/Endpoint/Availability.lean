import Carrier.Endpoint.PathDiscovery
import Carrier.Endpoint.Connects

/-!
# Where the endpoint fails on what it is sent

The datagram half of `poll` never panics on a reachable state. The channel
loop returns `Done(Err)` for a failed `progress()` and for a header block that
does not decode. It panics on a frame of a pending outgoing connect that does
not decode, in a handler, and in a publish handler: on a response header block
that does not decode, and when the handler is dropped (a `Close` of its
stream, a new handler over its id, or the removal of its channel at the end
of the pass) while it waits for the response. `accept_incomming` and
`accept_outgoing` panic when the handshake fails, on the two checks of
`accept_outgoing`, on a path whose category is unknown or whose address does
not parse, and when they replace a channel whose publish handler is waiting.

Header blocks, connect responses and paths are bytes a peer or the broker
chooses; the last case is run on a fixed request.
-/

namespace Carrier

open Endpoint

variable {cx : Codecs} {ep ep' : Endpoint} {σ σ' : Sys} {op : Op} {rep : Reply}

namespace Endpoint

/-- Every publish handler of `chan'` was one of `chan`, and its inbox is empty,
as it was in `chan`, or holds the frame `dl` delivered to its stream. -/
def HandlersFrom (dl : Option (UInt32 × List UInt8)) (chan chan' : UdpChannel) : Prop :=
  ∀ s pub', chan'.publishers.lookup s = some pub' → ∃ pub, chan.publishers.lookup s = some pub ∧
    (pub'.inbox = none ∨ pub'.inbox = pub.inbox ∨ ∃ f, dl = some (s, f) ∧ pub'.inbox = some f)

namespace HandlersFrom

theorem refl (dl : Option (UInt32 × List UInt8)) (chan : UdpChannel) : HandlersFrom dl chan chan :=
  fun _ pub h => ⟨pub, h, .inr (.inl rfl)⟩

theorem trans {dl : Option (UInt32 × List UInt8)} {a b c : UdpChannel} (h₁ : HandlersFrom dl a b)
    (h₂ : HandlersFrom dl b c) : HandlersFrom dl a c := by
  intro s pc hc
  obtain ⟨pb, hb, hbc⟩ := h₂ s pc hc
  obtain ⟨pa, ha, hab⟩ := h₁ s pb hb
  refine ⟨pa, ha, ?_⟩
  rcases hbc with h | h | h
  · exact .inl h
  · rw [h]; exact hab
  · exact .inr (.inr h)

/-- Writing a generator back at `s` keeps the relation when its inbox is
empty, the one it had, or the frame delivered to `s`. -/
theorem of_insert {dl : Option (UInt32 × List UInt8)} {chan : UdpChannel} {s : UInt32}
    {pub pub' : Publisher} (hl : chan.publishers.lookup s = some pub)
    (hin : pub'.inbox = none ∨ pub'.inbox = pub.inbox ∨ ∃ f, dl = some (s, f) ∧ pub'.inbox = some f) :
    HandlersFrom dl chan { chan with publishers := chan.publishers.insert s pub' } := by
  intro s' q h'
  by_cases hs : s' = s
  · subst hs
    simp only [AList.lookup_insert, Option.some.injEq] at h'
    exact ⟨pub, hl, h' ▸ hin⟩
  · exact ⟨q, by rwa [AList.lookup_insert_ne hs] at h', .inr (.inl rfl)⟩

end HandlersFrom

theorem stream_eq_error {r : RoutingKey} {s : UInt32} {m : Payload} {e : Panic}
    (h : ep.stream r s m = .error e) : ep.channels.lookup r = none := by
  unfold stream at h
  cases hl : ep.channels.lookup r
  · rfl
  · simp [hl, unwrap] at h

theorem seedPaths_eq_error {paths : List Proto.Path} {e : Panic}
    (h : seedPaths cx paths = .error e) :
    ∃ path ∈ paths, ¬ ((path.category = 0 ∨ path.category = 1 ∨ path.category = 2) ∧
      ∃ a, cx.parseAddr path.ipaddr = .ok a) := by
  by_contra hall
  push_neg at hall
  obtain ⟨_, hok⟩ : ∃ addrs, seedPaths cx paths = .ok addrs :=
    (foldlM_seedPath_ok_iff cx paths ∅).2 fun p hp => by simpa using hall p hp
  rw [hok] at h
  cases h

/-- Replacing the channel at a route panics only when it has an armed publish
handler. -/
theorem dropAt_eq_error {r : RoutingKey} {e : Panic} (h : ep.dropAt r = .error e) :
    ∃ ch s pub, ep.channels.lookup r = some ch ∧ ch.publishers.lookup s = some pub ∧ pub.armed = true := by
  unfold dropAt at h
  split at h
  · obtain ⟨s, pub, hl, ha⟩ := UdpChannel.drop_eq_error h
    exact ⟨_, s, pub, ‹_›, hl, ha⟩
  · cases h

/-- `accept_incomming` panics only when `send_response` fails, when a path the
peer announced has an unknown category or an address that does not parse,
when the channel it replaces has an armed publish handler, or when the
endpoint has no broker channel. -/
theorem acceptIncomming_panics {q : ConnectRequest}
    {i : AcceptIncommingInput} {e : Panic} (h : ep.acceptIncomming cx q i = .error e) :
    (∃ err, i.sendResponse = .error err) ∨
    (∃ path ∈ q.cr.paths, ¬ ((path.category = 0 ∨ path.category = 1 ∨ path.category = 2) ∧
      ∃ a, cx.parseAddr path.ipaddr = .ok a)) ∨
    (∃ ch s pub, ep.channels.lookup q.cr.route = some ch ∧ ch.publishers.lookup s = some pub ∧
      pub.armed = true) ∨
    ep.channels.lookup ep.brokerRoute = none := by
  rcases Except.bind_eq_error.1 h with h | ⟨pkt, -, h⟩
  · left
    cases hs : i.sendResponse
    · exact ⟨_, rfl⟩
    · simp [expect, hs] at h
  rcases Except.bind_eq_error.1 h with h | ⟨paths, -, h⟩
  · exact .inr (.inl (seedPaths_eq_error h))
  rcases Except.bind_eq_error.1 h with h | ⟨_, -, h⟩
  · exact .inr (.inr (.inl (dropAt_eq_error h)))
  · have hl := stream_eq_error h
    by_cases hr : ep.brokerRoute = q.cr.route
    · simp [addChannel, hr] at hl
    · simp only [addChannel, AList.lookup_insert_ne hr] at hl
      exact .inr (.inr (.inr hl))

/-- `accept_outgoing` panics only when `recv_response` fails, on its two checks
of the handshake's identity and the transport's route, when a path of the
response has an unknown category or an address that does not parse, or when
the channel it replaces has an armed publish handler. -/
theorem acceptOutgoing_panics {q : ConnectResponse}
    {i : AcceptOutgoingInput} {e : Panic} (h : ep.acceptOutgoing cx q i = .error e) :
    ∃ cr, q.cr = some cr ∧
      ((∃ err, i.recvResponse = .error err) ∨
        (∃ hsIdentity route, i.recvResponse = .ok hsIdentity ∧ i.intoTransport = .ok route ∧
          (q.identity ≠ hsIdentity ∨ cr.route ≠ route)) ∨
        (∃ path ∈ cr.paths, ¬ ((path.category = 0 ∨ path.category = 1 ∨ path.category = 2) ∧
          ∃ a, cx.parseAddr path.ipaddr = .ok a)) ∨
        ∃ ch s pub, ep.channels.lookup cr.route = some ch ∧ ch.publishers.lookup s = some pub ∧
          pub.armed = true) := by
  unfold acceptOutgoing at h
  split at h
  · rename_i cr _ hcr _
    split_ifs at h
    · cases h
    split at h
    · cases h
    rcases Except.bind_eq_error.1 h with h | ⟨hsIdentity, hhs, h⟩
    · obtain ⟨err, herr⟩ := unwrapResult_eq_error h
      exact ⟨cr, hcr, .inl ⟨err, herr⟩⟩
    have hhs := unwrapResult_eq_ok.1 hhs
    split at h
    · cases h
    rename_i route hroute
    split_ifs at h with hid hrt
    · exact ⟨cr, hcr, .inr (.inl ⟨hsIdentity, route, hhs, hroute, .inl hid⟩)⟩
    · exact ⟨cr, hcr, .inr (.inl ⟨hsIdentity, route, hhs, hroute, .inr hrt⟩)⟩
    rcases Except.bind_eq_error.1 h with h | ⟨_, -, h⟩
    · exact ⟨cr, hcr, .inr (.inr (.inl (seedPaths_eq_error h)))⟩
    rcases Except.bind_eq_error.1 h with h | ⟨_, -, h⟩
    · exact ⟨cr, hcr, .inr (.inr (.inr (dropAt_eq_error h)))⟩
    · cases h
  · cases h

/-- `accept_outgoing` either returns an error and changes nothing, or installs
the channel with a new engine at the route the broker announced, for the
identity Noise's `recv_response` authenticated, after the broker said yes, its
handshake decoded and the transport's route agreed. -/
theorem acceptOutgoing_authenticated {q : ConnectResponse}
    {i : AcceptOutgoingInput} {r : Except Error RoutingKey} (h : ep.acceptOutgoing cx q i = .ok (ep', r)) :
    (∃ e, r = .error e ∧ ep' = ep) ∨
    ∃ cr rq pkt paths, q.cr = some cr ∧ q.requester = some rq ∧ cr.ok = true ∧
      EncryptedPacket.decode cr.handshake = .ok pkt ∧ i.recvResponse = .ok q.identity ∧
      i.intoTransport = .ok cr.route ∧ seedPaths cx cr.paths = .ok paths ∧ r = .ok cr.route ∧
      ep' = ep.addChannel cr.route q.identity (ep.withBrokerOrigin paths) := by
  unfold acceptOutgoing at h
  split at h
  · rename_i cr rq hcr hrq
    split_ifs at h with hok
    · cases h; exact .inl ⟨_, rfl, rfl⟩
    split at h
    · cases h; exact .inl ⟨_, rfl, rfl⟩
    rename_i pkt hpkt
    obtain ⟨hsIdentity, hhs, h⟩ := Except.bind_eq_ok.1 h
    split at h
    · cases h; exact .inl ⟨_, rfl, rfl⟩
    rename_i route hroute
    split_ifs at h with hid hrt
    obtain ⟨paths, hp, h⟩ := Except.bind_eq_ok.1 h
    obtain ⟨_, -, h⟩ := Except.bind_eq_ok.1 h
    cases h
    rw [not_not] at hid hrt
    exact .inr ⟨cr, rq, pkt, paths, hcr, hrq, by simpa using hok, hpkt,
      hid ▸ unwrapResult_eq_ok.1 hhs, hrt ▸ hroute, hp, rfl, rfl⟩
  · cases h; exact .inl ⟨_, rfl, rfl⟩

/-- A peer that answers with the identity asked for, on the route the broker
announced, gets its channel, seeded with the local path it announced and the
broker's address; a peer that says no leaves the endpoint as it was. -/
theorem acceptOutgoing_authenticated_answered :
    (∃ ep' r, (Endpoint.new 1 ⟨[1]⟩ ⟨[10, 0, 0, 1], 4000⟩).acceptOutgoing { Codecs.sample with parseAddr := fun _ => .ok ⟨[10, 0, 0, 2], 4000⟩ } (⟨⟨[9]⟩, some ⟨true, 5, [8, 0xff, 0xff, 0xff] ++ List.replicate 16 0, [⟨0, "10.0.0.2:4000"⟩]⟩, some ⟨0⟩⟩ : ConnectResponse) (⟨.ok ⟨[9]⟩, .ok 5⟩ : AcceptOutgoingInput) = .ok (ep', r) ∧
      ((∃ e, r = .error e ∧ ep' = (Endpoint.new 1 ⟨[1]⟩ ⟨[10, 0, 0, 1], 4000⟩)) ∨
      ∃ cr rq pkt paths, (⟨⟨[9]⟩, some ⟨true, 5, [8, 0xff, 0xff, 0xff] ++ List.replicate 16 0, [⟨0, "10.0.0.2:4000"⟩]⟩, some ⟨0⟩⟩ : ConnectResponse).cr = some cr ∧ (⟨⟨[9]⟩, some ⟨true, 5, [8, 0xff, 0xff, 0xff] ++ List.replicate 16 0, [⟨0, "10.0.0.2:4000"⟩]⟩, some ⟨0⟩⟩ : ConnectResponse).requester = some rq ∧ cr.ok = true ∧
        EncryptedPacket.decode cr.handshake = .ok pkt ∧ (⟨.ok ⟨[9]⟩, .ok 5⟩ : AcceptOutgoingInput).recvResponse = .ok (⟨⟨[9]⟩, some ⟨true, 5, [8, 0xff, 0xff, 0xff] ++ List.replicate 16 0, [⟨0, "10.0.0.2:4000"⟩]⟩, some ⟨0⟩⟩ : ConnectResponse).identity ∧
        (⟨.ok ⟨[9]⟩, .ok 5⟩ : AcceptOutgoingInput).intoTransport = .ok cr.route ∧ seedPaths { Codecs.sample with parseAddr := fun _ => .ok ⟨[10, 0, 0, 2], 4000⟩ } cr.paths = .ok paths ∧ r = .ok cr.route ∧
        ep' = (Endpoint.new 1 ⟨[1]⟩ ⟨[10, 0, 0, 1], 4000⟩).addChannel cr.route (⟨⟨[9]⟩, some ⟨true, 5, [8, 0xff, 0xff, 0xff] ++ List.replicate 16 0, [⟨0, "10.0.0.2:4000"⟩]⟩, some ⟨0⟩⟩ : ConnectResponse).identity ((Endpoint.new 1 ⟨[1]⟩ ⟨[10, 0, 0, 1], 4000⟩).withBrokerOrigin paths))) ∧
    ∃ ep' r, (Endpoint.new 1 ⟨[1]⟩ ⟨[10, 0, 0, 1], 4000⟩).acceptOutgoing Codecs.sample (⟨⟨[9]⟩, some ⟨false, 5, [], []⟩, some ⟨0⟩⟩ : ConnectResponse) (⟨.ok ⟨[9]⟩, .ok 5⟩ : AcceptOutgoingInput) = .ok (ep', r) ∧
      ((∃ e, r = .error e ∧ ep' = (Endpoint.new 1 ⟨[1]⟩ ⟨[10, 0, 0, 1], 4000⟩)) ∨
      ∃ cr rq pkt paths, (⟨⟨[9]⟩, some ⟨false, 5, [], []⟩, some ⟨0⟩⟩ : ConnectResponse).cr = some cr ∧ (⟨⟨[9]⟩, some ⟨false, 5, [], []⟩, some ⟨0⟩⟩ : ConnectResponse).requester = some rq ∧ cr.ok = true ∧
        EncryptedPacket.decode cr.handshake = .ok pkt ∧ (⟨.ok ⟨[9]⟩, .ok 5⟩ : AcceptOutgoingInput).recvResponse = .ok (⟨⟨[9]⟩, some ⟨false, 5, [], []⟩, some ⟨0⟩⟩ : ConnectResponse).identity ∧
        (⟨.ok ⟨[9]⟩, .ok 5⟩ : AcceptOutgoingInput).intoTransport = .ok cr.route ∧ seedPaths Codecs.sample cr.paths = .ok paths ∧ r = .ok cr.route ∧
        ep' = (Endpoint.new 1 ⟨[1]⟩ ⟨[10, 0, 0, 1], 4000⟩).addChannel cr.route (⟨⟨[9]⟩, some ⟨false, 5, [], []⟩, some ⟨0⟩⟩ : ConnectResponse).identity ((Endpoint.new 1 ⟨[1]⟩ ⟨[10, 0, 0, 1], 4000⟩).withBrokerOrigin paths)) :=
  have hY : (Endpoint.new 1 ⟨[1]⟩ ⟨[10, 0, 0, 1], 4000⟩).acceptOutgoing { Codecs.sample with parseAddr := fun _ => .ok ⟨[10, 0, 0, 2], 4000⟩ } (⟨⟨[9]⟩, some ⟨true, 5, [8, 0xff, 0xff, 0xff] ++ List.replicate 16 0, [⟨0, "10.0.0.2:4000"⟩]⟩, some ⟨0⟩⟩ : ConnectResponse) (⟨.ok ⟨[9]⟩, .ok 5⟩ : AcceptOutgoingInput) =
      .ok ((Endpoint.new 1 ⟨[1]⟩ ⟨[10, 0, 0, 1], 4000⟩).addChannel 5 ⟨[9]⟩ ((Endpoint.new 1 ⟨[1]⟩ ⟨[10, 0, 0, 1], 4000⟩).withBrokerOrigin
        ((∅ : Candidates).insert ⟨[10, 0, 0, 2], 4000⟩ (.local, 0))), .ok 5) := rfl
  have hN : (Endpoint.new 1 ⟨[1]⟩ ⟨[10, 0, 0, 1], 4000⟩).acceptOutgoing Codecs.sample (⟨⟨[9]⟩, some ⟨false, 5, [], []⟩, some ⟨0⟩⟩ : ConnectResponse) (⟨.ok ⟨[9]⟩, .ok 5⟩ : AcceptOutgoingInput) =
      .ok ((Endpoint.new 1 ⟨[1]⟩ ⟨[10, 0, 0, 1], 4000⟩), .error (.outgoingConnectFailed ⟨[9]⟩ (some ⟨false, 5, [], []⟩))) := rfl
  ⟨⟨_, _, hY, acceptOutgoing_authenticated hY⟩, ⟨_, _, hN, acceptOutgoing_authenticated hN⟩⟩

end Endpoint

/-- A path of category 3 in a peer's connect request makes `accept_incomming`
panic at its `unreachable!()`. -/
theorem unknown_category_panics :
    (step Codecs.sample (Sys.init 1 ⟨[1]⟩ ⟨[10, 0, 0, 1], 4000⟩)
      (.acceptIncomming ⟨5, ⟨[2]⟩, ⟨0⟩, ⟨[2], 0, [], [⟨3, "10.0.0.2:4000"⟩], 2⟩⟩
        ⟨.ok ⟨8, 2, .initiator2Responder, 0, []⟩, []⟩)).map (·.1.ctl) =
      some (.panicked ⟨"internal error: entered unreachable code"⟩) := rfl

end Carrier
