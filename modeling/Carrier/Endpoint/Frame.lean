import Carrier.Endpoint.System

/-!
# What each operation changes

One lemma per operation says what it does to the channel map, and which of the
endpoint's other fields it leaves alone. The invariants of the later modules
are proved from these lemmas and never unfold an operation again.

Most operations keep every channel's identity, engine and address mode
(`KeepsChannels`): they write into streams, change a channel's handlers, or
remove channels. The two `accept_*` operations install a channel with a new
engine, and the datagram half of `poll` changes the address mode of the channel
the datagram is for.
-/

namespace Carrier

variable {cx : Codecs} {ep ep' : Endpoint} {s s' : Sys} {op : Op} {rep : Reply}

namespace Endpoint

theorem foldl_log {α : Type} (l : List α) (f : α → Effect) (ep : Endpoint) :
    l.foldl (fun ep a => ep.log (f a)) ep = { ep with effects := ep.effects ++ l.map f } := by
  induction l generalizing ep with
  | nil => simp
  | cons a l ih => rw [List.foldl_cons, ih]; simp [log]

/-- `ep'` has no channel that `ep` lacks, each of its channels has the identity,
engine and address mode it had in `ep`, and no engine was made. -/
def KeepsChannels (ep ep' : Endpoint) : Prop :=
  ep'.engines = ep.engines ∧ ∀ r ch', ep'.channels.lookup r = some ch' →
    ∃ ch, ep.channels.lookup r = some ch ∧
      ch'.identity = ch.identity ∧ ch'.chan = ch.chan ∧ ch'.addrs = ch.addrs

namespace KeepsChannels

theorem refl (ep : Endpoint) : KeepsChannels ep ep :=
  ⟨rfl, fun _ ch h => ⟨ch, h, rfl, rfl, rfl⟩⟩

theorem trans {a b c : Endpoint} (h₁ : KeepsChannels a b) (h₂ : KeepsChannels b c) :
    KeepsChannels a c := by
  refine ⟨h₂.1.trans h₁.1, fun r ch₂ h => ?_⟩
  obtain ⟨ch₁, h₁', hi, hc, ha⟩ := h₂.2 r ch₂ h
  obtain ⟨ch₀, h₀, hi', hc', ha'⟩ := h₁.2 r ch₁ h₁'
  exact ⟨ch₀, h₀, hi.trans hi', hc.trans hc', ha.trans ha'⟩

theorem of_eq (hc : ep'.channels = ep.channels) (he : ep'.engines = ep.engines) :
    KeepsChannels ep ep' :=
  ⟨he, fun _ ch h => ⟨ch, hc ▸ h, rfl, rfl, rfl⟩⟩

theorem setChannel {r : RoutingKey} {ch ch' : UdpChannel}
    (h : ep.channels.lookup r = some ch) (hi : ch'.identity = ch.identity) (hc : ch'.chan = ch.chan)
    (ha : ch'.addrs = ch.addrs) : KeepsChannels ep (ep.setChannel r ch') := by
  refine ⟨rfl, fun r' ch'' h' => ?_⟩
  by_cases hr : r' = r
  · subst hr
    simp only [setChannel_channels, AList.lookup_insert, Option.some.injEq] at h'
    exact ⟨ch, h, h' ▸ hi, h' ▸ hc, h' ▸ ha⟩
  · simp only [setChannel_channels, AList.lookup_insert_ne hr] at h'
    exact ⟨ch'', h', rfl, rfl, rfl⟩

theorem erase (ep : Endpoint) (k : RoutingKey) :
    KeepsChannels ep { ep with channels := ep.channels.erase k } := by
  refine ⟨rfl, fun r ch h => ⟨ch, ?_, rfl, rfl, rfl⟩⟩
  by_cases hr : r = k
  · subst hr; simp at h
  · simpa [AList.lookup_erase_ne hr] using h

end KeepsChannels

theorem stream_eq_ok {r : RoutingKey} {s : UInt32} {m : Payload} :
    ep.stream r s m = .ok ep' ↔
      ∃ chan, ep.channels.lookup r = some chan ∧ ep' = ep.log (.engine chan.chan (.stream s m)) := by
  unfold stream
  cases ep.channels.lookup r <;> simp [unwrap, eq_comm]

theorem stream_keeps {r : RoutingKey} {s : UInt32} {m : Payload}
    (h : ep.stream r s m = .ok ep') : KeepsChannels ep ep' := by
  obtain ⟨_, -, rfl⟩ := stream_eq_ok.1 h
  exact .of_eq rfl rfl

/-- `open` logs its calls of the engine and writes the channel back with its
handlers changed. -/
theorem openHandler_eq_ok {r : RoutingKey} {hs : Headers} {s : UInt32}
    {sends : List Payload} {pub : Option Publisher} (h : ep.openHandler r hs s sends pub = .ok ep') :
    ∃ chan ss ps, ep.channels.lookup r = some chan ∧
      ep' = { ep with
        effects := ep.effects ++ .engine chan.chan (.openStream hs) ::
          sends.map fun m => .engine chan.chan (.stream s m),
        channels := ep.channels.insert r { chan with streams := ss, publishers := ps } } := by
  unfold openHandler at h
  obtain ⟨chan, hc, h⟩ := Except.bind_eq_ok.1 h
  cases hl : ep.channels.lookup r <;> simp only [hl, unwrap] at hc <;> cases hc
  obtain ⟨chan', hd, h⟩ := Except.bind_eq_ok.1 h
  obtain ⟨ps, rfl⟩ := UdpChannel.dropHandler_eq_ok hd
  cases h
  exact ⟨_, _, _, rfl, by rw [foldl_log]; simp only [setChannel, log, List.append_assoc, List.singleton_append]; rfl⟩

theorem openHandler_keeps {r : RoutingKey} {hs : Headers} {s : UInt32}
    {sends : List Payload} {pub : Option Publisher} (h : ep.openHandler r hs s sends pub = .ok ep') :
    KeepsChannels ep ep' := by
  obtain ⟨chan, ss, ps, hl, rfl⟩ := openHandler_eq_ok h
  exact @KeepsChannels.setChannel { ep with effects := _ } r chan _ hl rfl rfl rfl

theorem open_keeps {r : RoutingKey} {hs : Headers} {s : UInt32} {sends : List Payload}
    (h : ep.open r hs s sends = .ok ep') : KeepsChannels ep ep' :=
  openHandler_keeps h

theorem publish_keeps {shadow : List UInt8} {i : PublishInput}
    (h : ep.publish shadow i = .ok ep') : KeepsChannels ep ep' := by
  unfold publish at h
  dsimp only at h
  split_ifs at h <;> refine .trans ?_ (openHandler_keeps h) <;> exact .of_eq rfl rfl

theorem connect_keeps {t : Identity} {i : ConnectInput}
    {r : Except Error Unit} (h : ep.connect cx t i = .ok (ep', r)) : KeepsChannels ep ep' := by
  unfold connect at h
  split at h
  · cases h; exact .refl ep
  · obtain ⟨chan, -, h⟩ := Except.bind_eq_ok.1 h
    cases h
    exact .of_eq rfl rfl

/-- Candidates that no datagram has been counted for yet. -/
def Unheard (addrs : Candidates) : Prop := ∀ a c n, addrs.lookup a = some (c, n) → n = 0

/-- What the `accept_*` operations do to the channel map: a channel with the next
engine and unheard candidates may be installed, and every other channel keeps
its identity, engine and address mode. -/
def AddsChannel (ep ep' : Endpoint) : Prop :=
  ep'.engines = ep.engines + 1 ∧ ∀ r ch', ep'.channels.lookup r = some ch' →
    (∃ ch, ep.channels.lookup r = some ch ∧
      ch'.identity = ch.identity ∧ ch'.chan = ch.chan ∧ ch'.addrs = ch.addrs) ∨
    (ch'.chan = ep.engines ∧ ∃ addrs, ch'.addrs = .discovering addrs ∧ Unheard addrs)

theorem AddsChannel.keeps {a b c : Endpoint} (h₁ : AddsChannel a b) (h₂ : KeepsChannels b c) :
    AddsChannel a c := by
  refine ⟨h₂.1.trans h₁.1, fun r ch₂ h => ?_⟩
  obtain ⟨ch₁, h₁', hi, hc, ha⟩ := h₂.2 r ch₂ h
  rcases h₁.2 r ch₁ h₁' with ⟨ch₀, h₀, hi', hc', ha'⟩ | ⟨hc', addrs, ha', hu⟩
  · exact .inl ⟨ch₀, h₀, hi.trans hi', hc.trans hc', ha.trans ha'⟩
  · exact .inr ⟨hc.trans hc', addrs, ha.trans ha', hu⟩

theorem addChannel_adds (ep : Endpoint) (r : RoutingKey) (identity : Identity) {addrs : Candidates}
    (h : Unheard addrs) : AddsChannel ep (ep.addChannel r identity addrs) := by
  refine ⟨rfl, fun r' ch' h' => ?_⟩
  by_cases hr : r' = r
  · subst hr
    simp only [addChannel, AList.lookup_insert, Option.some.injEq] at h'
    exact .inr ⟨h' ▸ rfl, addrs, h' ▸ rfl, h⟩
  · simp only [addChannel, AList.lookup_insert_ne hr] at h'
    exact .inl ⟨ch', h', rfl, rfl, rfl⟩

theorem withBrokerOrigin_unheard (ep : Endpoint) {paths : Candidates} (h : Unheard paths) :
    Unheard (ep.withBrokerOrigin paths) := by
  unfold withBrokerOrigin
  split
  · rename_i addr _ _ _ _ _
    intro a c n ha
    by_cases hx : a = addr
    · subst hx; simp at ha; exact ha.2.symm
    · exact h a c n (by simpa [AList.lookup_insert_ne hx] using ha)
  · exact h

theorem acceptIncomming_adds {q : ConnectRequest}
    {i : AcceptIncommingInput} (h : ep.acceptIncomming cx q i = .ok ep') : AddsChannel ep ep' := by
  obtain ⟨pkt, -, h⟩ := Except.bind_eq_ok.1 h
  obtain ⟨paths, hp, h⟩ := Except.bind_eq_ok.1 h
  obtain ⟨_, -, h⟩ := Except.bind_eq_ok.1 h
  exact (addChannel_adds ep _ _ (withBrokerOrigin_unheard ep (seedPaths_counts hp))).keeps
    (stream_keeps h)

/-- `accept_outgoing` installs the channel to the peer, or changes nothing. -/
theorem acceptOutgoing_eq_ok {q : ConnectResponse}
    {i : AcceptOutgoingInput} {r : Except Error RoutingKey} (h : ep.acceptOutgoing cx q i = .ok (ep', r)) :
    ep' = ep ∨ ∃ cr paths, q.cr = some cr ∧ seedPaths cx cr.paths = .ok paths ∧
      ep' = ep.addChannel cr.route q.identity (ep.withBrokerOrigin paths) ∧ r = .ok cr.route := by
  unfold acceptOutgoing at h
  repeat' split at h
  all_goals try (cases h; exact .inl rfl)
  all_goals obtain ⟨_, -, h⟩ := Except.bind_eq_ok.1 h
  all_goals repeat' split at h
  all_goals try (cases h; exact .inl rfl)
  all_goals try cases h
  obtain ⟨paths, hp, h⟩ := Except.bind_eq_ok.1 h
  obtain ⟨_, -, h⟩ := Except.bind_eq_ok.1 h
  cases h
  exact .inr ⟨_, _, ‹_›, hp, rfl, rfl⟩

theorem acceptOutgoing_adds {q : ConnectResponse}
    {i : AcceptOutgoingInput} {r : Except Error RoutingKey} (h : ep.acceptOutgoing cx q i = .ok (ep', r)) :
    KeepsChannels ep ep' ∨ AddsChannel ep ep' := by
  rcases acceptOutgoing_eq_ok h with rfl | ⟨cr, paths, -, hp, rfl, -⟩
  · exact .inl (.refl _)
  · exact .inr (addChannel_adds ep _ _ (withBrokerOrigin_unheard ep (seedPaths_counts hp)))

/-! ### The channel loop of `poll` -/

theorem foldlM_shakeStep {polls : UInt32 → HandlerPoll} :
    ∀ {l : List UInt32} {acc acc' : Endpoint × UdpChannel × Option Nat},
      l.foldlM (shakeStep cx polls) acc = .ok acc' → ∃ es ss ps,
        acc'.1 = { acc.1 with effects := acc.1.effects ++ es } ∧
        acc'.2.1 = { acc.2.1 with streams := ss, publishers := ps }
  | [], _, _, h => by cases h; exact ⟨[], _, _, by simp, rfl⟩
  | s :: l, acc, acc', h => by
    obtain ⟨mid, hm, h⟩ := Except.bind_eq_ok.1 h
    obtain ⟨es, ss, ps, h₁, h₂⟩ := foldlM_shakeStep h
    rw [h₁, h₂]
    obtain ⟨⟨chan, r⟩, hp, hm⟩ := Except.bind_eq_ok.1 hm
    obtain ⟨ps', rfl⟩ := UdpChannel.pollHandler_eq_ok hp
    dsimp only at hm
    split at hm <;> cases hm
    · exact ⟨.engine acc.2.1.chan (.close s) :: es, ss, ps, by simp [log], rfl⟩
    · exact ⟨es, ss, ps, rfl, rfl⟩

/-- A shake only adds to the log, drops handlers and moves the generators of
the publish handlers. -/
theorem shake_frame {chan chan' : UdpChannel}
    {polls : UInt32 → HandlerPoll} {later later' : Option Nat}
    (h : ep.shake cx chan polls later = .ok (ep', chan', later')) : ∃ es ss ps,
      ep' = { ep with effects := ep.effects ++ es } ∧ chan' = { chan with streams := ss, publishers := ps } :=
  foldlM_shakeStep h

/-- Acting on an answer of `progress()` changes only the log, the two sets of
pending connects and the channel's handlers. -/
theorem dispatch_frame {r : RoutingKey} {chan chan' : UdpChannel}
    {pass pass' : Pass} {i : VisitInput} {p : ChannelProgress} {ret : Option (Except Error Event)}
    (h : ep.dispatch cx r chan pass i p = .ok (ep', chan', pass', ret)) :
    ∃ es inc out ss ps,
      ep' = { ep with effects := es, outstandingConnectIncomming := inc,
                      outstandingConnectOutgoing := out } ∧
      chan' = { chan with streams := ss, publishers := ps } := by
  cases p <;> simp only [dispatch] at h <;> (repeat' split at h)
  all_goals (try obtain ⟨_, hd, h⟩ := Except.bind_eq_ok.1 h)
  all_goals (try obtain ⟨_, rfl⟩ := UdpChannel.dropHandler_eq_ok hd)
  all_goals cases h
  all_goals try rw [UdpChannel.fillInbox_eq]
  all_goals try simp only [sendPacket, foldl_log, deliver]
  all_goals try split_ifs
  all_goals exact ⟨_, _, _, _, _, rfl, rfl⟩

/-- A visit of the channel at `route` changes only the log, the two sets of
pending connects and that channel's handlers. -/
theorem visit_frame {r : RoutingKey} {chan : UdpChannel}
    {pass pass' : Pass} {i : VisitInput} {ret : Option (Except Error Event)}
    (h : ep.visit cx r chan pass i = .ok (ep', pass', ret)) :
    ∃ es inc out ss ps,
      ep' = { ep with effects := es, outstandingConnectIncomming := inc,
                      outstandingConnectOutgoing := out,
                      channels := ep.channels.insert r { chan with streams := ss, publishers := ps } } := by
  unfold visit at h
  obtain ⟨⟨ep₁, chan₁, later₁⟩, hs, h⟩ := Except.bind_eq_ok.1 h
  obtain ⟨es₁, ss₁, ps₁, rfl, rfl⟩ := shake_frame hs
  dsimp only at h
  split at h
  · cases h; exact ⟨_, _, _, _, _, rfl⟩
  · obtain ⟨⟨ep₂, chan₂, pass₂, ret₂⟩, hd, h⟩ := Except.bind_eq_ok.1 h
    obtain ⟨es₂, inc, out, ss₂, ps₂, rfl, rfl⟩ := dispatch_frame hd
    dsimp only at h
    split at h
    · cases h; exact ⟨_, _, _, _, _, rfl⟩
    · obtain ⟨⟨ep₃, chan₃, later₃⟩, hs', h⟩ := Except.bind_eq_ok.1 h
      obtain ⟨es₃, ss₃, ps₃, rfl, rfl⟩ := shake_frame hs'
      cases h
      exact ⟨_, _, _, _, _, rfl⟩

theorem visit_keeps {r : RoutingKey} {chan : UdpChannel}
    {pass pass' : Pass} {i : VisitInput} {ret : Option (Except Error Event)}
    (h : ep.visit cx r chan pass i = .ok (ep', pass', ret)) (hc : ep.channels.lookup r = some chan) :
    KeepsChannels ep ep' := by
  obtain ⟨es, inc, out, ss, ps, rfl⟩ := visit_frame h
  exact @KeepsChannels.setChannel
    { ep with effects := es, outstandingConnectIncomming := inc, outstandingConnectOutgoing := out }
    r chan _ hc rfl rfl rfl

/-- The loop after a pass changes only the channel map. -/
theorem removeKilled_eq_ok {ks : List RoutingKey} {ev : Option Event}
    (h : ep.removeKilled ks = .ok (ep', ev)) : ∃ chans, ep' = { ep with channels := chans } := by
  induction ks generalizing ep with
  | nil => cases h; exact ⟨_, rfl⟩
  | cons k ks ih =>
    unfold removeKilled at h
    split at h
    · obtain ⟨_, -, h⟩ := Except.bind_eq_ok.1 h
      cases h
      exact ⟨_, rfl⟩
    · obtain ⟨chans, rfl⟩ := ih h
      exact ⟨chans, rfl⟩

theorem removeKilled_keeps {ks : List RoutingKey} {ev : Option Event}
    (h : ep.removeKilled ks = .ok (ep', ev)) : KeepsChannels ep ep' := by
  induction ks generalizing ep with
  | nil => cases h; exact .refl _
  | cons k ks ih =>
    unfold removeKilled at h
    split at h
    · obtain ⟨_, -, h⟩ := Except.bind_eq_ok.1 h
      cases h
      exact .erase ep k
    · exact (KeepsChannels.erase ep k).trans (ih h)

/-! ### The datagram half of `poll` -/

/-- Receiving changes nothing but the log, unless the datagram decodes and has a
channel: then that channel's address mode counts it and migrates. -/
theorem receive_frame {dg : Except IoErrorKind (List UInt8 × SocketAddr)}
    {rr : Except Error Unit} {e : Option Error} (h : ep.receive dg rr = .ok (ep', e)) :
    (∃ es, ep' = { ep with effects := es }) ∨
    ∃ bytes addr pkt ch m, dg = .ok (bytes, addr) ∧ EncryptedPacket.decode bytes = .ok pkt ∧
      ep.channels.lookup pkt.route = some ch ∧ ch.addrs.receive addr = .ok m ∧
      ep' = (ep.log (.engine ch.chan (.recv pkt))).setChannel pkt.route
        { ch with addrs := m.afterRecv rr addr } := by
  unfold receive at h
  split at h
  · cases h; exact .inl ⟨_, rfl⟩
  · rename_i bytes addr
    split at h
    · cases h; exact .inl ⟨_, rfl⟩
    · rename_i pkt hpkt
      split at h
      · cases h; exact .inl ⟨_, rfl⟩
      · rename_i ch hch
        obtain ⟨m, hm, h⟩ := Except.bind_eq_ok.1 h
        cases h
        exact .inr ⟨bytes, addr, pkt, ch, m, rfl, hpkt, hch, hm, rfl⟩

/-- How a step may change an address mode: not at all, or by a datagram from
`addr` routed to the channel, counted and then migrated if the engine accepted
it. -/
def ModeStep (op : Op) (r : RoutingKey) (mode mode' : AddressMode) : Prop :=
  mode' = mode ∨ ∃ bytes addr recvResult pkt m, op = .receive (.ok (bytes, addr)) recvResult ∧
    EncryptedPacket.decode bytes = .ok pkt ∧ pkt.route = r ∧ mode.receive addr = .ok m ∧
    mode' = m.afterRecv recvResult addr

/-- What one step may do to the channel map: every channel it leaves keeps its
identity and engine, and changes its address mode only by `ModeStep`; a channel
it installs has a new engine and unheard candidates. -/
def ChannelStep (op : Op) (ep ep' : Endpoint) : Prop :=
  ep.engines ≤ ep'.engines ∧ ∀ r ch', ep'.channels.lookup r = some ch' →
    (∃ ch, ep.channels.lookup r = some ch ∧ ch'.identity = ch.identity ∧ ch'.chan = ch.chan ∧
      ModeStep op r ch.addrs ch'.addrs) ∨
    (ep.engines ≤ ch'.chan ∧ ch'.chan < ep'.engines ∧
      ∃ addrs, ch'.addrs = .discovering addrs ∧ Unheard addrs)

theorem KeepsChannels.channelStep (h : KeepsChannels ep ep') (op : Op) :
    ChannelStep op ep ep' := by
  refine ⟨h.1.ge, fun r ch' h' => .inl ?_⟩
  obtain ⟨ch, hc, hi, hn, ha⟩ := h.2 r ch' h'
  exact ⟨ch, hc, hi, hn, .inl ha⟩

theorem AddsChannel.channelStep (h : AddsChannel ep ep') (op : Op) :
    ChannelStep op ep ep' := by
  have he := h.1
  refine ⟨by omega, fun r ch' h' => ?_⟩
  rcases h.2 r ch' h' with ⟨ch, hc, hi, hn, ha⟩ | ⟨hn, hu⟩
  · exact .inl ⟨ch, hc, hi, hn, .inl ha⟩
  · exact .inr ⟨hn.ge, by omega, hu⟩

theorem receive_channelStep {dg : Except IoErrorKind (List UInt8 × SocketAddr)}
    {rr : Except Error Unit} {e : Option Error} (h : ep.receive dg rr = .ok (ep', e)) :
    ChannelStep (.receive dg rr) ep ep' := by
  rcases receive_frame h with ⟨es, rfl⟩ | ⟨bytes, addr, pkt, ch, m, rfl, hpkt, hch, hm, rfl⟩
  · exact (KeepsChannels.of_eq rfl rfl).channelStep _
  · refine ⟨le_rfl, fun r ch' h' => .inl ?_⟩
    by_cases hr : r = pkt.route
    · subst hr
      simp only [setChannel_channels, log_channels, AList.lookup_insert, Option.some.injEq] at h'
      subst h'
      exact ⟨ch, hch, rfl, rfl, .inr ⟨bytes, addr, rr, pkt, m, rfl, hpkt, rfl, hm, rfl⟩⟩
    · simp only [setChannel_channels, log_channels, AList.lookup_insert_ne hr] at h'
      exact ⟨ch', h', rfl, rfl, .inl rfl⟩

/-- What any step does to the channel map. -/
theorem step_channelStep
    (h : step cx s op = some (s', rep)) : ChannelStep op s.ep s'.ep := by
  rcases step_cases h with ⟨p, he, -⟩ | ⟨-, -, hc⟩ | ⟨dg, rr, e, rfl, -, hr, -⟩ |
    ⟨i, pass, chan, pass', ret, rfl, -, -, hl, hv, -⟩ | ⟨pass, ev, rfl, -, -, hk, -⟩
  · rw [he]; exact (KeepsChannels.of_eq rfl rfl).channelStep op
  · exact hc.rel (ChannelStep op) (fun h => (connect_keeps h).channelStep _)
      (fun h => (open_keeps h).channelStep _) (fun h => (stream_keeps h).channelStep _)
      (fun h => (publish_keeps h).channelStep _) (fun h => (acceptIncomming_adds h).channelStep _)
      fun h => (acceptOutgoing_adds h).elim (·.channelStep _) (·.channelStep _)
  · have := receive_channelStep hr
    exact this
  · exact (visit_keeps hv hl).channelStep _
  · exact (removeKilled_keeps hk).channelStep _

end Endpoint

end Carrier
