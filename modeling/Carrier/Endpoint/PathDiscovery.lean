import Carrier.Endpoint.Frame

/-!
# Path discovery over whole runs

Every channel of every reachable state keeps the invariant of `Discovery`: its
counts stay below five while it is discovering, and once established its chosen
address is never worse than a candidate it heard from. Engine handles stay below
the number of engines made, so a channel that a later `accept_*` installs at the
same route is never mistaken for the one it replaced.

Over one step, the datagram that raises a count to five settles its channel
without panicking on a minimal candidate, and an established channel stays
established with the same candidates, moving only to the source of a datagram
its engine accepted and never to a worse category.
-/

namespace Carrier

open Endpoint

variable {cx : Codecs} {s s' : Sys} {op : Op} {rep : Reply}

/-- Every channel keeps the path-discovery invariant, and its engine handle is
below the number of engines made. -/
def ChannelsInv (ep : Endpoint) : Prop :=
  ∀ r ch, ep.channels.lookup r = some ch → ch.chan < ep.engines ∧ ch.addrs.Inv

theorem AddressMode.afterRecv_inv {mode : AddressMode} (h : mode.Inv) (rr : Except Error Unit)
    (addr : SocketAddr) : (mode.afterRecv rr addr).Inv := by
  cases rr
  · exact h
  · exact migrate_inv h addr

theorem Endpoint.Unheard.inv {addrs : Candidates} (h : Unheard addrs) : (AddressMode.discovering addrs).Inv :=
  fun a c n ha => (h a c n ha).symm ▸ Nat.zero_le 4

theorem Endpoint.ModeStep.inv {r : RoutingKey} {mode mode' : AddressMode} (h : ModeStep op r mode mode')
    (hi : mode.Inv) : mode'.Inv := by
  rcases h with rfl | ⟨bytes, addr, rr, pkt, m, -, -, -, hm, rfl⟩
  · exact hi
  · obtain ⟨m', hm', hi'⟩ := AddressMode.receive_inv hi addr
    rw [hm] at hm'
    cases hm'
    exact AddressMode.afterRecv_inv hi' rr addr

theorem channelsInv_new (brokerRoute : RoutingKey) (identity : Identity) (addr : SocketAddr) :
    ChannelsInv (Endpoint.new brokerRoute identity addr) := by
  intro r ch h
  by_cases hr : r = brokerRoute
  · subst hr
    simp only [Endpoint.new, AList.lookup_insert, Option.some.injEq] at h
    subst h
    exact ⟨Nat.zero_lt_one, fun a c n ha => by simp at ha⟩
  · simp only [Endpoint.new, AList.lookup_insert_ne hr] at h
    simp at h

theorem step_channelsInv
    (h : step cx s op = some (s', rep)) (hi : ChannelsInv s.ep) : ChannelsInv s'.ep := by
  obtain ⟨hle, hch⟩ := step_channelStep h
  intro r ch' h'
  rcases hch r ch' h' with ⟨ch, hc, -, hn, hm⟩ | ⟨-, hn, addrs, ha, hu⟩
  · obtain ⟨hlt, hinv⟩ := hi r ch hc
    exact ⟨hn ▸ lt_of_lt_of_le hlt hle, hm.inv hinv⟩
  · exact ⟨hn, ha ▸ hu.inv⟩

theorem reachable_channelsInv (h : Reachable cx s) : ChannelsInv s.ep := by
  induction h with
  | init brokerRoute identity addr => exact channelsInv_new brokerRoute identity addr
  | step _ hstep ih => exact step_channelsInv hstep ih

end Carrier

namespace Carrier

open Endpoint

/-- Migrating right after settling keeps the chosen address minimal, when the
datagram's source has been heard from. -/
theorem afterRecv_settled {prev : Candidates} {chosen addr : SocketAddr} (hs : Settled prev chosen)
    {c : Category} {n : Nat} (ha : prev.lookup addr = some (c, n)) (hn : 1 ≤ n)
    (rr : Except Error Unit) :
    ∃ chosen', (AddressMode.established chosen prev).afterRecv rr addr = .established chosen' prev ∧
      Settled prev chosen' := by
  cases rr with
  | error => exact ⟨chosen, rfl, hs⟩
  | ok =>
    obtain ⟨c', hc', rfl | rfl, hle⟩ := AddressMode.migrate_established addr chosen prev
    · exact ⟨_, hc', hs⟩
    · obtain ⟨cc, nc, hcc, -, hmin⟩ := hs
      refine ⟨_, hc', c, n, ha, hn, fun a c'' n'' ha' h1 => ?_⟩
      simp only [Candidates.entry, ha, hcc, Option.getD_some] at hle
      exact hle.trans (hmin a c'' n'' ha' h1)

/-- The datagram that raises a count to five settles its channel without a
panic, on a minimal candidate heard from; the channel keeps its engine. -/
theorem step_settles {bytes : List UInt8}
    {addr : SocketAddr} {rr : Except Error Unit} {pkt : EncryptedPacket} {ch : UdpChannel}
    {addrs : Candidates} (h : step cx s (.receive (.ok (bytes, addr)) rr) = some (s', rep))
    (hpkt : EncryptedPacket.decode bytes = .ok pkt) (hch : s.ep.channels.lookup pkt.route = some ch)
    (hd : ch.addrs = .discovering addrs) (h5 : (addrs.entry addr).2 + 1 = 5) :
    let counted := addrs.insert addr ((addrs.entry addr).1, (addrs.entry addr).2 + 1)
    (∀ p, s'.ctl ≠ .panicked p) ∧ ∃ ch' chosen, s'.ep.channels.lookup pkt.route = some ch' ∧
      ch'.chan = ch.chan ∧ ch'.addrs = .established chosen counted ∧ Settled counted chosen := by
  intro counted
  obtain ⟨ep, ctl⟩ := s
  obtain ⟨-, m, hm, hs⟩ := (AddressMode.receive_discovering addr addrs).resolve_left (by omega)
  rw [← hd] at hm
  obtain ⟨chosen, hmig, hs'⟩ := afterRecv_settled hs (AList.lookup_insert _) (by omega) rr
  have hr : ep.begin.receive (.ok (bytes, addr)) rr =
      .ok ((ep.begin.log (.engine ch.chan (.recv pkt))).setChannel pkt.route
        { ch with addrs := .established chosen counted }, none) := by
    simp only [Endpoint.receive, hpkt]
    rw [show ep.begin.channels.lookup pkt.route = some ch from hch]
    simp only [hm, Except.ok_bind, hmig]
    rfl
  cases ctl <;> simp only [step, hr, Option.some.injEq, reduceCtorEq] at h
  obtain ⟨rfl, rfl⟩ := Prod.mk.inj h
  exact ⟨fun p => by simp, { ch with addrs := .established chosen counted }, chosen, by simp, rfl, rfl, hs'⟩

/-- An established channel that keeps its engine stays established on the same
candidates; its chosen address never gets a worse category, and changes only to
the source of a datagram for its route that the engine accepted. -/
theorem step_established
    (h : step cx s op = some (s', rep)) (hi : ChannelsInv s.ep) {r : RoutingKey} {ch ch' : UdpChannel}
    {chosen : SocketAddr} {prev : Candidates} (hch : s.ep.channels.lookup r = some ch)
    (he : ch.addrs = .established chosen prev) (hch' : s'.ep.channels.lookup r = some ch')
    (hsame : ch'.chan = ch.chan) :
    ∃ chosen', ch'.addrs = .established chosen' prev ∧
      (prev.entry chosen').1.toI32 ≤ (prev.entry chosen).1.toI32 ∧
      (chosen' ≠ chosen → ∃ bytes pkt, op = .receive (.ok (bytes, chosen')) (.ok ()) ∧
        EncryptedPacket.decode bytes = .ok pkt ∧ pkt.route = r) := by
  rcases (step_channelStep h).2 r ch' hch' with ⟨ch₀, hc₀, -, -, hm⟩ | ⟨hn, -, -⟩
  · rw [hch] at hc₀
    cases hc₀
    rcases hm with heq | ⟨bytes, addr, rr, pkt, m, rfl, hpkt, rfl, hrecv, hafter⟩
    · exact ⟨chosen, heq.trans he, le_rfl, fun hne => absurd rfl hne⟩
    · rw [he, AddressMode.receive_established] at hrecv
      cases hrecv
      cases rr with
      | error => exact ⟨chosen, hafter, le_rfl, fun hne => absurd rfl hne⟩
      | ok =>
        obtain ⟨c, hc, hor, hle⟩ := AddressMode.migrate_established addr chosen prev
        refine ⟨c, hafter.trans hc, hle, fun hne => ?_⟩
        rcases hor with rfl | rfl
        · exact absurd rfl hne
        · exact ⟨bytes, pkt, rfl, hpkt, rfl⟩
  · exact absurd (hsame ▸ (hi r ch hch).1) (not_lt.2 hn)

/-- The path-discovery properties of one step from `s` to `s'`: every channel
of `s` keeps the invariant; the datagram that raises a count to five settles
its channel without a panic on a minimal candidate heard from; and an
established channel that keeps its engine stays established on the same
candidates, moving only to the source of an accepted datagram and never to a
worse category. -/
def DiscoveryStep (s : Sys) (op : Op) (s' : Sys) : Prop :=
  (∀ r ch, s.ep.channels.lookup r = some ch → ch.addrs.Inv) ∧
  (∀ bytes addr rr pkt ch addrs, op = .receive (.ok (bytes, addr)) rr →
    EncryptedPacket.decode bytes = .ok pkt → s.ep.channels.lookup pkt.route = some ch →
    ch.addrs = .discovering addrs → (addrs.entry addr).2 + 1 = 5 →
    let counted := addrs.insert addr ((addrs.entry addr).1, (addrs.entry addr).2 + 1)
    (∀ p, s'.ctl ≠ .panicked p) ∧ ∃ ch' chosen, s'.ep.channels.lookup pkt.route = some ch' ∧
      ch'.chan = ch.chan ∧ ch'.addrs = .established chosen counted ∧ Settled counted chosen) ∧
  (∀ r ch ch' chosen prev, s.ep.channels.lookup r = some ch →
    ch.addrs = .established chosen prev → s'.ep.channels.lookup r = some ch' → ch'.chan = ch.chan →
    ∃ chosen', ch'.addrs = .established chosen' prev ∧
      (prev.entry chosen').1.toI32 ≤ (prev.entry chosen).1.toI32 ∧
      (chosen' ≠ chosen → ∃ bytes pkt, op = .receive (.ok (bytes, chosen')) (.ok ()) ∧
        EncryptedPacket.decode bytes = .ok pkt ∧ pkt.route = r))

theorem path_discovery (hs : Reachable cx s)
    (h : step cx s op = some (s', rep)) : DiscoveryStep s op s' := by
  have hi := reachable_channelsInv hs
  refine ⟨fun r ch hc => (hi r ch hc).2, ?_, fun r ch ch' chosen prev hc he hc' hn =>
    step_established h hi hc he hc' hn⟩
  rintro bytes addr rr pkt ch addrs rfl hpkt hch hd h5
  exact step_settles h hpkt hch hd h5

/-- A peer's channel hears four datagrams from one address, each `poll` ending
at a failed `progress()`; the fifth datagram settles it. -/
theorem path_discovery_fifth_datagram :
    Reachable Codecs.sample ((Sys.init 1 ⟨[7]⟩ ⟨[10, 0, 0, 1], 4000⟩).last
      (run Codecs.sample (Sys.init 1 ⟨[7]⟩ ⟨[10, 0, 0, 1], 4000⟩)
        [.acceptIncomming ⟨5, ⟨[2]⟩, ⟨0⟩, ⟨[2], 0, [], [], 2⟩⟩ ⟨.ok ⟨8, 2, .initiator2Responder, 0, []⟩, []⟩,
          .receive (.ok ([8, 0xff, 0xff, 0xff, 0, 0, 0, 0, 0, 0, 0, 2] ++ List.replicate 8 0, ⟨[10, 0, 0, 2], 5000⟩)) (.ok ()),
          .visit (.failing 2 .antiReplay),
          .receive (.ok ([8, 0xff, 0xff, 0xff, 0, 0, 0, 0, 0, 0, 0, 2] ++ List.replicate 8 0, ⟨[10, 0, 0, 2], 5000⟩)) (.ok ()),
          .visit (.failing 2 .antiReplay),
          .receive (.ok ([8, 0xff, 0xff, 0xff, 0, 0, 0, 0, 0, 0, 0, 2] ++ List.replicate 8 0, ⟨[10, 0, 0, 2], 5000⟩)) (.ok ()),
          .visit (.failing 2 .antiReplay),
          .receive (.ok ([8, 0xff, 0xff, 0xff, 0, 0, 0, 0, 0, 0, 0, 2] ++ List.replicate 8 0, ⟨[10, 0, 0, 2], 5000⟩)) (.ok ()),
          .visit (.failing 2 .antiReplay)])) ∧
    (∃ ch addrs, ((Sys.init 1 ⟨[7]⟩ ⟨[10, 0, 0, 1], 4000⟩).last
      (run Codecs.sample (Sys.init 1 ⟨[7]⟩ ⟨[10, 0, 0, 1], 4000⟩)
        [.acceptIncomming ⟨5, ⟨[2]⟩, ⟨0⟩, ⟨[2], 0, [], [], 2⟩⟩ ⟨.ok ⟨8, 2, .initiator2Responder, 0, []⟩, []⟩,
          .receive (.ok ([8, 0xff, 0xff, 0xff, 0, 0, 0, 0, 0, 0, 0, 2] ++ List.replicate 8 0, ⟨[10, 0, 0, 2], 5000⟩)) (.ok ()),
          .visit (.failing 2 .antiReplay),
          .receive (.ok ([8, 0xff, 0xff, 0xff, 0, 0, 0, 0, 0, 0, 0, 2] ++ List.replicate 8 0, ⟨[10, 0, 0, 2], 5000⟩)) (.ok ()),
          .visit (.failing 2 .antiReplay),
          .receive (.ok ([8, 0xff, 0xff, 0xff, 0, 0, 0, 0, 0, 0, 0, 2] ++ List.replicate 8 0, ⟨[10, 0, 0, 2], 5000⟩)) (.ok ()),
          .visit (.failing 2 .antiReplay),
          .receive (.ok ([8, 0xff, 0xff, 0xff, 0, 0, 0, 0, 0, 0, 0, 2] ++ List.replicate 8 0, ⟨[10, 0, 0, 2], 5000⟩)) (.ok ()),
          .visit (.failing 2 .antiReplay)])).ep.channels.lookup 2 = some ch ∧
      ch.addrs = .discovering addrs ∧ (addrs.entry ⟨[10, 0, 0, 2], 5000⟩).2 + 1 = 5) ∧
    ∃ σ' rep, step Codecs.sample ((Sys.init 1 ⟨[7]⟩ ⟨[10, 0, 0, 1], 4000⟩).last
      (run Codecs.sample (Sys.init 1 ⟨[7]⟩ ⟨[10, 0, 0, 1], 4000⟩)
        [.acceptIncomming ⟨5, ⟨[2]⟩, ⟨0⟩, ⟨[2], 0, [], [], 2⟩⟩ ⟨.ok ⟨8, 2, .initiator2Responder, 0, []⟩, []⟩,
          .receive (.ok ([8, 0xff, 0xff, 0xff, 0, 0, 0, 0, 0, 0, 0, 2] ++ List.replicate 8 0, ⟨[10, 0, 0, 2], 5000⟩)) (.ok ()),
          .visit (.failing 2 .antiReplay),
          .receive (.ok ([8, 0xff, 0xff, 0xff, 0, 0, 0, 0, 0, 0, 0, 2] ++ List.replicate 8 0, ⟨[10, 0, 0, 2], 5000⟩)) (.ok ()),
          .visit (.failing 2 .antiReplay),
          .receive (.ok ([8, 0xff, 0xff, 0xff, 0, 0, 0, 0, 0, 0, 0, 2] ++ List.replicate 8 0, ⟨[10, 0, 0, 2], 5000⟩)) (.ok ()),
          .visit (.failing 2 .antiReplay),
          .receive (.ok ([8, 0xff, 0xff, 0xff, 0, 0, 0, 0, 0, 0, 0, 2] ++ List.replicate 8 0, ⟨[10, 0, 0, 2], 5000⟩)) (.ok ()),
          .visit (.failing 2 .antiReplay)]))
        (.receive (.ok ([8, 0xff, 0xff, 0xff, 0, 0, 0, 0, 0, 0, 0, 2] ++ List.replicate 8 0, ⟨[10, 0, 0, 2], 5000⟩)) (.ok ())) =
        some (σ', rep) ∧
      DiscoveryStep ((Sys.init 1 ⟨[7]⟩ ⟨[10, 0, 0, 1], 4000⟩).last
      (run Codecs.sample (Sys.init 1 ⟨[7]⟩ ⟨[10, 0, 0, 1], 4000⟩)
        [.acceptIncomming ⟨5, ⟨[2]⟩, ⟨0⟩, ⟨[2], 0, [], [], 2⟩⟩ ⟨.ok ⟨8, 2, .initiator2Responder, 0, []⟩, []⟩,
          .receive (.ok ([8, 0xff, 0xff, 0xff, 0, 0, 0, 0, 0, 0, 0, 2] ++ List.replicate 8 0, ⟨[10, 0, 0, 2], 5000⟩)) (.ok ()),
          .visit (.failing 2 .antiReplay),
          .receive (.ok ([8, 0xff, 0xff, 0xff, 0, 0, 0, 0, 0, 0, 0, 2] ++ List.replicate 8 0, ⟨[10, 0, 0, 2], 5000⟩)) (.ok ()),
          .visit (.failing 2 .antiReplay),
          .receive (.ok ([8, 0xff, 0xff, 0xff, 0, 0, 0, 0, 0, 0, 0, 2] ++ List.replicate 8 0, ⟨[10, 0, 0, 2], 5000⟩)) (.ok ()),
          .visit (.failing 2 .antiReplay),
          .receive (.ok ([8, 0xff, 0xff, 0xff, 0, 0, 0, 0, 0, 0, 0, 2] ++ List.replicate 8 0, ⟨[10, 0, 0, 2], 5000⟩)) (.ok ()),
          .visit (.failing 2 .antiReplay)]))
        (.receive (.ok ([8, 0xff, 0xff, 0xff, 0, 0, 0, 0, 0, 0, 0, 2] ++ List.replicate 8 0, ⟨[10, 0, 0, 2], 5000⟩)) (.ok ()))
        σ' := by
  have hs := (@Reachable.init Codecs.sample 1 ⟨[7]⟩ ⟨[10, 0, 0, 1], 4000⟩).last
        [.acceptIncomming ⟨5, ⟨[2]⟩, ⟨0⟩, ⟨[2], 0, [], [], 2⟩⟩ ⟨.ok ⟨8, 2, .initiator2Responder, 0, []⟩, []⟩,
          .receive (.ok ([8, 0xff, 0xff, 0xff, 0, 0, 0, 0, 0, 0, 0, 2] ++ List.replicate 8 0, ⟨[10, 0, 0, 2], 5000⟩)) (.ok ()),
          .visit (.failing 2 .antiReplay),
          .receive (.ok ([8, 0xff, 0xff, 0xff, 0, 0, 0, 0, 0, 0, 0, 2] ++ List.replicate 8 0, ⟨[10, 0, 0, 2], 5000⟩)) (.ok ()),
          .visit (.failing 2 .antiReplay),
          .receive (.ok ([8, 0xff, 0xff, 0xff, 0, 0, 0, 0, 0, 0, 0, 2] ++ List.replicate 8 0, ⟨[10, 0, 0, 2], 5000⟩)) (.ok ()),
          .visit (.failing 2 .antiReplay),
          .receive (.ok ([8, 0xff, 0xff, 0xff, 0, 0, 0, 0, 0, 0, 0, 2] ++ List.replicate 8 0, ⟨[10, 0, 0, 2], 5000⟩)) (.ok ()),
          .visit (.failing 2 .antiReplay)]
  refine ⟨hs, ⟨_, _, rfl, rfl, rfl⟩, ?_⟩
  have h : DiscoveryStep _
      (.receive (.ok ([8, 0xff, 0xff, 0xff, 0, 0, 0, 0, 0, 0, 0, 2] ++ List.replicate 8 0, ⟨[10, 0, 0, 2], 5000⟩)) (.ok ()))
      _ := path_discovery hs rfl
  exact ⟨_, _, rfl, h⟩

end Carrier
