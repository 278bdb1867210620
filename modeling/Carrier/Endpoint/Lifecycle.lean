import Carrier.Endpoint.Connects

/-!
# The lifecycle of channels

A channel enters the map through `Endpoint::new` and the two `accept_*`
operations. Its engine answering `Disconnect` puts its route on the pass's
`killme` list, and after the pass `poll` takes out the killed channels one by
one, returning at the first that was still in the map with its
`Event::Disconnect`. An `accept_*` for a route that already has a channel
replaces it with a new engine.

Every step keeps the channels of the map except for these two cases, and over
a whole run a channel leaves only after the engine at its route answered
`Disconnect`. The loop after the pass reports one channel only: the other
killed routes keep their channels, which are asked for progress again.
-/

namespace Carrier

variable {cx : Codecs} {ep ep' : Endpoint} {σ σ' : Sys} {op : Op} {rep : Reply}

namespace Endpoint

/-- Every route with a channel in `ep` still has one in `ep'`. -/
def Retains (ep ep' : Endpoint) : Prop := ∀ r, r ∈ ep.channels → r ∈ ep'.channels

theorem Retains.of_eq (h : ep'.channels = ep.channels) : Retains ep ep' :=
  fun _ hr => h ▸ hr

theorem Retains.of_insert {r : RoutingKey} {c : UdpChannel}
    (h : ep'.channels = ep.channels.insert r c) : Retains ep ep' :=
  fun _ hk => h ▸ (AList.mem_insert _).2 (.inr hk)

theorem stream_retains {r : RoutingKey} {s : UInt32} {m : Payload}
    (h : ep.stream r s m = .ok ep') : Retains ep ep' := by
  obtain ⟨_, -, rfl⟩ := stream_eq_ok.1 h
  exact .of_eq rfl

theorem openHandler_retains {r : RoutingKey} {hs : Headers} {s : UInt32}
    {sends : List Payload} {pub : Option Publisher} (h : ep.openHandler r hs s sends pub = .ok ep') :
    Retains ep ep' := by
  obtain ⟨_, _, _, -, rfl⟩ := openHandler_eq_ok h
  exact .of_insert rfl

theorem open_retains {r : RoutingKey} {hs : Headers} {s : UInt32}
    {sends : List Payload} (h : ep.open r hs s sends = .ok ep') : Retains ep ep' :=
  openHandler_retains h

theorem publish_retains {shadow : List UInt8} {i : PublishInput}
    (h : ep.publish shadow i = .ok ep') : Retains ep ep' := by
  unfold publish at h
  dsimp only at h
  split_ifs at h <;> have := openHandler_retains h <;> exact this

theorem connect_retains {t : Identity} {i : ConnectInput}
    {r : Except Error Unit} (h : ep.connect cx t i = .ok (ep', r)) : Retains ep ep' := by
  unfold connect at h
  split at h
  · cases h; exact .of_eq rfl
  · obtain ⟨chan, -, h⟩ := Except.bind_eq_ok.1 h
    cases h; exact .of_eq rfl

theorem acceptIncomming_retains {q : ConnectRequest}
    {i : AcceptIncommingInput} (h : ep.acceptIncomming cx q i = .ok ep') : Retains ep ep' := by
  obtain ⟨pkt, -, h⟩ := Except.bind_eq_ok.1 h
  obtain ⟨paths, -, h⟩ := Except.bind_eq_ok.1 h
  obtain ⟨_, -, h⟩ := Except.bind_eq_ok.1 h
  obtain ⟨_, -, rfl⟩ := stream_eq_ok.1 h
  exact .of_insert rfl

theorem acceptOutgoing_retains {q : ConnectResponse}
    {i : AcceptOutgoingInput} {r : Except Error RoutingKey} (h : ep.acceptOutgoing cx q i = .ok (ep', r)) :
    Retains ep ep' := by
  rcases acceptOutgoing_eq_ok h with rfl | ⟨cr, paths, -, -, rfl, -⟩
  exacts [.of_eq rfl, .of_insert rfl]

theorem receive_retains {dg : Except IoErrorKind (List UInt8 × SocketAddr)}
    {rr : Except Error Unit} {e : Option Error} (h : ep.receive dg rr = .ok (ep', e)) : Retains ep ep' := by
  rcases receive_frame h with ⟨es, rfl⟩ | ⟨-, -, -, -, -, -, -, -, -, rfl⟩
  exacts [.of_eq rfl, .of_insert rfl]

theorem visit_retains {r : RoutingKey} {chan : UdpChannel}
    {pass pass' : Pass} {i : VisitInput} {ret : Option (Except Error Event)}
    (h : ep.visit cx r chan pass i = .ok (ep', pass', ret)) : Retains ep ep' := by
  obtain ⟨_, _, _, _, _, rfl⟩ := visit_frame h
  exact .of_insert rfl

theorem dispatch_killme {r : RoutingKey} {chan chan' : UdpChannel}
    {pass pass' : Pass} {i : VisitInput} {p : ChannelProgress} {ret : Option (Except Error Event)}
    (h : ep.dispatch cx r chan pass i p = .ok (ep', chan', pass', ret)) :
    pass'.killme = pass.killme ∨ p = .disconnect ∧ pass'.killme = pass.killme ++ [r] := by
  cases p <;> simp only [dispatch] at h <;> (repeat' split at h)
  all_goals (try obtain ⟨_, -, h⟩ := Except.bind_eq_ok.1 h)
  all_goals cases h
  all_goals first | exact .inl rfl | exact .inr ⟨rfl, rfl⟩

/-- A visit adds its route to the killed routes exactly when the engine
answered `Disconnect`. -/
theorem visit_killme {r : RoutingKey} {chan : UdpChannel}
    {pass pass' : Pass} {i : VisitInput} {ret : Option (Except Error Event)}
    (h : ep.visit cx r chan pass i = .ok (ep', pass', ret)) :
    pass'.killme = pass.killme ∨ i.progress = .ok .disconnect ∧ pass'.killme = pass.killme ++ [r] := by
  unfold visit at h
  obtain ⟨⟨ep₁, chan₁, later₁⟩, -, h⟩ := Except.bind_eq_ok.1 h
  dsimp only at h
  split at h
  · cases h; exact .inl rfl
  · rename_i p hp
    obtain ⟨⟨ep₂, chan₂, pass₂, ret₂⟩, hd, h⟩ := Except.bind_eq_ok.1 h
    have hk := dispatch_killme hd
    rw [hp]
    rcases ret₂ with _ | r₂
    · obtain ⟨_, -, h⟩ := Except.bind_eq_ok.1 h
      cases h
      simpa using hk
    · cases h
      simpa using hk

theorem lookup_erase_of_none {c : AList (fun _ : RoutingKey => UdpChannel)} {k : RoutingKey}
    (hk : c.lookup k = none) (r : RoutingKey) : (c.erase k).lookup r = c.lookup r := by
  by_cases hr : r = k
  · subst hr; rw [AList.lookup_erase, hk]
  · exact AList.lookup_erase_ne hr

/-- The loop over the killed routes at the end of a pass: it erases them in
turn, and at the first that still has a channel it stops and reports that
channel's `Disconnect`; the routes after it are not looked at. -/
theorem removeKilled_cases {ks : List RoutingKey} {ev : Option Event}
    (h : ep.removeKilled ks = .ok (ep', ev)) :
    (ev = none ∧ ∀ r, ep'.channels.lookup r = ep.channels.lookup r) ∨
    ∃ pre k rest rm, ks = pre ++ k :: rest ∧ (∀ k' ∈ pre, ep.channels.lookup k' = none) ∧
      ep.channels.lookup k = some rm ∧ ev = some (.disconnect k rm.identity) ∧
      ∀ r, ep'.channels.lookup r = if r = k then none else ep.channels.lookup r := by
  induction ks generalizing ep with
  | nil => cases h; exact .inl ⟨rfl, fun _ => rfl⟩
  | cons k ks ih =>
    unfold removeKilled at h
    split at h
    · rename_i rm hl
      obtain ⟨_, -, h⟩ := Except.bind_eq_ok.1 h
      cases h
      refine .inr ⟨[], k, ks, rm, rfl, nofun, hl, rfl, fun r => ?_⟩
      split_ifs with hr
      · subst hr; exact AList.lookup_erase _ _
      · exact AList.lookup_erase_ne hr
    · rename_i hl
      have he := lookup_erase_of_none hl
      rcases ih h with ⟨rfl, hall⟩ | ⟨pre, k', rest, rm, rfl, hpre, hk', rfl, hall⟩
      · exact .inl ⟨rfl, fun r => (hall r).trans (he r)⟩
      · refine .inr ⟨k :: pre, k', rest, rm, rfl, ?_, (he k').symm.trans hk', rfl, fun r => ?_⟩
        · exact List.forall_mem_cons.2 ⟨hl, fun k'' hk'' => (he k'').symm.trans (hpre k'' hk'')⟩
        · rw [hall r, he r]

/-- No answer of `progress()` makes the channel loop return a `Disconnect`. -/
theorem dispatch_no_disconnect {r : RoutingKey}
    {chan chan' : UdpChannel} {pass pass' : Pass} {i : VisitInput} {p : ChannelProgress}
    {k : RoutingKey} {identity : Identity}
    (h : ep.dispatch cx r chan pass i p = .ok (ep', chan', pass', some (.ok (.disconnect k identity)))) :
    False := by
  cases p <;> simp only [dispatch] at h <;> (repeat' split at h)
  all_goals (try obtain ⟨_, -, h⟩ := Except.bind_eq_ok.1 h)
  all_goals cases h

end Endpoint

open Endpoint

/-- Only the end of a pass takes a channel out of the map. -/
theorem step_retains
    (h : step cx σ op = some (σ', rep)) (hop : op ≠ .endPass) : Retains σ.ep σ'.ep := by
  show Retains σ.ep.begin σ'.ep
  rcases step_cases h with ⟨p, he, -⟩ | ⟨-, -, hc⟩ | ⟨dg, rr, e, rfl, -, hr, -⟩ |
    ⟨i, pass, chan, pass', ret, rfl, -, -, -, hv, -⟩ | ⟨pass, ev, rfl, -, -, hk, -⟩
  · exact .of_eq (by rw [he])
  · exact hc.rel Retains connect_retains open_retains stream_retains publish_retains
      acceptIncomming_retains acceptOutgoing_retains
  · exact receive_retains hr
  · exact visit_retains hv
  · exact (hop rfl).elim

/-- Only the `accept_*` operations make a new engine, one at a time. -/
theorem step_engines
    (h : step cx σ op = some (σ', rep)) :
    σ'.ep.engines = σ.ep.engines ∨ σ'.ep.engines = σ.ep.engines + 1 ∧
      ((∃ q i, op = .acceptIncomming q i ∧ rep = .none) ∨
        ∃ q i r, op = .acceptOutgoing q i ∧ rep = .acceptOutgoing r) := by
  rcases step_cases h with ⟨p, he, -⟩ | ⟨-, -, hc⟩ | ⟨dg, rr, e, rfl, -, hr, -⟩ |
    ⟨i, pass, chan, pass', ret, rfl, -, -, hl, hv, -⟩ | ⟨pass, ev, rfl, -, -, hk, -⟩
  · exact .inl (by rw [he]; rfl)
  · cases op with
    | connect t i => obtain ⟨r, hr, -⟩ := hc; exact .inl (connect_keeps hr).1
    | «open» => exact .inl (open_keeps hc.1).1
    | stream => exact .inl (stream_keeps hc.1).1
    | publish => exact .inl (publish_keeps hc.1).1
    | reject => exact .inl (stream_keeps hc.1).1
    | acceptIncomming q i => exact .inr ⟨(acceptIncomming_adds hc.1).1, .inl ⟨q, i, rfl, hc.2⟩⟩
    | acceptOutgoing q i =>
      obtain ⟨r, hr, rfl⟩ := hc
      exact (acceptOutgoing_adds hr).imp (·.1) fun ha => ⟨ha.1, .inr ⟨q, i, r, rfl, rfl⟩⟩
    | receive => exact hc.elim
    | visit => exact hc.elim
    | endPass => exact hc.elim
  · rcases receive_frame hr with ⟨es, he⟩ | ⟨_, _, _, _, _, _, _, _, _, he⟩
    all_goals exact .inl (by rw [he]; rfl)
  · exact .inl (visit_keeps hv hl).1
  · have := (removeKilled_keeps hk).1
    exact .inl this

/-- A channel leaves the map only at the end of a pass, as the first killed
route that still has one, and `poll` reports its `Disconnect` with its route
and identity. It is replaced at its route only by an `accept_*`, which reports
nothing. -/
theorem step_channel_leaves {r : RoutingKey}
    {ch : UdpChannel} (h : step cx σ op = some (σ', rep)) (hr : σ.ep.channels.lookup r = some ch)
    (hgone : ∀ ch', σ'.ep.channels.lookup r = some ch' → ch'.chan ≠ ch.chan) :
    (∃ pass, op = .endPass ∧ σ.ctl = .polling pass ∧ r ∈ pass.killme ∧
      σ'.ep.channels.lookup r = none ∧ rep = .done (.ok (.disconnect r ch.identity))) ∨
    ((∃ q i, op = .acceptIncomming q i ∧ rep = .none) ∨
        ∃ q i r', op = .acceptOutgoing q i ∧ rep = .acceptOutgoing r') ∧
      ∃ ch', σ'.ep.channels.lookup r = some ch' ∧ ch'.chan = σ.ep.engines := by
  by_cases hop : op = .endPass
  · subst hop
    rcases step_cases h with ⟨p, he, -⟩ | ⟨-, -, ⟨⟩⟩ | ⟨_, _, _, ⟨⟩, -⟩ | ⟨_, _, _, _, _, ⟨⟩, -⟩ |
      ⟨pass, ev, -, hc, -, hk, hctl⟩
    · exact (hgone ch (by rw [he]; exact hr) rfl).elim
    rcases removeKilled_cases hk with ⟨rfl, hall⟩ | ⟨pre, k, rest, rm, hks, -, hk', rfl, hall⟩
    · exact (hgone ch ((hall r).trans hr) rfl).elim
    by_cases hrk : r = k
    · subst hrk
      have hrm : rm = ch := Option.some.inj (hk'.symm.trans hr)
      subst hrm
      rcases hctl with ⟨e, he, -, rfl⟩ | ⟨⟨⟩, -⟩ | ⟨⟨⟩, -⟩
      cases he
      refine .inl ⟨pass, rfl, hc, hks ▸ List.mem_append_right _ (List.mem_cons_self _ _), ?_, rfl⟩
      rw [hall, if_pos rfl]
    · exact (hgone ch (by rw [hall, if_neg hrk]; exact hr) rfl).elim
  · have hmem := step_retains h hop r (AList.lookup_isSome.1 (by rw [hr]; rfl))
    obtain ⟨ch', hl'⟩ := Option.isSome_iff_exists.1 (AList.lookup_isSome.2 hmem)
    rcases (step_channelStep h).2 r ch' hl' with ⟨ch₀, h₀, -, hc, -⟩ | ⟨hlo, hhi, -⟩
    · rw [hr] at h₀
      cases h₀
      exact (hgone ch' hl' hc).elim
    · rcases step_engines h with he | ⟨he, hacc⟩
      · omega
      · exact .inr ⟨hacc, ch', hl', by omega⟩

/-- The routes killed in the pass under way. -/
def Sys.killme (σ : Sys) : List RoutingKey :=
  match σ.ctl with
  | .polling pass => pass.killme
  | _ => []

/-- `poll` reports `Disconnect { route, identity }` only at the end of a pass,
for a channel that was in the map at `route` with that identity, and it removes
that channel and no other. -/
theorem step_disconnect {r : RoutingKey} {identity : Identity}
    (h : step cx σ op = some (σ', .done (.ok (.disconnect r identity)))) :
    op = .endPass ∧ (∃ rm, σ.ep.channels.lookup r = some rm ∧ rm.identity = identity) ∧
      ∀ r', σ'.ep.channels.lookup r' = if r' = r then none else σ.ep.channels.lookup r' := by
  rcases step_cases h with ⟨p, -, -, ⟨⟩⟩ | ⟨-, -, hc⟩ | ⟨_, _, _, -, -, -, ⟨-, -, ⟨⟩⟩ | ⟨_, -, -, ⟨⟩⟩⟩ |
    ⟨i, pass, chan, pass', ret, rfl, -, -, -, hv, ⟨-, -, ⟨⟩⟩ | ⟨res, rfl, -, hres⟩⟩ |
    ⟨pass, ev, rfl, -, -, hk, ⟨e, rfl, -, he⟩ | ⟨-, -, -, ⟨⟩⟩ | ⟨-, -, -, ⟨⟩⟩⟩
  · cases op <;> simp [CallResult] at hc
  · cases hres
    rcases visit_eq_ok hv with ⟨e, -, ⟨⟩, -⟩ | ⟨p, _, _, _, _, _, _, -, -, -, hd, -⟩
    exact (dispatch_no_disconnect hd).elim
  · cases he
    rcases removeKilled_cases hk with ⟨⟨⟩, -⟩ | ⟨pre, k, rest, rm, -, -, hl, hev, hall⟩
    cases hev
    exact ⟨rfl, ⟨rm, hl, rfl⟩, hall⟩

/-- With the broker channel and an accepted channel at route 2 in the map, the
end of the pass in which the engine at route 2 answered `Disconnect` reports that
channel and removes it, and the broker channel stays. -/
theorem step_disconnect_accepted :
    ∃ σ', step Codecs.sample ((Sys.init 1 ⟨[1]⟩ ⟨[10, 0, 0, 1], 4000⟩).last
        (run Codecs.sample (Sys.init 1 ⟨[1]⟩ ⟨[10, 0, 0, 1], 4000⟩)
          [.acceptIncomming ⟨5, ⟨[2]⟩, ⟨0⟩, ⟨[2], 0, [], [], 2⟩⟩ ⟨.ok ⟨8, 2, .initiator2Responder, 0, []⟩, []⟩,
            .receive (.error .wouldBlock) (.ok ()), .visit (.answer 2 .disconnect),
            .visit (.answer 1 (.later 5))])) .endPass =
        some (σ', .done (.ok (.disconnect 2 ⟨[2]⟩))) ∧
      Op.endPass = .endPass ∧
      (∃ rm, ((Sys.init 1 ⟨[1]⟩ ⟨[10, 0, 0, 1], 4000⟩).last
        (run Codecs.sample (Sys.init 1 ⟨[1]⟩ ⟨[10, 0, 0, 1], 4000⟩)
          [.acceptIncomming ⟨5, ⟨[2]⟩, ⟨0⟩, ⟨[2], 0, [], [], 2⟩⟩ ⟨.ok ⟨8, 2, .initiator2Responder, 0, []⟩, []⟩,
            .receive (.error .wouldBlock) (.ok ()), .visit (.answer 2 .disconnect),
            .visit (.answer 1 (.later 5))])).ep.channels.lookup 2 = some rm ∧ rm.identity = ⟨[2]⟩) ∧
      ∀ r', σ'.ep.channels.lookup r' = if r' = 2 then none else
        ((Sys.init 1 ⟨[1]⟩ ⟨[10, 0, 0, 1], 4000⟩).last
        (run Codecs.sample (Sys.init 1 ⟨[1]⟩ ⟨[10, 0, 0, 1], 4000⟩)
          [.acceptIncomming ⟨5, ⟨[2]⟩, ⟨0⟩, ⟨[2], 0, [], [], 2⟩⟩ ⟨.ok ⟨8, 2, .initiator2Responder, 0, []⟩, []⟩,
            .receive (.error .wouldBlock) (.ok ()), .visit (.answer 2 .disconnect),
            .visit (.answer 1 (.later 5))])).ep.channels.lookup r' :=
  have h : step Codecs.sample ((Sys.init 1 ⟨[1]⟩ ⟨[10, 0, 0, 1], 4000⟩).last
        (run Codecs.sample (Sys.init 1 ⟨[1]⟩ ⟨[10, 0, 0, 1], 4000⟩)
          [.acceptIncomming ⟨5, ⟨[2]⟩, ⟨0⟩, ⟨[2], 0, [], [], 2⟩⟩ ⟨.ok ⟨8, 2, .initiator2Responder, 0, []⟩, []⟩,
            .receive (.error .wouldBlock) (.ok ()), .visit (.answer 2 .disconnect),
            .visit (.answer 1 (.later 5))])) .endPass =
      some (_, .done (.ok (.disconnect 2 ⟨[2]⟩))) := rfl
  have hd := step_disconnect h
  ⟨_, h, hd⟩

/-- A route stays killed only through a visit, which keeps every channel's
engine; a route is killed only by its engine answering `Disconnect`. -/
theorem step_killme_keeps {r : RoutingKey}
    (h : step cx σ op = some (σ', rep)) (hr : r ∈ σ'.killme) :
    ∃ i, op = .visit i ∧ KeepsChannels σ.ep σ'.ep ∧
      (r ∈ σ.killme ∨ i.route = r ∧ i.progress = .ok .disconnect) := by
  rcases step_cases h with ⟨p, -, hc, -⟩ | ⟨-, hc, -⟩ | ⟨_, _, _, -, -, -, hc⟩ |
    ⟨i, pass, chan, pass', ret, rfl, hσ, -, hl, hv, hret⟩ | ⟨pass, ev, -, -, -, -, hc⟩
  · simp [Sys.killme, hc] at hr
  · simp [Sys.killme, hc] at hr
  · rcases hc with ⟨-, hc, -⟩ | ⟨_, -, hc, -⟩ <;> simp [Sys.killme, hc, Pass.start] at hr
  · rcases hret with ⟨-, hc, -⟩ | ⟨_, -, hc, -⟩ <;> simp only [Sys.killme, hc] at hr
    · have hk := visit_keeps hv hl
      refine ⟨i, rfl, hk, ?_⟩
      rcases visit_killme hv with hk | ⟨hp, hk⟩
      · exact .inl (by simpa [Sys.killme, hσ, hk] using hr)
      · rw [hk, List.mem_append, List.mem_singleton] at hr
        rcases hr with hr | rfl
        · exact .inl (by simpa [Sys.killme, hσ] using hr)
        · exact .inr ⟨rfl, hp⟩
    · simp at hr
  · rcases hc with ⟨_, -, hc, -⟩ | ⟨-, -, hc, -⟩ | ⟨-, -, hc, -⟩ <;> simp [Sys.killme, hc, Pass.start] at hr

/-- Entry `x` of a run is the engine `c` of the channel at `r` answering
`Disconnect`. -/
def AnswersDisconnect (r : RoutingKey) (c : Nat) (x : Op × Reply × Sys) : Prop :=
  ∃ i ch, x.1 = .visit i ∧ i.route = r ∧ i.progress = .ok .disconnect ∧
    x.2.2.ep.channels.lookup r = some ch ∧ ch.chan = c

/-- What a run's history says of the routes killed in the pass under way: the
engine of each one's channel answered `Disconnect` earlier in this pass, since
when no pass ended. -/
def KilledInPass (pre : List (Op × Reply × Sys)) (σ : Sys) : Prop :=
  ∀ r ∈ σ.killme, ∀ ch, σ.ep.channels.lookup r = some ch →
    ∃ pre₁ y pre₂, pre = pre₁ ++ y :: pre₂ ∧ AnswersDisconnect r ch.chan y ∧ ∀ z ∈ pre₂, z.1 ≠ .endPass

theorem step_killedInPass {pre : List (Op × Reply × Sys)}
    (hI : KilledInPass pre σ) (h : step cx σ op = some (σ', rep)) :
    KilledInPass (pre ++ [(op, rep, σ')]) σ' := by
  intro r hr ch hch
  obtain ⟨i, rfl, hk, hold | ⟨hri, hp⟩⟩ := step_killme_keeps h hr
  · obtain ⟨ch₀, h₀, -, hc, -⟩ := hk.2 r ch hch
    obtain ⟨pre₁, y, pre₂, rfl, hy, hpost⟩ := hI r hold ch₀ h₀
    refine ⟨pre₁, y, pre₂ ++ [(.visit i, rep, σ')], by simp, hc ▸ hy, fun z hz => ?_⟩
    rcases List.mem_append.1 hz with hz | hz
    · exact hpost z hz
    · rw [List.mem_singleton.1 hz]; exact Op.noConfusion
  · exact ⟨pre, (.visit i, rep, σ'), [], rfl, ⟨i, ch, rfl, hri, hp, hch, rfl⟩,
      fun z hz => absurd hz (List.not_mem_nil z)⟩

/-- Over a run from `Endpoint::new`, a channel leaves the map only when `poll`
reports its `Disconnect`, after its own engine answered `Disconnect` earlier in
the same pass; it is replaced at its route only by an `accept_*` that installs a
new engine and reports nothing. -/
theorem run_channel_leaves {brokerRoute : RoutingKey} {identity : Identity}
    {addr : SocketAddr} {ops : List Op} {pre post : List (Op × Reply × Sys)} {x : Op × Reply × Sys}
    (hrun : run cx (Sys.init brokerRoute identity addr) ops = pre ++ x :: post)
    {r : RoutingKey} {ch : UdpChannel}
    (hr : ((Sys.init brokerRoute identity addr).last pre).ep.channels.lookup r = some ch)
    (hgone : ∀ ch', x.2.2.ep.channels.lookup r = some ch' → ch'.chan ≠ ch.chan) :
    (x.1 = .endPass ∧ x.2.1 = .done (.ok (.disconnect r ch.identity)) ∧
      x.2.2.ep.channels.lookup r = none ∧ ∃ pre₁ y pre₂, pre = pre₁ ++ y :: pre₂ ∧
        AnswersDisconnect r ch.chan y ∧ ∀ z ∈ pre₂, z.1 ≠ .endPass) ∨
    ((∃ q i, x.1 = .acceptIncomming q i ∧ x.2.1 = .none) ∨
        ∃ q i r', x.1 = .acceptOutgoing q i ∧ x.2.1 = .acceptOutgoing r') ∧
      ∃ ch', x.2.2.ep.channels.lookup r = some ch' ∧
        ch'.chan = ((Sys.init brokerRoute identity addr).last pre).ep.engines := by
  obtain ⟨hI, hst⟩ := @run_prefix_inv cx KilledInPass step_killedInPass _ _ [] _ _ _
    (by simp [KilledInPass, Sys.init, Sys.killme]) hrun
  rcases step_channel_leaves hst hr hgone with ⟨pass, hop, hc, hk, hnone, hrep⟩ | hacc
  · exact .inl ⟨hop, hrep, hnone, by simpa using hI r (by simpa [Sys.killme, hc] using hk) ch hr⟩
  · exact .inr hacc

/-- The channel an `accept_incomming` installed at route 2 leaves in two ways:
at the end of the pass in which its engine disconnected, with its `Disconnect`
reported, or when a second `accept_incomming` at route 2 installs a new engine. -/
theorem run_channel_leaves_two_ways :
    (∃ pre x post ch, run Codecs.sample (Sys.init 1 ⟨[1]⟩ ⟨[10, 0, 0, 1], 4000⟩)
        [.acceptIncomming ⟨5, ⟨[2]⟩, ⟨0⟩, ⟨[2], 0, [], [], 2⟩⟩ ⟨.ok ⟨8, 2, .initiator2Responder, 0, []⟩, []⟩,
          .receive (.error .wouldBlock) (.ok ()), .visit (.answer 2 .disconnect),
          .visit (.answer 1 (.later 5)), .endPass] = pre ++ x :: post ∧
      ((Sys.init 1 ⟨[1]⟩ ⟨[10, 0, 0, 1], 4000⟩).last pre).ep.channels.lookup 2 = some ch ∧
      (∀ ch', x.2.2.ep.channels.lookup 2 = some ch' → ch'.chan ≠ ch.chan) ∧
      ((x.1 = .endPass ∧ x.2.1 = .done (.ok (.disconnect 2 ch.identity)) ∧
          x.2.2.ep.channels.lookup 2 = none ∧ ∃ pre₁ y pre₂, pre = pre₁ ++ y :: pre₂ ∧
            AnswersDisconnect 2 ch.chan y ∧ ∀ z ∈ pre₂, z.1 ≠ .endPass) ∨
        ((∃ q i, x.1 = .acceptIncomming q i ∧ x.2.1 = .none) ∨
            ∃ q i r', x.1 = .acceptOutgoing q i ∧ x.2.1 = .acceptOutgoing r') ∧
          ∃ ch', x.2.2.ep.channels.lookup 2 = some ch' ∧
            ch'.chan = ((Sys.init 1 ⟨[1]⟩ ⟨[10, 0, 0, 1], 4000⟩).last pre).ep.engines)) ∧
    ∃ pre x post ch, run Codecs.sample (Sys.init 1 ⟨[1]⟩ ⟨[10, 0, 0, 1], 4000⟩)
        [.acceptIncomming ⟨5, ⟨[2]⟩, ⟨0⟩, ⟨[2], 0, [], [], 2⟩⟩ ⟨.ok ⟨8, 2, .initiator2Responder, 0, []⟩, []⟩,
          .acceptIncomming ⟨6, ⟨[3]⟩, ⟨0⟩, ⟨[3], 0, [], [], 2⟩⟩ ⟨.ok ⟨8, 2, .initiator2Responder, 0, []⟩, []⟩] = pre ++ x :: post ∧
      ((Sys.init 1 ⟨[1]⟩ ⟨[10, 0, 0, 1], 4000⟩).last pre).ep.channels.lookup 2 = some ch ∧
      (∀ ch', x.2.2.ep.channels.lookup 2 = some ch' → ch'.chan ≠ ch.chan) ∧
      ((x.1 = .endPass ∧ x.2.1 = .done (.ok (.disconnect 2 ch.identity)) ∧
          x.2.2.ep.channels.lookup 2 = none ∧ ∃ pre₁ y pre₂, pre = pre₁ ++ y :: pre₂ ∧
            AnswersDisconnect 2 ch.chan y ∧ ∀ z ∈ pre₂, z.1 ≠ .endPass) ∨
        ((∃ q i, x.1 = .acceptIncomming q i ∧ x.2.1 = .none) ∨
            ∃ q i r', x.1 = .acceptOutgoing q i ∧ x.2.1 = .acceptOutgoing r') ∧
          ∃ ch', x.2.2.ep.channels.lookup 2 = some ch' ∧
            ch'.chan = ((Sys.init 1 ⟨[1]⟩ ⟨[10, 0, 0, 1], 4000⟩).last pre).ep.engines) := by
  have hneD : run Codecs.sample (Sys.init 1 ⟨[1]⟩ ⟨[10, 0, 0, 1], 4000⟩)
      [.acceptIncomming ⟨5, ⟨[2]⟩, ⟨0⟩, ⟨[2], 0, [], [], 2⟩⟩ ⟨.ok ⟨8, 2, .initiator2Responder, 0, []⟩, []⟩,
          .receive (.error .wouldBlock) (.ok ()), .visit (.answer 2 .disconnect),
          .visit (.answer 1 (.later 5)), .endPass] ≠ [] := List.ne_nil_of_length_pos (by decide)
  have hneR : run Codecs.sample (Sys.init 1 ⟨[1]⟩ ⟨[10, 0, 0, 1], 4000⟩)
      [.acceptIncomming ⟨5, ⟨[2]⟩, ⟨0⟩, ⟨[2], 0, [], [], 2⟩⟩ ⟨.ok ⟨8, 2, .initiator2Responder, 0, []⟩, []⟩,
          .acceptIncomming ⟨6, ⟨[3]⟩, ⟨0⟩, ⟨[3], 0, [], [], 2⟩⟩ ⟨.ok ⟨8, 2, .initiator2Responder, 0, []⟩, []⟩] ≠ [] := List.ne_nil_of_length_pos (by decide)
  obtain ⟨chD, hrD⟩ : ∃ ch, ((Sys.init 1 ⟨[1]⟩ ⟨[10, 0, 0, 1], 4000⟩).last
      (run Codecs.sample (Sys.init 1 ⟨[1]⟩ ⟨[10, 0, 0, 1], 4000⟩)
        [.acceptIncomming ⟨5, ⟨[2]⟩, ⟨0⟩, ⟨[2], 0, [], [], 2⟩⟩ ⟨.ok ⟨8, 2, .initiator2Responder, 0, []⟩, []⟩,
          .receive (.error .wouldBlock) (.ok ()), .visit (.answer 2 .disconnect),
          .visit (.answer 1 (.later 5)), .endPass]).dropLast).ep.channels.lookup 2 = some ch := ⟨_, rfl⟩
  obtain ⟨chR, hrR, hcR⟩ : ∃ ch, ((Sys.init 1 ⟨[1]⟩ ⟨[10, 0, 0, 1], 4000⟩).last
      (run Codecs.sample (Sys.init 1 ⟨[1]⟩ ⟨[10, 0, 0, 1], 4000⟩)
        [.acceptIncomming ⟨5, ⟨[2]⟩, ⟨0⟩, ⟨[2], 0, [], [], 2⟩⟩ ⟨.ok ⟨8, 2, .initiator2Responder, 0, []⟩, []⟩,
          .acceptIncomming ⟨6, ⟨[3]⟩, ⟨0⟩, ⟨[3], 0, [], [], 2⟩⟩ ⟨.ok ⟨8, 2, .initiator2Responder, 0, []⟩, []⟩]).dropLast).ep.channels.lookup 2 = some ch ∧ ch.chan = 1 := ⟨_, rfl, rfl⟩
  have hgoneD : ((run Codecs.sample (Sys.init 1 ⟨[1]⟩ ⟨[10, 0, 0, 1], 4000⟩)
      [.acceptIncomming ⟨5, ⟨[2]⟩, ⟨0⟩, ⟨[2], 0, [], [], 2⟩⟩ ⟨.ok ⟨8, 2, .initiator2Responder, 0, []⟩, []⟩,
          .receive (.error .wouldBlock) (.ok ()), .visit (.answer 2 .disconnect),
          .visit (.answer 1 (.later 5)), .endPass]).getLast hneD).2.2.ep.channels.lookup 2 = none := rfl
  have hnewR : (((run Codecs.sample (Sys.init 1 ⟨[1]⟩ ⟨[10, 0, 0, 1], 4000⟩)
      [.acceptIncomming ⟨5, ⟨[2]⟩, ⟨0⟩, ⟨[2], 0, [], [], 2⟩⟩ ⟨.ok ⟨8, 2, .initiator2Responder, 0, []⟩, []⟩,
          .acceptIncomming ⟨6, ⟨[3]⟩, ⟨0⟩, ⟨[3], 0, [], [], 2⟩⟩ ⟨.ok ⟨8, 2, .initiator2Responder, 0, []⟩, []⟩]).getLast hneR).2.2.ep.channels.lookup 2).map (·.chan) = some 2 := rfl
  have hgD : ∀ ch', ((run Codecs.sample (Sys.init 1 ⟨[1]⟩ ⟨[10, 0, 0, 1], 4000⟩)
      [.acceptIncomming ⟨5, ⟨[2]⟩, ⟨0⟩, ⟨[2], 0, [], [], 2⟩⟩ ⟨.ok ⟨8, 2, .initiator2Responder, 0, []⟩, []⟩,
          .receive (.error .wouldBlock) (.ok ()), .visit (.answer 2 .disconnect),
          .visit (.answer 1 (.later 5)), .endPass]).getLast hneD).2.2.ep.channels.lookup 2 = some ch' → ch'.chan ≠ chD.chan :=
    fun _ h => (Option.some_ne_none _ (h.symm.trans hgoneD)).elim
  have hgR : ∀ ch', ((run Codecs.sample (Sys.init 1 ⟨[1]⟩ ⟨[10, 0, 0, 1], 4000⟩)
      [.acceptIncomming ⟨5, ⟨[2]⟩, ⟨0⟩, ⟨[2], 0, [], [], 2⟩⟩ ⟨.ok ⟨8, 2, .initiator2Responder, 0, []⟩, []⟩,
          .acceptIncomming ⟨6, ⟨[3]⟩, ⟨0⟩, ⟨[3], 0, [], [], 2⟩⟩ ⟨.ok ⟨8, 2, .initiator2Responder, 0, []⟩, []⟩]).getLast hneR).2.2.ep.channels.lookup 2 = some ch' → ch'.chan ≠ chR.chan := by
    intro ch' h
    rw [h, Option.map_some'] at hnewR
    rw [Option.some.inj hnewR, hcR]
    decide
  have hrunD := (List.dropLast_append_getLast hneD).symm
  have hrunR := (List.dropLast_append_getLast hneR).symm
  exact ⟨⟨_, _, [], chD, hrunD, hrD, hgD, run_channel_leaves hrunD hrD hgD⟩,
    ⟨_, _, [], chR, hrunR, hrR, hgR, run_channel_leaves hrunR hrR hgR⟩⟩

/-- Two channels whose engines both answer `Disconnect` in one pass: `poll`
reports the first and returns, and the broker channel stays in the map and is
asked for progress again in the next pass. -/
theorem second_disconnect_polled_again :
    (run Codecs.sample (Sys.init 1 ⟨[1]⟩ ⟨[10, 0, 0, 1], 4000⟩)
        [.acceptIncomming ⟨5, ⟨[2]⟩, ⟨0⟩, ⟨[2], 0, [], [], 2⟩⟩ ⟨.ok ⟨8, 2, .initiator2Responder, 0, []⟩, []⟩,
          .receive (.error .wouldBlock) (.ok ()), .visit (.answer 2 .disconnect),
          .visit (.answer 1 .disconnect), .endPass, .receive (.error .wouldBlock) (.ok ()),
          .visit (.answer 1 (.later 5))]).map (·.2.1) =
      [.none, .none, .none, .none, .done (.ok (.disconnect 2 ⟨[2]⟩)), .none, .none] ∧
    Effect.engine 0 .progress ∈ ((Sys.init 1 ⟨[1]⟩ ⟨[10, 0, 0, 1], 4000⟩).last
      (run Codecs.sample (Sys.init 1 ⟨[1]⟩ ⟨[10, 0, 0, 1], 4000⟩)
        [.acceptIncomming ⟨5, ⟨[2]⟩, ⟨0⟩, ⟨[2], 0, [], [], 2⟩⟩ ⟨.ok ⟨8, 2, .initiator2Responder, 0, []⟩, []⟩,
          .receive (.error .wouldBlock) (.ok ()), .visit (.answer 2 .disconnect),
          .visit (.answer 1 .disconnect), .endPass, .receive (.error .wouldBlock) (.ok ()),
          .visit (.answer 1 (.later 5))])).ep.effects := by
  decide

end Carrier
