import Carrier.Endpoint.IncomingConnect

/-!
# The outgoing connect protocol

`Endpoint::connect` asks the broker for a connection on a new broker stream and
records the stream as waiting for the response headers. `poll` then reads the
broker's answer from that stream: the headers, then the `ConnectResponse`,
which it hands to the caller as `Event::OutgoingConnect` after closing the
stream; a stream closed before the response ends the connect with an
`OutgoingConnect` carrying nothing.

The protocol of one stream is the automaton `ConnectPhase.Next`, written from
the spec. A step of the endpoint shows the stream `connectObs`: its
registration, its frames and closes with the event `poll` returned for them,
and aborts. The main result is that the observations of every run from
`Endpoint::new` are a path of the automaton, as long as the broker engine never
announces the stream as one a peer opened. The phase of a stream is read off
the endpoint's `outstanding_connect_outgoing` map, and each step moves it along
the automaton.
-/

namespace Carrier

variable {cx : Codecs} {ep ep' : Endpoint} {σ σ' : Sys} {op : Op} {rep : Reply}

/-- The phase of an outgoing connect on one broker stream. -/
inductive ConnectPhase
  | idle
  | awaitingHeaders (identity : Identity) (noise : HandshakeRequester)
  | awaitingResponse (identity : Identity) (noise : HandshakeRequester)

/-- What one step shows of the outgoing connect on one broker stream:
`connect` registered it; a frame arrived for it, with the event `poll` returned
for it (whether the step closed the stream on the broker engine, and whether
it is still pending afterwards); it was closed, with the event; or the step
panicked. -/
inductive ConnectObs
  | registered (identity : Identity) (noise : HandshakeRequester)
  | frame (f : List UInt8)
  | response (f : List UInt8) (r : ConnectResponse) (closedLocally pending : Bool)
  | closed
  | closedWith (r : ConnectResponse) (pending : Bool)
  | aborted

namespace ConnectObs

/-- The observation is an `OutgoingConnect` event. -/
def answered : ConnectObs → Bool
  | .response .. | .closedWith .. => true
  | _ => false

/-- The observation is a registration by `connect`. -/
def registers : ConnectObs → Bool
  | .registered .. => true
  | _ => false

end ConnectObs

namespace ConnectPhase

/-- The protocol, from the spec: `connect` registers the stream; its first frame
is the response headers; its second frame is the `ConnectResponse`, answered by
closing the stream and `OutgoingConnect { cr: Some, requester: Some }`; a close
before that is answered by `OutgoingConnect { cr: None, requester: None }`; an
answered connect is no longer pending. Frames and closes of a stream with no
connect pending are not answered, and a panic ends the run. -/
inductive Next (cx : Codecs) : ConnectPhase → ConnectObs → ConnectPhase → Prop
  | register (p : ConnectPhase) (identity : Identity) (noise : HandshakeRequester) :
      Next cx p (.registered identity noise) (.awaitingHeaders identity noise)
  | idleFrame (f : List UInt8) : Next cx .idle (.frame f) .idle
  | idleClose : Next cx .idle .closed .idle
  | headers (identity : Identity) (noise : HandshakeRequester) (f : List UInt8) :
      Next cx (.awaitingHeaders identity noise) (.frame f) (.awaitingResponse identity noise)
  | response (identity : Identity) (noise : HandshakeRequester) (f : List UInt8)
      (cr : Proto.ConnectResponse) (h : cx.decodeConnectResponse f = .ok cr) :
      Next cx (.awaitingResponse identity noise)
        (.response f ⟨identity, some cr, some noise⟩ true false) .idle
  | closeHeaders (identity : Identity) (noise : HandshakeRequester) :
      Next cx (.awaitingHeaders identity noise) (.closedWith ⟨identity, none, none⟩ false) .idle
  | closeResponse (identity : Identity) (noise : HandshakeRequester) :
      Next cx (.awaitingResponse identity noise) (.closedWith ⟨identity, none, none⟩ false) .idle
  | abort (p : ConnectPhase) : Next cx p .aborted p

/-- A path of the protocol. -/
inductive Path (cx : Codecs) : ConnectPhase → List ConnectObs → ConnectPhase → Prop
  | nil (p : ConnectPhase) : Path cx p [] p
  | cons {p q r : ConnectPhase} {o : ConnectObs} {l : List ConnectObs} :
      Next cx p o q → Path cx q l r → Path cx p (o :: l) r

theorem Path.single {p q : ConnectPhase} {o : ConnectObs} (h : Next cx p o q) :
    Path cx p [o] q :=
  .cons h (.nil q)

theorem Path.append {p q r : ConnectPhase} {l l' : List ConnectObs}
    (h : Path cx p l q) (h' : Path cx q l' r) : Path cx p (l ++ l') r := by
  induction h with
  | nil => exact h'
  | cons hn _ ih => exact .cons hn (ih h')

/-- One for a phase whose `OutgoingConnect` is still to come. -/
def owed : ConnectPhase → Nat
  | .idle => 0
  | _ => 1

theorem Next.owed_le {p q : ConnectPhase} {o : ConnectObs} (h : Next cx p o q) :
    (if o.answered then 1 else 0) + q.owed ≤ (if o.registers then 1 else 0) + p.owed := by
  cases h <;> simp [ConnectObs.answered, ConnectObs.registers, owed]

/-- Along a path of the protocol, every `OutgoingConnect` but the one owed at
the start answers its own registration. -/
theorem Path.answered_le {p q : ConnectPhase} {l : List ConnectObs} (h : Path cx p l q) :
    l.countP ConnectObs.answered + q.owed ≤ l.countP ConnectObs.registers + p.owed := by
  induction h with
  | nil => exact le_rfl
  | cons hn _ ih =>
    have := hn.owed_le
    simp only [List.countP_cons]
    omega

/-- The phase an entry of `outstanding_connect_outgoing` stands for. -/
def ofStage : Option ConnectResponseStage → ConnectPhase
  | none => .idle
  | some (.waitingForHeaders identity noise) => .awaitingHeaders identity noise
  | some (.waitingForResponse identity noise) => .awaitingResponse identity noise

end ConnectPhase

/-- The phase of the outgoing connect on broker stream `s`. -/
def Endpoint.phase (ep : Endpoint) (s : UInt32) : ConnectPhase :=
  ConnectPhase.ofStage (ep.outstandingConnectOutgoing.lookup s)

/-- The result a visit returned `poll` with. -/
def Reply.result : Reply → Option (Except Error Event)
  | .done r => some r
  | _ => Option.none

/-- What the broker engine's answer `p` shows of stream `s`, given the result
`ret` the visit returned with, whether the step closed `s` on the broker
engine, and whether `s` is pending afterwards. -/
def progressObs (s : UInt32) (p : ChannelProgress) (ret : Option (Except Error Event))
    (closed pending : Bool) : List ConnectObs :=
  match p, ret with
  | .receiveStream t f, some (.ok (.outgoingConnect r)) =>
    if t = s then [.response f r closed pending] else []
  | .receiveStream t f, _ => if t = s then [.frame f] else []
  | .close t, some (.ok (.outgoingConnect r)) => if t = s then [.closedWith r pending] else []
  | .close t, _ => if t = s then [.closed] else []
  | _, _ => []

/-- Whether the step from `σ` to `σ'` closed stream `s` on the broker engine. -/
def closedOnBroker (s : UInt32) (σ σ' : Sys) : Bool :=
  match σ.ep.channels.lookup σ.ep.brokerRoute with
  | some ch => decide (Effect.engine ch.chan (.close s) ∈ σ'.ep.effects)
  | none => false

/-- What the step from `σ` to `σ'` by `op`, handing back `rep`, shows of broker
stream `s`. -/
def connectObs (s : UInt32) (σ : Sys) (op : Op) (rep : Reply) (σ' : Sys) : List ConnectObs :=
  match σ'.ctl, op, rep with
  | .panicked _, _, _ => [.aborted]
  | _, .connect target i, .connect (.ok ()) =>
    match i.initiate with
    | .ok (noise, _) => if i.streamId = s then [.registered target noise] else []
    | .error _ => []
  | _, .visit i, rep =>
    if i.route = σ.ep.brokerRoute then
      match i.progress with
      | .ok p => progressObs s p rep.result (closedOnBroker s σ σ')
          (σ'.ep.outstandingConnectOutgoing.lookup s).isSome
      | .error _ => []
    else []
  | _, _, _ => []

theorem connectObs_panicked (s : UInt32) (σ : Sys) (op : Op) (rep : Reply) (ep : Endpoint)
    (p : Panic) : connectObs s σ op rep ⟨ep, .panicked p⟩ = [.aborted] := by
  simp only [connectObs]

/-- What a run from `σ` shows of broker stream `s`. -/
def connectView (s : UInt32) : Sys → List (Op × Reply × Sys) → List ConnectObs
  | _, [] => []
  | σ, (op, rep, σ') :: rest => connectObs s σ op rep σ' ++ connectView s σ' rest

/-! ### One answer of the broker engine -/

open Endpoint

theorem Endpoint.phase_congr {s : UInt32}
    (h : ep'.outstandingConnectOutgoing.lookup s = ep.outstandingConnectOutgoing.lookup s) :
    ep'.phase s = ep.phase s := by
  simp only [Endpoint.phase, h]

theorem ConnectPhase.Path.of_eq {p q : ConnectPhase} (h : p = q) : ConnectPhase.Path cx p [] q :=
  h ▸ .nil p

/-- An answer of an engine about another stream leaves the entry of `s` in
`outstanding_connect_outgoing` as it is. -/
theorem dispatch_lookup_other {r : RoutingKey} {chan chan' : UdpChannel}
    {pass pass' : Pass} {i : VisitInput} {p : ChannelProgress} {ret : Option (Except Error Event)} {s : UInt32}
    (h : ep.dispatch cx r chan pass i p = .ok (ep', chan', pass', ret))
    (hp : ¬ ((∃ f, p = .receiveStream s f) ∨ p = .close s)) :
    ep'.outstandingConnectOutgoing.lookup s = ep.outstandingConnectOutgoing.lookup s := by
  cases p <;> simp only [dispatch] at h <;> (repeat' split at h)
  all_goals (try obtain ⟨_, -, h⟩ := Except.bind_eq_ok.1 h)
  all_goals cases h
  all_goals simp_all [sendPacket, foldl_log, AList.lookup_insert_ne, AList.lookup_erase_ne, @eq_comm _ s]

theorem progressObs_other {s : UInt32} {p : ChannelProgress} (ret : Option (Except Error Event))
    (closed pending : Bool) (hp : ¬ ((∃ f, p = .receiveStream s f) ∨ p = .close s)) :
    progressObs s p ret closed pending = [] := by
  unfold progressObs
  split <;> simp_all

/-- What the broker engine's answer does to the outgoing connect on a stream
`s` that awaits no peer's request: the phase moves along the protocol. -/
theorem dispatch_moves {chan chan' : UdpChannel} {pass pass' : Pass}
    {i : VisitInput} {p : ChannelProgress} {ret : Option (Except Error Event)} {s : UInt32}
    (h : ep.dispatch cx ep.brokerRoute chan pass i p = .ok (ep', chan', pass', ret))
    (hin : s ∉ ep.outstandingConnectIncomming) (closed : Bool)
    (hc : Effect.engine chan.chan (.close s) ∈ ep'.effects → closed = true) :
    ConnectPhase.Path cx (ep.phase s)
      (progressObs s p ret closed (ep'.outstandingConnectOutgoing.lookup s).isSome) (ep'.phase s) := by
  by_cases hp : (∃ f, p = .receiveStream s f) ∨ p = .close s
  swap
  · rw [progressObs_other _ _ _ hp]
    exact .of_eq (phase_congr (dispatch_lookup_other h hp)).symm
  rcases hp with ⟨f, rfl⟩ | rfl <;> simp only [dispatch, hin, and_false, false_and, if_false, if_true] at h
  · rcases hl : ep.outstandingConnectOutgoing.lookup s with _ | ⟨identity, noise⟩ | ⟨identity, noise⟩ <;>
      simp only [hl] at h
    · cases h
      simp only [progressObs, if_pos rfl, Endpoint.phase, deliver_outstandingConnectOutgoing, hl]
      exact .single (.idleFrame f)
    · obtain ⟨_, -, h⟩ := Except.bind_eq_ok.1 h
      cases h
      simp only [progressObs, if_pos rfl, Endpoint.phase, hl, AList.lookup_insert]
      exact .single (.headers identity noise f)
    · obtain ⟨cr, hcr, h⟩ := Except.bind_eq_ok.1 h
      cases h
      rw [hc (by simp)]
      simp only [progressObs, if_pos rfl, Endpoint.phase, hl, log_outstandingConnectOutgoing,
        AList.lookup_erase, Option.isSome_none]
      exact .single (.response identity noise f cr (unwrapResult_eq_ok.1 hcr))
  · obtain ⟨_, -, h⟩ := Except.bind_eq_ok.1 h
    rcases hl : ep.outstandingConnectOutgoing.lookup s with _ | ⟨identity, noise⟩ | ⟨identity, noise⟩ <;>
      simp only [hl] at h <;> cases h <;>
      simp only [progressObs, if_pos rfl, Endpoint.phase, hl, AList.lookup_erase, Option.isSome_none,
        ConnectResponseStage.identity, ConnectPhase.ofStage]
    · exact .single .idleClose
    · exact .single (.closeHeaders identity noise)
    · exact .single (.closeResponse identity noise)

theorem dispatch_off_broker {r : RoutingKey} {chan chan' : UdpChannel}
    {pass pass' : Pass} {i : VisitInput} {p : ChannelProgress} {ret : Option (Except Error Event)}
    (h : ep.dispatch cx r chan pass i p = .ok (ep', chan', pass', ret)) (hr : r ≠ ep.brokerRoute) :
    KeepsConnects ep ep' := by
  cases p <;> simp only [dispatch, hr, false_and, if_false] at h <;> (repeat' split at h)
  all_goals (try obtain ⟨_, -, h⟩ := Except.bind_eq_ok.1 h)
  all_goals cases h
  all_goals first | exact .refl ep | simp [KeepsConnects, sendPacket, foldl_log]

theorem dispatch_outgoingConnect {r : RoutingKey} {chan chan' : UdpChannel}
    {pass pass' : Pass} {i : VisitInput} {p : ChannelProgress} {c : ConnectResponse}
    (h : ep.dispatch cx r chan pass i p = .ok (ep', chan', pass', some (.ok (.outgoingConnect c)))) :
    r = ep.brokerRoute ∧ ((∃ t f, p = .receiveStream t f) ∨ ∃ t, p = .close t) := by
  cases p <;> simp only [dispatch] at h <;> (repeat' split at h)
  all_goals (try obtain ⟨_, -, h⟩ := Except.bind_eq_ok.1 h)
  all_goals cases h
  all_goals simp_all

/-! ### One step of the endpoint -/

theorem Endpoint.KeepsConnects.phase {s : UInt32} (h : KeepsConnects ep ep') :
    ep'.phase s = ep.phase s :=
  phase_congr (by rw [h.2.2])

theorem Endpoint.KeepsConnects.path {s : UInt32}
    (h : KeepsConnects ep ep') : ConnectPhase.Path cx (ep.phase s) [] (ep'.phase s) :=
  .of_eq h.phase.symm

/-- A step moves the phase of a stream that awaits no peer's request along the
protocol, showing what it did to the stream. -/
theorem step_moves {s : UInt32}
    (h : step cx σ op = some (σ', rep)) (hin : s ∉ σ.ep.outstandingConnectIncomming) :
    ConnectPhase.Path cx (σ.ep.phase s) (connectObs s σ op rep σ') (σ'.ep.phase s) := by
  obtain ⟨ep', ctl'⟩ := σ'
  rcases step_cases h with ⟨p, he, hc, -⟩ | ⟨-, hc, hcall⟩ | ⟨dg, rr, e, rfl, -, hr, hctl⟩ |
    ⟨i, pass, chan, pass', ret, rfl, -, -, hl, hv, hret⟩ | ⟨pass, ev, rfl, -, -, hk, hctl⟩
  · simp only at he hc
    subst he hc
    rw [connectObs_panicked]
    exact .single (.abort _)
  · simp only at hc
    subst hc
    cases op with
    | connect target i =>
      obtain ⟨r, hr, rfl⟩ := hcall
      rcases connect_eq_ok hr with ⟨e, hi, rfl, rfl⟩ | ⟨noise, pkt, hi, rfl, -, -, hout⟩
      · exact (KeepsConnects.refl _).path
      · dsimp only at hout
        simp only [connectObs, hi]
        by_cases hs : i.streamId = s
        · subst hs
          simp only [if_pos rfl, Endpoint.phase, hout, AList.lookup_insert]
          exact .single (.register _ _ _)
        · simp only [if_neg hs]
          exact .of_eq (phase_congr (by rw [hout, AList.lookup_insert_ne (Ne.symm hs)]; rfl)).symm
    | «open» => exact (open_connects hcall.1).path
    | stream | reject => exact (stream_connects hcall.1).path
    | publish => exact (publish_connects hcall.1).path
    | acceptIncomming => exact (acceptIncomming_connects hcall.1).path
    | acceptOutgoing => obtain ⟨r, hr, -⟩ := hcall; exact (acceptOutgoing_connects hr).path
    | receive | visit | endPass => exact hcall.elim
  · rcases hctl with ⟨-, hc, -⟩ | ⟨-, -, hc, -⟩ <;> simp only at hc <;> subst hc <;>
      exact (receive_connects hr).path
  · rcases hret with ⟨rfl, hc, rfl⟩ | ⟨r, rfl, hc, rfl⟩ <;> simp only at hc <;> subst hc
    all_goals
      rcases visit_eq_ok hv with ⟨e, hp, -, hk⟩ |
        ⟨p, ep₁, chan₁, pass₁, ep₂, chan₂, pass₂, hp, hk₁, hch, hd, hk₂, hpre, -⟩
      · simp only [connectObs, hp, ite_self]
        exact hk.path
      by_cases hb : i.route = σ.ep.brokerRoute
      · rw [hb.trans hk₁.1.symm] at hd
        have := dispatch_moves hd (hk₁.2.1 ▸ hin) (decide (Effect.engine chan.chan (.close s) ∈ ep'.effects))
          fun hm => decide_eq_true (hpre.subset (hch ▸ hm))
        rw [hk₁.phase, ← hk₂.phase, ← hk₂.2.2] at this
        simp only [connectObs, hp, closedOnBroker, Reply.result]
        rw [if_pos hb, ← hb, hl]
        exact this
      · simp only [connectObs, if_neg hb]
        exact ((hk₁.trans (dispatch_off_broker hd fun h' => hb (h'.trans hk₁.1))).trans hk₂).path
  · have := removeKilled_connects hk
    rcases hctl with ⟨-, -, hc, -⟩ | ⟨-, -, hc, -⟩ | ⟨-, -, hc, -⟩ <;> simp only at hc <;> subst hc <;>
      exact this.path

/-! ### Whole runs -/

/-- The observations of a run are a path of the protocol, from the phase the
stream starts in, as long as the stream awaits no peer's request at the start
and the broker engine never announces it as one. -/
theorem run_moves {s : UInt32} :
    ∀ (ops : List Op) {σ : Sys}, σ.ep.outstandingConnectIncomming.Nodup →
      s ∉ σ.ep.outstandingConnectIncomming → (∀ op ∈ ops, ¬ Announces cx σ.ep.brokerRoute s op) →
      ∃ p, ConnectPhase.Path cx (σ.ep.phase s) (connectView s σ (run cx σ ops)) p
  | [], _, _, _, _ => ⟨_, .nil _⟩
  | op :: ops, σ, hnd, hin, hann => by
    simp only [run]
    split
    · rename_i σ' rep hst
      obtain ⟨hnd', hiff⟩ := step_incomming hst hnd s
      have hin' : s ∉ σ'.ep.outstandingConnectIncomming := fun hm =>
        (hiff.1 hm).elim (fun h => hin h.1) fun h => hann op (List.mem_cons_self _ _) h.2
      have hb := (step_keeps_broker hst).1
      obtain ⟨p, hp⟩ := run_moves ops hnd' hin' fun op' hop => hb ▸ hann op' (List.mem_cons_of_mem _ hop)
      exact ⟨p, (step_moves hst hin).append hp⟩
    · exact ⟨_, .nil _⟩

/-- Only a broker stream's frame or close makes `poll` return `OutgoingConnect`. -/
theorem step_outgoingConnect {c : ConnectResponse}
    (h : step cx σ op = some (σ', rep)) (hr : rep = .done (.ok (.outgoingConnect c))) :
    ∃ i, op = .visit i ∧ i.route = σ.ep.brokerRoute ∧
      ((∃ t f, i.progress = .ok (.receiveStream t f)) ∨ ∃ t, i.progress = .ok (.close t)) := by
  subst hr
  rcases step_cases h with ⟨p, -, -, hr⟩ | ⟨-, -, hc⟩ | ⟨dg, rr, e, rfl, -, -, hr⟩ |
    ⟨i, pass, chan, pass', ret, rfl, -, -, -, hv, hret⟩ | ⟨pass, ev, rfl, -, -, hk, hr⟩
  · cases hr
  · cases op <;> simp only [CallResult] at hc <;> obtain ⟨_, _, ⟨⟩⟩ := hc
  · rcases hr with ⟨-, -, ⟨⟩⟩ | ⟨_, -, -, ⟨⟩⟩
  · rcases hret with ⟨-, -, ⟨⟩⟩ | ⟨r, rfl, -, ⟨⟩⟩
    rcases visit_eq_ok hv with ⟨e, -, ⟨⟩, -⟩ | ⟨p, ep₁, chan₁, pass₁, ep₂, chan₂, pass₂, hp, hk₁, -, hd, -⟩
    obtain ⟨hb, hp'⟩ := dispatch_outgoingConnect hd
    refine ⟨i, rfl, hb.trans hk₁.1, ?_⟩
    rcases hp' with ⟨t, f, rfl⟩ | ⟨t, rfl⟩
    exacts [.inl ⟨t, f, hp⟩, .inr ⟨t, hp⟩]
  · rcases hr with ⟨e, rfl, -, ⟨⟩⟩ | ⟨-, -, -, ⟨⟩⟩ | ⟨-, -, -, ⟨⟩⟩
    obtain ⟨r, identity, ⟨⟩⟩ := removeKilled_event hk

/-- The outgoing connect protocol over every run from `Endpoint::new`, for a
stream the broker engine never announces as one a peer opened: what the run
shows of the stream is a path of `ConnectPhase.Next`; `poll` answers each
registration of the stream with at most one `OutgoingConnect`; and every
`OutgoingConnect` that `poll` returns answers a frame or a close of a broker
stream. -/
theorem outgoing_connect (cx : Codecs) (brokerRoute : RoutingKey) (identity : Identity)
    (addr : SocketAddr) (ops : List Op) (s : UInt32)
    (hann : ∀ op ∈ ops, ¬ Announces cx brokerRoute s op) :
    (∃ p, ConnectPhase.Path cx .idle
      (connectView s (Sys.init brokerRoute identity addr) (run cx (Sys.init brokerRoute identity addr) ops)) p) ∧
    (connectView s (Sys.init brokerRoute identity addr)
        (run cx (Sys.init brokerRoute identity addr) ops)).countP ConnectObs.answered ≤
      (connectView s (Sys.init brokerRoute identity addr)
        (run cx (Sys.init brokerRoute identity addr) ops)).countP ConnectObs.registers ∧
    ∀ x ∈ run cx (Sys.init brokerRoute identity addr) ops, ∀ c, x.2.1 = .done (.ok (.outgoingConnect c)) →
      ∃ i, x.1 = .visit i ∧ i.route = brokerRoute ∧
        ((∃ t f, i.progress = .ok (.receiveStream t f)) ∨ ∃ t, i.progress = .ok (.close t)) := by
  obtain ⟨p, hp⟩ := @run_moves cx s ops (Sys.init brokerRoute identity addr) List.nodup_nil
    (List.not_mem_nil s) hann
  have hidle : (Sys.init brokerRoute identity addr).ep.phase s = .idle := rfl
  have hcount := hp.answered_le
  rw [hidle] at hcount
  refine ⟨⟨p, hp⟩, Nat.le_of_add_right_le hcount, fun x hx c hc => ?_⟩
  obtain ⟨σ, hb, hst⟩ := run_step_of_inv (fun σ => σ.ep.brokerRoute = brokerRoute)
    (fun hb hst => (step_keeps_broker hst).1.trans hb) rfl hx
  obtain ⟨i, hi, hr, hp⟩ := step_outgoingConnect hst hc
  exact ⟨i, hi, hr.trans hb, hp⟩

/-- A connect answered by the broker's headers and then its response, and a
connect whose stream the broker closes first: each gets one `OutgoingConnect`,
the first with the decoded `ConnectResponse` and the handshake state, the
second with neither. -/
theorem outgoing_connect_answered :
    (run ({ Codecs.sample with decodeConnectResponse := fun _ => .ok ⟨true, 2, [], []⟩ }) (Sys.init 1 ⟨[7]⟩ ⟨[10, 0, 0, 1], 4000⟩)
        [Op.connect ⟨[9]⟩ ⟨0, .ok (⟨0⟩, ⟨8, 2, .initiator2Responder, 0, []⟩), [], 3⟩,
          .receive (.error .wouldBlock) (.ok ()), .visit (.answer 1 (.receiveStream 3 [1])), .endPass,
          .visit (.answer 1 (.receiveStream 3 [2]))]).map (·.2.1) =
      [.connect (.ok ()), .none, .none, .none,
        .done (.ok (.outgoingConnect ⟨⟨[9]⟩, some ⟨true, 2, [], []⟩, some ⟨0⟩⟩))] ∧
    (∀ op ∈ ([Op.connect ⟨[9]⟩ ⟨0, .ok (⟨0⟩, ⟨8, 2, .initiator2Responder, 0, []⟩), [], 3⟩,
          .receive (.error .wouldBlock) (.ok ()), .visit (.answer 1 (.receiveStream 3 [1])), .endPass,
          .visit (.answer 1 (.receiveStream 3 [2]))] : List Op), ¬ Announces ({ Codecs.sample with decodeConnectResponse := fun _ => .ok ⟨true, 2, [], []⟩ }) 1 3 op) ∧
    ((∃ p, ConnectPhase.Path ({ Codecs.sample with decodeConnectResponse := fun _ => .ok ⟨true, 2, [], []⟩ }) .idle (connectView 3 (Sys.init 1 ⟨[7]⟩ ⟨[10, 0, 0, 1], 4000⟩) (run ({ Codecs.sample with decodeConnectResponse := fun _ => .ok ⟨true, 2, [], []⟩ }) (Sys.init 1 ⟨[7]⟩ ⟨[10, 0, 0, 1], 4000⟩)
        [Op.connect ⟨[9]⟩ ⟨0, .ok (⟨0⟩, ⟨8, 2, .initiator2Responder, 0, []⟩), [], 3⟩,
          .receive (.error .wouldBlock) (.ok ()), .visit (.answer 1 (.receiveStream 3 [1])), .endPass,
          .visit (.answer 1 (.receiveStream 3 [2]))])) p) ∧
    (connectView 3 (Sys.init 1 ⟨[7]⟩ ⟨[10, 0, 0, 1], 4000⟩) (run ({ Codecs.sample with decodeConnectResponse := fun _ => .ok ⟨true, 2, [], []⟩ }) (Sys.init 1 ⟨[7]⟩ ⟨[10, 0, 0, 1], 4000⟩)
        [Op.connect ⟨[9]⟩ ⟨0, .ok (⟨0⟩, ⟨8, 2, .initiator2Responder, 0, []⟩), [], 3⟩,
          .receive (.error .wouldBlock) (.ok ()), .visit (.answer 1 (.receiveStream 3 [1])), .endPass,
          .visit (.answer 1 (.receiveStream 3 [2]))])).countP ConnectObs.answered ≤
      (connectView 3 (Sys.init 1 ⟨[7]⟩ ⟨[10, 0, 0, 1], 4000⟩) (run ({ Codecs.sample with decodeConnectResponse := fun _ => .ok ⟨true, 2, [], []⟩ }) (Sys.init 1 ⟨[7]⟩ ⟨[10, 0, 0, 1], 4000⟩)
        [Op.connect ⟨[9]⟩ ⟨0, .ok (⟨0⟩, ⟨8, 2, .initiator2Responder, 0, []⟩), [], 3⟩,
          .receive (.error .wouldBlock) (.ok ()), .visit (.answer 1 (.receiveStream 3 [1])), .endPass,
          .visit (.answer 1 (.receiveStream 3 [2]))])).countP ConnectObs.registers ∧
    (∀ x ∈ (run ({ Codecs.sample with decodeConnectResponse := fun _ => .ok ⟨true, 2, [], []⟩ }) (Sys.init 1 ⟨[7]⟩ ⟨[10, 0, 0, 1], 4000⟩)
        [Op.connect ⟨[9]⟩ ⟨0, .ok (⟨0⟩, ⟨8, 2, .initiator2Responder, 0, []⟩), [], 3⟩,
          .receive (.error .wouldBlock) (.ok ()), .visit (.answer 1 (.receiveStream 3 [1])), .endPass,
          .visit (.answer 1 (.receiveStream 3 [2]))]),
      ∀ c, x.2.1 = .done (.ok (.outgoingConnect c)) → ∃ i, x.1 = .visit i ∧ i.route = 1 ∧
        ((∃ t f, i.progress = .ok (.receiveStream t f)) ∨ ∃ t, i.progress = .ok (.close t)))) ∧
    (run Codecs.sample (Sys.init 1 ⟨[7]⟩ ⟨[10, 0, 0, 1], 4000⟩)
        [Op.connect ⟨[9]⟩ ⟨0, .ok (⟨0⟩, ⟨8, 2, .initiator2Responder, 0, []⟩), [], 3⟩,
          .receive (.error .wouldBlock) (.ok ()), .visit (.answer 1 (.close 3))]).map (·.2.1) =
      [.connect (.ok ()), .none, .done (.ok (.outgoingConnect ⟨⟨[9]⟩, none, none⟩))] ∧
    (∀ op ∈ ([Op.connect ⟨[9]⟩ ⟨0, .ok (⟨0⟩, ⟨8, 2, .initiator2Responder, 0, []⟩), [], 3⟩,
          .receive (.error .wouldBlock) (.ok ()), .visit (.answer 1 (.close 3))] : List Op), ¬ Announces Codecs.sample 1 3 op) ∧
    ((∃ p, ConnectPhase.Path (Codecs.sample) .idle (connectView 3 (Sys.init 1 ⟨[7]⟩ ⟨[10, 0, 0, 1], 4000⟩) (run (Codecs.sample) (Sys.init 1 ⟨[7]⟩ ⟨[10, 0, 0, 1], 4000⟩)
        [Op.connect ⟨[9]⟩ ⟨0, .ok (⟨0⟩, ⟨8, 2, .initiator2Responder, 0, []⟩), [], 3⟩,
          .receive (.error .wouldBlock) (.ok ()), .visit (.answer 1 (.close 3))])) p) ∧
    (connectView 3 (Sys.init 1 ⟨[7]⟩ ⟨[10, 0, 0, 1], 4000⟩) (run (Codecs.sample) (Sys.init 1 ⟨[7]⟩ ⟨[10, 0, 0, 1], 4000⟩)
        [Op.connect ⟨[9]⟩ ⟨0, .ok (⟨0⟩, ⟨8, 2, .initiator2Responder, 0, []⟩), [], 3⟩,
          .receive (.error .wouldBlock) (.ok ()), .visit (.answer 1 (.close 3))])).countP ConnectObs.answered ≤
      (connectView 3 (Sys.init 1 ⟨[7]⟩ ⟨[10, 0, 0, 1], 4000⟩) (run (Codecs.sample) (Sys.init 1 ⟨[7]⟩ ⟨[10, 0, 0, 1], 4000⟩)
        [Op.connect ⟨[9]⟩ ⟨0, .ok (⟨0⟩, ⟨8, 2, .initiator2Responder, 0, []⟩), [], 3⟩,
          .receive (.error .wouldBlock) (.ok ()), .visit (.answer 1 (.close 3))])).countP ConnectObs.registers ∧
    (∀ x ∈ (run (Codecs.sample) (Sys.init 1 ⟨[7]⟩ ⟨[10, 0, 0, 1], 4000⟩)
        [Op.connect ⟨[9]⟩ ⟨0, .ok (⟨0⟩, ⟨8, 2, .initiator2Responder, 0, []⟩), [], 3⟩,
          .receive (.error .wouldBlock) (.ok ()), .visit (.answer 1 (.close 3))]),
      ∀ c, x.2.1 = .done (.ok (.outgoingConnect c)) → ∃ i, x.1 = .visit i ∧ i.route = 1 ∧
        ((∃ t f, i.progress = .ok (.receiveStream t f)) ∨ ∃ t, i.progress = .ok (.close t)))) :=
  have hA : ∀ op ∈ ([Op.connect ⟨[9]⟩ ⟨0, .ok (⟨0⟩, ⟨8, 2, .initiator2Responder, 0, []⟩), [], 3⟩,
          .receive (.error .wouldBlock) (.ok ()), .visit (.answer 1 (.receiveStream 3 [1])), .endPass,
          .visit (.answer 1 (.receiveStream 3 [2]))] : List Op), ¬ Announces ({ Codecs.sample with decodeConnectResponse := fun _ => .ok ⟨true, 2, [], []⟩ }) 1 3 op := by
    simp [Announces, VisitInput.answer]
  have hB : ∀ op ∈ ([Op.connect ⟨[9]⟩ ⟨0, .ok (⟨0⟩, ⟨8, 2, .initiator2Responder, 0, []⟩), [], 3⟩,
          .receive (.error .wouldBlock) (.ok ()), .visit (.answer 1 (.close 3))] : List Op), ¬ Announces Codecs.sample 1 3 op := by
    simp [Announces, VisitInput.answer]
  ⟨rfl, hA, outgoing_connect _ 1 ⟨[7]⟩ ⟨[10, 0, 0, 1], 4000⟩ _ 3 hA,
    rfl, hB, outgoing_connect Codecs.sample 1 ⟨[7]⟩ ⟨[10, 0, 0, 1], 4000⟩ _ 3 hB⟩

end Carrier
