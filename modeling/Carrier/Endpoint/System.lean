import Carrier.Endpoint.Poll

/-!
# The endpoint as a transition system

A state is the endpoint with a control point: between calls, inside `poll`'s
channel loop, or aborted by a panic. A step is one public call, or one stage of
`poll`: receiving a datagram, visiting one channel, or ending a pass. The
iteration order of the channel map is the environment's choice: a `visit` names
the route it reaches, among those not yet visited in the pass. Every step starts
a new effect log, so a state's `effects` are what its last step did.
-/

namespace Carrier

variable {cx : Codecs} {ep ep' : Endpoint} {s s' : Sys} {op : Op} {rep : Reply}

/-- Where the endpoint is: between calls, inside `poll`'s channel loop, or
aborted by a panic. -/
inductive Ctl
  | idle
  | polling (pass : Pass)
  | panicked (p : Panic)

/-- The endpoint with its control point. -/
structure Sys where
  ep : Endpoint
  ctl : Ctl

/-- The calls, each with what the collaborators answer during it. `receive`,
`visit` and `endPass` are the stages of `poll`. -/
inductive Op
  | connect (target : Identity) (i : Endpoint.ConnectInput)
  | «open» (route : RoutingKey) (headers : Headers) (streamId : UInt32) (sends : List Payload)
  | stream (route : RoutingKey) (streamId : UInt32) (m : List UInt8)
  | publish (shadow : List UInt8) (i : Endpoint.PublishInput)
  | reject (q : ConnectRequest)
  | acceptIncomming (q : ConnectRequest) (i : Endpoint.AcceptIncommingInput)
  | acceptOutgoing (q : ConnectResponse) (i : Endpoint.AcceptOutgoingInput)
  | receive (datagram : Except IoErrorKind (List UInt8 × SocketAddr)) (recvResult : Except Error Unit)
  | visit (i : VisitInput)
  | endPass

/-- What a step hands back: nothing (a call without result, or a stage of
`poll` that does not end it), the result of `connect` or `accept_outgoing`, or
`poll`'s `Done` or `Again`. -/
inductive Reply
  | none
  | connect (r : Except Error Unit)
  | acceptOutgoing (r : Except Error RoutingKey)
  | done (r : Except Error Event)
  | again (later : Option Nat)
  deriving DecidableEq

/-- The endpoint at the start of a step, with an empty effect log. -/
def Endpoint.begin (ep : Endpoint) : Endpoint := { ep with effects := [] }

@[simp] theorem Endpoint.begin_brokerRoute (ep : Endpoint) : ep.begin.brokerRoute = ep.brokerRoute := rfl

@[simp] theorem Endpoint.begin_outstandingConnectIncomming (ep : Endpoint) :
    ep.begin.outstandingConnectIncomming = ep.outstandingConnectIncomming := rfl

@[simp] theorem Endpoint.begin_publishSecret (ep : Endpoint) : ep.begin.publishSecret = ep.publishSecret := rfl

/-- A pass of the channel loop over every channel. -/
def Pass.start (ep : Endpoint) (later : Option Nat) : Pass :=
  { todo := ep.channels.keys, again := false, killme := [], later }

/-- The end of a call: its result, or the abort of a panic. -/
def Sys.finish (ep : Endpoint) : Except Panic (Endpoint × Reply) → Sys × Reply
  | .ok (ep', r) => (⟨ep', .idle⟩, r)
  | .error p => (⟨ep, .panicked p⟩, .none)

/-- The initial state: `Endpoint::new` between calls. -/
def Sys.init (brokerRoute : RoutingKey) (identity : Identity) (addr : SocketAddr) : Sys :=
  ⟨Endpoint.new brokerRoute identity addr, .idle⟩

/-- A choice of the collaborators' decoders for running the model on fixed
inputs: a non-empty header block is a `/peer/connect` request, an empty one
does not decode, and the other decoders reject every input. -/
def Codecs.sample : Codecs where
  decodeHeaders := fun
    | [] => .error (.other "hpack")
    | _ => .ok (Headers.withPath peerConnectPath)
  decodePeerConnectRequest := fun _ => .error (.other "prost")
  decodeConnectResponse := fun _ => .error (.other "prost")
  identityFromBytes := fun b => .ok ⟨b⟩
  parseAddr := fun _ => .error (.other "AddrParseError")
  formatAddr := fun _ => ""

/-- An answer `p` of the engine at `route`, with handlers that are all done, a
stream factory that declines and a failing handshake: for running the model on
fixed inputs. -/
def VisitInput.answer (route : RoutingKey) (p : ChannelProgress) : VisitInput :=
  { route, shake := fun _ => .done, progress := .ok p, factory := false,
    respond := .error .antiReplay, shakeAgain := fun _ => .done }

/-- A visit of `route` whose `progress()` fails with `e`: `poll` returns at once. -/
def VisitInput.failing (route : RoutingKey) (e : Error) : VisitInput :=
  { VisitInput.answer route .disconnect with progress := .error e }

/-- One step; `none` when the operation is not enabled at the control point. -/
def step (cx : Codecs) (s : Sys) (op : Op) : Option (Sys × Reply) :=
  let ep := s.ep.begin
  match s.ctl, op with
  | .idle, .connect target i =>
    some (Sys.finish ep ((ep.connect cx target i).map fun r => (r.1, .connect r.2)))
  | .idle, .open route headers streamId sends =>
    some (Sys.finish ep ((ep.open route headers streamId sends).map (·, .none)))
  | .idle, .stream route streamId m =>
    some (Sys.finish ep ((ep.stream route streamId (.bytes m)).map (·, .none)))
  | .idle, .publish shadow i => some (Sys.finish ep ((ep.publish shadow i).map (·, .none)))
  | .idle, .reject q => some (Sys.finish ep ((ep.reject q).map (·, .none)))
  | .idle, .acceptIncomming q i =>
    some (Sys.finish ep ((ep.acceptIncomming cx q i).map (·, .none)))
  | .idle, .acceptOutgoing q i =>
    some (Sys.finish ep ((ep.acceptOutgoing cx q i).map fun r => (r.1, .acceptOutgoing r.2)))
  | .idle, .receive datagram recvResult =>
    some <| match ep.receive datagram recvResult with
      | .error p => (⟨ep, .panicked p⟩, .none)
      | .ok (ep', some e) => (⟨ep', .idle⟩, .done (.error e))
      | .ok (ep', none) => (⟨ep', .polling (Pass.start ep' (some 600000))⟩, .none)
  | .polling pass, .visit i =>
    if i.route ∈ pass.todo then
      (ep.channels.lookup i.route).map fun chan =>
        match ep.visit cx i.route chan { pass with todo := pass.todo.erase i.route } i with
        | .error p => (⟨ep, .panicked p⟩, .none)
        | .ok (ep', _, some r) => (⟨ep', .idle⟩, .done r)
        | .ok (ep', pass', none) => (⟨ep', .polling pass'⟩, .none)
    else none
  | .polling pass, .endPass =>
    if pass.todo = [] then
      some <| match ep.removeKilled pass.killme with
        | .error p => (⟨ep, .panicked p⟩, .none)
        | .ok (ep', some ev) => (⟨ep', .idle⟩, .done (.ok ev))
        | .ok (ep', none) =>
          if pass.again then (⟨ep', .polling (Pass.start ep' pass.later)⟩, .none)
          else (⟨ep', .idle⟩, .again pass.later)
    else none
  | _, _ => none

/-- What a public call returned: `ep'` and `rep` are its result when it did not
panic. -/
def CallResult (cx : Codecs) (ep : Endpoint) : Op → Endpoint → Reply → Prop
  | .connect target i, ep', rep => ∃ r, ep.connect cx target i = .ok (ep', r) ∧ rep = .connect r
  | .open route headers streamId sends, ep', rep =>
    ep.open route headers streamId sends = .ok ep' ∧ rep = .none
  | .stream route streamId m, ep', rep => ep.stream route streamId (.bytes m) = .ok ep' ∧ rep = .none
  | .publish shadow i, ep', rep => ep.publish shadow i = .ok ep' ∧ rep = .none
  | .reject q, ep', rep => ep.reject q = .ok ep' ∧ rep = .none
  | .acceptIncomming q i, ep', rep => ep.acceptIncomming cx q i = .ok ep' ∧ rep = .none
  | .acceptOutgoing q i, ep', rep =>
    ∃ r, ep.acceptOutgoing cx q i = .ok (ep', r) ∧ rep = .acceptOutgoing r
  | _, _, _ => False

/-- A relation that the result of every public call bears to the endpoint it
was called on holds of each call. -/
theorem CallResult.rel
    (R : Endpoint → Endpoint → Prop) (h : CallResult cx ep op ep' rep)
    (hconnect : ∀ {t i e r}, ep.connect cx t i = .ok (e, r) → R ep e)
    (hopen : ∀ {route hs s sends e}, ep.open route hs s sends = .ok e → R ep e)
    (hstream : ∀ {route s m e}, ep.stream route s m = .ok e → R ep e)
    (hpublish : ∀ {shadow i e}, ep.publish shadow i = .ok e → R ep e)
    (hinc : ∀ {q i e}, ep.acceptIncomming cx q i = .ok e → R ep e)
    (hout : ∀ {q i e r}, ep.acceptOutgoing cx q i = .ok (e, r) → R ep e) : R ep ep' := by
  cases op with
  | connect => obtain ⟨r, hr, -⟩ := h; exact hconnect hr
  | «open» => exact hopen h.1
  | stream => exact hstream h.1
  | publish => exact hpublish h.1
  | reject => exact hstream h.1
  | acceptIncomming => exact hinc h.1
  | acceptOutgoing => obtain ⟨r, hr, -⟩ := h; exact hout hr
  | receive | visit | endPass => exact h.elim

theorem finish_eq {x : Except Panic (Endpoint × Reply)} {ctl : Ctl}
    (h : Sys.finish ep x = (⟨ep', ctl⟩, rep)) :
    (∃ p, ep' = ep ∧ ctl = .panicked p ∧ rep = .none) ∨ (ctl = .idle ∧ x = .ok (ep', rep)) := by
  cases x <;> simp only [Sys.finish, Prod.mk.injEq, Sys.mk.injEq] at h
  · exact .inl ⟨_, h.1.1.symm, h.1.2.symm, h.2.symm⟩
  · obtain ⟨⟨rfl, rfl⟩, rfl⟩ := h; exact .inr ⟨rfl, rfl⟩

theorem call_cases {ctl : Ctl}
    {x : Except Panic (Endpoint × Reply)} (h : Sys.finish ep x = (⟨ep', ctl⟩, rep))
    (hx : ∀ ep' rep, x = .ok (ep', rep) → CallResult cx ep op ep' rep) :
    (∃ p, ep' = ep ∧ ctl = .panicked p ∧ rep = .none) ∨
      (ctl = .idle ∧ CallResult cx ep op ep' rep) := by
  rcases finish_eq h with hp | ⟨rfl, hx'⟩
  · exact .inl hp
  · exact .inr ⟨rfl, hx _ _ hx'⟩

/-- What a step can do: abort with a panic, leaving the endpoint as it was; a
public call between calls; or one of the three stages of `poll`. -/
theorem step_cases
    (h : step cx s op = some (s', rep)) :
    (∃ p, s'.ep = s.ep.begin ∧ s'.ctl = .panicked p ∧ rep = .none) ∨
    (s.ctl = .idle ∧ s'.ctl = .idle ∧ CallResult cx s.ep.begin op s'.ep rep) ∨
    (∃ datagram recvResult e, op = .receive datagram recvResult ∧ s.ctl = .idle ∧
      s.ep.begin.receive datagram recvResult = .ok (s'.ep, e) ∧
      (e = none ∧ s'.ctl = .polling (Pass.start s'.ep (some 600000)) ∧ rep = .none ∨
        ∃ err, e = some err ∧ s'.ctl = .idle ∧ rep = .done (.error err))) ∨
    (∃ i pass chan pass' ret, op = .visit i ∧ s.ctl = .polling pass ∧ i.route ∈ pass.todo ∧
      s.ep.channels.lookup i.route = some chan ∧
      s.ep.begin.visit cx i.route chan { pass with todo := pass.todo.erase i.route } i =
        .ok (s'.ep, pass', ret) ∧
      (ret = none ∧ s'.ctl = .polling pass' ∧ rep = .none ∨
        ∃ r, ret = some r ∧ s'.ctl = .idle ∧ rep = .done r)) ∨
    (∃ pass ev, op = .endPass ∧ s.ctl = .polling pass ∧ pass.todo = [] ∧
      s.ep.begin.removeKilled pass.killme = .ok (s'.ep, ev) ∧
      ((∃ e, ev = some e ∧ s'.ctl = .idle ∧ rep = .done (.ok e)) ∨
        ev = none ∧ pass.again = true ∧ s'.ctl = .polling (Pass.start s'.ep pass.later) ∧ rep = .none ∨
        ev = none ∧ pass.again = false ∧ s'.ctl = .idle ∧ rep = .again pass.later)) := by
  obtain ⟨ep, ctl⟩ := s
  obtain ⟨ep', ctl'⟩ := s'
  cases ctl <;> cases op <;> simp only [step, Option.some.injEq, reduceCtorEq] at h
  case idle.receive datagram recvResult =>
    split at h <;> simp only [Prod.mk.injEq, Sys.mk.injEq] at h
    · exact .inl ⟨_, h.1.1.symm, h.1.2.symm, h.2.symm⟩
    · rename_i e heq
      obtain ⟨⟨rfl, rfl⟩, rfl⟩ := h
      exact .inr (.inr (.inl ⟨datagram, recvResult, some e, rfl, rfl, heq, .inr ⟨e, rfl, rfl, rfl⟩⟩))
    · rename_i heq
      obtain ⟨⟨rfl, rfl⟩, rfl⟩ := h
      exact .inr (.inr (.inl ⟨datagram, recvResult, none, rfl, rfl, heq, .inl ⟨rfl, rfl, rfl⟩⟩))
  case polling.visit pass i =>
    split_ifs at h with hmem
    obtain ⟨chan, hc, h⟩ := Option.map_eq_some'.1 h
    split at h <;> simp only [Prod.mk.injEq, Sys.mk.injEq] at h
    · exact .inl ⟨_, h.1.1.symm, h.1.2.symm, h.2.symm⟩
    · rename_i pass' r heq
      obtain ⟨⟨rfl, rfl⟩, rfl⟩ := h
      exact .inr (.inr (.inr (.inl
        ⟨i, pass, chan, pass', some r, rfl, rfl, hmem, hc, heq, .inr ⟨r, rfl, rfl, rfl⟩⟩)))
    · rename_i pass' heq
      obtain ⟨⟨rfl, rfl⟩, rfl⟩ := h
      exact .inr (.inr (.inr (.inl
        ⟨i, pass, chan, pass', none, rfl, rfl, hmem, hc, heq, .inl ⟨rfl, rfl, rfl⟩⟩)))
  case polling.endPass pass =>
    by_cases hnil : pass.todo = []
    · simp only [hnil, if_true, Option.some.injEq] at h
      rcases hk : ep.begin.removeKilled pass.killme with p | ⟨ep'', _ | ev⟩ <;> rw [hk] at h <;>
        dsimp only at h
      · simp only [Prod.mk.injEq, Sys.mk.injEq] at h
        exact .inl ⟨_, h.1.1.symm, h.1.2.symm, h.2.symm⟩
      · by_cases hag : pass.again <;> simp only [hag, if_true, if_false, Bool.false_eq_true,
          Prod.mk.injEq, Sys.mk.injEq] at h <;> obtain ⟨⟨rfl, rfl⟩, rfl⟩ := h
        · exact .inr (.inr (.inr (.inr ⟨pass, none, rfl, rfl, hnil, hk, .inr (.inl ⟨rfl, hag, rfl, rfl⟩)⟩)))
        · exact .inr (.inr (.inr (.inr
            ⟨pass, none, rfl, rfl, hnil, hk, .inr (.inr ⟨rfl, by simpa using hag, rfl, rfl⟩)⟩)))
      · simp only [Prod.mk.injEq, Sys.mk.injEq] at h
        obtain ⟨⟨rfl, rfl⟩, rfl⟩ := h
        exact .inr (.inr (.inr (.inr ⟨pass, some ev, rfl, rfl, hnil, hk, .inl ⟨ev, rfl, rfl, rfl⟩⟩)))
    · simp [hnil] at h
  all_goals refine (call_cases h fun ep' rep hx => ?_).elim .inl fun h => .inr (.inl ⟨rfl, h⟩)
  all_goals obtain ⟨a, ha, hf⟩ := Except.map_eq_ok.1 hx
  all_goals cases hf
  all_goals first | exact ⟨ha, rfl⟩ | exact ⟨a.2, ha, rfl⟩

/-- The states a run of the endpoint reaches. -/
inductive Reachable (cx : Codecs) : Sys → Prop
  | init (brokerRoute : RoutingKey) (identity : Identity) (addr : SocketAddr) :
      Reachable cx (Sys.init brokerRoute identity addr)
  | step {s s' : Sys} {op : Op} {r : Reply} :
      Reachable cx s → step cx s op = some (s', r) → Reachable cx s'

/-- A run: the operations in turn, each with what it handed back and the state
after it. The run stops at the first operation that is not enabled. -/
def run (cx : Codecs) (s : Sys) : List Op → List (Op × Reply × Sys)
  | [] => []
  | op :: ops =>
    match step cx s op with
    | some (s', r) => (op, r, s') :: run cx s' ops
    | none => []

/-- The state a run ends in. -/
def Sys.last : Sys → List (Op × Reply × Sys) → Sys
  | s, [] => s
  | _, (_, _, s') :: rest => Sys.last s' rest

/-- A run from a reachable state ends in a reachable state. -/
theorem Reachable.last {s : Sys} (hs : Reachable cx s) :
    ∀ ops, Reachable cx (s.last (run cx s ops))
  | [] => hs
  | op :: ops => by
    simp only [run]
    split
    · rename_i s' r hst
      exact Reachable.last (.step hs hst) ops
    · exact hs

/-- Every entry of a run is a step from a state of the run, so a property every
step keeps holds at each of them. -/
theorem run_step_of_inv (P : Sys → Prop)
    (hP : ∀ {s op s' r}, P s → step cx s op = some (s', r) → P s') :
    ∀ {s : Sys} {ops : List Op} {x : Op × Reply × Sys}, P s → x ∈ run cx s ops →
      ∃ s₀, P s₀ ∧ step cx s₀ x.1 = some (x.2.2, x.2.1)
  | _, [], _, _, hx => nomatch hx
  | s, op :: ops, x, hs, hx => by
    simp only [run] at hx
    split at hx
    · rename_i s' r hst
      rcases List.mem_cons.1 hx with rfl | hx
      · exact ⟨s, hs, hst⟩
      · exact run_step_of_inv P hP (hP hs hst) hx
    · exact nomatch hx

/-- A property of a run's history and its state that every step keeps holds
before every entry of the run. -/
theorem run_prefix_inv (I : List (Op × Reply × Sys) → Sys → Prop)
    (hI : ∀ {pre s op s' r}, I pre s → step cx s op = some (s', r) → I (pre ++ [(op, r, s')]) s') :
    ∀ {s : Sys} {ops : List Op} {acc pre post : List (Op × Reply × Sys)} {x : Op × Reply × Sys},
      I acc s → run cx s ops = pre ++ x :: post →
        I (acc ++ pre) (s.last pre) ∧ step cx (s.last pre) x.1 = some (x.2.2, x.2.1)
  | _, [], _, pre, _, _, _, hx => by simp [run] at hx
  | s, op :: ops, acc, pre, post, x, hs, hx => by
    simp only [run] at hx
    split at hx
    · rename_i s' r hst
      cases pre with
      | nil =>
        obtain ⟨rfl, -⟩ := List.cons.inj hx
        exact ⟨by simpa using hs, hst⟩
      | cons y pre =>
        rw [List.cons_append, List.cons.injEq] at hx
        obtain ⟨rfl, hx⟩ := hx
        have := run_prefix_inv I hI (hI hs hst) hx
        simpa [Sys.last] using this
    · simp at hx

end Carrier
