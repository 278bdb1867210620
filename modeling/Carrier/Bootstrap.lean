import Carrier.Endpoint.System

/-!
# Bootstrap

`EndpointBuilder::connect` finds a broker: it takes the signed DNS records in
the order `pop` takes them from the shuffled list and, for each, starts a Noise
handshake on a fresh socket. It then runs a loop of at most four attempts: a
datagram that decodes and that Noise accepts ends the loop with the broker's
identity, and one that does not is skipped; with nothing to read, the handshake
is sent again and the loop waits `2^n × 200` ms at attempt `n`. When the four
attempts are used up the next record is tried, and `OutOfOptions` is returned
when none is left. The first failure of a collaborator (`noise::initiate`,
`bind`, `send_to`, `into_transport`) ends the whole call with its error.

The DNS lookup, the parsing of the records and the shuffle are the
environment's: what the lookup gives is an input, its error (which ends the
call) or the records in the order `pop` takes them, each with what the
collaborators answer while it is tried. The result is what `Endpoint::new` is
called with.

What is shown: the network actions for one record are a sublist of the
schedule send, wait 400 ms, send, wait 800 ms, send, wait 1600 ms, send, wait
3200 ms, so at most four handshakes and six seconds of waiting per record; not
a prefix, since a datagram that does not decode uses up an attempt without
sending or waiting. An endpoint is made only from a response Noise accepted,
`OutOfOptions` comes exactly when every record used up its attempts, and any
other error is the lookup's or that of a collaborator while the first record
that did not use up its attempts was tried.
-/

namespace Carrier

namespace EndpointBuilder

/-- What the collaborators answer at one iteration of the response loop:
`recv_from` (a datagram, or nothing: `WouldBlock` or another error), Noise's
`recv_response` to a decoded packet, and `send_to`. -/
structure AttemptInput where
  recv : Option (List UInt8)
  recvResponse : EncryptedPacket → Except Error Identity
  sendTo : Except Error Unit

/-- A DNS record, with what the collaborators answer while it is tried:
`noise::initiate` for its key and timestamp, `UdpSocket::bind`, each iteration
of the response loop, and `into_transport`. -/
structure RecordInput where
  addr : SocketAddr
  initiate : Except Error (HandshakeRequester × EncryptedPacket)
  bind : Except IoErrorKind Unit
  attempt : Nat → AttemptInput
  intoTransport : Except Error RoutingKey

/-- What the bootstrap does on the network: send the handshake, or `yield` with
a timeout in milliseconds. -/
inductive Action
  | send (addr : SocketAddr) (pkt : List UInt8)
  | wait (ms : Nat)
  deriving DecidableEq, Repr

/-- The response loop of a record from attempt `n` on (the source's `attempts`
after its increment): the broker's identity and route, `none` once the fourth
attempt is used up, or the error that ends the call. -/
def awaitResponse (r : RecordInput) (pkt : List UInt8) (n : Nat) :
    List Action × Except Error (Option (Identity × RoutingKey)) :=
  if 4 < n then ([], .ok none)
  else
    match (r.attempt n).recv.map fun buf => (EncryptedPacket.decode buf).bind (r.attempt n).recvResponse with
    | some (.ok identity) => ([], r.intoTransport.map fun route => some (identity, route))
    | some (.error _) => awaitResponse r pkt (n + 1)
    | none =>
      match (r.attempt n).sendTo with
      | .error e => ([], .error e)
      | .ok () =>
        let (acts, res) := awaitResponse r pkt (n + 1)
        (.send r.addr pkt :: .wait (2 ^ n * 200) :: acts, res)
termination_by 5 - n

/-- The loop of `EndpointBuilder::connect` over the records, in the order `pop`
takes them: the broker's identity, route and address, handed to `Endpoint::new`. -/
def connectRecords : List RecordInput → List Action × Except Error (Identity × RoutingKey × SocketAddr)
  | [] => ([], .error .outOfOptions)
  | r :: rs =>
    match r.initiate, r.bind with
    | .error e, _ => ([], .error e)
    | .ok _, .error k => ([], .error (.io k))
    | .ok (_, pkt), .ok () =>
      match awaitResponse r pkt.encode 1 with
      | (acts, .error e) => (acts, .error e)
      | (acts, .ok (some (identity, route))) => (acts, .ok (identity, route, r.addr))
      | (acts, .ok none) =>
        let (acts', res) := connectRecords rs
        (acts ++ acts', res)

/-- `EndpointBuilder::connect`: an error of the DNS lookup ends the call
(`osaka::sync!(a)?`); otherwise the records it found, parsed and shuffled, are
tried in turn. -/
def connect (lookup : Except Error (List RecordInput)) :
    List Action × Except Error (Identity × RoutingKey × SocketAddr) :=
  match lookup with
  | .error e => ([], .error e)
  | .ok rs => connectRecords rs

/-- The handshake packet of a record, once `noise::initiate` made it. -/
def RecordInput.handshake (r : RecordInput) : List UInt8 :=
  match r.initiate with
  | .ok (_, pkt) => pkt.encode
  | .error _ => []

/-- Attempt `k` found nothing to read and sent the handshake again, or read a
datagram that does not decode or that Noise rejects. -/
def AttemptInput.Fails (a : AttemptInput) : Prop :=
  a.recv = none ∧ a.sendTo = .ok () ∨
    ∃ buf e, a.recv = some buf ∧ (EncryptedPacket.decode buf).bind a.recvResponse = .error e

/-- The backoff schedule: the actions of attempts `n` to 4 when each finds
nothing to read. A specification, not a part of the program. -/
def schedule (addr : SocketAddr) (pkt : List UInt8) (n : Nat) : List Action :=
  (List.range' n (5 - n)).flatMap fun k => [.send addr pkt, .wait (2 ^ k * 200)]

/-- The time an action waits. -/
def Action.delay : Action → Nat
  | .send _ _ => 0
  | .wait ms => ms

theorem schedule_of_le {addr : SocketAddr} {pkt : List UInt8} {n : Nat} (hn : n ≤ 4) :
    schedule addr pkt n = .send addr pkt :: .wait (2 ^ n * 200) :: schedule addr pkt (n + 1) := by
  rw [schedule, show 5 - n = (5 - (n + 1)) + 1 by omega, List.range'_succ]
  rfl

theorem schedule_one (addr : SocketAddr) (pkt : List UInt8) :
    schedule addr pkt 1 = [.send addr pkt, .wait 400, .send addr pkt, .wait 800,
      .send addr pkt, .wait 1600, .send addr pkt, .wait 3200] := rfl

/-- The actions of the response loop from attempt `n` on are among those of the
schedule, in order. -/
theorem awaitResponse_sublist (r : RecordInput) (pkt : List UInt8) (n : Nat) :
    (awaitResponse r pkt n).1.Sublist (schedule r.addr pkt n) := by
  induction n using awaitResponse.induct r pkt with
  | case1 n hn => rw [awaitResponse, if_pos hn]; exact List.nil_sublist _
  | case2 n hn identity hm => rw [awaitResponse, if_neg hn, hm]; exact List.nil_sublist _
  | case3 n hn e hm ih =>
    rw [awaitResponse, if_neg hn, hm, schedule_of_le (by omega)]
    exact ih.cons _ |>.cons _
  | case4 n hn hm e hs => rw [awaitResponse, if_neg hn, hm]; simp only [hs]; exact List.nil_sublist _
  | case5 n hn hm hs acts res he ih =>
    rw [awaitResponse, if_neg hn, hm]
    simp only [hs, he]
    rw [schedule_of_le (by omega)]
    exact (he ▸ ih).cons₂ _ |>.cons₂ _

/-- The response loop returns the broker's identity only from a datagram that
decodes and that Noise accepts, at one of the attempts from `n` to 4. -/
theorem awaitResponse_ok {r : RecordInput} {pkt : List UInt8} {n : Nat} {identity : Identity}
    {route : RoutingKey} (h : (awaitResponse r pkt n).2 = .ok (some (identity, route))) :
    r.intoTransport = .ok route ∧ ∃ k buf p, n ≤ k ∧ k ≤ 4 ∧ (r.attempt k).recv = some buf ∧
      EncryptedPacket.decode buf = .ok p ∧ (r.attempt k).recvResponse p = .ok identity := by
  induction n using awaitResponse.induct r pkt with
  | case1 n hn => rw [awaitResponse, if_pos hn] at h; cases h
  | case2 n hn identity' hm =>
    rw [awaitResponse, if_neg hn, hm] at h
    obtain ⟨buf, hbuf, hb⟩ := Option.map_eq_some'.1 hm
    obtain ⟨p, hp, hi⟩ := Except.bind_eq_ok.1 hb
    obtain ⟨_, ht, ⟨⟩⟩ := Except.map_eq_ok.1 h
    exact ⟨ht, n, buf, p, le_rfl, by omega, hbuf, hp, hi⟩
  | case3 n hn e hm ih =>
    rw [awaitResponse, if_neg hn, hm] at h
    obtain ⟨ht, k, buf, p, hk, hk4, hr⟩ := ih h
    exact ⟨ht, k, buf, p, by omega, hk4, hr⟩
  | case4 n hn hm e hs => rw [awaitResponse, if_neg hn, hm] at h; simp only [hs] at h; cases h
  | case5 n hn hm hs acts res he ih =>
    rw [awaitResponse, if_neg hn, hm] at h
    simp only [hs, he] at h
    obtain ⟨ht, k, buf, p, hk, hk4, hr⟩ := ih (he ▸ h)
    exact ⟨ht, k, buf, p, by omega, hk4, hr⟩

theorem forall_attempts_of_le {P : Nat → Prop} {n : Nat} (hn : n ≤ 4) :
    (∀ k, n ≤ k → k ≤ 4 → P k) ↔ P n ∧ ∀ k, n + 1 ≤ k → k ≤ 4 → P k := by
  refine ⟨fun h => ⟨h n le_rfl hn, fun k hk hk4 => h k (by omega) hk4⟩, fun ⟨hn, h⟩ k hk hk4 => ?_⟩
  rcases Nat.eq_or_lt_of_le hk with rfl | hk
  exacts [hn, h k hk hk4]

/-- The response loop uses up its attempts from `n` on exactly when each of
them fails. -/
theorem awaitResponse_none_iff (r : RecordInput) (pkt : List UInt8) (n : Nat) :
    (awaitResponse r pkt n).2 = .ok none ↔ ∀ k, n ≤ k → k ≤ 4 → (r.attempt k).Fails := by
  induction n using awaitResponse.induct r pkt with
  | case1 n hn =>
    rw [awaitResponse, if_pos hn]
    refine iff_of_true rfl fun k hk hk4 => ?_
    omega
  | case2 n hn identity hm =>
    rw [awaitResponse, if_neg hn, hm]
    obtain ⟨buf, hbuf, hb⟩ := Option.map_eq_some'.1 hm
    refine iff_of_false (fun h => ?_) fun h => ?_
    · obtain ⟨_, -, ⟨⟩⟩ := Except.map_eq_ok.1 h
    · rcases h n le_rfl (by omega) with ⟨hr, -⟩ | ⟨buf', e, hr, he⟩
      · cases hbuf.symm.trans hr
      · cases hbuf.symm.trans hr
        cases hb.symm.trans he
  | case3 n hn e hm ih =>
    rw [awaitResponse, if_neg hn, hm, ih, @forall_attempts_of_le _ n (by omega)]
    obtain ⟨buf, hbuf, hb⟩ := Option.map_eq_some'.1 hm
    exact (and_iff_right (show (r.attempt n).Fails from .inr ⟨buf, e, hbuf, hb⟩)).symm
  | case4 n hn hm e hs =>
    rw [awaitResponse, if_neg hn, hm]
    simp only [hs]
    refine iff_of_false (by simp) fun h => ?_
    rcases h n le_rfl (by omega) with ⟨-, hs'⟩ | ⟨buf, e, hr, -⟩
    · cases hs.symm.trans hs'
    · simp [hr] at hm
  | case5 n hn hm hs acts res he ih =>
    rw [awaitResponse, if_neg hn, hm]
    simp only [hs, he]
    simp only [he] at ih
    rw [ih, @forall_attempts_of_le _ n (by omega)]
    exact (and_iff_right (show (r.attempt n).Fails from .inl ⟨Option.map_eq_none'.1 hm, hs⟩)).symm

/-- The response loop ends the call with an error only when `send_to` fails at
one of the attempts from `n` to 4, or `into_transport` fails. -/
theorem awaitResponse_error {r : RecordInput} {pkt : List UInt8} {n : Nat} {e : Error}
    (h : (awaitResponse r pkt n).2 = .error e) :
    (∃ k, n ≤ k ∧ k ≤ 4 ∧ (r.attempt k).sendTo = .error e) ∨ r.intoTransport = .error e := by
  induction n using awaitResponse.induct r pkt with
  | case1 n hn => rw [awaitResponse, if_pos hn] at h; cases h
  | case2 n hn identity hm =>
    rw [awaitResponse, if_neg hn, hm] at h
    cases ht : r.intoTransport <;> rw [ht] at h <;> cases h
    exact .inr rfl
  | case3 n hn e' hm ih =>
    rw [awaitResponse, if_neg hn, hm] at h
    rcases ih h with ⟨k, hk, hk4, hs⟩ | ht
    exacts [.inl ⟨k, by omega, hk4, hs⟩, .inr ht]
  | case4 n hn hm e' hs =>
    rw [awaitResponse, if_neg hn, hm] at h
    simp only [hs] at h
    cases h
    exact .inl ⟨n, le_rfl, by omega, hs⟩
  | case5 n hn hm hs acts res he ih =>
    rw [awaitResponse, if_neg hn, hm] at h
    simp only [hs, he] at h
    rcases ih (he ▸ h) with ⟨k, hk, hk4, hs⟩ | ht
    exacts [.inl ⟨k, by omega, hk4, hs⟩, .inr ht]

/-- Each record costs at most four handshakes and six seconds of waiting. -/
theorem awaitResponse_delay_le (r : RecordInput) (pkt : List UInt8) :
    ((awaitResponse r pkt 1).1.map Action.delay).sum ≤ 6000 ∧
      ((awaitResponse r pkt 1).1.filter fun a => a matches .send _ _).length ≤ 4 := by
  have h := awaitResponse_sublist r pkt 1
  refine ⟨?_, ?_⟩
  · calc ((awaitResponse r pkt 1).1.map Action.delay).sum
        ≤ ((schedule r.addr pkt 1).map Action.delay).sum :=
          (h.map _).sum_le_sum fun _ _ => Nat.zero_le _
      _ = 6000 := by
          simp only [schedule_one, List.map_cons, List.map_nil, Action.delay]
          decide
  · calc ((awaitResponse r pkt 1).1.filter fun a => a matches .send _ _).length
        ≤ ((schedule r.addr pkt 1).filter fun a => a matches .send _ _).length :=
          (h.filter _).length_le
      _ = 4 := by simp [schedule_one]

/-- Record `r` used up its four attempts: the handshake was made, the socket
bound, and every attempt failed. -/
def RecordInput.Exhausts (r : RecordInput) : Prop :=
  (∃ noise pkt, r.initiate = .ok (noise, pkt)) ∧ r.bind = .ok () ∧
    ∀ k, 1 ≤ k → k ≤ 4 → (r.attempt k).Fails

theorem connectRecords_cons_of_exhausts {r : RecordInput} (rs : List RecordInput) (h : r.Exhausts) :
    connectRecords (r :: rs) =
      ((awaitResponse r r.handshake 1).1 ++ (connectRecords rs).1, (connectRecords rs).2) := by
  obtain ⟨⟨noise, pkt, hi⟩, hb, hk⟩ := h
  have hn := (awaitResponse_none_iff r pkt.encode 1).2 hk
  rcases ha : awaitResponse r pkt.encode 1 with ⟨acts, res⟩
  rw [ha] at hn
  cases hn
  simp only [connectRecords, hi, hb, ha, RecordInput.handshake]

/-- A record whose broker never answers: every attempt finds nothing to read
and sends the handshake again. -/
def RecordInput.silent (addr : SocketAddr) : RecordInput where
  addr := addr
  initiate := .ok (⟨0⟩, ⟨8, 5, .initiator2Responder, 0, []⟩)
  bind := .ok ()
  attempt _ := ⟨none, fun _ => .ok ⟨[9]⟩, .ok ()⟩
  intoTransport := .ok 5

/-- `OutOfOptions` once every record the lookup found used up its attempts. -/
theorem connect_outOfOptions {rs : List RecordInput} (h : ∀ r ∈ rs, r.Exhausts) :
    (connect (.ok rs)).2 = .error .outOfOptions := by
  show (connectRecords rs).2 = _
  induction rs with
  | nil => rfl
  | cons r rs ih =>
    rw [connectRecords_cons_of_exhausts rs (h r (List.mem_cons_self _ _))]
    exact ih fun r' hr' => h r' (List.mem_cons_of_mem _ hr')

/-- Two brokers that never answer, the first after a datagram that does not
decode: `OutOfOptions` once both used up their attempts. -/
theorem connect_outOfOptions_two_records :
    (∀ r ∈ [{ RecordInput.silent ⟨[10, 0, 0, 9], 7000⟩ with
        attempt := fun k => if k = 1 then ⟨some [1, 2, 3], fun _ => .ok ⟨[9]⟩, .ok ()⟩
          else ⟨none, fun _ => .ok ⟨[9]⟩, .ok ()⟩ },
        RecordInput.silent ⟨[10, 0, 0, 8], 7000⟩], r.Exhausts) ∧
    (connect (.ok [{ RecordInput.silent ⟨[10, 0, 0, 9], 7000⟩ with
        attempt := fun k => if k = 1 then ⟨some [1, 2, 3], fun _ => .ok ⟨[9]⟩, .ok ()⟩
          else ⟨none, fun _ => .ok ⟨[9]⟩, .ok ()⟩ },
        RecordInput.silent ⟨[10, 0, 0, 8], 7000⟩])).2 = .error .outOfOptions :=
  have h : ∀ r ∈ [{ RecordInput.silent ⟨[10, 0, 0, 9], 7000⟩ with
        attempt := fun k => if k = 1 then ⟨some [1, 2, 3], fun _ => .ok ⟨[9]⟩, .ok ()⟩
          else ⟨none, fun _ => .ok ⟨[9]⟩, .ok ()⟩ },
        RecordInput.silent ⟨[10, 0, 0, 8], 7000⟩], r.Exhausts := by
    intro r hr
    rcases List.mem_cons.1 hr with rfl | hr
    · refine ⟨⟨_, _, rfl⟩, rfl, fun k _ _ => ?_⟩
      by_cases hk : k = 1
      · subst hk
        exact .inr ⟨[1, 2, 3], _, rfl, rfl⟩
      · simp [AttemptInput.Fails, hk]
    · rw [List.mem_singleton.1 hr]
      exact ⟨⟨_, _, rfl⟩, rfl, fun _ _ _ => .inl ⟨rfl, rfl⟩⟩
  ⟨h, connect_outOfOptions h⟩

/-- An endpoint is made only from a record whose response loop had a datagram
that decodes and that Noise accepted. -/
theorem connectRecords_ok {rs : List RecordInput} {identity : Identity} {route : RoutingKey}
    {addr : SocketAddr} (h : (connectRecords rs).2 = .ok (identity, route, addr)) :
    ∃ r ∈ rs, r.addr = addr ∧ r.intoTransport = .ok route ∧ ∃ k buf p, 1 ≤ k ∧ k ≤ 4 ∧
      (r.attempt k).recv = some buf ∧ EncryptedPacket.decode buf = .ok p ∧
      (r.attempt k).recvResponse p = .ok identity := by
  induction rs with
  | nil => cases h
  | cons r rs ih =>
    unfold connectRecords at h
    split at h
    · cases h
    · cases h
    · split at h
      · cases h
      · rename_i ha
        cases h
        exact ⟨r, List.mem_cons_self _ _, rfl, awaitResponse_ok (by rw [ha])⟩
      · obtain ⟨r', hr', hh⟩ := ih h
        exact ⟨r', List.mem_cons_of_mem _ hr', hh⟩

/-- The record loop fails at the first record that did not use up its
attempts, with what a collaborator answered while it was tried, or with
`OutOfOptions` once every record did. -/
theorem connectRecords_error {rs : List RecordInput} {e : Error}
    (h : (connectRecords rs).2 = .error e) :
    e = .outOfOptions ∧ (∀ r ∈ rs, r.Exhausts) ∨
      ∃ pre r post, rs = pre ++ r :: post ∧ (∀ r' ∈ pre, r'.Exhausts) ∧
        (r.initiate = .error e ∨ (∃ k, r.bind = .error k ∧ e = .io k) ∨
          (awaitResponse r r.handshake 1).2 = .error e) := by
  induction rs with
  | nil => cases h; exact .inl ⟨rfl, fun _ h => absurd h (List.not_mem_nil _)⟩
  | cons r rs ih =>
    have hnil : ∀ r' ∈ ([] : List RecordInput), r'.Exhausts := fun _ h => absurd h (List.not_mem_nil _)
    unfold connectRecords at h
    split at h
    · cases h
      exact .inr ⟨[], r, rs, rfl, hnil, .inl ‹_›⟩
    · cases h
      exact .inr ⟨[], r, rs, rfl, hnil, .inr (.inl ⟨_, ‹_›, rfl⟩)⟩
    · rename_i noise pkt hi hb
      have hs : r.handshake = pkt.encode := by rw [RecordInput.handshake, hi]
      split at h
      · cases h
        rename_i ha
        exact .inr ⟨[], r, rs, rfl, hnil, .inr (.inr (by rw [hs, ha]))⟩
      · cases h
      · rename_i acts ha
        have hr : r.Exhausts :=
          ⟨⟨noise, pkt, hi⟩, hb, (awaitResponse_none_iff r pkt.encode 1).1 (by rw [ha])⟩
        rcases ih h with ⟨rfl, hall⟩ | ⟨pre, r', post, rfl, hpre, hf⟩
        · exact .inl ⟨rfl, List.forall_mem_cons.2 ⟨hr, hall⟩⟩
        · exact .inr ⟨r :: pre, r', post, rfl, List.forall_mem_cons.2 ⟨hr, hpre⟩, hf⟩

/-- Every error of the bootstrap is the DNS lookup's, `OutOfOptions` after each
record used up its attempts, or what a collaborator answered while a record was
tried, every record before it having used up its attempts: `noise::initiate`,
`bind`, `send_to` at one of the four attempts, or `into_transport`. -/
theorem connect_error {lookup : Except Error (List RecordInput)} {e : Error}
    (h : (connect lookup).2 = .error e) :
    lookup = .error e ∨ ∃ rs, lookup = .ok rs ∧
      (e = .outOfOptions ∧ (∀ r ∈ rs, r.Exhausts) ∨
        ∃ pre r post, rs = pre ++ r :: post ∧ (∀ r' ∈ pre, r'.Exhausts) ∧
          (r.initiate = .error e ∨ (∃ k, r.bind = .error k ∧ e = .io k) ∨
            (∃ k, 1 ≤ k ∧ k ≤ 4 ∧ (r.attempt k).sendTo = .error e) ∨ r.intoTransport = .error e)) := by
  cases lookup with
  | error e' => cases h; exact .inl rfl
  | ok rs =>
    refine .inr ⟨rs, rfl, ?_⟩
    rcases connectRecords_error h with hx | ⟨pre, r, post, hrs, hpre, hf⟩
    · exact .inl hx
    · exact .inr ⟨pre, r, post, hrs, hpre, hf.imp_right (Or.imp_right awaitResponse_error)⟩

/-- A failed DNS lookup ends the bootstrap with its error; a `send_to` that
fails at the second attempt of the second record, after the first record used
up its attempts, ends it with the socket's error. -/
theorem connect_error_lookup_and_send :
    (connect (.error (.other "dns"))).2 = .error (.other "dns") ∧
    ((.error (.other "dns") : Except Error (List RecordInput)) = .error (.other "dns") ∨
      ∃ rs, (.error (.other "dns") : Except Error (List RecordInput)) = .ok rs ∧
      ((.other "dns" : Error) = .outOfOptions ∧ (∀ r ∈ rs, r.Exhausts) ∨
        ∃ pre r post, rs = pre ++ r :: post ∧ (∀ r' ∈ pre, r'.Exhausts) ∧
          (r.initiate = .error (.other "dns") ∨ (∃ k, r.bind = .error k ∧ (.other "dns" : Error) = .io k) ∨
            (∃ k, 1 ≤ k ∧ k ≤ 4 ∧ (r.attempt k).sendTo = .error (.other "dns")) ∨
            r.intoTransport = .error (.other "dns")))) ∧
    (connect (.ok [RecordInput.silent ⟨[10, 0, 0, 9], 7000⟩, { RecordInput.silent ⟨[10, 0, 0, 8], 7000⟩ with
        attempt := fun k => ⟨none, fun _ => .ok ⟨[9]⟩, if k = 1 then .ok () else .error (.io (.other 101))⟩ }])).2 =
      .error (.io (.other 101)) ∧
    ((.ok [RecordInput.silent ⟨[10, 0, 0, 9], 7000⟩, { RecordInput.silent ⟨[10, 0, 0, 8], 7000⟩ with
        attempt := fun k => ⟨none, fun _ => .ok ⟨[9]⟩, if k = 1 then .ok () else .error (.io (.other 101))⟩ }] :
        Except Error (List RecordInput)) = .error (.io (.other 101)) ∨
      ∃ rs, (.ok [RecordInput.silent ⟨[10, 0, 0, 9], 7000⟩, { RecordInput.silent ⟨[10, 0, 0, 8], 7000⟩ with
        attempt := fun k => ⟨none, fun _ => .ok ⟨[9]⟩, if k = 1 then .ok () else .error (.io (.other 101))⟩ }] :
        Except Error (List RecordInput)) = .ok rs ∧
      ((.io (.other 101) : Error) = .outOfOptions ∧ (∀ r ∈ rs, r.Exhausts) ∨
        ∃ pre r post, rs = pre ++ r :: post ∧ (∀ r' ∈ pre, r'.Exhausts) ∧
          (r.initiate = .error (.io (.other 101)) ∨
            (∃ k, r.bind = .error k ∧ (.io (.other 101) : Error) = .io k) ∨
            (∃ k, 1 ≤ k ∧ k ≤ 4 ∧ (r.attempt k).sendTo = .error (.io (.other 101))) ∨
            r.intoTransport = .error (.io (.other 101))))) :=
  have hd : (connect (.error (.other "dns"))).2 = .error (.other "dns") := rfl
  have hs : (connect (.ok [RecordInput.silent ⟨[10, 0, 0, 9], 7000⟩, { RecordInput.silent ⟨[10, 0, 0, 8], 7000⟩ with
      attempt := fun k => ⟨none, fun _ => .ok ⟨[9]⟩, if k = 1 then .ok () else .error (.io (.other 101))⟩ }])).2 =
      .error (.io (.other 101)) := by
    simp only [connect, connectRecords]
    iterate 5 unfold awaitResponse
    rfl
  ⟨hd, connect_error hd, hs, connect_error hs⟩

/-- The whole bootstrap waits at most six seconds per record. -/
theorem connect_delay_le (rs : List RecordInput) :
    ((connect (.ok rs)).1.map Action.delay).sum ≤ 6000 * rs.length := by
  show ((connectRecords rs).1.map Action.delay).sum ≤ _
  induction rs with
  | nil => simp [connectRecords]
  | cons r rs ih =>
    unfold connectRecords
    split
    · simp
    · simp
    · rename_i noise pkt hi hb
      have hr := (awaitResponse_delay_le r pkt.encode).1
      split <;> rename_i ha <;> rw [ha] at hr <;>
        simp only [List.map_append, List.sum_append, List.length_cons] at hr ⊢ <;> omega

/-- The bootstrap's actions are, record after record, among those of each
record's backoff schedule, in order: at most four handshakes per record, with
waits among 400, 800, 1600 and 3200 ms. -/
theorem connect_sublist (rs : List RecordInput) :
    (connect (.ok rs)).1.Sublist (rs.flatMap fun r => schedule r.addr r.handshake 1) := by
  show (connectRecords rs).1.Sublist _
  induction rs with
  | nil => exact List.nil_sublist _
  | cons r rs ih =>
    rw [List.flatMap_cons]
    unfold connectRecords
    split
    · exact List.nil_sublist _
    · exact List.nil_sublist _
    · rename_i noise pkt hi hb
      have hs : r.handshake = pkt.encode := by rw [RecordInput.handshake, hi]
      have hsub := awaitResponse_sublist r pkt.encode 1
      rw [hs]
      split <;> rename_i ha <;> rw [ha] at hsub
      · exact hsub.trans (List.sublist_append_left _ _)
      · exact hsub.trans (List.sublist_append_left _ _)
      · rcases hc : connectRecords rs with ⟨acts', res⟩
        rw [hc] at ih
        exact hsub.append ih

/-- What `EndpointBuilder::connect` returns: `Endpoint::new` with the
transport's route as the broker route, the broker's identity and the record's
address, between calls. -/
def endpoint (lookup : Except Error (List RecordInput)) : Except Error Sys :=
  (connect lookup).2.map fun (identity, route, addr) => Sys.init route identity addr

/-- The endpoint the bootstrap makes is an initial state of the transition
system, and its broker channel is established on the address of a record whose
response Noise accepted with the broker channel's identity. -/
theorem endpoint_ok {cx : Codecs} {rs : List RecordInput} {σ : Sys} (h : endpoint (.ok rs) = .ok σ) :
    Reachable cx σ ∧ ∃ r ∈ rs, r.intoTransport = .ok σ.ep.brokerRoute ∧
      ∃ ch, σ.ep.channels.lookup σ.ep.brokerRoute = some ch ∧ ch.addrs = .established r.addr ∅ ∧
        ∃ k buf p, 1 ≤ k ∧ k ≤ 4 ∧ (r.attempt k).recv = some buf ∧
          EncryptedPacket.decode buf = .ok p ∧ (r.attempt k).recvResponse p = .ok ch.identity := by
  obtain ⟨⟨identity, route, addr⟩, hc, rfl⟩ := Except.map_eq_ok.1 h
  obtain ⟨r, hr, rfl, ht, hk⟩ := connectRecords_ok hc
  exact ⟨.init _ _ _, r, hr, ht, _, AList.lookup_insert _, rfl, hk⟩

/-- A first broker that never answers, then a second whose first datagram does
not decode, whose second attempt finds nothing to read and sends the handshake
again, and whose third datagram Noise accepts: the endpoint starts on the
second broker's channel. -/
theorem endpoint_ok_second_record :
    endpoint (.ok [RecordInput.silent ⟨[10, 0, 0, 9], 7000⟩, { RecordInput.silent ⟨[10, 0, 0, 8], 7000⟩ with
        attempt := fun k =>
          ⟨if k = 1 then some [1, 2, 3] else if k = 2 then none
            else some ([8, 0xff, 0xff, 0xff] ++ List.replicate 16 0), fun _ => .ok ⟨[9]⟩, .ok ()⟩ }]) =
      .ok (Sys.init 5 ⟨[9]⟩ ⟨[10, 0, 0, 8], 7000⟩) ∧
    Reachable Codecs.sample (Sys.init 5 ⟨[9]⟩ ⟨[10, 0, 0, 8], 7000⟩) ∧
    ∃ r ∈ [RecordInput.silent ⟨[10, 0, 0, 9], 7000⟩, { RecordInput.silent ⟨[10, 0, 0, 8], 7000⟩ with
        attempt := fun k =>
          ⟨if k = 1 then some [1, 2, 3] else if k = 2 then none
            else some ([8, 0xff, 0xff, 0xff] ++ List.replicate 16 0), fun _ => .ok ⟨[9]⟩, .ok ()⟩ }],
      r.intoTransport = .ok (Sys.init 5 ⟨[9]⟩ ⟨[10, 0, 0, 8], 7000⟩).ep.brokerRoute ∧
      ∃ ch, (Sys.init 5 ⟨[9]⟩ ⟨[10, 0, 0, 8], 7000⟩).ep.channels.lookup
          (Sys.init 5 ⟨[9]⟩ ⟨[10, 0, 0, 8], 7000⟩).ep.brokerRoute = some ch ∧
        ch.addrs = .established r.addr ∅ ∧
        ∃ k buf p, 1 ≤ k ∧ k ≤ 4 ∧ (r.attempt k).recv = some buf ∧
          EncryptedPacket.decode buf = .ok p ∧ (r.attempt k).recvResponse p = .ok ch.identity :=
  have h : endpoint (.ok [RecordInput.silent ⟨[10, 0, 0, 9], 7000⟩, { RecordInput.silent ⟨[10, 0, 0, 8], 7000⟩ with
        attempt := fun k =>
          ⟨if k = 1 then some [1, 2, 3] else if k = 2 then none
            else some ([8, 0xff, 0xff, 0xff] ++ List.replicate 16 0), fun _ => .ok ⟨[9]⟩, .ok ()⟩ }]) =
      .ok (Sys.init 5 ⟨[9]⟩ ⟨[10, 0, 0, 8], 7000⟩) := by
    simp only [endpoint, connect, connectRecords]
    iterate 5 unfold awaitResponse
    rfl
  ⟨h, endpoint_ok h⟩

end EndpointBuilder

end Carrier
