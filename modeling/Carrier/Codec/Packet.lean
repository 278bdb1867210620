import Carrier.Codec.Bytes

/-!
# The outer datagram

`EncryptedPacket::encode` and `EncryptedPacket::decode`: a 20-byte header,
version `0x08`, three reserved `0xFF` bytes, the routing key and the counter as
big-endian `u64`s, then the ciphertext. The lowest bit of the routing key on
the wire is the routing direction, so `decode` clears it from the key it
returns, and `encode` overwrites it with the direction.

`decode_eq_ok` says exactly which byte strings decode and to what. The round
trips in both directions are read off it, with the byte facts of
`directionOf_lastByte` and `encode_routeOf` for the direction bit.
-/

namespace Carrier

/-- `packet::RoutingDirection`. -/
inductive RoutingDirection
  | initiator2Responder
  | responder2Initiator
  deriving DecidableEq, Repr

/-- `packet::EncryptedPacket`. -/
structure EncryptedPacket where
  version : UInt8
  route : RoutingKey
  direction : RoutingDirection
  counter : UInt64
  payload : List UInt8
  deriving DecidableEq, Repr

namespace EncryptedPacket

/-- The direction a wire routing key's last byte carries in its lowest bit. The
`unreachable!()` arm of the source's `match` cannot be taken: `b & 1` is 0 or 1. -/
def directionOf (b : UInt8) : RoutingDirection :=
  if b &&& 0b00000001 = 0 then .initiator2Responder else .responder2Initiator

/-- `EncryptedPacket::decode`. All four header fields are read before the
version and the reserved bytes are checked. -/
def decode (inbuf : List UInt8) : Except Error EncryptedPacket := do
  let (version, inbuf) ← readU8 inbuf
  let (reserved, inbuf) ← readExact 3 inbuf
  let (route, inbuf) ← readExact 8 inbuf
  let direction := directionOf (route.getD 7 0)
  let route := route.set 7 (route.getD 7 0 &&& 0b11111110)
  let (route, _) ← readU64 route
  let (counter, inbuf) ← readU64 inbuf
  if version != 0x08 || reserved != [0xff, 0xff, 0xff] then
    throw (.invalidVersion version)
  pure { version, route, direction, counter, payload := inbuf }

/-- `EncryptedPacket::encode`. -/
def encode (p : EncryptedPacket) : List UInt8 :=
  let w := [p.version] ++ [0xff, 0xff, 0xff]
  let route := u64Bytes p.route
  let route := match p.direction with
    | .initiator2Responder => route.set 7 (route.getD 7 0 &&& 0b11111110)
    | .responder2Initiator => route.set 7 (route.getD 7 0 ||| 0b00000001)
  w ++ route ++ u64Bytes p.counter ++ p.payload

/-! ### The direction bit -/

private theorem UInt8.or_toNat (a b : UInt8) : (a ||| b).toNat = a.toNat ||| b.toNat :=
  BitVec.toNat_or ..

theorem clear_toNat (b : UInt8) : (b &&& 0b11111110).toNat = b.toNat - b.toNat % 2 := by
  rw [UInt8.and_toNat]
  set_option maxRecDepth 4000 in
  exact byte_cases (P := fun n => n &&& 254 = n - n % 2) (by decide) b

theorem set_toNat (b : UInt8) : (b ||| 0b00000001).toNat = b.toNat - b.toNat % 2 + 1 := by
  rw [UInt8.or_toNat]
  set_option maxRecDepth 4000 in
  exact byte_cases (P := fun n => n ||| 1 = n - n % 2 + 1) (by decide) b

theorem bit_toNat (b : UInt8) : (b &&& 0b00000001).toNat = b.toNat % 2 := by
  rw [UInt8.and_toNat]
  exact Nat.and_one_is_mod _

theorem directionOf_clear (b : UInt8) : directionOf (b &&& 0b11111110) = .initiator2Responder := by
  have h := clear_toNat b
  simp only [directionOf, ite_eq_left_iff]
  intro hne
  exact absurd (UInt8.toNat.inj (by rw [bit_toNat, h, UInt8.toNat_zero]; omega)) hne

theorem directionOf_set (b : UInt8) : directionOf (b ||| 0b00000001) = .responder2Initiator := by
  have h := set_toNat b
  simp only [directionOf, ite_eq_right_iff]
  intro heq
  have := congrArg UInt8.toNat heq
  rw [bit_toNat, h] at this
  exact absurd this (by simp; omega)

/-- Clearing the direction bit of a byte whose bit says `Initiator2Responder`
gives it back. -/
theorem clear_of_directionOf {b : UInt8} (h : directionOf b = .initiator2Responder) :
    b &&& 0b11111110 = b := by
  have hb : b.toNat % 2 = 0 := by
    by_contra hne
    have : b &&& 0b00000001 ≠ 0 := fun h0 => by
      have := congrArg UInt8.toNat h0
      rw [bit_toNat] at this
      exact hne this
    simp [directionOf, this] at h
  exact UInt8.toNat.inj (by rw [clear_toNat]; omega)

/-- Setting the direction bit of a byte whose bit says `Responder2Initiator`
gives it back. -/
theorem set_clear_of_directionOf {b : UInt8} (h : directionOf b = .responder2Initiator) :
    (b &&& 0b11111110) ||| 0b00000001 = b := by
  have hb : b.toNat % 2 = 1 := by
    by_contra hne
    have : b &&& 0b00000001 = 0 := UInt8.toNat.inj (by rw [bit_toNat]; simp; omega)
    simp [directionOf, this] at h
  have hc := clear_toNat b
  exact UInt8.toNat.inj (by rw [set_toNat, hc]; omega)

/-- A 64-bit key with its lowest bit cleared, as a number. -/
theorem and_not_one_toNat (v : UInt64) : (v &&& ~~~1).toNat = v.toNat - v.toNat % 2 := by
  rw [UInt64.and_toNat, show (~~~1 : UInt64).toNat = 2 ^ 64 - 2 from rfl]
  have hv : v.toNat < 2 ^ 64 := v.toNat_lt_size
  have heven : v.toNat - v.toNat % 2 = 2 * (v.toNat / 2) := by omega
  rw [heven]
  apply Nat.eq_of_testBit_eq
  intro i
  cases i with
  | zero => simp [Nat.testBit_zero]
  | succ j =>
    rw [Nat.testBit_and, Nat.testBit_succ, Nat.testBit_succ (2 ^ 64 - 2), Nat.testBit_succ,
      show (2 ^ 64 - 2) / 2 = 2 ^ 63 - 1 from rfl, Nat.testBit_two_pow_sub_one,
      Nat.mul_div_cancel_left _ (by decide), Nat.testBit_div_two]
    by_cases hj : j < 63
    · simp [hj]
    · simp only [hj, decide_False, Bool.and_false]
      exact (Nat.testBit_lt_two_pow (lt_of_lt_of_le hv
        (Nat.pow_le_pow_right (by decide) (by omega)))).symm

/-! ### Which byte strings decode -/

/-- The key `decode` returns for the eight route bytes it read. -/
def routeOf (route : List UInt8) : RoutingKey :=
  UInt64.ofNat (beValue (route.set 7 (route.getD 7 0 &&& 0b11111110)))

theorem readU64_of_length {bs : List UInt8} (h : bs.length = 8) :
    readU64 bs = .ok (UInt64.ofNat (beValue bs), []) := by
  have := readExact_append bs []
  rw [List.append_nil, h] at this
  simp [readU64, this]

/-- The byte strings `decode` accepts are the 20-byte headers with version 8
and reserved bytes `FF FF FF`, followed by anything; the counter and payload are
the bytes after the route, and the route and direction come from its bytes. -/
theorem decode_eq_ok {b : List UInt8} {q : EncryptedPacket} :
    decode b = .ok q ↔ ∃ route counter payload, route.length = 8 ∧
      b = [0x08, 0xff, 0xff, 0xff] ++ route ++ u64Bytes counter ++ payload ∧
      q = ⟨0x08, routeOf route, directionOf (route.getD 7 0), counter, payload⟩ := by
  constructor
  · intro h
    simp only [decode, Except.bind_eq_ok] at h
    obtain ⟨⟨version, r1⟩, h1, ⟨reserved, r2⟩, h2, ⟨route, r3⟩, h3, ⟨rv, r4⟩, h4,
      ⟨counter, payload⟩, h5, h⟩ := h
    dsimp only at h2 h3 h5
    obtain ⟨hlen, rfl⟩ := readExact_eq_ok.1 h3
    have hset : (route.set 7 (route.getD 7 0 &&& 0b11111110)).length = 8 := by
      rw [List.length_set, hlen]
    rw [readU64_of_length hset] at h4
    by_cases hc : (version != 0x08 || reserved != [0xff, 0xff, 0xff]) = true
    · rw [if_pos hc] at h
      exact absurd h (fun h' => by cases h')
    · rw [if_neg hc] at h
      simp only [Bool.or_eq_true, bne_iff_ne, ne_eq, not_or, not_not] at hc
      obtain ⟨rfl, rfl⟩ := hc
      obtain ⟨-, rfl⟩ := readExact_eq_ok.1 h2
      simp only [Except.ok.injEq, Prod.mk.injEq, Except.pure_eq, Except.ok_bind] at h4 h
      obtain ⟨rfl, -⟩ := h4
      refine ⟨route, counter, payload, hlen, ?_, h ▸ rfl⟩
      rw [readU8_eq_ok.1 h1, readU64_eq_ok.1 h5]
      simp
  · rintro ⟨route, counter, payload, hlen, rfl, rfl⟩
    have hset : (route.set 7 (route.getD 7 0 &&& 0b11111110)).length = 8 := by
      rw [List.length_set, hlen]
    have h2 : readExact 3 (0xff :: 0xff :: 0xff :: (route ++ (u64Bytes counter ++ payload))) =
        .ok ([0xff, 0xff, 0xff], route ++ (u64Bytes counter ++ payload)) :=
      readExact_append [0xff, 0xff, 0xff] _
    have h3 := readExact_append route (u64Bytes counter ++ payload)
    rw [hlen] at h3
    have h5 := readU64_eq_ok.2 (rfl : u64Bytes counter ++ payload = _)
    simp only [List.append_assoc, List.cons_append, List.nil_append]
    simp only [decode, readU8, Except.ok_bind, h2, h3, readU64_of_length hset, h5]
    simp [routeOf]

/-! ### Round trips -/

theorem set_last {α : Type} {l : List α} {n : Nat} (h : l.length = n) (a x : α) :
    (l ++ [a]).set n x = l ++ [x] := by
  subst h; simp

theorem getD_last {α : Type} {l : List α} {n : Nat} (h : l.length = n) (a d : α) :
    (l ++ [a]).getD n d = a := by
  subst h; simp

theorem u64Bytes_eq (v : UInt64) :
    u64Bytes v = beBytes 7 (v.toNat / 256) ++ [UInt8.ofNat v.toNat] := rfl

/-- The last route byte `encode` writes: the key's last byte with the direction
in its lowest bit. -/
def lastByte (v : UInt64) : RoutingDirection → UInt8
  | .initiator2Responder => UInt8.ofNat v.toNat &&& 0b11111110
  | .responder2Initiator => UInt8.ofNat v.toNat ||| 0b00000001

theorem directionOf_lastByte (v : UInt64) (d : RoutingDirection) :
    directionOf (lastByte v d) = d := by
  cases d
  · exact directionOf_clear _
  · exact directionOf_set _

theorem lastByte_clear (v : UInt64) (d : RoutingDirection) :
    lastByte v d &&& 0b11111110 = UInt8.ofNat v.toNat &&& 0b11111110 := by
  cases d
  · exact clear_of_directionOf (directionOf_clear _)
  · apply UInt8.toNat.inj
    rw [clear_toNat, clear_toNat, lastByte, set_toNat]
    omega

/-- `encode` writes the key's first seven bytes and then `lastByte`. -/
theorem encode_eq (p : EncryptedPacket) :
    p.encode = [p.version, 0xff, 0xff, 0xff] ++
      (beBytes 7 (p.route.toNat / 256) ++ [lastByte p.route p.direction]) ++
      u64Bytes p.counter ++ p.payload := by
  obtain ⟨version, route, direction, counter, payload⟩ := p
  have h7 := length_beBytes 7 (route.toNat / 256)
  cases direction <;>
    simp only [encode, u64Bytes_eq route, getD_last h7, set_last h7] <;> rfl

/-- The key `decode` reads from the route bytes `encode` wrote is the original
key with its lowest bit cleared. -/
theorem routeOf_encoded (v : UInt64) (d : RoutingDirection) :
    routeOf (beBytes 7 (v.toNat / 256) ++ [lastByte v d]) = v &&& ~~~1 := by
  have h7 : (beBytes 7 (v.toNat / 256)).length = 7 := length_beBytes ..
  have hv : v.toNat < 18446744073709551616 := v.toNat_lt_size
  have hlast := clear_toNat (UInt8.ofNat v.toNat)
  rw [UInt8.toNat_ofNat'] at hlast
  have hsum : v.toNat / 256 % 72057594037927936 * 256 + (v.toNat % 256 - v.toNat % 256 % 2) =
      v.toNat - v.toNat % 2 := by omega
  apply UInt64.toNat.inj
  rw [and_not_one_toNat, routeOf, getD_last h7, set_last h7, beValue_append_singleton,
    beValue_beBytes, lastByte_clear, hlast, show (256 : Nat) ^ 7 = 72057594037927936 from rfl,
    hsum, UInt64.toNat_ofNat_of_lt (lt_of_le_of_lt (Nat.sub_le _ _) hv)]

/-- Writing back the key and direction `decode` read from eight route bytes
gives those bytes. -/
theorem encode_routeOf {init : List UInt8} (h7 : init.length = 7) (l : UInt8) :
    beBytes 7 ((routeOf (init ++ [l])).toNat / 256) ++
      [lastByte (routeOf (init ++ [l])) (directionOf l)] = init ++ [l] := by
  have hval : (routeOf (init ++ [l])).toNat = beValue init * 256 + (l &&& 0b11111110).toNat := by
    have hb := beValue_lt init
    have hc := (l &&& 0b11111110).toNat_lt_size
    rw [h7, show (256 : Nat) ^ 7 = 72057594037927936 from rfl] at hb
    change _ < 256 at hc
    rw [routeOf, getD_last h7, set_last h7, beValue_append_singleton,
      UInt64.toNat_ofNat_of_lt (by unfold UInt64.size; omega)]
  have hdiv : (routeOf (init ++ [l])).toNat / 256 = beValue init := by
    have hc := (l &&& 0b11111110).toNat_lt_size
    change _ < 256 at hc
    omega
  have hbyte : UInt8.ofNat (routeOf (init ++ [l])).toNat = l &&& 0b11111110 :=
    UInt8.toNat.inj (by rw [UInt8.toNat_ofNat', hval]; have := (l &&& 0b11111110).toNat_lt_size; change _ < 256 at this; omega)
  rw [hdiv, ← h7, beBytes_beValue]
  cases hd : directionOf l
  · rw [lastByte, hbyte, clear_of_directionOf (by rw [directionOf_clear])]
    exact congrArg (fun x => init ++ [x]) (clear_of_directionOf hd)
  · rw [lastByte, hbyte, set_clear_of_directionOf hd]

/-- The key `decode` reads from eight route bytes is even: their lowest bit is
the direction, and `decode` clears it from the key. -/
theorem routeOf_even {route : List UInt8} (h : route.length = 8) : (routeOf route).toNat % 2 = 0 := by
  obtain ⟨init, l, rfl⟩ : ∃ init l, route = init ++ [l] :=
    ⟨_, _, (List.dropLast_append_getLast (List.ne_nil_of_length_pos (by omega))).symm⟩
  have h7 : init.length = 7 := by simpa using h
  have hclear := routeOf_encoded (routeOf (init ++ [l])) (directionOf l)
  rw [encode_routeOf h7] at hclear
  have hnat := congrArg UInt64.toNat hclear
  rw [and_not_one_toNat] at hnat
  omega

theorem decode_route_even {b : List UInt8} {q : EncryptedPacket} (h : decode b = .ok q) :
    q.route.toNat % 2 = 0 := by
  obtain ⟨route, -, -, hlen, -, rfl⟩ := decode_eq_ok.1 h
  exact routeOf_even hlen

/-- The outer datagram format: `decode` inverts `encode` on packets of version
8, up to the direction bit, which `decode` clears from the route; `encode` of a
packet of another version does not decode; a byte string decodes exactly when it
holds a 20-byte header with version 8 and reserved bytes `FF FF FF`, and then
`encode` gives it back byte for byte. -/
theorem decode_encode_packet :
    (∀ p : EncryptedPacket, p.version = 0x08 →
      decode p.encode = .ok { p with route := p.route &&& ~~~1 }) ∧
    (∀ p : EncryptedPacket, p.version ≠ 0x08 → ∃ e, decode p.encode = .error e) ∧
    (∀ b : List UInt8, (∃ q, decode b = .ok q) ↔
      20 ≤ b.length ∧ b.take 4 = [0x08, 0xff, 0xff, 0xff]) ∧
    (∀ b q, decode b = .ok q → q.encode = b) := by
  refine ⟨fun p hv => ?_, fun p hv => ?_, fun b => ⟨?_, ?_⟩, fun b q h => ?_⟩
  · have h7 := length_beBytes 7 (p.route.toNat / 256)
    refine decode_eq_ok.2 ⟨beBytes 7 (p.route.toNat / 256) ++ [lastByte p.route p.direction],
      p.counter, p.payload, by simp, by rw [encode_eq, hv], ?_⟩
    rw [getD_last h7, directionOf_lastByte, routeOf_encoded, ← hv]
  · cases h : decode p.encode with
    | error e => exact ⟨e, rfl⟩
    | ok q =>
      obtain ⟨route, counter, payload, -, hb, -⟩ := decode_eq_ok.1 h
      rw [encode_eq] at hb
      have := congrArg List.head? hb
      simp only [List.cons_append, List.append_assoc, List.head?_cons, Option.some.injEq] at this
      exact absurd this hv
  · rintro ⟨q, h⟩
    obtain ⟨route, counter, payload, hlen, rfl, -⟩ := decode_eq_ok.1 h
    simp [hlen]
    omega
  · rintro ⟨hlen, hhead⟩
    have h8 : ((b.drop 12).take 8).length = 8 := by simp; omega
    have hsplit : b = [0x08, 0xff, 0xff, 0xff] ++ (b.drop 4).take 8 ++
        u64Bytes (UInt64.ofNat (beValue ((b.drop 12).take 8))) ++ b.drop 20 := by
      have e1 : List.drop 12 b = List.drop 8 (List.drop 4 b) := by rw [List.drop_drop]
      have e2 : List.drop 20 b = List.drop 8 (List.drop 12 b) := by rw [List.drop_drop]
      rw [u64Bytes_ofNat_beValue h8, ← hhead, e2, e1]
      simp only [List.append_assoc, List.take_append_drop]
    exact ⟨_, decode_eq_ok.2 ⟨_, _, _, by simp; omega, hsplit, rfl⟩⟩
  · obtain ⟨route, counter, payload, hlen, rfl, rfl⟩ := decode_eq_ok.1 h
    obtain ⟨init, l, rfl⟩ : ∃ init l, route = init ++ [l] :=
      ⟨route.dropLast, route.getLast (by rintro rfl; simp at hlen), (List.dropLast_append_getLast _).symm⟩
    have h7 : init.length = 7 := by simpa using hlen
    rw [encode_eq]
    simp only [getD_last h7, encode_routeOf h7]

end EncryptedPacket

end Carrier
