import Carrier.Codec.Bytes

/-!
# Inner frames

`packet::Frame` and its codec: `Frame::len`, `Frame::encode` into a `Vec<u8>`
and `Frame::decode` from a `&[u8]`. A decrypted payload is a sequence of frames,
each introduced by a one-byte tag; the tag `0x00` is padding.

Every write into a `Vec<u8>` succeeds, so `Frame::encode` returns `Ok(len)`
unless one of its `assert!`s fails; the model returns the length and the
extended vector, or the panic. The decode loop is `decodeLoop`, one pass of it
per tag; a pass consumes the tag and the frame's body, and the loop stops with
the frames read so far when the slice is empty at a frame boundary.
-/

namespace Carrier

/-- `packet::Frame`. -/
inductive Frame
  | header (stream : UInt32) (payload : List UInt8)
  | stream (stream : UInt32) (order : UInt64) (payload : List UInt8)
  | ack (delay : UInt64) (acked : List UInt64)
  | ping
  | disconnect
  | close (stream : UInt32) (order : UInt64)
  | config (timeout : Option UInt16) (sleeping : Bool)
  deriving DecidableEq, Repr

/-- `Frame::len`: the number of bytes `Frame::encode` writes. -/
def Frame.len : Frame → Nat
  | .header _ payload => 1 + 4 + 2 + payload.length
  | .stream _ _ payload => 1 + 4 + 8 + 2 + payload.length
  | .ack _ acked => 1 + 2 + 2 + 8 * acked.length
  | .ping => 1
  | .disconnect => 1
  | .close _ _ => 1 + 4 + 8
  | .config timeout _ => 1 + 1 + 2 + if timeout.isSome then 2 else 0

/-- `Frame::order`: 1 for a header, the stored order for stream and close
frames; the other frames panic. -/
def Frame.order : Frame → Except Panic UInt64
  | .header .. => .ok 1
  | .stream _ order _ => .ok order
  | .close _ order => .ok order
  | _ => .error ⟨"trying to order unordered frame"⟩

/-- The flags byte and the data length of a config frame. -/
def Frame.configHeader (timeout : Option UInt16) (sleeping : Bool) : UInt8 × UInt16 := Id.run do
  let mut flags : UInt8 := 0x00
  let mut datalen : UInt16 := 0
  if timeout.isSome then
    flags := flags ||| 0b10000000
    datalen := datalen + 2
  if sleeping then
    flags := flags ||| 0b01000000
  return (flags, datalen)

/-- `Frame::encode` into the vector `w`: the length it returns in `Ok` and the
vector after the writes. -/
def Frame.encode (f : Frame) (w : List UInt8) : Except Panic (Nat × List UInt8) := do
  let len := f.len
  let w ← match f with
    | .header streamId payload => do
      assert (payload.length + 12 < 65535)
        "assertion failed: payload.len() + 12 < u16::max_value() as usize"
      pure (w ++ [0x04] ++ u32Bytes streamId ++ u16Bytes payload.length.toUInt16 ++ payload)
    | .stream streamId order payload => do
      assert (payload.length + 12 < 65535)
        "assertion failed: payload.len() + 12 < u16::max_value() as usize"
      pure (w ++ [0x05] ++ u32Bytes streamId ++ u64Bytes order ++
        u16Bytes payload.length.toUInt16 ++ payload)
    | .ack delay acked => do
      assert (acked.length < 65535 / 8)
        "assertion failed: acked.len() < u16::max_value() as usize / 8"
      pure (w ++ [0x01] ++ u16Bytes delay.toUInt16 ++ u16Bytes acked.length.toUInt16 ++
        (acked.mergeSort).flatMap u64Bytes)
    | .ping => pure (w ++ [0x02])
    | .disconnect => pure (w ++ [0x03])
    | .close streamId order => pure (w ++ [0x06] ++ u32Bytes streamId ++ u64Bytes order)
    | .config timeout sleeping =>
      let (flags, datalen) := Frame.configHeader timeout sleeping
      pure (w ++ [0x07, flags] ++ u16Bytes datalen ++
        match timeout with
        | some timeout => u16Bytes timeout
        | none => [])
  pure (len, w)

/-- `for _ in 0..count { acked.push(r.read_u64::<BigEndian>()?) }`. -/
def Frame.readU64s : Nat → List UInt8 → Except Error (List UInt64 × List UInt8)
  | 0, r => pure ([], r)
  | n + 1, r => do
    let (a, r) ← readU64 r
    let (as, r) ← Frame.readU64s n r
    pure (a :: as, r)

/-- The timeout of a config frame: the first two bytes of its data block when
bit 7 of its flags is set. -/
def Frame.configTimeout (flags : UInt8) (data : List UInt8) : Except Error (Option UInt16) :=
  if flags &&& 0b10000000 > 0 then do
    let (timeout, _) ← readU16 data
    pure (some timeout)
  else pure none

/-- The arm of `Frame::decode`'s `match` for the tag `typ`: the frame it pushes,
`none` for a pad byte, and the rest of the slice. -/
def Frame.decodeOne (typ : UInt8) (r : List UInt8) : Except Error (Option Frame × List UInt8) :=
  match typ with
  | 0x00 => pure (none, r)
  | 0x01 => do
    let (delay, r) ← readU16 r
    let (count, r) ← readU16 r
    let (acked, r) ← Frame.readU64s count.toNat r
    pure (some (.ack delay.toUInt64 acked), r)
  | 0x02 => pure (some .ping, r)
  | 0x03 => pure (some .disconnect, r)
  | 0x04 => do
    let (streamId, r) ← readU32 r
    let (len, r) ← readU16 r
    let (payload, r) ← readExact len.toNat r
    pure (some (.header streamId payload), r)
  | 0x05 => do
    let (streamId, r) ← readU32 r
    let (order, r) ← readU64 r
    let (len, r) ← readU16 r
    let (payload, r) ← readExact len.toNat r
    pure (some (.stream streamId order payload), r)
  | 0x06 => do
    let (streamId, r) ← readU32 r
    let (order, r) ← readU64 r
    pure (some (.close streamId order), r)
  | 0x07 => do
    let (flags, r) ← readU8 r
    let (datalen, r) ← readU16 r
    let (data, r) ← readExact datalen.toNat r
    let timeout ← Frame.configTimeout flags data
    let sleeping := flags &&& 0b01000000 > 0
    pure (some (.config timeout sleeping), r)
  | typ => throw (.invalidFrameType typ)

/-! ### Frame layouts -/

/-- The layout of one frame in spec §4.1's table, with the frame it denotes: a
tag, the fields as big-endian integers, a payload behind its `u16` length, and
for `Config` a flags byte and a data block whose first two bytes are the timeout
when bit 7 of the flags is set. -/
inductive FrameShape : List UInt8 → Frame → Prop
  | ack {delay count : UInt16} {acked : List UInt64} (h : acked.length = count.toNat) :
      FrameShape (0x01 :: u16Bytes delay ++ u16Bytes count ++ acked.flatMap u64Bytes)
        (.ack delay.toUInt64 acked)
  | ping : FrameShape [0x02] .ping
  | disconnect : FrameShape [0x03] .disconnect
  | header {stream : UInt32} {len : UInt16} {payload : List UInt8}
      (h : payload.length = len.toNat) :
      FrameShape (0x04 :: u32Bytes stream ++ u16Bytes len ++ payload) (.header stream payload)
  | stream {stream : UInt32} {order : UInt64} {len : UInt16} {payload : List UInt8}
      (h : payload.length = len.toNat) :
      FrameShape (0x05 :: u32Bytes stream ++ u64Bytes order ++ u16Bytes len ++ payload)
        (.stream stream order payload)
  | close {stream : UInt32} {order : UInt64} :
      FrameShape (0x06 :: u32Bytes stream ++ u64Bytes order) (.close stream order)
  | config {flags : UInt8} {datalen : UInt16} {data : List UInt8}
      (h : data.length = datalen.toNat) (hdata : flags.toNat.testBit 7 → 2 ≤ data.length) :
      FrameShape (0x07 :: flags :: u16Bytes datalen ++ data)
        (.config (if flags.toNat.testBit 7 then some (UInt16.ofNat (beValue (data.take 2)))
          else none) (flags.toNat.testBit 6))

theorem Frame.readU64s_eq_ok {n : Nat} {r rest : List UInt8} {as : List UInt64} :
    Frame.readU64s n r = .ok (as, rest) ↔ as.length = n ∧ r = as.flatMap u64Bytes ++ rest := by
  induction n generalizing r as with
  | zero => cases as <;> simp [Frame.readU64s]
  | succ n ih =>
    simp only [Frame.readU64s, Except.bind_eq_ok, Prod.exists, Except.pure_eq, Except.ok.injEq,
      Prod.mk.injEq, readU64_eq_ok]
    constructor
    · rintro ⟨a, r1, rfl, as', r2, h2, rfl, rfl⟩
      obtain ⟨hlen, rfl⟩ := ih.1 h2
      simp [hlen]
    · intro ⟨hlen, hr⟩
      cases as with
      | nil => simp at hlen
      | cons a as' =>
        exact ⟨a, _, by simpa using hr, as', rest, ih.2 ⟨by simpa using hlen, rfl⟩, rfl, rfl⟩

theorem UInt8.pos_and_128 (b : UInt8) : 0 < b &&& 0b10000000 ↔ b.toNat.testBit 7 = true := by
  show 0 < (b &&& 0b10000000).toNat ↔ _
  rw [UInt8.and_toNat]
  set_option maxRecDepth 4000 in
  exact byte_cases (P := fun n => 0 < n &&& 128 ↔ n.testBit 7 = true) (by decide) b

theorem UInt8.decide_pos_and_64 (b : UInt8) :
    decide (b &&& 0b01000000 > 0) = b.toNat.testBit 6 := by
  show decide (0 < (b &&& 0b01000000).toNat) = _
  rw [UInt8.and_toNat]
  set_option maxRecDepth 4000 in
  exact byte_cases (P := fun n => decide (0 < n &&& 64) = n.testBit 6) (by decide) b

theorem u16_take_two {v : UInt16} {rest : List UInt8} :
    UInt16.ofNat (beValue ((u16Bytes v ++ rest).take 2)) = v := by
  rw [List.take_append_of_le_length (by simp), List.take_of_length_le (by simp), u16Bytes_value]

/-- The config arm reads a timeout exactly when bit 7 of the flags is set, from
the first two bytes of the data block. -/
theorem Frame.configTimeout_eq_ok {flags : UInt8} {data : List UInt8} {t : Option UInt16} :
    Frame.configTimeout flags data = .ok t ↔
      (flags.toNat.testBit 7 → 2 ≤ data.length) ∧
      t = if flags.toNat.testBit 7 then some (UInt16.ofNat (beValue (data.take 2))) else none := by
  unfold Frame.configTimeout
  by_cases hb : flags.toNat.testBit 7 = true
  · rw [if_pos ((UInt8.pos_and_128 flags).2 hb)]
    simp only [hb, if_true, true_implies, Except.bind_eq_ok, Prod.exists, readU16_eq_ok,
      Except.pure_eq, Except.ok.injEq]
    constructor
    · rintro ⟨v, rest, rfl, rfl⟩
      exact ⟨by simp, by rw [u16_take_two]⟩
    · rintro ⟨hlen, rfl⟩
      refine ⟨_, data.drop 2, ?_, rfl⟩
      conv_lhs => rw [← List.take_append_drop 2 data]
      rw [u16Bytes_ofNat_beValue (by simp; omega)]
  · rw [if_neg (fun h => hb ((UInt8.pos_and_128 flags).1 h))]
    simp [hb, eq_comm]

theorem Frame.readU64s_append {acked : List UInt64} {n : Nat} (h : acked.length = n)
    (rest : List UInt8) : Frame.readU64s n (acked.flatMap u64Bytes ++ rest) = .ok (acked, rest) :=
  Frame.readU64s_eq_ok.2 ⟨h, rfl⟩

/-- A pass returns no frame exactly on the pad tag, and then consumes nothing
more. -/
theorem Frame.decodeOne_eq_ok_none {typ : UInt8} {r rest : List UInt8} :
    Frame.decodeOne typ r = .ok (none, rest) ↔ typ = 0x00 ∧ rest = r := by
  constructor
  · intro h
    unfold Frame.decodeOne at h
    split at h
    · cases h; exact ⟨rfl, rfl⟩
    all_goals repeat obtain ⟨_, -, h⟩ := Except.bind_eq_ok.1 h
    all_goals cases h
  · rintro ⟨rfl, rfl⟩
    rfl

/-- A pass returns a frame exactly when the slice starts with a layout of that
frame after the tag, and then it leaves the bytes after that layout. -/
theorem Frame.decodeOne_eq_ok_some {typ : UInt8} {r rest : List UInt8} {f : Frame} :
    Frame.decodeOne typ r = .ok (some f, rest) ↔
      ∃ body, r = body ++ rest ∧ FrameShape (typ :: body) f := by
  constructor
  · intro h
    unfold Frame.decodeOne at h
    split at h <;>
      simp only [Except.bind_eq_ok, Prod.exists, Except.pure_eq, Except.ok.injEq, Prod.mk.injEq,
        Option.some.injEq, reduceCtorEq, false_and, readU8_eq_ok, readU16_eq_ok, readU32_eq_ok,
        readU64_eq_ok, readExact_eq_ok, Frame.readU64s_eq_ok] at h
    · obtain ⟨delay, _, rfl, count, _, rfl, acked, _, ⟨hlen, rfl⟩, rfl, rfl⟩ := h
      exact ⟨_, by simp, .ack hlen⟩
    · obtain ⟨rfl, rfl⟩ := h
      exact ⟨[], rfl, .ping⟩
    · obtain ⟨rfl, rfl⟩ := h
      exact ⟨[], rfl, .disconnect⟩
    · obtain ⟨stream, _, rfl, len, _, rfl, payload, _, ⟨hlen, rfl⟩, rfl, rfl⟩ := h
      exact ⟨_, by simp, .header hlen⟩
    · obtain ⟨stream, _, rfl, order, _, rfl, len, _, rfl, payload, _, ⟨hlen, rfl⟩, rfl, rfl⟩ := h
      exact ⟨_, by simp, .stream hlen⟩
    · obtain ⟨stream, _, rfl, order, _, rfl, rfl, rfl⟩ := h
      exact ⟨_, by simp, .close⟩
    · obtain ⟨flags, _, rfl, datalen, _, rfl, data, _, ⟨hlen, rfl⟩, timeout, ht, rfl, rfl⟩ := h
      obtain ⟨hdata, rfl⟩ := Frame.configTimeout_eq_ok.1 ht
      refine ⟨flags :: u16Bytes datalen ++ data, by simp, ?_⟩
      rw [UInt8.decide_pos_and_64]
      exact .config hlen hdata
  · rintro ⟨body, rfl, hs⟩
    cases hs with
    | ack h => simp [Frame.decodeOne, Frame.readU64s_append h]
    | ping => rfl
    | disconnect => rfl
    | header h => simp [Frame.decodeOne, readExact_append_of_length h]
    | stream h => simp [Frame.decodeOne, readExact_append_of_length h]
    | close => simp [Frame.decodeOne]
    | @config flags datalen data h hdata =>
      have ht := Frame.configTimeout_eq_ok.2 ⟨hdata, rfl⟩
      simp only [Frame.decodeOne, List.append_eq, List.cons_append, List.append_assoc, readU8,
        readU16_append, readExact_append_of_length h, Except.ok_bind, ht, UInt8.decide_pos_and_64,
        Except.pure_eq]

theorem Frame.decodeOne_length {typ : UInt8} {r rest : List UInt8} {x : Option Frame}
    (h : Frame.decodeOne typ r = .ok (x, rest)) : rest.length ≤ r.length := by
  cases x with
  | none => exact (Frame.decodeOne_eq_ok_none.1 h).2 ▸ Nat.le_refl _
  | some f =>
    obtain ⟨body, rfl, -⟩ := Frame.decodeOne_eq_ok_some.1 h
    simp

/-! ### The decode loop -/

/-- The `loop` of `Frame::decode`, with the frames pushed so far: `read_u8`
fails exactly on an empty slice, and the loop then returns them. -/
def Frame.decodeLoop (f : List Frame) : List UInt8 → Except Error (List Frame)
  | [] => pure f
  | typ :: r =>
    match h : Frame.decodeOne typ r with
    | .error e => throw e
    | .ok (none, r') => Frame.decodeLoop f r'
    | .ok (some frame, r') => Frame.decodeLoop (f ++ [frame]) r'
termination_by r => r.length
decreasing_by
  all_goals
    simp_wf
    have := Frame.decodeOne_length h
    omega

/-- `Frame::decode` on a byte slice. -/
def Frame.decode (r : List UInt8) : Except Error (List Frame) := Frame.decodeLoop [] r

end Carrier
