import Carrier.Codec.Frame

/-!
# The frame grammar and the codec round trip

A decrypted payload is a sequence of pad bytes and frame layouts
(`FrameShape`). `Frames b fs` says that `b` splits so, and that `fs` are the
frames its layouts denote, in order. `Frame.decode` is exactly this relation:
it succeeds on `b` with `fs` iff `Frames b fs` (`decode_iff_frames`), and fails
on every other byte string.

On the encoding side, a frame that passes `Frame::encode`'s asserts is written
as a layout of itself, except that an `Ack` is written with its delay cut to 16
bits and its acked list sorted (`Frame.reencoded`). Writing frames one after
another, with pads anywhere between them, therefore produces a string in the
grammar, and decoding it gives the reencoded frames back.
-/

namespace Carrier

/-- The byte strings made of pad bytes and frame layouts, with the frames they
denote. -/
inductive Frames : List UInt8 → List Frame → Prop
  | nil : Frames [] []
  | pad {b : List UInt8} {fs : List Frame} : Frames b fs → Frames (0x00 :: b) fs
  | frame {typ : UInt8} {body b : List UInt8} {f : Frame} {fs : List Frame} :
      FrameShape (typ :: body) f → Frames b fs → Frames (typ :: body ++ b) (f :: fs)

theorem Frames.pads {b : List UInt8} {fs : List Frame} (h : Frames b fs) (n : Nat) :
    Frames (List.replicate n 0x00 ++ b) fs := by
  induction n with
  | zero => exact h
  | succ n ih => exact .pad ih

/-! ### Decoding is the grammar -/

theorem Frame.decodeLoop_nil (f : List Frame) : Frame.decodeLoop f [] = .ok f := by
  rw [Frame.decodeLoop]; rfl

theorem Frame.decodeLoop_none {f : List Frame} {typ : UInt8} {r r' : List UInt8}
    (h : Frame.decodeOne typ r = .ok (none, r')) :
    Frame.decodeLoop f (typ :: r) = Frame.decodeLoop f r' := by
  rw [Frame.decodeLoop.eq_2]
  split <;> simp_all

theorem Frame.decodeLoop_some {f : List Frame} {typ : UInt8} {r r' : List UInt8} {frame : Frame}
    (h : Frame.decodeOne typ r = .ok (some frame, r')) :
    Frame.decodeLoop f (typ :: r) = Frame.decodeLoop (f ++ [frame]) r' := by
  rw [Frame.decodeLoop.eq_2]
  split <;> simp_all

/-- The loop reads every string of the grammar to the frames it denotes. -/
theorem Frame.decodeLoop_of_frames {b : List UInt8} {fs : List Frame} (h : Frames b fs)
    (acc : List Frame) : Frame.decodeLoop acc b = .ok (acc ++ fs) := by
  induction h generalizing acc with
  | nil => simp [Frame.decodeLoop_nil]
  | pad _ ih => rw [Frame.decodeLoop_none (Frame.decodeOne_eq_ok_none.2 ⟨rfl, rfl⟩), ih]
  | frame hs _ ih =>
    rw [List.cons_append, Frame.decodeLoop_some (Frame.decodeOne_eq_ok_some.2 ⟨_, rfl, hs⟩), ih]
    simp

/-- Whatever the loop reads is a string of the grammar. -/
theorem Frame.frames_of_decodeLoop {acc fs : List Frame} {b : List UInt8}
    (h : Frame.decodeLoop acc b = .ok fs) : ∃ fs', fs = acc ++ fs' ∧ Frames b fs' := by
  induction acc, b using Frame.decodeLoop.induct generalizing fs with
  | case1 acc =>
    rw [Frame.decodeLoop_nil] at h
    cases h
    exact ⟨[], by simp, .nil⟩
  | case2 acc typ r e he =>
    rw [Frame.decodeLoop.eq_2] at h
    split at h <;> simp_all [throw, throwThe, MonadExceptOf.throw]
  | case3 acc typ r r' hn ih =>
    obtain ⟨rfl, rfl⟩ := Frame.decodeOne_eq_ok_none.1 hn
    obtain ⟨fs', rfl, hf⟩ := ih (by rwa [Frame.decodeLoop_none hn] at h)
    exact ⟨fs', rfl, .pad hf⟩
  | case4 acc typ r frame r' hs ih =>
    obtain ⟨body, rfl, hshape⟩ := Frame.decodeOne_eq_ok_some.1 hs
    obtain ⟨fs', rfl, hf⟩ := ih (by rwa [Frame.decodeLoop_some hs] at h)
    exact ⟨frame :: fs', by simp, List.cons_append .. ▸ .frame hshape hf⟩

/-- `Frame::decode` accepts exactly the frame grammar: it returns `Ok(fs)` on
`b` iff `b` splits into pad bytes and frame layouts denoting `fs` in order, and
it returns `Err` on every byte string that does not split so. -/
theorem decode_iff_frames (b : List UInt8) :
    (∀ fs, Frame.decode b = .ok fs ↔ Frames b fs) ∧
      ((∀ fs, ¬ Frames b fs) → ∃ e, Frame.decode b = .error e) := by
  have hiff : ∀ fs, Frame.decode b = .ok fs ↔ Frames b fs := fun fs =>
    ⟨fun h => by simpa using Frame.frames_of_decodeLoop h,
      fun h => by simpa using Frame.decodeLoop_of_frames h []⟩
  refine ⟨hiff, fun hno => ?_⟩
  cases h : Frame.decode b with
  | error e => exact ⟨e, rfl⟩
  | ok fs => exact absurd ((hiff fs).1 h) (hno fs)

/-! ### Encoding writes the grammar -/

/-- The frames `Frame::encode` writes without tripping an `assert!`. -/
def Frame.Fits : Frame → Prop
  | .header _ payload => payload.length + 12 < 65535
  | .stream _ _ payload => payload.length + 12 < 65535
  | .ack _ acked => acked.length < 65535 / 8
  | _ => True

instance (f : Frame) : Decidable f.Fits :=
  match f with
  | .header _ payload => inferInstanceAs (Decidable (payload.length + 12 < 65535))
  | .stream _ _ payload => inferInstanceAs (Decidable (payload.length + 12 < 65535))
  | .ack _ acked => inferInstanceAs (Decidable (acked.length < 65535 / 8))
  | .ping | .disconnect | .close .. | .config .. => isTrue trivial

/-- What decoding gives back for a frame `Frame::encode` wrote: an `Ack`
with its delay reduced modulo 2^16 and its acked list sorted; any other frame
unchanged. -/
def Frame.reencoded : Frame → Frame
  | .ack delay acked => .ack (delay % 65536) (acked.mergeSort)
  | f => f

theorem FrameShape.config_of (flags : UInt8) (datalen : UInt16) {data : List UInt8}
    {timeout : Option UInt16} {sleeping : Bool} (h : data.length = datalen.toNat)
    (hdata : flags.toNat.testBit 7 → 2 ≤ data.length)
    (ht : timeout = if flags.toNat.testBit 7 then some (UInt16.ofNat (beValue (data.take 2)))
      else none)
    (hs : sleeping = flags.toNat.testBit 6) :
    FrameShape (0x07 :: flags :: u16Bytes datalen ++ data) (.config timeout sleeping) := by
  subst ht hs
  exact .config h hdata

theorem UInt64.toUInt16_toUInt64 (v : UInt64) : v.toUInt16.toUInt64 = v % 65536 := by
  apply UInt64.toNat.inj
  change (UInt16.ofNat v.toNat).toNat = v.toNat % 65536
  exact BitVec.toNat_ofNat _ _

theorem Nat.toUInt16_toNat {n : Nat} (h : n < 65536) : n.toUInt16.toNat = n :=
  UInt16.toNat_ofNat_of_lt h

/-- A frame that fits is written as a layout of its reencoding, in `f.len`
bytes, after whatever the vector held. -/
theorem Frame.encode_eq_ok {f : Frame} (h : f.Fits) (w : List UInt8) :
    ∃ bytes, f.encode w = .ok (f.len, w ++ bytes) ∧ bytes.length = f.len ∧
      FrameShape bytes f.reencoded := by
  cases f with
  | header stream payload =>
    have hl : payload.length = payload.length.toUInt16.toNat :=
      (Nat.toUInt16_toNat (by simp only [Frame.Fits] at h; omega)).symm
    refine ⟨_, ?_, ?_, FrameShape.header hl⟩
    · simp [Frame.encode, assert_of_true (show payload.length + 12 < 65535 from h)]
    · simp [Frame.len]; omega
  | stream stream order payload =>
    have hl : payload.length = payload.length.toUInt16.toNat :=
      (Nat.toUInt16_toNat (by simp only [Frame.Fits] at h; omega)).symm
    refine ⟨_, ?_, ?_, FrameShape.stream hl⟩
    · simp [Frame.encode, assert_of_true (show payload.length + 12 < 65535 from h)]
    · simp [Frame.len]; omega
  | ack delay acked =>
    have hl : (acked.mergeSort).length = acked.length.toUInt16.toNat := by
      rw [List.length_mergeSort, Nat.toUInt16_toNat (by simp only [Frame.Fits] at h; omega)]
    refine ⟨_, ?_, ?_, UInt64.toUInt16_toUInt64 delay ▸ @FrameShape.ack delay.toUInt16 _ _ hl⟩
    · simp [Frame.encode, assert_of_true (show acked.length < 65535 / 8 from h)]
    · simp only [Frame.len, List.length_append, List.length_cons, length_u16Bytes,
        length_flatMap_u64Bytes, List.length_mergeSort]
  | ping => exact ⟨_, rfl, rfl, .ping⟩
  | disconnect => exact ⟨_, rfl, rfl, .disconnect⟩
  | close stream order =>
    refine ⟨_, ?_, ?_, @FrameShape.close stream order⟩
    · simp [Frame.encode]
    · simp [Frame.len]
  | config timeout sleeping =>
    cases timeout with
    | none =>
      cases sleeping
      · exact ⟨0x07 :: 0x00 :: u16Bytes 0 ++ [], (by simp [Frame.encode, Frame.configHeader]; decide),
          by simp [Frame.len], FrameShape.config_of 0x00 0 rfl (by decide) rfl rfl⟩
      · exact ⟨0x07 :: 0x40 :: u16Bytes 0 ++ [], (by simp [Frame.encode, Frame.configHeader]; decide),
          by simp [Frame.len], FrameShape.config_of 0x40 0 rfl (by decide) rfl rfl⟩
    | some t =>
      have ht : ∀ flags : UInt8, flags.toNat.testBit 7 → some t = if flags.toNat.testBit 7 then
          some (UInt16.ofNat (beValue ((u16Bytes t).take 2))) else none := fun _ hb => by
        rw [if_pos hb, List.take_of_length_le (by simp), u16Bytes_value]
      have hc : ∀ flags : UInt8, flags.toNat.testBit 7 → 2 ≤ (u16Bytes t).length :=
        fun _ _ => by simp
      cases sleeping
      · exact ⟨0x07 :: 0x80 :: u16Bytes 2 ++ u16Bytes t,
          (by simp [Frame.encode, Frame.configHeader]; decide), by simp [Frame.len],
          FrameShape.config_of 0x80 2 rfl (hc _) (ht _ (by decide)) rfl⟩
      · exact ⟨0x07 :: 0xc0 :: u16Bytes 2 ++ u16Bytes t,
          (by simp [Frame.encode, Frame.configHeader]; decide), by simp [Frame.len],
          FrameShape.config_of 0xc0 2 rfl (hc _) (ht _ (by decide)) rfl⟩

/-- A frame that does not fit trips an `assert!` of `Frame::encode`. -/
theorem Frame.encode_panics {f : Frame} (h : ¬ f.Fits) (w : List UInt8) :
    ∃ p, f.encode w = .error p := by
  cases f <;> simp only [Frame.Fits, not_true_eq_false] at h <;>
    exact ⟨_, by simp [Frame.encode, assert, h]; rfl⟩

/-- `Frame::encode` of a frame that passes its asserts into an empty vector
returns `Ok(f.len())` and leaves exactly `f.len()` bytes in the vector. -/
theorem encode_writes_len (f : Frame) (h : f.Fits) :
    ∃ w, f.encode [] = .ok (f.len, w) ∧ w.length = f.len := by
  obtain ⟨bytes, he, hl, -⟩ := Frame.encode_eq_ok h []
  exact ⟨bytes, by simpa using he, hl⟩

theorem encode_writes_len_ack :
    (Frame.ack 1 [0x872]).Fits ∧
      ∃ w, (Frame.ack 1 [0x872]).encode [] = .ok ((Frame.ack 1 [0x872]).len, w) ∧
        w.length = (Frame.ack 1 [0x872]).len :=
  ⟨by decide, encode_writes_len _ (by decide)⟩

theorem FrameShape.exists_cons {e : List UInt8} {f : Frame} (h : FrameShape e f) :
    ∃ typ body, e = typ :: body := by
  cases h <;> exact ⟨_, _, rfl⟩

/-- Frames written one after another into one vector by `Frame::encode`, each
followed by its number of pad bytes. -/
def Frame.encodePadded (w : List UInt8) : List (Frame × Nat) → Except Panic (List UInt8)
  | [] => pure w
  | (f, pad) :: fs => do
    let (_, w) ← f.encode w
    Frame.encodePadded (w ++ List.replicate pad 0x00) fs

theorem Frame.encodePadded_frames {fs : List (Frame × Nat)} (h : ∀ p ∈ fs, p.1.Fits)
    (w : List UInt8) : ∃ bytes, Frame.encodePadded w fs = .ok (w ++ bytes) ∧
      Frames bytes (fs.map fun p => p.1.reencoded) := by
  induction fs generalizing w with
  | nil => exact ⟨[], by simp [Frame.encodePadded], .nil⟩
  | cons p fs ih =>
    obtain ⟨f, pad⟩ := p
    obtain ⟨b1, he, -, hs⟩ := Frame.encode_eq_ok (h _ (List.mem_cons_self _ _)) w
    obtain ⟨typ, body, rfl⟩ := hs.exists_cons
    obtain ⟨b2, hp, hf⟩ := ih (fun p hp => h p (List.mem_cons_of_mem _ hp))
      (w ++ typ :: body ++ List.replicate pad 0x00)
    refine ⟨typ :: body ++ (List.replicate pad 0x00 ++ b2), ?_, .frame hs (hf.pads pad)⟩
    simp only [Frame.encodePadded, he, Except.ok_bind]
    rw [hp]
    simp

/-- The frame codec round trip over whole frame sequences: frames that pass
`Frame::encode`'s asserts, written one after another with any number of pad
bytes before, between and after them, decode to the same frames in the same
order, each `Ack` with its delay reduced modulo 2^16 and its acked list sorted. -/
theorem decode_encodePadded (lead : Nat) (fs : List (Frame × Nat))
    (h : ∀ p ∈ fs, p.1.Fits) :
    ∃ bytes, Frame.encodePadded (List.replicate lead 0x00) fs = .ok bytes ∧
      Frame.decode bytes = .ok (fs.map fun p => p.1.reencoded) := by
  obtain ⟨bytes, he, hf⟩ := Frame.encodePadded_frames h (List.replicate lead 0x00)
  exact ⟨_, he, by simpa using Frame.decodeLoop_of_frames (hf.pads lead) []⟩

theorem decode_encodePadded_mixed :
    (∀ p ∈ [(Frame.ack 5 [0x1224, 0x1223], 2), (Frame.config (some 1292) true, 0)], p.1.Fits) ∧
      ∃ bytes, Frame.encodePadded (List.replicate 3 0x00)
          [(Frame.ack 5 [0x1224, 0x1223], 2), (Frame.config (some 1292) true, 0)] = .ok bytes ∧
        Frame.decode bytes = .ok ([(Frame.ack 5 [0x1224, 0x1223], 2),
          (Frame.config (some 1292) true, 0)].map fun p => p.1.reencoded) :=
  ⟨by decide, decode_encodePadded 3 _ (by decide)⟩

end Carrier
