import Carrier.Types

/-!
# Big-endian integers on byte slices

`byteorder`'s `ReadBytesExt` and `WriteBytesExt` with `BigEndian`, on the
readers and writers the codec uses: a `&[u8]` slice, which reads from its
front, and a `Vec<u8>`, which appends. Both are a `List UInt8` here.

`beBytes n v` are the `n` bytes `write_uN` emits for the low `8 * n` bits of
`v`, and `beValue` is the number a reader assembles from them. The two are
inverse on `n`-byte strings; everything the frame and packet codecs prove
about integers comes from `beValue_beBytes` and `beBytes_beValue`.

A read from a slice that holds fewer bytes than asked fails with
`UnexpectedEof` (`read_exact`), and every `read_uN` is a `read_exact` of
`N / 8` bytes.
-/

namespace Carrier

/-- The `n` bytes of the low `8 * n` bits of `v`, most significant first. -/
def beBytes : Nat → Nat → List UInt8
  | 0, _ => []
  | n + 1, v => beBytes n (v / 256) ++ [UInt8.ofNat v]

/-- The number a big-endian byte string denotes. -/
def beValue (bs : List UInt8) : Nat :=
  bs.foldl (fun acc b => acc * 256 + b.toNat) 0

/-- `write_u16::<BigEndian>`. -/
def u16Bytes (v : UInt16) : List UInt8 := beBytes 2 v.toNat

/-- `write_u32::<BigEndian>`. -/
def u32Bytes (v : UInt32) : List UInt8 := beBytes 4 v.toNat

/-- `write_u64::<BigEndian>`. -/
def u64Bytes (v : UInt64) : List UInt8 := beBytes 8 v.toNat

/-- A fact about every number below 256, decided once, holds of every byte. -/
theorem byte_cases {P : Nat → Prop} (h : ∀ n < 256, P n) (b : UInt8) : P b.toNat :=
  h _ b.toNat_lt_size

theorem UInt8.toNat_ofNat' (n : Nat) : (UInt8.ofNat n).toNat = n % 256 :=
  BitVec.toNat_ofNat n 8

@[simp] theorem length_beBytes (n v : Nat) : (beBytes n v).length = n := by
  induction n generalizing v with
  | zero => rfl
  | succ n ih => simp [beBytes, ih]

@[simp] theorem length_u16Bytes (v : UInt16) : (u16Bytes v).length = 2 := length_beBytes ..
@[simp] theorem length_u32Bytes (v : UInt32) : (u32Bytes v).length = 4 := length_beBytes ..
@[simp] theorem length_u64Bytes (v : UInt64) : (u64Bytes v).length = 8 := length_beBytes ..

@[simp] theorem beValue_nil : beValue [] = 0 := rfl

@[simp] theorem beValue_append_singleton (bs : List UInt8) (b : UInt8) :
    beValue (bs ++ [b]) = beValue bs * 256 + b.toNat := by
  simp [beValue, List.foldl_append]

theorem beValue_lt (bs : List UInt8) : beValue bs < 256 ^ bs.length := by
  induction bs using List.reverseRecOn with
  | nil => decide
  | append_singleton bs b ih =>
    have hb := b.toNat_lt_size
    simp only [beValue_append_singleton, List.length_append, List.length_singleton,
      Nat.pow_succ]
    change b.toNat < 256 at hb
    omega

/-- Reading back what `write_uN` wrote gives the low `8 * n` bits. -/
theorem beValue_beBytes (n v : Nat) : beValue (beBytes n v) = v % 256 ^ n := by
  induction n generalizing v with
  | zero => simp [beBytes, Nat.mod_one]
  | succ n ih =>
    rw [beBytes, beValue_append_singleton, ih, UInt8.toNat_ofNat', Nat.pow_succ,
      Nat.mul_comm (256 ^ n), Nat.mod_mul]
    omega

/-- Writing back a number that was read from `n` bytes gives those bytes. -/
theorem beBytes_beValue (bs : List UInt8) : beBytes bs.length (beValue bs) = bs := by
  induction bs using List.reverseRecOn with
  | nil => rfl
  | append_singleton bs b ih =>
    have hb : b.toNat < 256 := b.toNat_lt_size
    have hdiv : (beValue bs * 256 + b.toNat) / 256 = beValue bs := by omega
    have hlast : UInt8.ofNat (beValue bs * 256 + b.toNat) = b :=
      UInt8.toNat.inj (by rw [UInt8.toNat_ofNat']; omega)
    simp only [List.length_append, List.length_singleton, beBytes, beValue_append_singleton,
      hdiv, ih, hlast]

theorem u16Bytes_ofNat_beValue {bs : List UInt8} (h : bs.length = 2) :
    u16Bytes (UInt16.ofNat (beValue bs)) = bs := by
  have hlt := beValue_lt bs
  have hbs := beBytes_beValue bs
  rw [h] at hlt hbs
  rwa [u16Bytes, UInt16.toNat_ofNat_of_lt hlt]

theorem u64Bytes_ofNat_beValue {bs : List UInt8} (h : bs.length = 8) :
    u64Bytes (UInt64.ofNat (beValue bs)) = bs := by
  have hlt := beValue_lt bs
  have hbs := beBytes_beValue bs
  rw [h] at hlt hbs
  rwa [u64Bytes, UInt64.toNat_ofNat_of_lt hlt]

/-! ### Reading from a slice -/

/-- `read_exact` into an `n`-byte buffer. -/
def readExact (n : Nat) (r : List UInt8) : Except Error (List UInt8 × List UInt8) :=
  if n ≤ r.length then .ok (r.take n, r.drop n) else .error (.io .unexpectedEof)

/-- `read_u8`. -/
def readU8 : List UInt8 → Except Error (UInt8 × List UInt8)
  | [] => .error (.io .unexpectedEof)
  | b :: r => .ok (b, r)

/-- `read_u16::<BigEndian>`. -/
def readU16 (r : List UInt8) : Except Error (UInt16 × List UInt8) := do
  let (bs, r) ← readExact 2 r
  pure (UInt16.ofNat (beValue bs), r)

/-- `read_u32::<BigEndian>`. -/
def readU32 (r : List UInt8) : Except Error (UInt32 × List UInt8) := do
  let (bs, r) ← readExact 4 r
  pure (UInt32.ofNat (beValue bs), r)

/-- `read_u64::<BigEndian>`. -/
def readU64 (r : List UInt8) : Except Error (UInt64 × List UInt8) := do
  let (bs, r) ← readExact 8 r
  pure (UInt64.ofNat (beValue bs), r)

theorem readExact_eq_ok {n : Nat} {r bs rest : List UInt8} :
    readExact n r = .ok (bs, rest) ↔ bs.length = n ∧ r = bs ++ rest := by
  unfold readExact
  split
  · simp only [Except.ok.injEq, Prod.mk.injEq]
    constructor
    · rintro ⟨rfl, rfl⟩
      simp_all
    · rintro ⟨rfl, rfl⟩
      simp
  · simp only [reduceCtorEq, false_iff, not_and]
    rintro rfl rfl
    simp_all

theorem readExact_append (bs rest : List UInt8) :
    readExact bs.length (bs ++ rest) = .ok (bs, rest) :=
  readExact_eq_ok.2 ⟨rfl, rfl⟩

theorem readU8_eq_ok {r rest : List UInt8} {b : UInt8} :
    readU8 r = .ok (b, rest) ↔ r = b :: rest := by
  cases r <;> simp [readU8, eq_comm]

/-- The three fixed-width reads have one shape: `read_exact` of `n` bytes,
then the cast of their value into a type that holds exactly `8 * n` bits. -/
theorem readFixed_eq_ok {α : Type} {n : Nat} (ofNat : Nat → α) (toNat : α → Nat)
    (hto : ∀ a, toNat a < 256 ^ n) (hof : ∀ a, ofNat (toNat a) = a)
    (hinj : ∀ v, v < 256 ^ n → toNat (ofNat v) = v) {r rest : List UInt8} {v : α} :
    (do let (bs, r) ← readExact n r; pure (ofNat (beValue bs), r) : Except Error _)
      = .ok (v, rest) ↔ r = beBytes n (toNat v) ++ rest := by
  constructor
  · intro h
    rcases hr : readExact n r with e | ⟨bs, rest'⟩
    · simp [hr] at h
    · obtain ⟨hlen, rfl⟩ := readExact_eq_ok.1 hr
      simp only [hr, Except.ok_bind, Except.pure_eq, Except.ok.injEq, Prod.mk.injEq] at h
      obtain ⟨rfl, rfl⟩ := h
      rw [hinj _ (hlen ▸ beValue_lt bs), ← hlen, beBytes_beValue]
  · rintro rfl
    have := readExact_append (beBytes n (toNat v)) rest
    rw [length_beBytes] at this
    simp [this, beValue_beBytes, Nat.mod_eq_of_lt (hto v), hof]

theorem readU16_eq_ok {r rest : List UInt8} {v : UInt16} :
    readU16 r = .ok (v, rest) ↔ r = u16Bytes v ++ rest :=
  readFixed_eq_ok UInt16.ofNat UInt16.toNat UInt16.toNat_lt_size
    (fun a => UInt16.toNat.inj (UInt16.toNat_ofNat_of_lt a.toNat_lt_size))
    (fun _ h => UInt16.toNat_ofNat_of_lt h)

theorem readU32_eq_ok {r rest : List UInt8} {v : UInt32} :
    readU32 r = .ok (v, rest) ↔ r = u32Bytes v ++ rest :=
  readFixed_eq_ok UInt32.ofNat UInt32.toNat UInt32.toNat_lt_size
    (fun a => UInt32.toNat.inj (UInt32.toNat_ofNat_of_lt a.toNat_lt_size))
    (fun _ h => UInt32.toNat_ofNat_of_lt h)

theorem readU64_eq_ok {r rest : List UInt8} {v : UInt64} :
    readU64 r = .ok (v, rest) ↔ r = u64Bytes v ++ rest :=
  readFixed_eq_ok UInt64.ofNat UInt64.toNat UInt64.toNat_lt_size
    (fun a => UInt64.toNat.inj (UInt64.toNat_ofNat_of_lt a.toNat_lt_size))
    (fun _ h => UInt64.toNat_ofNat_of_lt h)

@[simp] theorem length_flatMap_u64Bytes (l : List UInt64) :
    (l.flatMap u64Bytes).length = 8 * l.length := by
  induction l with
  | nil => rfl
  | cons a l ih => simp [List.flatMap, ih] at *; omega

@[simp] theorem u16Bytes_value (v : UInt16) : UInt16.ofNat (beValue (u16Bytes v)) = v :=
  UInt16.toNat.inj (by
    rw [u16Bytes, beValue_beBytes, Nat.mod_eq_of_lt (show v.toNat < 256 ^ 2 from v.toNat_lt_size),
      UInt16.toNat_ofNat_of_lt v.toNat_lt_size])

@[simp] theorem readU16_append (v : UInt16) (rest : List UInt8) :
    readU16 (u16Bytes v ++ rest) = .ok (v, rest) := readU16_eq_ok.2 rfl

@[simp] theorem readU32_append (v : UInt32) (rest : List UInt8) :
    readU32 (u32Bytes v ++ rest) = .ok (v, rest) := readU32_eq_ok.2 rfl

@[simp] theorem readU64_append (v : UInt64) (rest : List UInt8) :
    readU64 (u64Bytes v ++ rest) = .ok (v, rest) := readU64_eq_ok.2 rfl

theorem readExact_append_of_length {n : Nat} {bs : List UInt8} (h : bs.length = n)
    (rest : List UInt8) : readExact n (bs ++ rest) = .ok (bs, rest) :=
  readExact_eq_ok.2 ⟨h, rfl⟩

end Carrier
