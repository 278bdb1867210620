import Carrier.Codec.Bytes

/-!
# Messages on a stream

`Stream::message` sends a message that may not fit in one frame: first a
`ProtoHeader` with the length of the message's encoding, then the encoding in
pieces of 600 bytes, each with its own `send`. `Stream::small_message` sends the
encoding in one `send`. The prost encodings are not part of the sources, so the
encoded message is the input and the encoding of `ProtoHeader` a parameter.

The receiver is not part of the crate either: `receive` below is only the
specification, a reader that decodes the header and then concatenates pieces
until it has the announced number of bytes. Such a reader gets the message
back and leaves whatever follows it on the stream untouched, as long as the
length fits the header's `u64`.
-/

namespace Carrier

namespace Stream

/-- `<[u8]>::chunks(size)`: consecutive pieces of `size` bytes, the last one
possibly shorter, and none for an empty slice. The source always asks for 600
bytes, and a size of 0, which panics in Rust, gives no pieces here. -/
def chunks : Nat → List UInt8 → List (List UInt8)
  | 0, _ => []
  | _, [] => []
  | size + 1, x :: xs => (x :: xs).take (size + 1) :: chunks (size + 1) ((x :: xs).drop (size + 1))
termination_by _ b => b.length
decreasing_by simp only [List.length_drop, List.length_cons]; omega

/-- `Stream::small_message`: the encoding in one `send`. -/
def smallMessage (b : List UInt8) : List (List UInt8) := [b]

/-- `Stream::message`: the encoded `ProtoHeader { len: b.len() as u64 }`, then the
encoding in pieces of 600 bytes, each one `send`. -/
def message (encodeHeader : UInt64 → List UInt8) (b : List UInt8) : List (List UInt8) :=
  encodeHeader (UInt64.ofNat b.length) :: chunks 600 b

/-- Read pieces until `n` bytes are in: those bytes and the pieces left, or
`none` when the stream ends first. -/
def collect : Nat → List (List UInt8) → Option (List UInt8 × List (List UInt8))
  | 0, rest => some ([], rest)
  | _ + 1, [] => none
  | n + 1, g :: rest => (collect (n + 1 - g.length) rest).map fun r => (g ++ r.1, r.2)

/-- A receiver of `Stream::message`: the header's length, then that many bytes
of pieces. -/
def receive (decodeHeader : List UInt8 → Option UInt64) :
    List (List UInt8) → Option (List UInt8 × List (List UInt8))
  | [] => none
  | h :: rest => (decodeHeader h).bind fun len => collect len.toNat rest

@[simp] theorem chunks_nil (size : Nat) : chunks size [] = [] := by
  cases size <;> simp [chunks]

theorem chunks_cons (size : Nat) (x : UInt8) (xs : List UInt8) :
    chunks (size + 1) (x :: xs) =
      (x :: xs).take (size + 1) :: chunks (size + 1) ((x :: xs).drop (size + 1)) := by
  rw [chunks]

/-- The pieces put back together are the slice. -/
theorem flatten_chunks {size : Nat} (hs : size ≠ 0) (b : List UInt8) : (chunks size b).flatten = b := by
  induction size, b using chunks.induct with
  | case1 => exact absurd rfl hs
  | case2 => simp
  | case3 size x xs ih => rw [chunks_cons, List.flatten_cons, ih hs, List.take_append_drop]

/-- Every piece has between 1 and `size` bytes. -/
theorem length_of_mem_chunks {size : Nat} {b g : List UInt8} (h : g ∈ chunks size b) :
    0 < g.length ∧ g.length ≤ size := by
  induction size, b using chunks.induct with
  | case1 => simp [chunks] at h
  | case2 => simp at h
  | case3 size x xs ih =>
    rw [chunks_cons, List.mem_cons] at h
    rcases h with rfl | h
    · simp
    · exact ih h

theorem chunks_eq_nil {size : Nat} {b : List UInt8} (hs : size ≠ 0) : chunks size b = [] ↔ b = [] := by
  cases size with
  | zero => exact absurd rfl hs
  | succ size => cases b <;> simp [chunks_cons]

/-- Every piece but the last has `size` bytes. -/
theorem length_of_mem_dropLast_chunks {size : Nat} {b g : List UInt8} (hs : size ≠ 0)
    (h : g ∈ (chunks size b).dropLast) : g.length = size := by
  induction size, b using chunks.induct with
  | case1 => exact absurd rfl hs
  | case2 => simp at h
  | case3 size x xs ih =>
    rw [chunks_cons] at h
    by_cases hd : (x :: xs).drop (size + 1) = []
    · simp [hd] at h
    · rw [List.dropLast_cons_of_ne_nil ((chunks_eq_nil hs).not.2 hd), List.mem_cons] at h
      rcases h with rfl | h
      · have := List.length_pos.2 hd
        simp only [List.length_drop, List.length_take] at this ⊢
        omega
      · exact ih hs h

/-- A reader that wants the slice's length in bytes takes exactly its pieces. -/
theorem collect_chunks {size : Nat} (hs : size ≠ 0) (b : List UInt8) (rest : List (List UInt8)) :
    collect b.length (chunks size b ++ rest) = some (b, rest) := by
  induction size, b using chunks.induct with
  | case1 => exact absurd rfl hs
  | case2 => simp [collect]
  | case3 size x xs ih =>
    have hlen : xs.length + 1 - ((x :: xs).take (size + 1)).length =
        ((x :: xs).drop (size + 1)).length := by
      simp only [List.length_take, List.length_drop, List.length_cons]; omega
    rw [chunks_cons, List.cons_append, List.length_cons, collect, hlen, ih hs]
    simp only [Option.map_some', List.take_append_drop]

/-- `Stream::message` sends the header and then pieces of at most 600 bytes, all
but the last of exactly 600, which put together are the message. -/
theorem message_pieces (encodeHeader : UInt64 → List UInt8) (b : List UInt8) :
    (message encodeHeader b).tail.flatten = b ∧
      (∀ g ∈ (message encodeHeader b).tail, 0 < g.length ∧ g.length ≤ 600) ∧
      ∀ g ∈ (message encodeHeader b).tail.dropLast, g.length = 600 :=
  ⟨flatten_chunks (by decide) b, fun _ => length_of_mem_chunks,
    fun _ => length_of_mem_dropLast_chunks (by decide)⟩

/-- The reader wants the length modulo `2 ^ 64`, since `b.len() as u64` wraps. -/
theorem receive_message_eq {encodeHeader : UInt64 → List UInt8}
    {decodeHeader : List UInt8 → Option UInt64} (hdec : ∀ n, decodeHeader (encodeHeader n) = some n)
    (b : List UInt8) (rest : List (List UInt8)) :
    receive decodeHeader (message encodeHeader b ++ rest) =
      collect (b.length % 2 ^ 64) (chunks 600 b ++ rest) := by
  rw [message, List.cons_append, receive, hdec, Option.some_bind]
  rfl

/-- A reader of `Stream::message` gets the message back, and leaves the rest of
the stream as it was, when the message's length fits the header's `u64`. -/
theorem receive_message {encodeHeader : UInt64 → List UInt8}
    {decodeHeader : List UInt8 → Option UInt64} (hdec : ∀ n, decodeHeader (encodeHeader n) = some n)
    {b : List UInt8} (hb : b.length < 2 ^ 64) (rest : List (List UInt8)) :
    receive decodeHeader (message encodeHeader b ++ rest) = some (b, rest) := by
  rw [receive_message_eq hdec, Nat.mod_eq_of_lt hb, collect_chunks (by decide)]

/-- With the header as eight big-endian bytes, a message of 700 bytes, longer
than one piece, is read back from a stream that goes on after it. -/
theorem receive_message_two_pieces :
    (∀ n, (fun h => (readU64 h).toOption.map Prod.fst) (u64Bytes n) = some n) ∧
      (List.replicate 700 (7 : UInt8)).length < 2 ^ 64 ∧
      receive (fun h => (readU64 h).toOption.map Prod.fst)
          (message u64Bytes (List.replicate 700 7) ++ [[1]]) =
        some (List.replicate 700 7, [[1]]) := by
  have hdec : ∀ n, (fun h => (readU64 h).toOption.map Prod.fst) (u64Bytes n) = some n := fun n => by
    show ((readU64 (u64Bytes n)).toOption.map Prod.fst) = some n
    rw [← List.append_nil (u64Bytes n), readU64_append]
    rfl
  have hb : (List.replicate 700 (7 : UInt8)).length < 2 ^ 64 := by
    rw [List.length_replicate]; norm_num
  exact ⟨hdec, hb, receive_message hdec hb _⟩

end Stream

end Carrier
