import Mathlib

/-!
# Wire messages and errors

The values the packet codec and the endpoint exchange with their collaborators:
routing keys, identities, the broker's protobuf messages and the crate's error
type. The `.proto` files and `error.rs` are not part of the sources, so the
messages carry exactly the fields `endpoint.rs` reads or writes, and the error
type the variants the spec lists.

A call that may `panic!` (an `assert!`, an `unwrap`, an `expect`, an
`unreachable!`) returns `Except Panic`: a panic aborts the process, so it is a
result of its own and not one of the crate's `Error`s.
-/

namespace Carrier

/-- `packet::RoutingKey`: the channel identifier carried in every datagram. -/
abbrev RoutingKey := UInt64

/-- `identity::Identity`: an opaque 32-byte public identity. -/
structure Identity where
  bytes : List UInt8
  deriving DecidableEq, Repr

/-- `proto::path::Category`, ordered by cost. Modelled from the spec: `Local`
(0) < `Internet` (1) < `BrokerOrigin` (2). -/
inductive Category
  | «local»
  | internet
  | brokerOrigin
  deriving DecidableEq, Repr

/-- `category as i32`. -/
def Category.toI32 : Category → Int
  | .«local» => 0
  | .internet => 1
  | .brokerOrigin => 2

namespace Proto

/-- `proto::Path`: a candidate address with its category as the `i32` that
prost decodes, so any value a peer or the broker sends. -/
structure Path where
  category : Int
  ipaddr : String
  deriving DecidableEq, Repr

/-- `proto::ConnectRequest`, sent to the broker by `Endpoint::connect`. -/
structure ConnectRequest where
  identity : List UInt8
  timestamp : UInt64
  handshake : List UInt8
  paths : List Path
  deriving DecidableEq, Repr

/-- `proto::PeerConnectRequest`, relayed by the broker to the peer being
connected to. `route` is the routing key `accept_incomming` installs. -/
structure PeerConnectRequest where
  identity : List UInt8
  timestamp : UInt64
  handshake : List UInt8
  paths : List Path
  route : RoutingKey
  deriving DecidableEq, Repr

/-- `proto::PeerConnectResponse`, the answer of the peer to the broker. -/
structure PeerConnectResponse where
  ok : Bool
  handshake : List UInt8
  paths : List Path
  deriving DecidableEq, Repr

/-- `proto::ConnectResponse`, the broker's answer to a `ConnectRequest`. -/
structure ConnectResponse where
  ok : Bool
  route : RoutingKey
  handshake : List UInt8
  paths : List Path
  deriving DecidableEq, Repr

/-- `proto::PublishRequest`, sent by `Endpoint::publish`. -/
structure PublishRequest where
  xaddr : List UInt8
  shadow : List UInt8
  deriving DecidableEq, Repr

end Proto

/-- The kind of a `std::io::Error`: `UnexpectedEof` from a short read of a byte
slice, `WouldBlock` from a socket with nothing to read, or another one. -/
inductive IoErrorKind
  | unexpectedEof
  | wouldBlock
  | other (code : Nat)
  deriving DecidableEq, Repr

/-- `error::Error`. Modelled from the spec: its variants are the error kinds of
spec §7, and `other` stands for the errors the collaborators raise (prost
decoding, identity parsing, the Noise handshake). -/
inductive Error
  | io (kind : IoErrorKind)
  | invalidVersion (version : UInt8)
  | invalidFrameType (typ : UInt8)
  | antiReplay
  | securityViolation
  | outgoingConnectFailed (identity : Identity) (cr : Option Proto.ConnectResponse)
  | outOfOptions
  | other (what : String)
  deriving DecidableEq, Repr

/-- A panic, with the message it prints. -/
structure Panic where
  msg : String
  deriving DecidableEq, Repr

instance instDecidableEqExcept {ε α : Type} [DecidableEq ε] [DecidableEq α] :
    DecidableEq (Except ε α)
  | .ok a, .ok b => decidable_of_iff (a = b) (by simp)
  | .error a, .error b => decidable_of_iff (a = b) (by simp)
  | .ok _, .error _ => isFalse nofun
  | .error _, .ok _ => isFalse nofun

/-- `Option::unwrap`: `none` panics. -/
def unwrap {α : Type} : Option α → Except Panic α
  | some a => .ok a
  | none => .error ⟨"called `Option::unwrap()` on a `None` value"⟩

/-- `Result::unwrap`: an error panics. -/
def unwrapResult {ε α : Type} : Except ε α → Except Panic α
  | .ok a => .ok a
  | .error _ => .error ⟨"called `Result::unwrap()` on an `Err` value"⟩

theorem unwrapResult_eq_ok {ε α : Type} {x : Except ε α} {a : α} :
    unwrapResult x = .ok a ↔ x = .ok a := by
  cases x <;> simp [unwrapResult]

theorem unwrapResult_eq_error {ε α : Type} {x : Except ε α} {p : Panic} (h : unwrapResult x = .error p) :
    ∃ e, x = .error e := by
  cases x
  · exact ⟨_, rfl⟩
  · cases h

/-- `Result::expect`: an error panics with the message. -/
def expect {ε α : Type} (x : Except ε α) (msg : String) : Except Panic α :=
  match x with
  | .ok a => .ok a
  | .error _ => .error ⟨msg⟩

/-- `assert!`: a false condition panics with the message. -/
def assert (c : Prop) [Decidable c] (msg : String) : Except Panic Unit :=
  if c then .ok () else .error ⟨msg⟩

@[simp] theorem assert_of_true {c : Prop} [Decidable c] (h : c) (msg : String) :
    assert c msg = .ok () := if_pos h

@[simp] theorem Except.ok_bind {ε α β : Type} (a : α) (f : α → Except ε β) :
    (Except.ok a >>= f) = f a := rfl

@[simp] theorem Except.error_bind {ε α β : Type} (e : ε) (f : α → Except ε β) :
    (Except.error e >>= f) = Except.error e := rfl

theorem Except.bind_eq_ok {ε α β : Type} {x : Except ε α} {f : α → Except ε β} {b : β} :
    (x >>= f) = .ok b ↔ ∃ a, x = .ok a ∧ f a = .ok b := by
  cases x <;> simp

theorem Except.bind_eq_error {ε α β : Type} {x : Except ε α} {f : α → Except ε β} {e : ε} :
    (x >>= f) = .error e ↔ x = .error e ∨ ∃ a, x = .ok a ∧ f a = .error e := by
  cases x <;> simp

theorem Except.map_eq_ok {ε α β : Type} {f : α → β} {x : Except ε α} {b : β} :
    x.map f = .ok b ↔ ∃ a, x = .ok a ∧ f a = b := by
  cases x <;> simp [Except.map]

@[simp] theorem Except.pure_eq {ε α : Type} (a : α) : (pure a : Except ε α) = .ok a := rfl

end Carrier
