import Carrier.Endpoint.State

/-!
# The subscriber's stream handler

`SubscriberBuilder::subscribe` opens a stream to the broker on
`/carrier.broker.v1/broker/subscribe`, and its handler reads what the broker
sends on it: the response headers, then one `SubscribeChange` after another.
Each `Publish` and `Unpublish` whose identity parses is reported to the
callback set for it; a `Supersede`, or a change that does not decode, ends the
handler.

The handler is modelled as a function of one delivered frame, and run over the
frames of the stream. Its specification: it panics exactly when the response
headers do not decode, and otherwise reports the changes up to the first that
ends it, in order.
-/

namespace Carrier

namespace Proto

/-- `proto::subscribe_change::M`: what a `SubscribeChange` announces. -/
inductive SubscribeChangeM
  | publish (identity xaddr : List UInt8)
  | unpublish (identity : List UInt8)
  | supersede
  deriving DecidableEq, Repr

end Proto

/-- A call of one of the subscriber's callbacks. -/
inductive Notice
  | publish (identity : Identity)
  | unpublish (identity : Identity)
  deriving DecidableEq, Repr

/-- The callbacks of a `SubscriberBuilder`: whether `on_publish` and
`on_unpublish` were set. -/
structure SubscriberBuilder where
  onPublish : Bool
  onUnpublish : Bool

/-- Where the handler is: before the response headers, reading changes, or
returned. -/
inductive SubscriberPhase
  | awaitingHeaders
  | listening
  | finished
  deriving DecidableEq, Repr

namespace SubscriberBuilder

/-- The callback call for an identity: none when the callback is not set or the
identity does not parse (that is logged). -/
def notify (cx : Codecs) (set : Bool) (mk : Identity → Notice) (identity : List UInt8) : List Notice :=
  if set then
    match cx.identityFromBytes identity with
    | .ok v => [mk v]
    | .error _ => []
  else []

/-- `SubscriberBuilder::handler` on one frame of its stream; `decodeChange` is
`SubscribeChange::decode`, returning the message's `m`. -/
def handle (cx : Codecs) (decodeChange : List UInt8 → Except Error (Option Proto.SubscribeChangeM))
    (b : SubscriberBuilder) : SubscriberPhase → List UInt8 → Except Panic (SubscriberPhase × List Notice)
  | .awaitingHeaders, m => do
    let _ ← unwrapResult (cx.decodeHeaders m)
    pure (.listening, [])
  | .listening, m =>
    match decodeChange m with
    | .error _ => pure (.finished, [])
    | .ok none => pure (.listening, [])
    | .ok (some (.publish identity _)) => pure (.listening, notify cx b.onPublish .publish identity)
    | .ok (some (.unpublish identity)) => pure (.listening, notify cx b.onUnpublish .unpublish identity)
    | .ok (some .supersede) => pure (.finished, [])
  | .finished, _ => pure (.finished, [])

/-- The handler over the frames delivered to it, with its notices in order. -/
def run (cx : Codecs) (decodeChange : List UInt8 → Except Error (Option Proto.SubscribeChangeM))
    (b : SubscriberBuilder) : SubscriberPhase → List (List UInt8) → Except Panic (SubscriberPhase × List Notice)
  | ph, [] => pure (ph, [])
  | ph, m :: ms => do
    let (ph', ns) ← b.handle cx decodeChange ph m
    let (ph'', ns') ← b.run cx decodeChange ph' ms
    pure (ph'', ns ++ ns')

/-- The frame ends the handler: a `Supersede`, or a change that does not decode. -/
def Ends (decodeChange : List UInt8 → Except Error (Option Proto.SubscribeChangeM)) (m : List UInt8) : Bool :=
  match decodeChange m with
  | .error _ => true
  | .ok (some .supersede) => true
  | _ => false

/-- What a change that does not end the handler reports. -/
def notices (cx : Codecs) (decodeChange : List UInt8 → Except Error (Option Proto.SubscribeChangeM))
    (b : SubscriberBuilder) (m : List UInt8) : List Notice :=
  match decodeChange m with
  | .ok (some (.publish identity _)) => notify cx b.onPublish .publish identity
  | .ok (some (.unpublish identity)) => notify cx b.onUnpublish .unpublish identity
  | _ => []

section

variable (cx : Codecs) (decodeChange : List UInt8 → Except Error (Option Proto.SubscribeChangeM))
  (b : SubscriberBuilder)

theorem run_finished (ms : List (List UInt8)) : b.run cx decodeChange .finished ms = .ok (.finished, []) := by
  induction ms with
  | nil => rfl
  | cons m ms ih => simp [run, handle, ih]

theorem notices_of_ends {m : List UInt8} (h : Ends decodeChange m) : notices cx decodeChange b m = [] := by
  unfold Ends at h
  unfold notices
  split <;> simp_all

theorem handle_listening (m : List UInt8) :
    b.handle cx decodeChange .listening m =
      .ok (if Ends decodeChange m then .finished else .listening, notices cx decodeChange b m) := by
  simp only [handle, Ends, notices]
  split <;> simp_all

/-- Reading changes, the handler reports the changes before the first that ends
it, in order, and has returned exactly when such a change arrived. -/
theorem run_listening (ms : List (List UInt8)) :
    b.run cx decodeChange .listening ms =
      .ok (if ms.any (Ends decodeChange) then .finished else .listening,
        (ms.takeWhile fun m => !Ends decodeChange m).flatMap (notices cx decodeChange b)) := by
  induction ms with
  | nil => rfl
  | cons m ms ih =>
    simp only [run, handle_listening, Except.ok_bind]
    by_cases hm : Ends decodeChange m
    · simp [hm, run_finished, notices_of_ends cx decodeChange b hm]
    · simp [hm, ih]

/-- The handler of the subscribe stream panics exactly when the broker's
response headers do not decode; otherwise it reports the changes before the
first that ends it, in order, and has returned exactly when one arrived. -/
theorem run_handler (h : List UInt8) (ms : List (List UInt8)) :
    b.run cx decodeChange .awaitingHeaders (h :: ms) =
      match cx.decodeHeaders h with
      | .error _ => .error ⟨"called `Result::unwrap()` on an `Err` value"⟩
      | .ok _ => .ok (if ms.any (Ends decodeChange) then .finished else .listening,
          (ms.takeWhile fun m => !Ends decodeChange m).flatMap (notices cx decodeChange b)) := by
  cases hd : cx.decodeHeaders h <;> simp [run, handle, hd, unwrapResult, run_listening]

end

end SubscriberBuilder

end Carrier
