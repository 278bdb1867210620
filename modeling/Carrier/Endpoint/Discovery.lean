import Carrier.Endpoint.State

/-!
# Path discovery

A new peer channel starts `Discovering` over the candidate addresses the peer
and the broker announced. `poll` counts the datagrams each source address
delivers; when one count reaches five, the channel settles on the address with
the lowest category among those heard from at least once, and keeps the
candidate map as `previous`. Once settled, a datagram the engine accepted from
another address moves the channel there, unless that address's category is
worse than the current one's.

This module holds those rules as functions of one `AddressMode`, the invariant
they keep (counts stay below five while discovering; the chosen address is never
worse than a candidate heard from) and the facts the endpoint-level results are
built from: the scan that settles always finds a candidate, and migration never
raises the chosen address's category.
-/

namespace Carrier

/-- `previous.get(a).unwrap_or(&(Internet, 0))`, also the value
`entry(a).or_insert((Internet, 0))` starts from. -/
def Candidates.entry (addrs : Candidates) (a : SocketAddr) : Category × Nat :=
  (addrs.lookup a).getD (.internet, 0)

/-- The `match path.category` of the `accept_*` operations: the `i32` values of
the three categories, and `unreachable!()` for any other. -/
def categoryOf (o : Int) : Except Panic Category :=
  if Category.local.toI32 = o then pure .local
  else if Category.internet.toI32 = o then pure .internet
  else if Category.brokerOrigin.toI32 = o then pure .brokerOrigin
  else throw ⟨"internal error: entered unreachable code"⟩

/-- One iteration of the loop of the `accept_*` operations that seeds the
candidate map: `paths.insert(path.ipaddr.parse().unwrap(), (cat, 0))`. -/
def seedPath (cx : Codecs) (addrs : Candidates) (path : Proto.Path) : Except Panic Candidates := do
  let cat ← categoryOf path.category
  let addr ← unwrapResult (cx.parseAddr path.ipaddr)
  pure (addrs.insert addr (cat, 0))

/-- The seeding loop over the paths a peer announced. -/
def seedPaths (cx : Codecs) (paths : List Proto.Path) : Except Panic Candidates :=
  paths.foldlM (seedPath cx) ∅

/-- One iteration of the settle scan of `poll`: `m` is the best address so far
and `bestest` its category. -/
def scanStep (acc : Option SocketAddr × Option Int) (e : Σ _ : SocketAddr, Category × Nat) :
    Option SocketAddr × Option Int :=
  if e.2.2 ≥ 1 then
    match acc.2 with
    | some bestest => if bestest > e.2.1.toI32 then (some e.1, some e.2.1.toI32) else acc
    | none => (some e.1, some e.2.1.toI32)
  else acc

/-- The settle scan: the first address met with the lowest category among the
candidates heard from at least once. -/
def settleScan (addrs : Candidates) : Option SocketAddr :=
  (addrs.entries.foldl scanStep (none, none)).1

namespace AddressMode

/-- The discovery half of receiving a datagram from `addr` in `poll`: count it,
and settle once its count reaches five. An established channel is unchanged. -/
def receive (addr : SocketAddr) : AddressMode → Except Panic AddressMode
  | .discovering addrs =>
    let count := (addrs.entry addr).2 + 1
    let addrs := addrs.insert addr ((addrs.entry addr).1, count)
    if count ≥ 5 then do
      let m ← unwrap (settleScan addrs)
      pure (.established m addrs)
    else pure (.discovering addrs)
  | .established chosen previous => pure (.established chosen previous)

/-- The migration rule of `poll`, applied when the engine accepted a datagram
from `addr`. -/
def migrate (addr : SocketAddr) : AddressMode → AddressMode
  | .established chosen previous =>
    if addr ≠ chosen then
      let currentCat := (previous.entry chosen).1
      let migrateCat := (previous.entry addr).1
      if currentCat.toI32 ≥ migrateCat.toI32 then .established addr previous
      else .established chosen previous
    else .established chosen previous
  | .discovering addrs => .discovering addrs

/-- The invariant of one channel's path discovery. -/
def Inv : AddressMode → Prop
  | .discovering addrs => ∀ a c n, addrs.lookup a = some (c, n) → n ≤ 4
  | .established chosen previous => ∀ a c n, previous.lookup a = some (c, n) → 1 ≤ n →
      (previous.entry chosen).1.toI32 ≤ c.toI32

end AddressMode

/-- `m` is a candidate heard from at least once whose category is minimal among
all such candidates. -/
def Settled (addrs : Candidates) (m : SocketAddr) : Prop :=
  ∃ c n, addrs.lookup m = some (c, n) ∧ 1 ≤ n ∧
    ∀ a c' n', addrs.lookup a = some (c', n') → 1 ≤ n' → c.toI32 ≤ c'.toI32

/-! ### The settle scan -/

/-- What the scan knows after the entries `seen`: nothing heard from yet, or a
best entry heard from whose category is minimal so far. -/
def ScanInv (seen : List (Σ _ : SocketAddr, Category × Nat)) :
    Option SocketAddr × Option Int → Prop
  | (_, none) => ∀ e ∈ seen, e.2.2 = 0
  | (m, some b) => ∃ e ∈ seen, m = some e.1 ∧ e.2.1.toI32 = b ∧ 1 ≤ e.2.2 ∧
      ∀ e' ∈ seen, 1 ≤ e'.2.2 → b ≤ e'.2.1.toI32

theorem scanInv_scanStep {seen : List (Σ _ : SocketAddr, Category × Nat)}
    {acc : Option SocketAddr × Option Int} (e : Σ _ : SocketAddr, Category × Nat)
    (h : ScanInv seen acc) : ScanInv (seen ++ [e]) (scanStep acc e) := by
  obtain ⟨m, _ | b⟩ := acc
  all_goals by_cases hn : e.2.2 ≥ 1 <;> simp only [ScanInv, scanStep, hn, if_true, if_false,
    List.mem_append, List.mem_singleton, or_imp, forall_and, forall_eq] at h ⊢
  · -- the first entry heard from
    exact ⟨e, .inr rfl, rfl, rfl, hn, fun e' he' h1 => absurd (h e' he') (by omega), fun _ => le_rfl⟩
  · exact ⟨h, by omega⟩
  · obtain ⟨e₀, he₀, rfl, rfl, h₀, hmin⟩ := h
    split_ifs with hlt
    · -- a strictly better entry
      exact ⟨e, .inr rfl, rfl, rfl, hn, fun e' he' h1 => (le_of_lt hlt).trans (hmin e' he' h1),
        fun _ => le_rfl⟩
    · exact ⟨e₀, .inl he₀, rfl, rfl, h₀, hmin, fun _ => not_lt.1 hlt⟩
  · obtain ⟨e₀, he₀, rfl, rfl, h₀, hmin⟩ := h
    exact ⟨e₀, .inl he₀, rfl, rfl, h₀, hmin, False.elim⟩

theorem scanInv_foldl (l : List (Σ _ : SocketAddr, Category × Nat)) :
    ∀ seen acc, ScanInv seen acc → ScanInv (seen ++ l) (l.foldl scanStep acc) := by
  induction l with
  | nil => simp
  | cons e l ih =>
    intro seen acc h
    simpa using ih (seen ++ [e]) _ (scanInv_scanStep e h)

/-- The scan finds a candidate as soon as one has been heard from, and what it
finds is a minimal one. -/
theorem settleScan_settled (addrs : Candidates) (a : SocketAddr) (c : Category) (n : Nat)
    (ha : addrs.lookup a = some (c, n)) (hn : 1 ≤ n) :
    ∃ m, settleScan addrs = some m ∧ Settled addrs m := by
  have hinv := scanInv_foldl addrs.entries [] (none, none) (by simp [ScanInv])
  have hmem : ∀ x c n, addrs.lookup x = some (c, n) ↔ ⟨x, (c, n)⟩ ∈ addrs.entries :=
    fun x c n => Option.mem_def.symm.trans AList.mem_lookup_iff
  unfold settleScan
  rcases hr : addrs.entries.foldl scanStep (none, none) with ⟨m, _ | b⟩
  all_goals rw [hr, List.nil_append] at hinv
  · exact absurd (hinv _ ((hmem a c n).1 ha)) (by simp; omega)
  · obtain ⟨⟨x, c₀, n₀⟩, hx, rfl, rfl, h₀, hmin⟩ := hinv
    exact ⟨x, rfl, c₀, n₀, (hmem x c₀ n₀).2 hx, h₀,
      fun a' c' n' ha' h1 => hmin ⟨a', c', n'⟩ ((hmem a' c' n').1 ha') h1⟩

namespace AddressMode

@[simp] theorem receive_established (addr chosen : SocketAddr) (previous : Candidates) :
    (established chosen previous).receive addr = .ok (.established chosen previous) := rfl

@[simp] theorem migrate_discovering (addr : SocketAddr) (addrs : Candidates) :
    (discovering addrs).migrate addr = .discovering addrs := rfl

/-- A datagram from `addr` while discovering: below five its count goes up by
one; at five the channel settles, without panicking, on a minimal candidate
heard from, keeping the counted map. -/
theorem receive_discovering (addr : SocketAddr) (addrs : Candidates) :
    let counted := addrs.insert addr ((addrs.entry addr).1, (addrs.entry addr).2 + 1)
    ((addrs.entry addr).2 + 1 < 5 ∧ (discovering addrs).receive addr = .ok (.discovering counted)) ∨
    (5 ≤ (addrs.entry addr).2 + 1 ∧ ∃ m,
      (discovering addrs).receive addr = .ok (.established m counted) ∧ Settled counted m) := by
  intro counted
  by_cases h5 : (addrs.entry addr).2 + 1 ≥ 5
  · obtain ⟨m, hm, hs⟩ := settleScan_settled counted addr _ _ (AList.lookup_insert _) (by omega)
    exact .inr ⟨h5, m, by simp only [receive, if_pos h5, hm, unwrap]; rfl, hs⟩
  · exact .inl ⟨by omega, by simp only [receive, if_neg h5]; rfl⟩

/-- Migration keeps `previous`, moves only to the datagram's source, and never
raises the chosen address's category. -/
theorem migrate_established (addr chosen : SocketAddr) (previous : Candidates) :
    ∃ c, (established chosen previous).migrate addr = .established c previous ∧
      (c = chosen ∨ c = addr) ∧ (previous.entry c).1.toI32 ≤ (previous.entry chosen).1.toI32 := by
  simp only [migrate]
  split_ifs with hne hcat
  · exact ⟨addr, rfl, .inr rfl, hcat⟩
  · exact ⟨chosen, rfl, .inl rfl, le_rfl⟩
  · exact ⟨chosen, rfl, .inl rfl, le_rfl⟩

theorem Inv.of_settled {chosen : SocketAddr} {previous : Candidates} (h : Settled previous chosen) :
    (established chosen previous).Inv := by
  obtain ⟨c, n, hc, -, hmin⟩ := h
  intro a c' n' ha h1
  simpa [Candidates.entry, hc] using hmin a c' n' ha h1

theorem receive_inv {mode : AddressMode} (h : mode.Inv) (addr : SocketAddr) :
    ∃ mode', mode.receive addr = .ok mode' ∧ mode'.Inv := by
  cases mode with
  | established chosen previous => exact ⟨_, rfl, h⟩
  | discovering addrs =>
    rcases receive_discovering addr addrs with ⟨h5, hr⟩ | ⟨-, m, hr, hs⟩
    · refine ⟨_, hr, fun a c n ha => ?_⟩
      by_cases hx : a = addr
      · subst hx
        simp only [AList.lookup_insert, Option.some.injEq, Prod.mk.injEq] at ha
        omega
      · exact h a c n (by simpa [AList.lookup_insert_ne hx] using ha)
    · exact ⟨_, hr, Inv.of_settled hs⟩

theorem migrate_inv {mode : AddressMode} (h : mode.Inv) (addr : SocketAddr) : (mode.migrate addr).Inv := by
  cases mode with
  | discovering addrs => exact h
  | established chosen previous =>
    obtain ⟨c, hc, -, hle⟩ := migrate_established addr chosen previous
    rw [hc]
    exact fun a c' n' ha h1 => hle.trans (h a c' n' ha h1)

end AddressMode

/-! ### Seeding the candidates -/

theorem categoryOf_toI32 (c : Category) : categoryOf c.toI32 = .ok c := by
  cases c <;> rfl

theorem categoryOf_unknown {o : Int} (h : o ≠ 0 ∧ o ≠ 1 ∧ o ≠ 2) :
    categoryOf o = .error ⟨"internal error: entered unreachable code"⟩ := by
  simp only [categoryOf, Category.toI32]
  split_ifs <;> first | rfl | omega

theorem categoryOf_ok_iff (o : Int) : (∃ c, categoryOf o = .ok c) ↔ o = 0 ∨ o = 1 ∨ o = 2 := by
  simp only [categoryOf, Category.toI32]
  split_ifs <;> simp <;> omega

/-- One path seeds a candidate exactly when its category is known and its
address parses. -/
theorem seedPath_ok_iff (cx : Codecs) (addrs : Candidates) (p : Proto.Path) :
    (∃ r, seedPath cx addrs p = .ok r) ↔
      (p.category = 0 ∨ p.category = 1 ∨ p.category = 2) ∧ ∃ a, cx.parseAddr p.ipaddr = .ok a := by
  rw [← categoryOf_ok_iff]
  rcases hc : categoryOf p.category with _ | c <;> rcases hp : cx.parseAddr p.ipaddr with _ | a <;>
    simp [seedPath, unwrapResult, hc, hp]

theorem foldlM_seedPath_ok_iff (cx : Codecs) (paths : List Proto.Path) :
    ∀ init, (∃ r, paths.foldlM (seedPath cx) init = .ok r) ↔
      ∀ p ∈ paths, (p.category = 0 ∨ p.category = 1 ∨ p.category = 2) ∧
        ∃ a, cx.parseAddr p.ipaddr = .ok a := by
  induction paths with
  | nil => simp
  | cons p ps ih =>
    intro init
    simp only [List.foldlM_cons, Except.bind_eq_ok, List.forall_mem_cons,
      ← seedPath_ok_iff cx init p]
    constructor
    · rintro ⟨r, b, hb, hr⟩
      exact ⟨⟨b, hb⟩, (ih b).1 ⟨r, hr⟩⟩
    · rintro ⟨⟨b, hb⟩, hrest⟩
      obtain ⟨r, hr⟩ := (ih b).2 hrest
      exact ⟨r, b, hb, hr⟩

/-- Seeding panics unless every path has one of the three categories and an
address that parses. -/
theorem seedPaths_ok_iff (cx : Codecs) (paths : List Proto.Path) :
    (∃ addrs, seedPaths cx paths = .ok addrs) ↔
      ∀ p ∈ paths, (p.category = 0 ∨ p.category = 1 ∨ p.category = 2) ∧
        ∃ a, cx.parseAddr p.ipaddr = .ok a :=
  foldlM_seedPath_ok_iff cx paths ∅

theorem foldlM_seedPath_counts (cx : Codecs) (paths : List Proto.Path) :
    ∀ init r, (∀ a c n, init.lookup a = some (c, n) → n = 0) →
      paths.foldlM (seedPath cx) init = .ok r → ∀ a c n, r.lookup a = some (c, n) → n = 0 := by
  induction paths with
  | nil => intro init r h hr; cases hr; exact h
  | cons p ps ih =>
    intro init r h hr
    obtain ⟨b, hb, hr⟩ := Except.bind_eq_ok.1 hr
    refine ih b r (fun a c n ha => ?_) hr
    obtain ⟨cat, -, hb⟩ := Except.bind_eq_ok.1 hb
    obtain ⟨addr, -, hb⟩ := Except.bind_eq_ok.1 hb
    cases hb
    by_cases hx : a = addr
    · subst hx; simp at ha; omega
    · exact h a c n (by simpa [AList.lookup_insert_ne hx] using ha)

/-- Every seeded candidate starts with count zero. -/
theorem seedPaths_counts {cx : Codecs} {paths : List Proto.Path} {addrs : Candidates}
    (h : seedPaths cx paths = .ok addrs) : ∀ a c n, addrs.lookup a = some (c, n) → n = 0 :=
  foldlM_seedPath_counts cx paths ∅ addrs (by simp) h

end Carrier
