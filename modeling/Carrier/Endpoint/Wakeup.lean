import Carrier.Endpoint.System

/-!
# The wake-up `poll` asks for

Each call of `poll` starts its loop with a wake-up 600 seconds away and only
ever merges earlier ones into it: the handlers' own deadlines and the engines'
`Later`. When it returns `Again`, the wake-up it asks for is therefore at most
600 seconds away, over every run.
-/

namespace Carrier

open Endpoint

variable {cx : Codecs} {ep ep' : Endpoint} {σ σ' : Sys} {op : Op} {rep : Reply}

/-- A wake-up at most 600 seconds (600000 ms) away. -/
def Capped (later : Option Nat) : Prop := ∃ d, later = some d ∧ d ≤ 600000

theorem Capped.merge {l : Option Nat} (h : Capped l) (b : Option Nat) : Capped (merge l b) := by
  obtain ⟨d, rfl, hd⟩ := h
  cases b with
  | none => exact ⟨d, rfl, hd⟩
  | some b => exact ⟨min d b, rfl, le_trans (min_le_left _ _) hd⟩

namespace Endpoint

theorem shakeStep_later {polls : UInt32 → HandlerPoll}
    {acc acc' : Endpoint × UdpChannel × Option Nat} {s : UInt32}
    (h : shakeStep cx polls acc s = .ok acc') (hc : Capped acc.2.2) : Capped acc'.2.2 := by
  obtain ⟨⟨chan, r⟩, -, h⟩ := Except.bind_eq_ok.1 h
  dsimp only at h
  split at h <;> cases h
  exacts [hc, hc.merge _]

theorem shake_later {chan chan' : UdpChannel}
    {polls : UInt32 → HandlerPoll} {later later' : Option Nat}
    (h : ep.shake cx chan polls later = .ok (ep', chan', later')) (hc : Capped later) : Capped later' :=
  foldlM_shakeStep_rel (fun a b => Capped a.2.2 → Capped b.2.2) (fun _ => id)
    (fun h₁ h₂ hc => h₂ (h₁ hc)) (fun h hc => shakeStep_later h hc) h hc

theorem dispatch_later {r : RoutingKey} {chan chan' : UdpChannel}
    {pass pass' : Pass} {i : VisitInput} {p : ChannelProgress} {ret : Option (Except Error Event)}
    (h : ep.dispatch cx r chan pass i p = .ok (ep', chan', pass', ret)) (hc : Capped pass.later) :
    Capped pass'.later := by
  cases p <;> simp only [dispatch] at h <;> (repeat' split at h)
  all_goals (try obtain ⟨_, -, h⟩ := Except.bind_eq_ok.1 h)
  all_goals cases h
  all_goals first | exact hc | exact hc.merge _

theorem visit_later {r : RoutingKey} {chan : UdpChannel}
    {pass pass' : Pass} {i : VisitInput} {ret : Option (Except Error Event)}
    (h : ep.visit cx r chan pass i = .ok (ep', pass', ret)) (hc : Capped pass.later) :
    Capped pass'.later := by
  unfold visit at h
  obtain ⟨⟨ep₁, chan₁, later₁⟩, hs, h⟩ := Except.bind_eq_ok.1 h
  have h₁ := shake_later hs hc
  dsimp only at h
  split at h
  · cases h; exact h₁
  · obtain ⟨⟨ep₂, chan₂, pass₂, _ | r₂⟩, hd, h⟩ := Except.bind_eq_ok.1 h
    · obtain ⟨⟨ep₃, chan₃, later₃⟩, hs', h⟩ := Except.bind_eq_ok.1 h
      cases h
      exact shake_later hs' (dispatch_later hd h₁)
    · cases h
      exact dispatch_later hd h₁

end Endpoint

/-- While `poll` runs, the wake-up of its pass is at most 600 seconds away. -/
def Sys.WakeupCapped (σ : Sys) : Prop := ∀ pass, σ.ctl = .polling pass → Capped pass.later

theorem step_wakeupCapped
    (h : step cx σ op = some (σ', rep)) (hσ : σ.WakeupCapped) :
    σ'.WakeupCapped ∧ ∀ t, rep = .again t → Capped t := by
  rcases step_cases h with ⟨p, -, hc, rfl⟩ | ⟨-, hc, hcall⟩ | ⟨_, _, _, -, -, -, hc⟩ |
    ⟨i, pass, chan, pass', ret, -, hσp, -, -, hv, hret⟩ | ⟨pass, ev, -, hσp, -, -, hc⟩
  · exact ⟨fun _ h => by simp [hc] at h, nofun⟩
  · refine ⟨fun _ h => by simp [hc] at h, fun t ht => ?_⟩
    cases op <;> simp only [CallResult] at hcall <;> obtain ⟨_, _, hr⟩ := hcall <;> simp_all
  · rcases hc with ⟨-, hc, rfl⟩ | ⟨_, -, hc, rfl⟩
    · refine ⟨fun _ h => ?_, nofun⟩
      simp only [hc, Ctl.polling.injEq] at h
      subst h
      exact ⟨600000, rfl, le_rfl⟩
    · exact ⟨fun _ h => by simp [hc] at h, nofun⟩
  · have := visit_later hv (hσ pass hσp)
    rcases hret with ⟨-, hc, rfl⟩ | ⟨_, -, hc, rfl⟩
    · refine ⟨fun _ h => ?_, nofun⟩
      simp only [hc, Ctl.polling.injEq] at h
      exact h ▸ this
    · exact ⟨fun _ h => by simp [hc] at h, nofun⟩
  · have hl := hσ pass hσp
    rcases hc with ⟨_, -, hc, rfl⟩ | ⟨-, -, hc, rfl⟩ | ⟨-, -, hc, rfl⟩
    · exact ⟨fun _ h => by simp [hc] at h, nofun⟩
    · refine ⟨fun _ h => ?_, nofun⟩
      simp only [hc, Ctl.polling.injEq] at h
      exact h ▸ hl
    · exact ⟨fun _ h => by simp [hc] at h, fun t ht => by cases ht; exact hl⟩

/-- Over every run from `Endpoint::new`, each `Again` that `poll` returns asks
for a wake-up at most 600 seconds away. -/
theorem run_wakeup_capped (cx : Codecs) (brokerRoute : RoutingKey) (identity : Identity)
    (addr : SocketAddr) (ops : List Op) :
    ∀ x ∈ run cx (Sys.init brokerRoute identity addr) ops, ∀ t, x.2.1 = .again t → Capped t := by
  intro x hx
  obtain ⟨σ, hσ, hst⟩ := run_step_of_inv Sys.WakeupCapped (fun hσ hst => (step_wakeupCapped hst hσ).1)
    (fun _ h => by simp [Sys.init] at h) hx
  exact (step_wakeupCapped hst hσ).2

/-- A `poll` whose broker engine asks to be woken in 5 ms returns `Again` with
that wake-up. -/
theorem run_wakeup_capped_later :
    ∃ x ∈ run Codecs.sample (Sys.init 1 ⟨[1]⟩ ⟨[10, 0, 0, 1], 4000⟩)
        [.receive (.error .wouldBlock) (.ok ()), .visit (.answer 1 (.later 5)), .endPass], x.2.1 = .again (some 5) ∧ Capped (some 5) := by
  have hne : run Codecs.sample (Sys.init 1 ⟨[1]⟩ ⟨[10, 0, 0, 1], 4000⟩)
        [.receive (.error .wouldBlock) (.ok ()), .visit (.answer 1 (.later 5)), .endPass] ≠ [] := List.ne_nil_of_length_pos (by decide)
  have hx : ((run Codecs.sample (Sys.init 1 ⟨[1]⟩ ⟨[10, 0, 0, 1], 4000⟩)
        [.receive (.error .wouldBlock) (.ok ()), .visit (.answer 1 (.later 5)), .endPass]).getLast hne).2.1 = .again (some 5) := rfl
  exact ⟨_, List.getLast_mem hne, hx,
    run_wakeup_capped _ _ _ _ _ _ (List.getLast_mem hne) _ hx⟩

end Carrier
