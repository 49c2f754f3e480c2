import Virtink.Daemons

/-! # Power Actions

    A user asks for a power action in the status. The daemon calls the
    hypervisor first and clears the request with the status write that ends
    its run. If the write is lost, the request is still there and is executed
    again; if the write goes through, every request is executed at most once.
-/

namespace Virtink

open Calls

/-! ### What a Write Does to the Request -/

/-- A process keeps the request or clears it. -/
theorem Write.powerAction {i : Proc} {v : View} {r : VM} {st : VMStatus} (h : Write i v r st) :
    st.powerAction = r.status.powerAction ∨ st.powerAction = .empty := by
  cases i with
  | controller =>
    cases h with
    | same h | name _ _ _ h | pod _ _ _ _ _ _ _ h | lost _ h | stop _ _ _ h
    | target _ _ _ _ _ _ h | targetPod _ _ _ _ _ _ _ _ _ _ _ h =>
      exact .inl ((VMStatus.powerAction_of_core h).trans rfl)
    | reset _ _ _ _ h => subst h; exact .inr rfl
  | vmm u =>
    cases h with
    | release _ _ _ _ _ _ _ _ h | acquire _ _ _ _ _ _ h => subst h; exact .inl rfl
  | daemon n =>
    cases h.1 with
    | same h | bury _ h | stop _ _ _ h | send _ _ _ _ _ _ _ _ _ _ _ h | sent _ _ _ _ _ _ h
    | lost _ _ _ _ _ _ h | arrive _ _ _ _ _ h => subst h; exact .inl rfl
    | volumes _ h | boot _ _ _ _ h | target _ _ _ _ _ _ _ _ _ h =>
      exact .inl ((VMStatus.powerAction_of_core h).trans rfl)
    | power _ _ _ h => subst h; exact .inr rfl

/-- A power action is asked for. -/
def World.asked (w : World) : Bool := w.vm.any (·.status.powerAction != .empty)

theorem World.asked_of_vm {w w' : World} (h : w'.vm = w.vm) : w'.asked = w.asked := by
  rw [asked, h, asked]

/-- Only a patch asks for a power action, and every patch is counted. -/
theorem Moved.requests {w w' : World} {a : Action} (h : Moved w a w') :
    (w'.patches = w.patches ∧ w'.powerOns = w.powerOns) ∨
      ∃ action : PowerAction, w'.patches = w.patches + 1 ∧
        w'.powerOns = if action = .powerOn then w.powerOns + 1 else w.powerOns := by
  cases h with
  | start i _ | finish i _ => exact .inl ⟨rfl, rfl⟩
  | crash i => cases i <;> exact .inl ⟨rfl, rfl⟩
  | call i o ch _ _ heff => cases heff <;> exact .inl ⟨rfl, rfl⟩
  | event e hev =>
    cases hev with
    | repatch _ | patch _ => exact .inr ⟨_, rfl, rfl⟩
    | _ => exact .inl ⟨rfl, rfl⟩

theorem Moved.patches_le {w w' : World} {a : Action} (h : Moved w a w') :
    w.patches ≤ w'.patches := by
  rcases h.requests with ⟨hpatches, -⟩ | ⟨action, hpatches, -⟩
  · omega
  · omega

/-- A request comes from a patch. -/
theorem Moved.asked {w w' : World} {a : Action} (hocc : Occ w) (h : Moved w a w')
    (hasked : w'.asked = true) : w.asked = true ∨ w.patches < w'.patches := by
  cases h.vmChange hocc with
  | same hvm _ => exact .inl (World.asked_of_vm hvm ▸ hasked)
  | gone hvm _ => rw [World.asked, hvm] at hasked; cases hasked
  | touched cur new hcur hnew _ hst _ =>
    rw [World.asked, hnew, Option.any_some, hst] at hasked
    exact .inl (by rw [World.asked, hcur]; exact hasked)
  | patched action cur _ _ hw => subst hw; exact .inr (Nat.lt_succ_self _)
  | written i x ch cur held _ hcur _ hwrite _ _ hw =>
    subst hw
    have hasked : (x.status.powerAction != .empty) = true := hasked
    rcases hwrite.powerAction with h | h
    · exact .inl (by rw [World.asked, hcur, Option.any_some, ← h]; exact hasked)
    · rw [h] at hasked; cases hasked

/-! ### At Most One Call per Request -/

/-- Power actions that were executed and are still asked for. -/
def powerWindow : Window := fun acted _ => acted == .powered

theorem powerWindow_lawful : powerWindow.Lawful where
  none _ := rfl
  closed _ _ _ h := by cases h

/-- Power actions are executed on the stored VM, and nobody takes the VM from
    under the daemon before the request is cleared. -/
def PowerRecorded (w : World) (a : Action) : Prop := powerWindow.kept w a = true

instance (w : World) (a : Action) : Decidable (PowerRecorded w a) :=
  inferInstanceAs (Decidable (_ = _))

/-- A power action is asked for that has not been executed. -/
def World.requested (w : World) : Nat :=
  if w.asked ∧ powerWindow.isOpen (w.views w.host) = false then 1 else 0

theorem World.requested_le {w : World} {n : Nat} (h : w.asked = true → 1 ≤ n) : w.requested ≤ n := by
  unfold requested
  split
  · next hr => exact h hr.1
  · exact Nat.zero_le _

theorem World.requested_eq_zero {w : World}
    (h : w.asked = true → powerWindow.isOpen (w.views w.host) = true) : w.requested = 0 := by
  refine if_neg fun ⟨hasked, hopen⟩ => ?_
  rw [h hasked] at hopen
  cases hopen

/-- The calls made and the request that is open are all paid for by patches. -/
structure PowerInv (w : World) : Prop where
  held : powerWindow.Held w
  count : w.powerCalls + w.requested ≤ w.patches

/-- A power action is executed: the request was open and no longer is. -/
theorem PowerInv.count_of_power {w w' : World} {n : String} {r : VM} (hinv : PowerInv w)
    (hvm : w.vm = some r) (hr : (w.views (.daemon n)).vm = some r) (hnode : r.status.nodeName = n)
    (haction : r.status.powerAction ≠ .empty) (hacted : (w.views (.daemon n)).acted = .none)
    (hw : w' = { w with powerCalls := w.powerCalls + 1 }.see (.daemon n)
      { w.views (.daemon n) with acted := .powered }) :
    w'.powerCalls + w'.requested ≤ w'.patches := by
  have hhost : w.host = .daemon n := by rw [World.host_eq hvm, hnode]
  have hbefore : w.requested = 1 := by
    refine if_pos ⟨?_, ?_⟩
    · rw [World.asked, hvm, Option.any_some]; exact bne_iff_ne.mpr haction
    · rw [hhost, Window.isOpen, hr, Option.any_some, hacted]; rfl
  have hafter : w'.requested = 0 := by
    refine World.requested_eq_zero fun _ => ?_
    have hhost' : w'.host = .daemon n := by rw [← hhost, hw]; rfl
    rw [hhost', hw, World.see_views_self, Window.isOpen]
    simp [hr, powerWindow]
  have := hinv.count
  rw [hbefore] at this
  rw [hafter, hw]
  exact this

/-- A request that was executed stays so until it is cleared. -/
theorem PowerInv.requested_of_open {w w' : World} {a : Action} (hinv : PowerInv w)
    (hok : PowerRecorded w a) (hmove : Moved w a w')
    (hopen : powerWindow.isOpen (w.views w.host) = true) : w'.requested = 0 := by
  obtain ⟨n, hn⟩ : ∃ n, w.host = .daemon n := ⟨_, rfl⟩
  rw [hn] at hopen
  refine World.requested_eq_zero fun hasked => ?_
  have hpowered : (w.views (.daemon n)).acted = .powered := by
    obtain ⟨r, -, h⟩ := (Option.any_eq_true ..).mp hopen
    exact beq_iff_eq.mp h
  rcases hinv.held.next powerWindow_lawful hok hmove hopen with
    ⟨hvm, hview, hacted⟩ | ⟨x, ch, r, held, -, hr, hwrite, hw⟩
  · have hhost : w'.host = .daemon n := by rw [← hn, World.host, hvm]; rfl
    rcases hacted with hacted | ⟨hacted, -⟩
    · rw [hhost, Window.isOpen, hacted, hview]; exact hopen
    · rw [hpowered] at hacted; cases hacted
  · -- the write that went through has cleared it
    have hcleared := hwrite.2
    rw [Recorded, hpowered] at hcleared
    simp [hw, World.asked, World.release, World.see, World.putStatus_vm hr, hcleared] at hasked

theorem PowerInv.step {w w' : World} {a : Action} (hocc : Occ w) (hinv : PowerInv w)
    (hok : PowerRecorded w a) (hmove : Moved w a w') : PowerInv w' where
  held := hinv.held.step powerWindow_lawful hok hmove
  count := by
    by_cases hpower : w'.powerCalls = w.powerCalls
    · rw [hpower]
      have hcount := hinv.count
      have hle := hmove.patches_le
      by_cases hopen : powerWindow.isOpen (w.views w.host) = true
      · rw [hinv.requested_of_open hok hmove hopen]
        omega
      · -- a new request comes with a new patch
        have hopen : powerWindow.isOpen (w.views w.host) = false := by simpa using hopen
        by_cases hasked : w'.asked = true
        · have hone : w'.requested ≤ 1 := World.requested_le fun _ => Nat.le_refl 1
          rcases hmove.asked hocc hasked with h | h
          · have : w.requested = 1 := if_pos ⟨h, hopen⟩
            omega
          · omega
        · have : w'.requested = 0 := World.requested_eq_zero fun h => absurd h hasked
          omega
    · cases hmove.daemonMove with
      | power n pod c ch r ha hr hacts hphase hm haction hacted hw =>
        subst ha
        exact hinv.count_of_power (Window.kept_current hok hr rfl) hr
          (hacts.nodeName_of_running hphase hm) haction hacted hw
      | other _ hnodes | write _ _ _ _ _ _ _ _ hnodes => exact absurd hnodes.powerCalls hpower
      | sendEnds _ _ _ _ _ _ _ _ _ h => exact absurd h hpower
      | _ => subst_vars; exact absurd rfl hpower

/-- **Every power action request is executed at most once**, if the VM is not
    taken from under a daemon between the call and the write. -/
theorem power_actions_paid {nodeIP : String → String} {c : Config}
    (h : Reach (system nodeIP) PowerRecorded Init c) : c.store.powerCalls ≤ c.store.patches := by
  have hinv : PowerInv c.store := by
    refine Reached.invariant ?_ ?_ (reached_of_reach h)
    · rintro w ⟨v, hst, -, rfl⟩
      refine ⟨fun n hopen => (by cases hopen), ?_⟩
      rw [World.requested_eq_zero]
      · exact Nat.le_refl 0
      · intro hasked
        simp [World.asked, World.created, hst] at hasked
    · intro w a w' hreach hinv hok hmove
      exact hinv.step hreach.occ hok hmove
  exact Nat.le_trans (Nat.le_add_right ..) hinv.count

/-- A reset is asked for and executed. -/
def Sample.reset : Script :=
  Sample.running ++ [.event (.patchPowerAction .reset)] ++
    turn (.daemon "a") [.ok, .ok, .info { state := .running }, .ok, .ok]

/-- The sample VM after a reset. -/
theorem power_actions_paid_reset :
    ∃ c, Reach Sample.cluster PowerRecorded Init c ∧ c.store.powerCalls = 1 ∧
      c.store.powerCalls ≤ c.store.patches := by
  obtain ⟨c, hreach, htest⟩ := Sample.reach PowerRecorded Sample.reset
    (fun c => c.store.powerCalls == 1) (by decide +kernel)
  exact ⟨c, hreach, beq_iff_eq.mp htest, power_actions_paid hreach⟩

/-- Between the reset and the write that clears the request, the VM controller
    updates the conditions. The write is refused and the guest is reset again. -/
theorem power_action_repeated :
    ∃ c, Reachable Sample.cluster Init c ∧ c.store.patches = 1 ∧ c.store.powerCalls = 2 := by
  obtain ⟨c, hreach, htest⟩ := Sample.reach anyStep
    (Sample.running ++ [.event (.patchPowerAction .reset),
      .start (.daemon "a"), .call (.daemon "a") .ok, .call (.daemon "a") .ok,
      .call (.daemon "a") (.info { state := .running }), .call (.daemon "a") .ok] ++
      turn .controller [.ok, .ok, .ok, .ok, .ok, .ok, .ok] ++
      [.call (.daemon "a") .ok, .finish (.daemon "a")] ++
      turn (.daemon "a") [.ok, .ok, .info { state := .running }, .ok, .ok])
    (fun c => c.store.patches == 1 && c.store.powerCalls == 2) (by decide +kernel)
  rw [Bool.and_eq_true, beq_iff_eq, beq_iff_eq] at htest
  exact ⟨c, hreach, htest⟩

end Virtink
