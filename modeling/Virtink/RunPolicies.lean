import Virtink.PowerActions
import Virtink.Pods

/-! # Run Policies

    How often a VM can be started. A stopped VM moves to `Pending` when its run
    policy says so, and the write that moves it resets the whole status. So a
    `PowerOn` that lies in the status is good for one start, and so is the
    phase the VM was created in or has failed to. `allowed` counts the starts
    the status still allows; every start uses one up, and every new one comes
    from a patch or from a move to `Failed`.
-/

namespace Virtink

open Calls

/-! ### What a Write Does to the Phase -/

/-- No process takes the phase of the VM back to where it was created. -/
theorem Write.phase_of_empty {i : Proc} {v : View} {r : VM} {st : VMStatus} (h : Write i v r st)
    (hst : st.phase = .empty) : r.status.phase = .empty := by
  by_cases hi : i = .controller
  · subst hi
    cases h with
    | same h | target _ _ _ _ _ _ h | targetPod _ _ _ _ _ _ _ _ _ _ _ h =>
      exact (VMStatus.phase_of_core h).symm.trans hst
    | name _ _ _ h | lost _ h => exact absurd ((VMStatus.phase_of_core h).symm.trans hst) nofun
    | pod p ph _ _ _ _ hph h =>
      have hph' : ph = .empty := (VMStatus.phase_of_core h).symm.trans hst
      cases hph with
      | same => exact hph'
      | _ => cases hph'
    | stop ph _ hph h =>
      have hph' : ph = .empty := (VMStatus.phase_of_core h).symm.trans hst
      subst hph'
      rcases hph with h | h | ⟨h, -⟩ <;> cases h
    | reset ph _ _ hph h =>
      subst h
      rcases hph with rfl | ⟨rfl, -⟩
      · exact hst
      · cases hst
  · rcases h.drift hi with h | h | ⟨-, h | h⟩
    · exact h.symm.trans hst
    all_goals rw [hst] at h; cases h

/-! ### Counting Starts -/

/-- How often a VM with the status `st` can be started as things are. -/
def allowed : RunPolicy → VMStatus → Nat
  | .manual, st => (st.powerAction == .powerOn).toNat
  | .once, st => (st.powerAction == .powerOn).toNat + (st.phase == .empty).toNat
  | .rerunOnFailure, st =>
      (st.powerAction == .powerOn).toNat + (st.phase == .empty).toNat + (st.phase == .failed).toNat
  | _, _ => 0

/-- How often the VM may have been started by now. -/
def World.granted (w : World) : RunPolicy → Nat
  | .manual => w.powerOns
  | .once => 1 + w.powerOns
  | .rerunOnFailure => 1 + w.failures + w.powerOns
  | _ => 0

/-- A VM that is to run uses up a start that is allowed. -/
theorem allowed_of_shouldRun {vm : VM} (hrun : VMController.shouldRun vm = true)
    (halways : vm.spec.runPolicy ≠ .always) : 0 < allowed vm.spec.runPolicy vm.status := by
  unfold VMController.shouldRun at hrun
  cases hp : vm.spec.runPolicy with
  | always => exact absurd hp halways
  | manual =>
    simp only [hp] at hrun
    simp [allowed, hrun]
  | once =>
    simp only [hp, Bool.or_eq_true] at hrun
    simp only [allowed]
    rcases hrun with h | h <;> rw [h, Bool.toNat_true] <;> omega
  | rerunOnFailure =>
    simp only [hp, Bool.or_eq_true] at hrun
    simp only [allowed]
    rcases hrun with (h | h) | h <;> rw [h, Bool.toNat_true] <;> omega
  | empty => simp [hp] at hrun
  | halted => simp [hp] at hrun

/-- A reset for a start leaves no further one. -/
theorem allowed_pending (policy : RunPolicy) : allowed policy { phase := .pending } = 0 := by
  cases policy <;> rfl

/-- A write that does not start the VM allows no more starts than before, but
    for a move to `Failed`. -/
theorem allowed_of_write {i : Proc} {v : View} {r : VM} {st : VMStatus} (h : Write i v r st)
    (policy : RunPolicy) :
    allowed policy st ≤ allowed policy r.status +
      if policy = .rerunOnFailure ∧ movesToFailed r.status st then 1 else 0 := by
  have hpower : (st.powerAction == .powerOn).toNat ≤ (r.status.powerAction == .powerOn).toNat := by
    rcases h.powerAction with h | h
    · exact Nat.le_of_eq (by rw [h])
    · rw [h]; exact Nat.zero_le _
  have hempty : (st.phase == .empty).toNat ≤ (r.status.phase == .empty).toNat := by
    cases he : st.phase == .empty with
    | false => exact Nat.zero_le _
    | true => rw [h.phase_of_empty (by simpa using he)]; exact Nat.le_refl _
  have hfailed : (st.phase == .failed).toNat ≤ (r.status.phase == .failed).toNat +
      if movesToFailed r.status st then 1 else 0 := by
    by_cases hf : st.phase = .failed
    · by_cases hr : r.status.phase = .failed
      · simp [hf, hr]
      · rw [if_pos ⟨hf, hr⟩]
        have := (st.phase == .failed).toNat_le
        omega
    · rw [beq_false_of_ne hf]
      exact Nat.zero_le _
  cases policy with
  | rerunOnFailure => simp only [allowed, true_and]; omega
  | once => simp only [allowed]; omega
  | manual => simp only [allowed]; omega
  | _ => exact Nat.zero_le _

/-! ### The Invariant -/

/-- The run policy of the stored VM is `policy`. -/
def FixedPolicy (policy : RunPolicy) (w : World) (_ : Action) : Prop :=
  ∀ vm, w.vm = some vm → vm.spec.runPolicy = policy

instance (policy : RunPolicy) (w : World) (a : Action) : Decidable (FixedPolicy policy w a) :=
  decidable_of_iff (w.vm.all (·.spec.runPolicy == policy) = true) (by
    cases h : w.vm <;> simp [FixedPolicy, h])

/-- The starts the VM has had and those that are allowed have been granted. -/
def PolicyInv (policy : RunPolicy) (w : World) : Prop :=
  w.incarnation + (w.vm.map (fun vm => allowed policy vm.status)).getD 0 ≤ w.granted policy

section step
variable {w w' : World} {a : Action} {policy : RunPolicy}

theorem Moved.powerOns_le (h : Moved w a w') : w.powerOns ≤ w'.powerOns := by
  rcases h.requests with ⟨-, hon⟩ | ⟨action, -, hon⟩
  · omega
  · rw [hon]
    split
    · omega
    · omega

/-- What a move does not take back. -/
theorem World.granted_mono (policy : RunPolicy) (hon : w.powerOns ≤ w'.powerOns)
    (hfail : w.failures ≤ w'.failures) :
    w.granted policy ≤ w'.granted policy := by
  cases policy <;> simp only [World.granted] <;> omega

/-- A start that a patch allows is granted by it. -/
theorem allowed_of_patch (policy : RunPolicy) (action : PowerAction) (st : VMStatus)
    (hon : w'.powerOns = if action = .powerOn then w.powerOns + 1 else w.powerOns)
    (hfail : w'.failures = w.failures) :
    allowed policy { st with powerAction := action } + w.granted policy ≤
      allowed policy st + w'.granted policy := by
  by_cases ha : action = .powerOn
  · subst ha
    rw [if_pos rfl] at hon
    have := (st.powerAction == .powerOn).toNat_le
    cases policy <;>
      simp only [allowed, World.granted, hon, hfail, beq_self_eq_true, Bool.toNat_true] <;>
      omega
  · rw [if_neg ha] at hon
    have hoff : (action == .powerOn).toNat = 0 := by rw [beq_false_of_ne ha]; rfl
    cases policy <;> simp only [allowed, World.granted, hon, hfail, hoff] <;> omega

/-- A start that a write allows is granted by it. -/
theorem World.granted_commit (w : World) (cur : VM) (st : VMStatus) (policy : RunPolicy) :
    (w.commit cur st).granted policy = w.granted policy +
      if policy = .rerunOnFailure ∧ movesToFailed cur.status st then 1 else 0 := by
  cases policy <;> simp only [World.granted, World.commit, reduceCtorEq, false_and, if_false,
    Nat.add_zero, true_and]
  split <;> omega

theorem PolicyInv.step (hinv : PolicyInv policy w) (halways : policy ≠ .always) (hocc : Occ w)
    (hfixed : FixedPolicy policy w a) (hmove : Moved w a w') : PolicyInv policy w' := by
  unfold PolicyInv at hinv ⊢
  have hon := hmove.powerOns_le
  cases hmove.vmChange hocc with
  | same hvm hb =>
    rw [hvm, hb.incarnation]
    exact Nat.le_trans hinv (World.granted_mono policy hon (Nat.le_of_eq hb.failures.symm))
  | gone hvm hb =>
    have := World.granted_mono policy hon (Nat.le_of_eq hb.failures.symm)
    rw [hvm, hb.incarnation, Option.map_none, Option.getD_none]
    omega
  | touched cur new hcur hnew _ hst hb =>
    rw [hcur] at hinv
    rw [hnew, hb.incarnation, Option.map_some, hst]
    exact Nat.le_trans hinv (World.granted_mono policy hon (Nat.le_of_eq hb.failures.symm))
  | patched action cur _ hcur hw =>
    have hno : ¬ movesToPending cur.status { cur.status with powerAction := action } :=
      fun h => h.2 h.1
    have hnofail : ¬ movesToFailed cur.status { cur.status with powerAction := action } :=
      fun h => h.2 h.1
    have hinc : w'.incarnation = w.incarnation := by rw [hw]; exact if_neg hno
    have hvm : w'.vm.map (fun vm => allowed policy vm.status) =
        some (allowed policy { cur.status with powerAction := action }) := by rw [hw]; rfl
    have hpaid := allowed_of_patch policy action cur.status
      (by rw [hw]) (show w'.failures = w.failures by rw [hw]; exact if_neg hnofail)
    dsimp only at hvm
    rw [hcur, Option.map_some, Option.getD_some] at hinv
    rw [hinc, hvm, Option.getD_some]
    omega
  | written i x ch cur held _ hcur _ hwrite _ _ hw =>
    have hvm : w'.vm.map (fun vm => allowed policy vm.status) = some (allowed policy x.status) := by
      rw [hw]; rfl
    have hgrant : w'.granted policy = (w.commit cur x.status).granted policy := by
      rw [hw]; cases policy <;> rfl
    rw [w.granted_commit] at hgrant
    rw [hcur, Option.map_some, Option.getD_some] at hinv
    rw [hvm, Option.getD_some]
    by_cases hp : movesToPending cur.status x.status
    · -- the VM is started, which uses up a start
      have hinc : w'.incarnation = w.incarnation + 1 := by rw [hw]; exact if_pos hp
      obtain ⟨-, -, hrun, hst⟩ := hwrite.pending hp
      have hpolicy := hfixed cur hcur
      have hpos := allowed_of_shouldRun hrun (by rw [hpolicy]; exact halways)
      rw [hpolicy] at hpos
      rw [hst, allowed_pending]
      omega
    · have hinc : w'.incarnation = w.incarnation := by rw [hw]; exact if_neg hp
      have hle := allowed_of_write hwrite policy
      omega

end step

theorem Reached.policyInv {nodeIP : String → String} {policy : RunPolicy}
    (halways : policy ≠ .always) {w : World} (h : Reached nodeIP (FixedPolicy policy) w) :
    PolicyInv policy w := by
  refine Reached.invariant ?_ ?_ h
  · rintro w ⟨v, hst, -, rfl⟩
    simp only [PolicyInv, World.created, Option.map_some, Option.getD_some, hst]
    cases policy <;> exact Nat.le_refl _
  · intro w a w' hreach hinv hfixed hmove
    exact hinv.step halways hreach.occ hfixed hmove

/-- **Run-policy accounting**: in every run during which the run policy stays
    `policy`, the VM moves to `Pending` never under `Halted`, at most once per
    `PowerOn` patch under `Manual`, once more under `Once`, and once more for
    each move to `Failed` under `RerunOnFailure`. -/
theorem run_policy_accounting {nodeIP : String → String} {policy : RunPolicy} {c : Config}
    (h : Reach (system nodeIP) (FixedPolicy policy) Init c) :
    (policy = .halted → c.store.incarnation = 0) ∧
    (policy = .manual → c.store.incarnation ≤ c.store.powerOns) ∧
    (policy = .once → c.store.incarnation ≤ 1 + c.store.powerOns) ∧
    (policy = .rerunOnFailure →
      c.store.incarnation ≤ 1 + c.store.failures + c.store.powerOns) := by
  have hinv : policy ≠ .always → c.store.incarnation ≤ c.store.granted policy :=
    fun halways => Nat.le_trans (Nat.le_add_right _ _) ((reached_of_reach h).policyInv halways)
  refine ⟨?_, ?_, ?_, ?_⟩
  · rintro rfl
    exact Nat.le_zero.mp (hinv nofun)
  · rintro rfl
    exact hinv nofun
  · rintro rfl
    exact hinv nofun
  · rintro rfl
    exact hinv nofun

/-- A VM that is to run once has been started once. -/
theorem run_policy_accounting_once :
    ∃ c, Reach Sample.cluster (FixedPolicy .once) Init c ∧ c.store.incarnation = 1 ∧
      c.store.incarnation ≤ 1 + c.store.powerOns := by
  have hinit : Init (World.created { Sample.vm with spec := { runPolicy := .once } }) :=
    ⟨_, rfl, rfl, rfl⟩
  have hrun : ∃ c, Reach Sample.cluster (FixedPolicy .once) Init c ∧
      (c.store.incarnation == 1) = true :=
    reach_of_execAll hinit
      (turn .controller [.ok, .ok, .ok, .ok] ++ turn .controller [.ok, .ok, .ok, .ok]) _
      (by decide +kernel)
  obtain ⟨c, hreach, htest⟩ := hrun
  exact ⟨c, hreach, by simpa using htest, (run_policy_accounting hreach).2.2.1 rfl⟩

end Virtink
