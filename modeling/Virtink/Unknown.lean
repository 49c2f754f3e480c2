import Virtink.Pointers

/-! # VMs in the Phase Unknown

    The VM controller moves a VM to `Unknown` when the node of its pod is lost,
    and does nothing for a VM in this phase: the guest may still run there. Only
    the daemon of that node takes the VM out of it, and only when the VM is being
    deleted. Until then the guest is not started a second time.
-/

namespace Virtink

open Calls

/-- The daemon of node `n` lets a VM in `Unknown` go that is being deleted. -/
def Buried (n : String) (c : Config) (a : Action) (c' : Config) : Prop :=
  (∃ x ch, a = .call (.daemon n) (.updateVMStatus x) ch) ∧
    ∃ vm vm', c.store.vm = some vm ∧ c'.store.vm = some vm' ∧ vm.deletionTimestamp ≠ none ∧
      vm.status.phase = .unknown ∧ vm'.status.phase = .succeeded

/-- The status is one of a VM in `Unknown` that was on the node of `st`. -/
def StillUnknown (st st' : VMStatus) : Prop :=
  st'.phase = .unknown ∧ st'.nodeName = st.nodeName ∧ st'.vmPodName = st.vmPodName

/-- A VM in `Unknown` is left alone by everybody but the daemon of its node. -/
theorem Write.of_unknown {i : Proc} {v : View} {r : VM} {st : VMStatus} (h : Write i v r st)
    (hr : r.status.phase = .unknown) :
    StillUnknown r.status st ∨
      (i = .daemon r.status.nodeName ∧ r.deletionTimestamp ≠ none ∧ st.phase = .succeeded) := by
  have hacts : ∀ {n}, ¬ Acts n r := by
    intro n hacts
    cases hacts with
    | scheduled _ hphase _ | running _ hphase _ _ | target _ _ hphase _ _ _
    | source _ _ hphase _ _ _ => rw [hr] at hphase; cases hphase
  cases i with
  | controller =>
    cases h with
    | same h =>
      refine .inl ⟨(VMStatus.phase_of_core h).trans hr, ?_, ?_⟩
      · rw [VMStatus.nodeName_of_core h]; rfl
      · rw [VMStatus.vmPodName_of_core h]; rfl
    | pod _ _ hphase _ _ _ _ _ => rw [hr] at hphase; rcases hphase with h | h <;> cases h
    | reset _ hphase _ _ _ => rw [hr] at hphase; rcases hphase with h | h | h <;> cases h
    | name _ hphase _ _ | lost hphase _ | stop _ hphase _ _ | target _ _ hphase _ _ _ _
    | targetPod _ _ _ _ hphase _ _ _ _ _ _ _ => rw [hr] at hphase; cases hphase
  | vmm u =>
    cases h with
    | release _ _ _ _ _ _ _ _ h | acquire _ _ _ _ _ _ h => subst h; exact .inl ⟨hr, rfl, rfl⟩
  | daemon n =>
    cases h.1 with
    | same h => subst h; exact .inl ⟨hr, rfl, rfl⟩
    | bury hb h => subst h; exact .inr ⟨by rw [hb.2], hb.1, rfl⟩
    | volumes h _ | boot _ h _ _ _ | power h _ _ _ | stop h _ _ _ | target _ _ _ _ h _ _ _ _ _
    | send _ _ _ h _ _ _ _ _ _ _ _ | sent _ h _ _ _ _ _ | lost _ h _ _ _ _ _
    | arrive _ h _ _ _ _ => exact absurd h hacts

/-- **Step lemma** for a VM that stays in the store. -/
theorem unknown_step {nodeIP : String → String} {ok : World → Action → Prop} {c c' : Config}
    {a : Action} (hreach : Reach (system nodeIP) ok Init c) (hstep : Step (system nodeIP) c a c')
    {vm vm' : VM} (hvm : c.store.vm = some vm) (hphase : vm.status.phase = .unknown)
    (hvm' : c'.store.vm = some vm') :
    StillUnknown vm.status vm'.status ∨ Buried vm.status.nodeName c a c' := by
  have hchange := (moved_of_step hreach hstep).vmChange (reached_of_reach hreach).occ
  cases hchange.statusChange hvm' with
  | quiet cur action hcur hst =>
    rw [hvm] at hcur; cases hcur
    rw [hst]
    exact .inl ⟨hphase, rfl, rfl⟩
  | written i x ch cur held ha hcur _ hwrite _ _ =>
    rw [hvm] at hcur; cases hcur
    rcases hwrite.of_unknown hphase with hstill | ⟨rfl, hdel, hst⟩
    · exact .inl hstill
    · exact .inr ⟨⟨x, ch, ha⟩, vm, vm', hvm, hvm', hdel, hphase, hst⟩

/-- A VM in `Unknown` gets no pods: those it has after a step were there before. -/
theorem unknown_pods_step {nodeIP : String → String} {ok : World → Action → Prop} {c c' : Config}
    {a : Action} (hreach : Reach (system nodeIP) ok Init c) (hstep : Step (system nodeIP) c a c')
    {vm vm' : VM} (hvm : c.store.vm = some vm) (hphase : vm.status.phase = .unknown)
    (hvm' : c'.store.vm = some vm') {p' : Pod} (hp' : p' ∈ c'.store.pods)
    (hown : p'.isControlledBy vm' = true) :
    ∃ p ∈ c.store.pods, p.isControlledBy vm = true ∧ p'.uid = p.uid := by
  have hreached := reached_of_reach hreach
  have hmove := moved_of_step hreach hstep
  obtain ⟨cur, hcur, huid⟩ := hmove.vmStep.uid hvm'
  rw [hvm] at hcur; cases hcur
  rcases hmove.podsChange.origin hp' with ⟨p, hp, hlater⟩ | ⟨hnew, -, -, -⟩
  · rw [Pod.isControlledBy_congr hlater.controller huid.symm] at hown
    exact ⟨p, hp, hown, hlater.uid⟩
  · rw [Pod.isControlledBy_congr rfl huid.symm] at hown
    cases hnew with
    | foreign hforeign => rw [hforeign vm hvm] at hown; cases hown
    | created t r hr hcreate hc _ =>
      -- whatever the controller has read, it was in `Unknown` already
      have hread : r.status.phase = .unknown := by
        have hdrift := hreached.pointerInv.drift vm r hvm hr
        rw [hphase] at hdrift
        rcases hdrift with h | h | ⟨-, h | h⟩
        · exact h.symm
        all_goals cases h
      cases hcreate with
      | vmPod h _ _ _ _ | target _ h _ _ _ _ _ => rw [hread] at h; cases h
      | volumePod q hq _ _ _ hpod =>
        unfold Pod.isControlledBy at hown
        rw [hc, hpod] at hown
        exact absurd (by simpa using hown) (hreached.storeInv.seen_not_vm vm q hvm hq)

/-- **A lost guest is not started again**: for as long as the VM is stored, it stays
    in `Unknown` and every pod of it is one it had before, whatever its run policy,
    whichever power actions are asked for and whoever is restarted, until the VM is
    deleted and the daemon of the lost node has written its end. -/
theorem unknown_until_buried {nodeIP : String → String} {c c' : Config}
    (hreach : Reachable (system nodeIP) Init c) {vm vm' : VM} (hvm : c.store.vm = some vm)
    (hphase : vm.status.phase = .unknown) (hsteps : Steps (system nodeIP) anyStep c c')
    (hvm' : c'.store.vm = some vm') :
    (StillUnknown vm.status vm'.status ∧ ∀ p' ∈ c'.store.pods, p'.isControlledBy vm' = true →
      ∃ p ∈ c.store.pods, p.isControlledBy vm = true ∧ p'.uid = p.uid) ∨
    ∃ c₁ a c₂, Steps (system nodeIP) anyStep c c₁ ∧ Step (system nodeIP) c₁ a c₂ ∧
      Buried vm.status.nodeName c₁ a c₂ ∧ Steps (system nodeIP) anyStep c₂ c' := by
  induction hsteps generalizing vm' with
  | refl =>
    rw [hvm] at hvm'; cases hvm'
    exact .inl ⟨⟨hphase, rfl, rfl⟩, fun p hp hown => ⟨p, hp, hown, rfl⟩⟩
  | tail hsteps _ hstep ih =>
    have hreach₁ := hreach.steps hsteps
    have hmove := moved_of_step hreach₁ hstep
    obtain ⟨vm₁, hvm₁⟩ := (hmove.vmChange (reached_of_reach hreach₁).occ).vm_before hvm'
    rcases ih hvm₁ with ⟨⟨hphase₁, hnode₁, hname₁⟩, hpods₁⟩ | hburied
    · rcases unknown_step hreach₁ hstep hvm₁ hphase₁ hvm' with ⟨hphase', hnode', hname'⟩ | hburied
      · refine .inl ⟨⟨hphase', hnode'.trans hnode₁, hname'.trans hname₁⟩, fun p' hp' hown => ?_⟩
        obtain ⟨p₁, hp₁, hown₁, huid₁⟩ :=
          unknown_pods_step hreach₁ hstep hvm₁ hphase₁ hvm' hp' hown
        obtain ⟨p, hp, hown₀, huid⟩ := hpods₁ p₁ hp₁ hown₁
        exact ⟨p, hp, hown₀, huid₁.trans huid⟩
      · rw [hnode₁] at hburied
        exact .inr ⟨_, _, _, hsteps, hstep, hburied, .refl⟩
    · obtain ⟨c₁, a, c₂, hfirst, hbury, hburied, hlast⟩ := hburied
      exact .inr ⟨c₁, a, c₂, hfirst, hbury, hburied, .tail hlast trivial hstep⟩

/-- The node of the sample VM is lost, and the VM is deleted. -/
theorem unknown_until_buried_deleted :
    ∃ c c' vm vm', Reachable Sample.cluster Init c ∧ c.store.vm = some vm ∧
      vm.status.phase = .unknown ∧ Steps Sample.cluster anyStep c c' ∧ c'.store.vm = some vm' ∧
      vm'.deletionTimestamp.isSome = true ∧
      ((StillUnknown vm.status vm'.status ∧ ∀ p' ∈ c'.store.pods, p'.isControlledBy vm' = true →
        ∃ p ∈ c.store.pods, p.isControlledBy vm = true ∧ p'.uid = p.uid) ∨
      ∃ c₁ a c₂, Steps Sample.cluster anyStep c c₁ ∧ Step Sample.cluster c₁ a c₂ ∧
        Buried vm.status.nodeName c₁ a c₂ ∧ Steps Sample.cluster anyStep c₂ c') := by
  obtain ⟨c, c', hreach, hsteps, htest⟩ := Sample.later anyStep
    (Sample.running ++ [.event (.setPodPhase "uid-a" .unknown)] ++
      turn .controller [.ok, .ok, .ok, .ok])
    ([.event .deleteVM] ++ turn .controller [.ok, .ok, .ok])
    (fun c c' => c.store.vm.any (·.status.phase == .unknown) &&
      c'.store.vm.any (·.deletionTimestamp.isSome)) (by decide +kernel)
  simp only [Bool.and_eq_true, Option.any_eq_true, beq_iff_eq] at htest
  obtain ⟨⟨vm, hvm, hphase⟩, vm', hvm', hdel⟩ := htest
  exact ⟨c, c', vm, vm', hreach, hvm, hphase, hsteps, hvm', hdel,
    unknown_until_buried hreach hvm hphase hsteps hvm'⟩

end Virtink
