import Virtink.Names

/-! # Garbage Collection

    After its status write the controller deletes the VM pods that the status
    it has written does not name. Meanwhile a daemon may make the target pod
    the VM pod and a migration may take or give back the record, but only the
    controller itself ever puts a new pod name into the status. So all names
    in the store are among those in its copy.
-/

namespace Virtink

open Calls

/-- What keeps the garbage collector from deleting a pod that is in use. -/
structure GarbageInv (w : World) : Prop where
  /-- The names in the store are among those in the copy of the controller. -/
  copy : ∀ r cur, (w.views .controller).vm = some r → w.vm = some cur →
    ∀ s ∈ cur.status.named, s ≠ "" → s ∈ r.status.named
  /-- VM pods have names, -/
  pods : ∀ vm, w.vm = some vm → ∀ p ∈ w.pods, p.isControlledBy vm = true → p.name ≠ ""
  /-- and so have those that the controller has listed. -/
  listed : ∀ vm l, w.vm = some vm → (w.views .controller).pods = some l → ∀ p ∈ l, p.name ≠ ""

namespace GarbageInv

variable {w w' : World} {a : Action}

theorem copy_step (hinv : GarbageInv w) (hocc : Occ w) (hmove : Moved w a w') {r cur' : VM}
    (hr : (w'.views .controller).vm = some r) (hcur' : w'.vm = some cur') {s : String}
    (hs : s ∈ cur'.status.named) (hne : s ≠ "") : s ∈ r.status.named := by
  rcases hmove.holdsCurrent .controller r hr with hold | hnow | ⟨-, hgone⟩
  · cases (hmove.vmChange hocc).statusChange hcur' with
    | quiet cur action hcur hst =>
      rw [hst] at hs
      exact hinv.copy r cur hold hcur s hs hne
    | written i x ch cur held _ hcur _ hwrite hheld hw =>
      subst hw
      rcases hwrite.nameMove.named hs hne with hs | ⟨rfl, -⟩
      · exact hinv.copy r cur hold hcur s hs hne
      · -- the controller has written the name itself and holds what it wrote
        rw [World.release, World.see_views_self] at hr
        rw [hheld r hr]
        exact hs
  · rw [hnow] at hcur'; cases hcur'; exact hs
  · rw [hgone] at hcur'; cases hcur'

theorem pods_step (hinv : GarbageInv w) (hinc : IncarnationInv w) (hstore : StoreInv w)
    (hocc : Occ w) (hmove : Moved w a w') {vm' : VM} (hvm' : w'.vm = some vm') {p' : Pod}
    (hp' : p' ∈ w'.pods) (hown : p'.isControlledBy vm' = true) : p'.name ≠ "" := by
  rcases hinc.pod_origin hstore hocc hmove hvm' hp' hown with
    ⟨vm, p, hvm, hp, hlater, hown, -⟩ | ⟨-, hne, -⟩
  · rw [hlater.name]
    exact hinv.pods vm hvm p hp hown
  · exact hne

theorem listed_step (hinv : GarbageInv w) (hocc : Occ w) (hmove : Moved w a w') {vm' : VM}
    (hvm' : w'.vm = some vm') {l : List Pod} (hl : (w'.views .controller).pods = some l)
    {p : Pod} (hp : p ∈ l) : p.name ≠ "" := by
  obtain ⟨vm, hvm, -⟩ := hmove.vmStep.uid hvm'
  rcases hmove.ctrlSees.pods_cases hl with ⟨hl, -⟩ | ⟨r, hr, hperm, -⟩
  · exact hinv.listed vm l hvm hl p hp
  · -- what is listed are the pods the VM controls
    obtain ⟨hmem, huid⟩ := List.mem_filter.mp (hperm.mem_iff.mp hp)
    refine hinv.pods vm hvm p hmem ?_
    have hru := (hocc .controller r vm hr hvm).uid
    rw [beq_iff_eq, hru] at huid
    exact isControlledBy_of_vmUID huid

theorem step (hinv : GarbageInv w) (hinc : IncarnationInv w) (hstore : StoreInv w) (hocc : Occ w)
    (hmove : Moved w a w') : GarbageInv w' where
  copy _ _ hr hcur' _ hs hne := hinv.copy_step hocc hmove hr hcur' hs hne
  pods _ hvm' _ hp' hown := hinv.pods_step hinc hstore hocc hmove hvm' hp' hown
  listed _ _ hvm' hl _ hp := hinv.listed_step hocc hmove hvm' hl hp

end GarbageInv

theorem Reached.garbageInv {nodeIP : String → String} {ok : World → Action → Prop} {w : World}
    (h : Reached nodeIP ok w) : GarbageInv w := by
  refine Reached.invariant ?_ ?_ h
  · rintro w ⟨v, -, -, rfl⟩
    exact {
      copy := fun r cur hr => by cases hr
      pods := fun vm _ p hp => by cases hp
      listed := fun vm l _ hl => by cases hl }
  · intro w a w' hreach hinv _ hmove
    exact hinv.step hreach.incarnationInv hreach.storeInv hreach.occ hmove

/-- **Garbage collection is safe**: a pod that `gcVMPods` deletes is named by
    the stored status neither as the VM pod nor as the target pod. -/
theorem gc_spares_named_pods {nodeIP : String → String} {c c' : Config}
    (h : Reachable (system nodeIP) Init c) {name : String} {ch : Choice}
    (hstep : Step (system nodeIP) c (.call .controller (.deletePod name .garbage) ch) c')
    {vm : VM} (hvm : c.store.vm = some vm) :
    name ≠ vm.status.vmPodName ∧
      ∀ m, vm.status.migration = some m → name ≠ m.targetVMPodName := by
  have hinv := (reached_of_reach h).garbageInv
  obtain ⟨r, l, hr, hl, ⟨p, hp, rfl⟩, hfree⟩ := (moved_of_step h hstep).guard
  have hne : p.name ≠ "" := hinv.listed vm l hvm hl p hp
  have hnot : p.name ∉ vm.status.named := fun hs => hfree (hinv.copy r vm hr hvm p.name hs hne)
  rw [VMStatus.mem_named, not_or, not_exists] at hnot
  exact ⟨hnot.1, fun m hm heq => hnot.2 m ⟨hm, heq.symm⟩⟩

/-- The garbage collection deletes a pod while there is a VM. -/
def Sample.collects (pod : String) (w : World) : Action → Bool
  | .call .controller (.deletePod name .garbage) _ => name == pod && w.vm.isSome
  | _ => false

/-- After the sample migration the source pod is collected. -/
theorem gc_spares_named_pods_migrated :
    ∃ c c' vm ch, Reachable Sample.cluster Init c ∧
      Step Sample.cluster c (.call .controller (.deletePod "pod-a" .garbage) ch) c' ∧
      c.store.vm = some vm ∧ "pod-a" ≠ vm.status.vmPodName ∧
      ∀ m, vm.status.migration = some m → "pod-a" ≠ m.targetVMPodName := by
  obtain ⟨c, a, c', hreach, hstep, htest⟩ := Sample.step anyStep
    (Sample.migrated ++ [.start .controller] ++
      ([.ok, .ok, .ok, .ok, .ok, .ok, .ok] : List Choice).map (.call .controller))
    (.call .controller .ok)
    (fun c a _ => Sample.collects "pod-a" c.store a)
    (by decide +kernel)
  unfold Sample.collects at htest
  split at htest
  · next name ch =>
    rw [Bool.and_eq_true, beq_iff_eq] at htest
    obtain ⟨rfl, hsome⟩ := htest
    obtain ⟨vm, hvm⟩ := Option.isSome_iff_exists.mp hsome
    exact ⟨c, c', vm, ch, hreach, hstep, hvm, gc_spares_named_pods hreach hstep hvm⟩
  · cases htest

end Virtink
