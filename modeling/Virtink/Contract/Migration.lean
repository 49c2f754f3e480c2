import Virtink.Contract

/-! # The Migration Controller Keeps Its Contract -/

namespace Virtink

open Calls

namespace VMMController

variable {nodeIP : String → String} {v : View} {u : UID}

/-- The migration `y` may be written back, or, if its reconcile has failed, the
    worker may stop. -/
structure Writable (u : UID) (y : VMM × Option Err) (v : View) : Prop where
  write : y.2 = none → guard (.vmm u) (.updateVMMStatus y.1) v
  quit : y.2 ≠ none → done (.vmm u) v

theorem quit_of_vm {x : VMM} {e : Err} (h : v.vm = none) : Writable u (x, some e) v := by
  refine ⟨fun h => by simp at h, fun _ x hf => ?_⟩
  obtain ⟨-, -, r, m, hr, -⟩ := hf
  rw [h] at hr; cases hr

/-- Afterwards the view has the VM, or knows that there is none. -/
theorem getVM_wp (hnone : v.vm = none) :
    (contract nodeIP).wp (.vmm u) getVM
      (fun r v' => v'.vmm = v.vmm ∧ (r = .ok none → v'.gone = true) ∧
        (∀ vm, r = .ok (some vm) → v'.vm = some vm) ∧ ∀ e, r = .error e → v'.vm = v.vm) v := by
  refine wp_ask hnone fun a v' hs => ?_
  rcases sees_getVM hs with ⟨msg, rfl, rfl⟩ | ⟨rfl, rfl⟩ | ⟨vm, rfl, rfl⟩
  · exact wp_ret ⟨rfl, fun h => by simp at h, fun _ h => by simp at h, fun _ _ => rfl⟩
  · exact wp_ret ⟨rfl, fun _ => rfl, fun _ h => by simp at h, fun _ h => by simp at h⟩
  · exact wp_ret ⟨rfl, fun h => by simp at h, fun _ h => by cases h; rfl,
      fun _ h => by simp at h⟩

section reconcile
variable {x : VMM}

theorem write_of {y : VMM} (hx : v.vmm = some x) (hu : x.uid = u) (huid : y.uid = x.uid)
    (hrv : y.resourceVersion = x.resourceVersion) (hphase : VmmPhase u v x y.status.phase) :
    Writable u (y, none) v :=
  ⟨fun _ => ⟨x, hx, hu, huid.trans hu, hrv, hphase⟩, fun h => absurd rfl h⟩

variable (hx : v.vmm = some x) (hu : x.uid = u)
include hx hu

theorem releaseVM_wp {vm : VM} {m : Migration} (hr : v.vm = some vm)
    (hterm : x.status.phase.terminal = true) (hdel : vm.deletionTimestamp = none)
    (hm : vm.status.migration = some m) (huid : m.uid = u) :
    (contract nodeIP).wp (.vmm u) (releaseVM x vm) (Writable u) v := by
  refine wp_ask ⟨vm, hr, rfl, .release x m hx hu hterm hdel hm huid rfl⟩ fun a v' hs => ?_
  rcases sees_updateVMStatus hs with ⟨e, rfl, rfl⟩ | ⟨y, rfl, rfl, -⟩
  · exact wp_ret (quit_of_vm rfl)
  · refine wp_ret (write_of hx hu rfl rfl (.same fun hf => ?_))
    rw [hf.2.1] at hterm; cases hterm

theorem acquireVM_wp {vm : VM} (hr : v.vm = some vm)
    (hterm : x.status.phase.terminal = false) (hdel : vm.deletionTimestamp = none)
    (hm : vm.status.migration = none) :
    (contract nodeIP).wp (.vmm u) (acquireVM x vm) (Writable u) v := by
  refine wp_ask ⟨vm, hr, rfl, .acquire x hx hu hterm hdel hm (by rw [← hu]; rfl)⟩
    fun a v' hs => ?_
  rcases sees_updateVMStatus hs with ⟨e, rfl, rfl⟩ | ⟨y, rfl, rfl, hst⟩
  · exact wp_ret (quit_of_vm rfl)
  · refine wp_ret (write_of hx hu rfl rfl (.same ?_))
    rintro ⟨-, -, r, m, hr, hm, hne⟩
    cases hr
    rw [hst] at hm
    cases hm
    exact hne hu

theorem reconcileTerminal_wp (vm : Option VM) (hvm : ∀ r, vm = some r → v.vm = some r)
    (hterm : x.status.phase.terminal = true) :
    (contract nodeIP).wp (.vmm u) (reconcileTerminal x vm) (Writable u) v := by
  have hkeep : Writable u (x, none) v :=
    write_of hx hu rfl rfl (.same fun hf => by rw [hf.2.1] at hterm; cases hterm)
  cases vm with
  | none => exact wp_ret hkeep
  | some r =>
    unfold reconcileTerminal
    dsimp only
    split
    · exact wp_ret hkeep
    · next hdel =>
      split
      · exact wp_ret hkeep
      · next m hm =>
        split
        · exact wp_ret hkeep
        · next huid =>
          exact releaseVM_wp hx hu (hvm r rfl) hterm (by simpa using hdel) hm
            ((Decidable.not_not.mp huid).trans hu)

theorem reconcileActive_wp (vm : Option VM) (hvm : ∀ r, vm = some r → v.vm = some r)
    (hgone : vm = none → v.gone = true) (hterm : x.status.phase.terminal = false) :
    (contract nodeIP).wp (.vmm u) (reconcileActive x vm) (Writable u) v := by
  cases vm with
  | none => exact wp_ret (write_of hx hu rfl rfl (.gone hterm (hgone rfl)))
  | some r =>
    have hr := hvm r rfl
    unfold reconcileActive
    dsimp only
    split
    · next hdel =>
      refine wp_ret (write_of hx hu rfl rfl (.deleting r hterm hr ?_))
      intro h; rw [h] at hdel; cases hdel
    · next hdel =>
      have hdel : r.deletionTimestamp = none := by simpa using hdel
      split
      · next hm => exact acquireVM_wp hx hu hr hterm hdel hm
      · next m hm =>
        split
        · next huid =>
          exact wp_ret (write_of hx hu rfl rfl
            (.foreign r m hterm hr hdel hm (fun h => huid (h.trans hu.symm))))
        · next huid =>
          exact wp_ret (write_of hx hu rfl rfl
            (.copy r m hterm hr hdel hm ((Decidable.not_not.mp huid).trans hu)))

theorem reconcile_wp (hnone : v.vm = none) :
    (contract nodeIP).wp (.vmm u) (reconcile x) (Writable u) v := by
  unfold reconcile
  split
  · -- a migration that is being deleted does not even read the VM
    refine wp_ret (write_of hx hu rfl rfl (.same ?_))
    rintro ⟨-, -, r, m, hr, -⟩
    rw [hnone] at hr; cases hr
  · refine wp_seq_of (getVM_wp hnone) ?_
    rintro (e | vm) v' ⟨hvmm, hgone, hvm, herr⟩
    · exact wp_ret (quit_of_vm (by rw [herr e rfl, hnone]))
    · have hx' : v'.vmm = some x := hvmm.trans hx
      have hvm : ∀ r, vm = some r → v'.vm = some r := fun r h => hvm r (by rw [h])
      dsimp only
      split
      · next hterm => exact reconcileTerminal_wp hx' hu vm hvm hterm
      · next hterm =>
        exact reconcileActive_wp hx' hu vm hvm (fun h => hgone (by rw [h])) (by simpa using hterm)

end reconcile

/-- **The migration controller keeps its contract.** -/
theorem Reconcile_wp (u : UID) :
    (contract nodeIP).wp (.vmm u) (Reconcile u) (fun _ v => done (.vmm u) v) {} := by
  have hfresh : ∀ v : View, v.vm = none → done (.vmm u) v := by
    rintro v h x ⟨-, -, r, m, hr, -⟩
    rw [h] at hr; cases hr
  refine wp_ask ⟨rfl, rfl⟩ fun a v₀ hs => ?_
  rcases sees_getVMM hs with ⟨e, rfl, rfl⟩ | ⟨x, rfl, hu, rfl⟩
  · cases e <;> exact wp_ret (hfresh _ rfl)
  · refine wp_seq_of (reconcile_wp rfl hu rfl) ?_
    rintro ⟨y, _ | e⟩ v₁ hwrite
    · refine wp_ask (hwrite.write rfl) fun a v₂ hs => ?_
      rw [sees_updateVMMStatus hs]
      match a with
      | .ok _ => exact wp_ret (hfresh _ rfl)
      | .error .conflict => exact wp_ret (hfresh _ rfl)
      | .error .notFound | .error .alreadyExists | .error (.other _) =>
        exact wp_ret (hfresh _ rfl)
    · exact wp_ret (hwrite.quit nofun)

end VMMController

end Virtink
