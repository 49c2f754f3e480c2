import Virtink.Contract

/-! # The VM Controller Keeps Its Contract

    One specification per function of the controller: what it leaves in the
    view, and what the VM it returns may be written back as.
-/

namespace Virtink

open Calls

variable {nodeIP : String → String} {v : View}

/-! ### Hotplug Volumes

    Nothing here changes the view; all that matters is what the volume pods
    are created from. -/

theorem getHotplugVolumePods_wp (vmPod : Pod) :
    (contract nodeIP).wp .controller (getHotplugVolumePods vmPod) (fun _ v' => v' = v) v := by
  refine wp_quiet rfl (by simp only [guard]) fun a => ?_
  cases a with
  | error e => exact wp_ret rfl
  | ok pods => exact wp_ret rfl

theorem deleteOldPods_wp (l : List Pod) :
    (contract nodeIP).wp .controller (deleteOldPods l) (fun _ v' => v' = v) v :=
  wp_of_quiet (deleteOldPods_asks (fun _ => ⟨rfl, fun _ => by simp only [guard]⟩) l)

theorem hasHotplug_of_sublist {vm : VM} {ready : List Volume}
    (hsub : ready.Sublist (vm.spec.volumes.filter Volume.isHotpluggable))
    (hpos : 0 < ready.length) : vm.hasHotplug = true := by
  obtain ⟨volume, hmem⟩ := List.exists_mem_of_length_pos hpos
  exact List.any_eq_true.mpr ⟨volume, List.mem_filter.mp (hsub.subset hmem)⟩

/-- A volume pod is built from hotpluggable volumes of the VM that was read. -/
theorem handleHotplugVolumes_wp {r vm : VM} {vmPod : Pod} (hr : v.vm = some r)
    (hp : v.pod = some vmPod) (hown : vmPod.isControlledBy r = true) (hspec : vm.spec = r.spec)
    (wait : Bool) (hset : r.hasHotplug = true → r.settled = false) :
    (contract nodeIP).wp .controller (handleHotplugVolumes vm vmPod wait)
      (fun _ v' => v' = v) v := by
  refine wp_seq_of (Contract.wp_path (wp_of_quiet (readyVolumes_asks
    fun _ _ => ⟨rfl, fun _ => by simp only [guard]⟩))) ?_
  rintro (e | ready) v' ⟨⟨l, hready⟩, rfl⟩
  · exact wp_ret rfl
  · have hsub : ready.Sublist (r.spec.volumes.filter Volume.isHotpluggable) :=
      hspec ▸ (readyVolumes_sublist hready).trans (getHotplugVolumes_sublist vm vmPod)
    dsimp only
    split
    · exact wp_ret rfl
    · refine wp_seq_of (getHotplugVolumePods_wp vmPod) ?_
      rintro (e | pods) v' rfl
      · exact wp_ret rfl
      · dsimp only
        split
        · next hnew =>
          have hset := hset (hasHotplug_of_sublist hsub hnew.2)
          refine wp_seq_of (Contract.wp_path (wp_of_quiet (buildHotplugVolumePod_asks
            (fun _ => ⟨rfl, fun _ => by simp only [guard]⟩) vm vmPod ready))) ?_
          rintro (e | t) v' ⟨⟨l, hbuild⟩, rfl⟩
          · exact wp_ret rfl
          · obtain ⟨hpod, hvolumes⟩ := buildHotplugVolumePod_volumes hbuild
            refine wp_quiet rfl
              ⟨r, hr, .volumePod vmPod hp hown hset ⟨ready, hsub, hvolumes⟩ hpod⟩ fun a => ?_
            cases a with
            | error e => exact wp_ret rfl
            | ok _ => exact deleteOldPods_wp _
        · exact deleteOldPods_wp _

/-- `vm'` is `vm` with another volume status. -/
def SameButVolumes (vm vm' : VM) : Prop :=
  ∃ l, vm' = { vm with status := { vm.status with volumeStatus := l } }

theorem updateHotplugVolumeStatus_wp (vm : VM) (vmPod : Pod) :
    (contract nodeIP).wp .controller (updateHotplugVolumeStatus vm vmPod)
      (fun x v' => v' = v ∧ SameButVolumes vm x.1) v := by
  have hsame : SameButVolumes vm vm := ⟨vm.status.volumeStatus, rfl⟩
  refine wp_seq_of (getHotplugVolumePods_wp vmPod) ?_
  rintro (e | pods) v' rfl
  · exact wp_ret ⟨rfl, hsame⟩
  · dsimp only
    refine wp_quiet rfl (by simp only [guard]) fun left => ?_
    split
    · exact wp_ret ⟨rfl, hsame⟩
    · split
      · exact wp_ret ⟨rfl, _, rfl⟩
      · exact wp_ret ⟨rfl, _, rfl⟩

/-! ### The Status Up to Conditions and Volumes -/

@[simp] theorem VMStatus.core_migration (st : VMStatus) : st.core.migration = st.migration := rfl

/-- `vm` is the VM `r` that was read, up to conditions and volume status. -/
structure Near (r vm : VM) : Prop where
  rv : vm.resourceVersion = r.resourceVersion
  uid : vm.uid = r.uid
  spec : vm.spec = r.spec
  core : vm.status.core = r.status.core

namespace Near

variable {r vm : VM}

theorem refl (r : VM) : Near r r := ⟨rfl, rfl, rfl, rfl⟩

theorem migration (h : Near r vm) : vm.status.migration = r.status.migration := by
  rw [← VMStatus.core_migration, h.core, VMStatus.core_migration]

theorem isControlledBy (h : Near r vm) (p : Pod) : p.isControlledBy vm = p.isControlledBy r := by
  rw [Pod.isControlledBy, Pod.isControlledBy, h.uid]

theorem volumes {vm' : VM} (h : Near r vm) (hv : SameButVolumes vm vm') : Near r vm' := by
  obtain ⟨l, rfl⟩ := hv
  exact ⟨h.rv, h.uid, h.spec, h.core⟩

theorem conditions (h : Near r vm) (vmPod : Pod) : Near r (reconcileVMConditions vm vmPod) :=
  ⟨h.rv, h.uid, h.spec, h.core⟩

end Near

namespace VMController

/-- The VM `x` may be written back. -/
abbrev Writable (x : VM) (v : View) : Prop := guard .controller (.updateVMStatus x) v

theorem Near.writable {r vm : VM} (hr : v.vm = some r) (h : Near r vm) : Writable vm v :=
  ⟨r, hr, h.rv, .same h.core⟩

/-! ### VM Pods -/

theorem getVMPod_wp (vm : VM) (name what : String) :
    (contract nodeIP).wp .controller (getVMPod vm name what)
      (fun r v' => v'.vm = v.vm ∧ v'.pods = v.pods ∧
        (r = .ok none → v'.pod = v.pod ∨ ∃ p, v'.pod = some p ∧ p.isControlledBy vm = false) ∧
        ∀ p, r = .ok (some p) →
          v'.pod = some p ∧ p.name = name ∧ p.isControlledBy vm = true) v := by
  refine wp_ask (by simp only [guard]) fun a v' hs => ?_
  rcases sees_getPod hs with ⟨e, rfl, rfl⟩ | ⟨p, rfl, hname, rfl⟩
  · -- a pod that does not exist is no pod, any other error is passed on
    cases e <;> exact wp_ret ⟨rfl, rfl, fun _ => .inl rfl, fun p hp => by cases hp⟩
  · by_cases hc : p.isControlledBy vm = true
    · refine wp_ret ⟨rfl, rfl, fun h => ?_, fun q hq => ?_⟩
      · simp [hc] at h
      · simp only [hc, if_true, Except.ok.injEq, Option.some.injEq] at hq
        subst hq; exact ⟨rfl, hname, hc⟩
    · refine wp_ret ⟨rfl, rfl, fun _ => .inr ⟨p, rfl, by simpa using hc⟩, fun q hq => ?_⟩
      simp [hc] at hq

theorem createVMPod_wp {r vm : VM} {name : String} (hr : v.vm = some r) (hvm : Near r vm)
    (hcreate : ∀ t : PodTemplate, t.name = name →
      t.controller = some ⟨.virtualMachine, r.uid⟩ → CtrlCreate v r t)
    (what : String) (t : PodTemplate) :
    (contract nodeIP).wp .controller (createVMPod vm name what t) (fun _ v' => v' = v) v := by
  unfold createVMPod
  -- the controller reference is the VM whether or not the template had it already
  have href : ∀ t', setControllerReference ⟨.virtualMachine, vm.uid⟩ { t with name := name } =
      .ok t' → t'.name = name ∧ t'.controller = some ⟨.virtualMachine, r.uid⟩ := by
    intro t' h
    unfold setControllerReference at h
    rw [← hvm.uid]
    split at h
    · cases h; exact ⟨rfl, rfl⟩
    · next hc =>
      split at h
      · next he => cases h; exact ⟨rfl, by rw [← he]; exact hc⟩
      · cases h
  split
  · exact wp_ret rfl
  · next t' ht =>
    obtain ⟨hname, hown⟩ := href t' ht
    refine wp_quiet rfl ⟨r, hr, hcreate t' hname hown⟩ fun a => ?_
    cases a with
    | error e => exact wp_ret rfl
    | ok _ => exact wp_ret rfl

theorem deleteVMPods_wp (cause : Cause) (keep : Pod → Bool) (l : List Pod)
    (hg : ∀ p ∈ l, keep p = false → guard .controller (.deletePod p.name cause) v) :
    (contract nodeIP).wp .controller (deleteVMPods cause keep l) (fun _ v' => v' = v) v := by
  induction l with
  | nil => exact wp_ret rfl
  | cons p rest ih =>
    have ih := ih fun q hq => hg q (List.mem_cons_of_mem p hq)
    unfold deleteVMPods
    split
    · exact ih
    · next hgo =>
      have hkeep : keep p = false := by
        simp only [Bool.or_eq_true, not_or, Bool.not_eq_true] at hgo
        exact hgo.2
      refine wp_quiet rfl (hg p List.mem_cons_self hkeep) fun a => ?_
      rcases a with e | _
      · cases e with
        | notFound => exact ih
        | _ => exact wp_ret rfl
      · exact ih

theorem gcVMPods_wp {vm : VM} (hr : v.vm = some vm) :
    (contract nodeIP).wp .controller (gcVMPods vm) (fun _ _ => True) v := by
  refine wp_ask ⟨vm, hr, rfl⟩ fun a v' hs => ?_
  rcases sees_listVMPods hs with ⟨e, rfl, rfl⟩ | ⟨l, rfl, rfl⟩
  · exact wp_ret trivial
  · refine Contract.wp_mono (deleteVMPods_wp .garbage _ l fun p hp hkeep => ?_)
      (fun _ _ _ => trivial)
    refine ⟨vm, l, hr, rfl, ⟨p, hp, rfl⟩, fun hnamed => ?_⟩
    simp only [Bool.or_eq_false_iff, beq_eq_false_iff_ne] at hkeep
    rcases List.mem_cons.mp hnamed with heq | hmem
    · exact hkeep.1 heq
    · rw [Option.mem_toList, Option.map_eq_some_iff] at hmem
      obtain ⟨m, hm, heq⟩ := hmem
      simp [hm, heq] at hkeep

/-- Afterwards the view has the list of pods, which is empty just if the answer
    is that there were none. -/
theorem deleteAllVMPods_wp {vm : VM} (hr : v.vm = some vm) :
    (contract nodeIP).wp .controller (deleteAllVMPods vm)
      (fun r v' => v'.vm = some vm ∧ v'.pod = v.pod ∧ (r = .ok true → v'.pods = some []) ∧
        (r = .ok false → PodsLeft v' vm)) v := by
  refine wp_ask ⟨vm, hr, rfl⟩ fun a v' hs => ?_
  rcases sees_listVMPods hs with ⟨e, rfl, rfl⟩ | ⟨l, rfl, rfl⟩
  · exact wp_ret ⟨hr, rfl, nofun, nofun⟩
  · cases l with
    | nil => exact wp_ret ⟨hr, rfl, fun _ => rfl, nofun⟩
    | cons p rest =>
      refine wp_seq_of (deleteVMPods_wp .stop _ _ fun _ _ _ => trivial) ?_
      rintro (_ | e) v' rfl
      · exact wp_ret ⟨hr, rfl, nofun, fun _ => ⟨by simp, fun _ => by simp⟩⟩
      · exact wp_ret ⟨hr, rfl, nofun, nofun⟩

/-! ### Scheduling and Scheduled -/

theorem scheduledPhase_seen (vm : VM) (vmPod : Pod) :
    PodSeen vm.status.phase vmPod (scheduledPhase vm vmPod) := by
  unfold scheduledPhase
  split
  · next hrun =>
    split
    · next h => exact .scheduled h.1 hrun
    · exact .same
  · exact .succeeded
  · exact .failed
  · exact .unknown
  · exact .same

theorem handleBound_wp {r : VM} {vmPod : Pod} (hr : v.vm = some r) (hp : v.pod = some vmPod)
    (hown : vmPod.isControlledBy r = true) (vm : VM) (hspec : vm.spec = r.spec)
    (hset : r.hasHotplug = true → r.settled = false) :
    (contract nodeIP).wp .controller (handleBound vm vmPod) (fun _ v' => v' = v) v := by
  unfold handleBound
  split
  · exact handleHotplugVolumes_wp hr hp hown hspec true hset
  · exact wp_ret rfl

theorem reconcileScheduling_wp {vm : VM} (hr : v.vm = some vm) (hnone : v.pod = none)
    (hpods : vm.status.phase = .scheduling → PodsLeft v vm)
    (hphase : vm.status.phase = .scheduling ∨ vm.status.phase = .scheduled) :
    (contract nodeIP).wp .controller (reconcileScheduling vm) (fun x v' => Writable x.1 v') v := by
  refine wp_seq_of (getVMPod_wp vm vm.status.vmPodName "VM Pod") ?_
  rintro (e | _ | vmPod) v₁ ⟨hvm, hpods₁, hmiss, hpod⟩
  · exact wp_ret ⟨vm, hvm.trans hr, rfl, .same rfl⟩
  · -- there is no VM pod
    have hr₁ : v₁.vm = some vm := hvm.trans hr
    have hforeign : ∀ p, v₁.pod = some p → p.isControlledBy vm = false := by
      intro p hp
      rcases hmiss rfl with h | ⟨q, hq, hown⟩
      · rw [h, hnone] at hp; cases hp
      · rw [hq] at hp; cases hp; exact hown
    dsimp only
    split
    · next hsched =>
      have hleft : PodsLeft v₁ vm := by
        unfold PodsLeft
        rw [hpods₁]
        exact hpods hsched
      refine wp_quiet rfl (by simp only [guard]) fun a => ?_
      cases a with
      | error e => exact wp_ret (Near.writable hr₁ (.refl vm))
      | ok t =>
        refine wp_seq_of (createVMPod_wp hr₁ (.refl vm)
          (fun t hname hown => .vmPod hsched hleft hforeign hname hown) _ t) ?_
        rintro err v' rfl
        exact wp_ret (Near.writable hr₁ (.refl vm))
    · next hsched =>
      exact wp_ret ⟨vm, hr₁, rfl, .lost (hphase.resolve_left hsched) rfl⟩
  · -- the VM pod was seen; its UID and node are noted before anything can fail
    obtain ⟨hpod, hname, hown⟩ := hpod vmPod rfl
    have hr₁ : v₁.vm = some vm := hvm.trans hr
    have hwrite : ∀ ph, PodSeen vm.status.phase vmPod ph → ∀ vm' : VM,
        vm'.resourceVersion = vm.resourceVersion →
        vm'.status.core = { vm.status.core with
          vmPodUID := vmPod.uid, nodeName := vmPod.nodeName, phase := ph } →
        Writable vm' v₁ :=
      fun ph hph vm' hrv hcore => ⟨vm, hr₁, hrv, .pod vmPod ph hphase hpod hname hown hph hcore⟩
    have hset : vm.hasHotplug = true → vm.settled = false := by
      intro hhot
      unfold VM.settled
      rcases hphase with h | h <;> simp [h, hhot]
    refine wp_seq_of (handleBound_wp hr₁ hpod hown (withPod vm vmPod) rfl hset) ?_
    rintro (_ | e) v' rfl
    · refine Contract.wp_mono (updateHotplugVolumeStatus_wp _ vmPod) ?_
      rintro x v' ⟨rfl, l, hx⟩
      rw [hx]
      exact hwrite _ (scheduledPhase_seen _ vmPod) _ rfl rfl
    · exact wp_ret (hwrite _ .same _ rfl rfl)

/-! ### Running -/

theorem targetVolumes_cases (m : Migration) (l : List Pod) :
    ∃ u ph, (targetVolumes m l).1 = { m with targetVolumePodUID := u, phase := ph } ∧
      (ph = m.phase ∨ ph = .failed) := by
  unfold targetVolumes
  split
  · exact ⟨m.targetVolumePodUID, m.phase, rfl, .inl rfl⟩
  · next p _ =>
    dsimp only
    split
    · exact ⟨p.uid, .failed, rfl, .inr rfl⟩
    · exact ⟨p.uid, m.phase, rfl, .inl rfl⟩

theorem reconcileTargetVolumes_wp {r : VM} {target : Pod} (hr : v.vm = some r)
    (hp : v.pod = some target) (hown : target.isControlledBy r = true) (hset : r.settled = false)
    {vm : VM} (hspec : vm.spec = r.spec) (m : Migration) :
    (contract nodeIP).wp .controller (reconcileTargetVolumes vm m target)
      (fun x v' => v' = v ∧ ∃ u ph, x.1 = { m with targetVolumePodUID := u, phase := ph } ∧
        (ph = m.phase ∨ ph = .failed)) v := by
  have hsame : ∃ u ph, m = { m with targetVolumePodUID := u, phase := ph } ∧
      (ph = m.phase ∨ ph = .failed) := ⟨m.targetVolumePodUID, m.phase, rfl, .inl rfl⟩
  unfold reconcileTargetVolumes
  split
  · exact wp_ret ⟨rfl, m.targetVolumePodUID, .failed, rfl, .inr rfl⟩
  · split
    · exact wp_ret ⟨rfl, hsame⟩
    · split
      · refine wp_seq_of (handleHotplugVolumes_wp hr hp hown (by exact hspec) true fun _ => hset) ?_
        rintro (_ | e) v' rfl
        · refine wp_seq_of (getHotplugVolumePods_wp target) ?_
          rintro (e | pods) v' rfl
          · exact wp_ret ⟨rfl, hsame⟩
          · exact wp_ret ⟨rfl, targetVolumes_cases m pods⟩
        · exact wp_ret ⟨rfl, hsame⟩
      · exact wp_ret ⟨rfl, hsame⟩

theorem reconcileTarget_wp {r vm : VM} {m : Migration} (hr : v.vm = some r) (hvm : Near r vm)
    (hpods : v.pods ≠ some []) (hphase : r.status.phase = .running) (hm : r.status.migration = some m)
    (hmp : m.phase = .scheduling) :
    (contract nodeIP).wp .controller (reconcileTarget vm m) (fun x v' => Writable x.1 v') v := by
  refine wp_seq_of (getVMPod_wp vm m.targetVMPodName "target VM Pod") ?_
  rintro (e | _ | target) v₁ ⟨hv, hpods₁, -, hpod⟩
  · exact wp_ret (Near.writable (hv.trans hr) hvm)
  · have hr₁ : v₁.vm = some r := hv.trans hr
    refine wp_quiet rfl (by simp only [guard]) fun a => ?_
    cases a with
    | error e => exact wp_ret (Near.writable hr₁ hvm)
    | ok t =>
      refine wp_seq_of (createVMPod_wp hr₁ hvm
        (fun t hname hown => .target m hphase (hpods₁ ▸ hpods) hm hmp hname hown) _ t) ?_
      rintro err v' rfl
      exact wp_ret (Near.writable hr₁ hvm)
  · have hr₁ : v₁.vm = some r := hv.trans hr
    obtain ⟨hpod, hname, hown⟩ := hpod target rfl
    rw [hvm.isControlledBy] at hown
    have hwrite : ∀ u ph, TargetSeen target ph →
        Writable (setMigration vm { m with
          targetVMPodUID := target.uid, targetNodeName := target.nodeName
          targetVolumePodUID := u, phase := ph }) v₁ := by
      intro u ph hph
      refine ⟨r, hr₁, hvm.rv, .targetPod m target u ph hphase hm hmp hpod hname hown hph ?_⟩
      rw [← hvm.core]; rfl
    have hset : r.settled = false := by simp [VM.settled, hphase, hm, hmp]
    refine wp_seq_of (reconcileTargetVolumes_wp hr₁ hpod hown hset hvm.spec _) ?_
    rintro ⟨m', attached, err⟩ v' ⟨rfl, u, ph, hm', hph⟩
    dsimp only at hm' hph ⊢
    subst hm'
    have hseen : TargetSeen target ph := by
      rcases hph with rfl | rfl
      · rw [hmp]; exact .same
      · exact .failed
    cases err with
    | some e => exact wp_ret (hwrite u ph hseen)
    | none =>
      dsimp only
      split
      · next hrun => exact wp_ret (hwrite u .scheduled (.scheduled hrun.1))
      · exact wp_ret (hwrite u ph hseen)

theorem nameTarget_wp {r vm : VM} {m : Migration} (hr : v.vm = some r) (hvm : Near r vm)
    (hphase : r.status.phase = .running) (hm : r.status.migration = some m)
    (hmp : m.phase = .empty ∨ m.phase = .pending) :
    (contract nodeIP).wp .controller (nameTarget vm m) (fun x v' => Writable x.1 v') v := by
  refine wp_ask (by simp only [guard]) fun name v' hs => ?_
  rw [sees_generateName hs]
  refine wp_ret ⟨r, hr, hvm.rv, .target m name hphase hm hmp rfl ?_⟩
  rw [← hvm.core]; rfl

theorem reconcileMigration_wp {r vm : VM} {m : Migration} (hr : v.vm = some r) (hvm : Near r vm)
    (hpods : v.pods ≠ some []) (hphase : r.status.phase = .running)
    (hm : r.status.migration = some m) :
    (contract nodeIP).wp .controller (reconcileMigration vm m)
      (fun x v' => Writable x.1 v') v := by
  unfold reconcileMigration
  split
  · next hmp => exact nameTarget_wp hr hvm hphase hm (.inl hmp)
  · next hmp => exact nameTarget_wp hr hvm hphase hm (.inr hmp)
  · next hmp => exact reconcileTarget_wp hr hvm hpods hphase hm hmp
  · exact wp_ret (Near.writable hr hvm)

theorem runningPhase_cases (vm : VM) (vmPod : Pod) (hphase : vm.status.phase = .running)
    (hne : runningPhase vm (some vmPod) ≠ .running) :
    runningPhase vm (some vmPod) = .failed ∨ runningPhase vm (some vmPod) = .unknown ∨
    (runningPhase vm (some vmPod) = .succeeded ∧ vm.status.migration = none) := by
  unfold runningPhase at hne ⊢
  simp only at hne ⊢
  split
  · split
    · next h => exact .inr (.inr ⟨rfl, by simpa using h⟩)
    · next h hs => simp [h, hs, hphase] at hne
  · exact .inl rfl
  · exact .inr (.inl rfl)
  · next h₁ h₂ h₃ => split at hne <;> simp_all

theorem reconcileRunning_wp {vm : VM} (hr : v.vm = some vm) (hpods : v.pods ≠ some [])
    (hphase : vm.status.phase = .running) :
    (contract nodeIP).wp .controller (reconcileRunning vm) (fun x v' => Writable x.1 v') v := by
  refine wp_seq_of (getVMPod_wp vm vm.status.vmPodName "VM Pod") ?_
  rintro (e | _ | vmPod) v₁ ⟨hvm, hpods₁, -, hpod⟩
  · exact wp_ret (Near.writable (hvm.trans hr) (.refl vm))
  · exact wp_ret ⟨vm, hvm.trans hr, rfl, .stop .failed hphase (.inl rfl) rfl⟩
  · have hr₁ : v₁.vm = some vm := hvm.trans hr
    obtain ⟨hpod, -, hown⟩ := hpod vmPod rfl
    dsimp only
    split
    · next hne =>
      exact wp_ret ⟨vm, hr₁, rfl, .stop _ hphase (runningPhase_cases vm vmPod hphase hne) rfl⟩
    · have hnear : Near vm (reconcileVMConditions vm vmPod) := (Near.refl vm).conditions vmPod
      split
      · next m hm =>
        exact reconcileMigration_wp hr₁ hnear (hpods₁ ▸ hpods) hphase (hnear.migration ▸ hm)
      · next hm =>
        have hset : vm.hasHotplug = true → vm.settled = false := by
          intro hhot
          simp [VM.settled, hphase, hnear.migration.symm.trans hm, hhot]
        refine wp_seq_of (handleHotplugVolumes_wp hr₁ hpod hown hnear.spec false hset) ?_
        rintro (_ | e) v' rfl
        · refine Contract.wp_mono (updateHotplugVolumeStatus_wp _ vmPod) ?_
          rintro x v' ⟨rfl, hx⟩
          exact Near.writable hr₁ (hnear.volumes hx)
        · exact wp_ret (Near.writable hr₁ hnear)

/-! ### The Reconciler -/

theorem reconcileStopped_wp {vm : VM} (hr : v.vm = some vm)
    (hphase : vm.status.phase = .empty ∨ vm.status.phase = .succeeded ∨
      vm.status.phase = .failed) :
    (contract nodeIP).wp .controller (reconcileStopped vm) (fun x v' => Writable x.1 v') v := by
  refine wp_seq_of (deleteAllVMPods_wp hr) ?_
  rintro (e | _ | _) v₁ ⟨hr₁, -, hnone, -⟩
  · exact wp_ret (Near.writable hr₁ (.refl vm))
  · exact wp_ret (Near.writable hr₁ (.refl vm))
  · refine wp_ret ⟨vm, hr₁, rfl, .reset _ hphase (hnone rfl) ?_ rfl⟩
    split
    · next hrun => exact .inr ⟨rfl, hrun⟩
    · exact .inl rfl

theorem reconcilePhase_wp {vm : VM} (hr : v.vm = some vm) (hnone : v.pod = none)
    (hpods : v.pods ≠ some [])
    (hleft : deletable vm.status.phase = true → PodsLeft v vm) :
    (contract nodeIP).wp .controller (reconcilePhase vm) (fun x v' => Writable x.1 v') v := by
  unfold reconcilePhase
  split
  · next hphase =>
    refine wp_ask (by simp only [guard]) fun name v' hs => ?_
    rw [sees_generateName hs]
    exact wp_ret ⟨vm, hr, rfl, .name name hphase rfl rfl⟩
  · next hphase =>
    exact reconcileScheduling_wp hr hnone (fun h => hleft (by rw [h]; rfl)) (.inl hphase)
  · next hphase =>
    exact reconcileScheduling_wp hr hnone (fun h => hleft (by rw [h]; rfl)) (.inr hphase)
  · next hphase => exact reconcileRunning_wp hr hpods hphase
  · next hphase => exact reconcileStopped_wp hr (.inl hphase)
  · next hphase => exact reconcileStopped_wp hr (.inr (.inl hphase))
  · next hphase => exact reconcileStopped_wp hr (.inr (.inr hphase))
  · exact wp_ret (Near.writable hr (.refl vm))

theorem update_wp {r vm : VM} (hr : v.vm = some r) (hnone : v.pod = none)
    (hpods : ∀ l, v.pods = some l → l = [])
    (hfinal : VMProtectionFinalizer ∈ vm.finalizers ∨ v.pods = some []) (hvm : Near r vm) :
    (contract nodeIP).wp .controller (update vm) (fun x v' => Writable x.1 v') v := by
  refine wp_ask ⟨hnone, hpods, hfinal⟩ fun a v' hs => ?_
  rcases sees_updateVM hs with ⟨e, rfl, rfl⟩ | ⟨y, rfl, rfl⟩
  · exact wp_ret (Near.writable hr hvm)
  · exact wp_ret (Near.writable rfl (.refl y))

theorem reconcile_wp {vm : VM} (hr : v.vm = some vm) (hnone : v.pod = none)
    (hpods : v.pods = none) :
    (contract nodeIP).wp .controller (reconcile vm) (fun x v' => Writable x.1 v') v := by
  unfold reconcile
  split
  · exact update_wp hr hnone (by rw [hpods]; exact nofun) (.inl (by simp)) ⟨rfl, rfl, rfl, rfl⟩
  · split
    · refine wp_seq_of (deleteAllVMPods_wp hr) ?_
      rintro (e | _ | _) v₁ ⟨hr₁, hpod₁, hgone, hleft⟩
      · exact wp_ret (Near.writable hr₁ (.refl vm))
      · exact reconcilePhase_wp hr₁ (hpod₁.trans hnone) (hleft rfl).1 fun _ => hleft rfl
      · refine update_wp hr₁ (hpod₁.trans hnone) (fun l hl => ?_) (.inr (hgone rfl))
          ⟨rfl, rfl, rfl, rfl⟩
        rw [hgone rfl] at hl
        exact (Option.some.inj hl).symm
    · next hstay =>
      -- where its pods would be deleted first, the VM is not being deleted
      have hpods' : v.pods ≠ some [] := by rw [hpods]; exact nofun
      refine reconcilePhase_wp hr hnone hpods' fun hphase => ⟨hpods', fun hdel => ?_⟩
      exact absurd ⟨Option.isSome_iff_ne_none.mpr hdel, hphase⟩ hstay

/-- **The VM controller keeps its contract.** -/
theorem Reconcile_wp :
    (contract nodeIP).wp .controller Reconcile (fun _ v => done .controller v) {} := by
  refine wp_ask ⟨rfl, rfl⟩ fun a v₀ hs => ?_
  rcases sees_getVM hs with ⟨msg, rfl, rfl⟩ | ⟨rfl, rfl⟩ | ⟨vm, rfl, rfl⟩
  · exact wp_ret trivial
  · exact wp_ret trivial
  · refine wp_seq_of (reconcile_wp rfl rfl rfl) ?_
    rintro ⟨vm', rerr⟩ v₁ hwrite
    dsimp only
    split
    · exact wp_ret trivial
    · refine wp_ask hwrite fun a v₂ hs => ?_
      rcases sees_updateVMStatus hs with ⟨e, rfl, rfl⟩ | ⟨y, rfl, rfl, -⟩
      · cases rerr <;> exact wp_ret trivial
      · cases rerr with
        | some r => exact wp_ret trivial
        | none =>
          refine wp_seq_of (gcVMPods_wp rfl) ?_
          rintro (_ | e) v' -
          · exact wp_ret trivial
          · exact wp_ret trivial

end VMController

end Virtink
