import Virtink.Admission.Updates
import Virtink.Controller.VM

/-! # The Cached Migratable Verdict

    `reconcileVMConditions` computes the Migratable condition only when the
    status has none, so a VM keeps the verdict of the first version that was
    seen running, while its volumes come and go. The verdict may be cached
    because it does not depend on what an update can change: the CPU, the
    networks, the interfaces and the file systems are fixed, and a volume that
    stands in the way of a migration has one source and so is not hotpluggable.

    Only the message may go stale: it names the first such volume.
-/

namespace Virtink

/-- `meta.FindStatusCondition`. -/
def findStatusCondition (l : List Condition) (type : String) : Option Condition :=
  l.find? (·.type == type)

/-! ### What the Verdict Depends on -/

/-- The volume keeps its data in the pod. -/
def Volume.podLocal (v : Volume) : Bool := v.containerRootfs.isSome || v.containerDisk.isSome

/-- The status and the reason of a condition. -/
def Condition.verdict (c : Condition) : ConditionStatus × String := (c.status, c.reason)

/-- Whichever volume is found first, the verdict on it is the same. -/
theorem volumeVerdict_verdict {v : Volume} {c : Condition} (h : volumeVerdict v = some c) :
    c.verdict = (.false, "VolumeNotMigratable") := by
  simp only [volumeVerdict] at h
  split at h
  · cases h; rfl
  · split at h
    · cases h; rfl
    · cases h

theorem volumeVerdict_isSome (v : Volume) : (volumeVerdict v).isSome = v.podLocal := by
  simp only [volumeVerdict, Volume.podLocal]
  split
  · next h => simp [h]
  · next h =>
    split
    · next h' => simp [h']
    · next h' => simp [h, h']

/-- There is a verdict on the volumes iff one of them keeps its data in the pod. -/
theorem findSome_volumeVerdict (l : List Volume) :
    (l.findSome? volumeVerdict).isSome = l.any (·.podLocal) := by
  induction l with
  | nil => rfl
  | cons v l ih =>
    have hv := volumeVerdict_isSome v
    cases hverdict : volumeVerdict v with
    | none =>
      rw [hverdict] at hv
      simp [hverdict, ih, ← hv]
    | some c =>
      rw [hverdict] at hv
      simp [hverdict, ← hv]

/-- The verdict on a spec, from its fixed part and from whether a volume
    stands in the way. -/
def fixedVerdict (spec : VMSpec) (podLocal : Bool) : ConditionStatus × String :=
  if spec.instance_.cpu.dedicatedCPUPlacement then (.false, "CPUNotMigratable")
  else
    match spec.networks.findSome? (fun network =>
      spec.instance_.interfaces.findSome? (interfaceVerdict network)) with
    | some c => c.verdict
    | none =>
        if podLocal then (.false, "VolumeNotMigratable")
        else if spec.instance_.fileSystems ≠ [] then (.false, "FileSystemNotMigratable")
        else (.true, "Migratable")

theorem verdict_eq_fixedVerdict (vm : VM) :
    (calculateMigratableCondition vm).verdict =
      fixedVerdict vm.spec.fixed (vm.spec.volumes.any (·.podLocal)) := by
  have hsome := findSome_volumeVerdict vm.spec.volumes
  by_cases hcpu : vm.spec.instance_.cpu.dedicatedCPUPlacement = true
  · simp [calculateMigratableCondition, fixedVerdict, VMSpec.fixed, hcpu, notMigratable,
      Condition.verdict]
  simp only [calculateMigratableCondition, fixedVerdict, VMSpec.fixed, hcpu]
  cases hifaces : vm.spec.networks.findSome? (fun network =>
      vm.spec.instance_.interfaces.findSome? (interfaceVerdict network)) with
  | some c => rfl
  | none =>
    cases hvolumes : vm.spec.volumes.findSome? volumeVerdict with
    | some c =>
      obtain ⟨v, -, hv⟩ := List.exists_of_findSome?_eq_some hvolumes
      rw [hvolumes] at hsome
      simp [← hsome, volumeVerdict_verdict hv]
    | none =>
      rw [hvolumes] at hsome
      simp only [← hsome]
      by_cases hfs : vm.spec.instance_.fileSystems = [] <;>
        simp [hfs, notMigratable, Condition.verdict]

/-- Volumes that stand in the way of a migration cannot come or go. -/
theorem podLocal_eq_of_agrees {s t : VMSpec} (hs : s.Accepted) (ht : t.Accepted)
    (h : s.Agrees t) : s.volumes.any (·.podLocal) = t.volumes.any (·.podLocal) := by
  have hfixed : ∀ {u : VMSpec}, u.Accepted → ∀ v ∈ u.volumes, v.podLocal = true →
      v.isHotpluggable = false := by
    intro u hu v hv hlocal
    exact (hu.volumes_single v hv).not_hotpluggable (by simpa [Volume.podLocal] using hlocal)
  rw [Bool.eq_iff_iff, List.any_eq_true, List.any_eq_true]
  constructor
  · rintro ⟨v, hv, hlocal⟩
    exact ⟨v, (h.volumes v (hfixed hs v hv hlocal)).mp hv, hlocal⟩
  · rintro ⟨v, hv, hlocal⟩
    exact ⟨v, (h.volumes v (hfixed ht v hv hlocal)).mpr hv, hlocal⟩

/-- **Step**: an accepted update keeps the verdict. -/
theorem verdict_eq_of_update {lib : Library} {new old : VM} (hold : old.spec.Accepted)
    (h : validateVM lib new (some old) = []) :
    (calculateMigratableCondition new).verdict = (calculateMigratableCondition old).verdict := by
  have hagrees := agrees_of_validateVM h
  rw [verdict_eq_fixedVerdict, verdict_eq_fixedVerdict, hagrees.fixed,
    podLocal_eq_of_agrees (accepted_of_validateVM h) hold hagrees]

/-! ### One Incarnation -/

/-- The versions of a VM through one incarnation: it begins without a
    Migratable condition, its spec is updated, `reconcileVMConditions` runs on
    it with any pod, and the rest of the status is written. -/
inductive Incarnation (lib : Library) : VM → Prop where
  | begin {vm : VM} : validateVM lib vm none = [] →
      findStatusCondition vm.status.conditions "Migratable" = none → Incarnation lib vm
  | update {vm new : VM} : Incarnation lib vm → validateVM lib new (some vm) = [] →
      new.status = vm.status → Incarnation lib new
  | reconcile {vm : VM} (vmPod : Pod) : Incarnation lib vm →
      Incarnation lib (reconcileVMConditions vm vmPod)
  | write {vm : VM} (status : VMStatus) : Incarnation lib vm →
      status.conditions = vm.status.conditions → Incarnation lib { vm with status := status }

/-- The conditions hold no verdict, or the one of this version. -/
def VerdictCurrent (vm : VM) : Prop :=
  ∀ c, findStatusCondition vm.status.conditions "Migratable" = some c →
    c.verdict = (calculateMigratableCondition vm).verdict

/-- Setting a condition of another type does not touch the verdict. -/
theorem findStatusCondition_set_ne {c : Condition} {type : String} (h : c.type ≠ type)
    (l : List Condition) :
    findStatusCondition (setStatusCondition c l) type = findStatusCondition l type := by
  induction l with
  | nil => simp [findStatusCondition, setStatusCondition, h]
  | cons d l ih =>
    by_cases hd : d.type = c.type
    · simp [findStatusCondition, setStatusCondition, hd, h]
    · by_cases hdt : d.type = type
      · have htc : type ≠ c.type := Ne.symm h
        simp [findStatusCondition, setStatusCondition, hdt, htc]
      · simpa [findStatusCondition, setStatusCondition, hd, hdt] using ih

theorem findStatusCondition_set_self (c : Condition) (l : List Condition) :
    findStatusCondition (setStatusCondition c l) c.type = some c := by
  induction l with
  | nil => simp [findStatusCondition, setStatusCondition]
  | cons d l ih =>
    by_cases hd : d.type = c.type
    · simp [findStatusCondition, setStatusCondition, hd]
    · simpa [findStatusCondition, setStatusCondition, hd] using ih

/-- The conditions that the pod contributes leave the verdict alone. -/
theorem findStatusCondition_ready (podConditions l : List Condition) :
    findStatusCondition (podConditions.foldl (fun l c =>
      if c.type = "Ready" then setStatusCondition (readyCondition c) l else l) l) "Migratable" =
      findStatusCondition l "Migratable" := by
  induction podConditions generalizing l with
  | nil => rfl
  | cons c rest ih =>
    rw [List.foldl_cons, ih]
    split
    · exact findStatusCondition_set_ne (by simp [readyCondition]) l
    · rfl

/-- Every verdict is a condition of the type Migratable. -/
theorem calculateMigratableCondition_type (vm : VM) :
    (calculateMigratableCondition vm).type = "Migratable" := by
  have hiface : ∀ {n i c}, interfaceVerdict n i = some c → c.type = "Migratable" := by
    intro n i c h
    simp only [interfaceVerdict] at h
    repeat' split at h
    all_goals cases h
    all_goals rfl
  have hvolume : ∀ {v c}, volumeVerdict v = some c → c.type = "Migratable" := by
    intro v c h
    simp only [volumeVerdict] at h
    repeat' split at h
    all_goals cases h
    all_goals rfl
  simp only [calculateMigratableCondition]
  split
  · rfl
  · split
    · next hfound =>
      obtain ⟨n, -, hn⟩ := List.exists_of_findSome?_eq_some hfound
      obtain ⟨i, -, hi⟩ := List.exists_of_findSome?_eq_some hn
      exact hiface hi
    · next hfound =>
      obtain ⟨v, -, hv⟩ := List.exists_of_findSome?_eq_some hfound
      exact hvolume hv
    · split <;> rfl

/-- The condition that a reconcile leaves: the one that was there, or else the
    verdict on the version it has read. -/
theorem findStatusCondition_reconcile (vm : VM) (vmPod : Pod) :
    findStatusCondition (reconcileVMConditions vm vmPod).status.conditions "Migratable" =
      some ((findStatusCondition vm.status.conditions "Migratable").getD
        (calculateMigratableCondition vm)) := by
  have hready := findStatusCondition_ready vmPod.conditions vm.status.conditions
  simp only [reconcileVMConditions]
  split
  · next hany =>
    rw [hready]
    cases hfind : findStatusCondition vm.status.conditions "Migratable" with
    | some c => rfl
    | none =>
      rw [hfind] at hready
      simp only [findStatusCondition, List.find?_eq_none] at hready
      obtain ⟨c, hc, htype⟩ := List.any_eq_true.mp hany
      exact absurd htype (hready c hc)
  · next hany =>
    have hnone : findStatusCondition vm.status.conditions "Migratable" = none := by
      rw [← hready]
      simpa [findStatusCondition, List.find?_eq_none] using hany
    have hset := findStatusCondition_set_self (calculateMigratableCondition vm)
    simp only [calculateMigratableCondition_type] at hset
    rw [hset, hnone]
    rfl

/-- The verdict depends on the spec only. -/
theorem calculateMigratableCondition_congr {vm vm' : VM} (h : vm.spec = vm'.spec) :
    calculateMigratableCondition vm = calculateMigratableCondition vm' := by
  simp only [calculateMigratableCondition, h]

/-- **Run**: through an incarnation the spec stays accepted and the verdict
    that is stored is the one of the current version. -/
theorem Incarnation.current {lib : Library} {vm : VM} (h : Incarnation lib vm) :
    vm.spec.Accepted ∧ VerdictCurrent vm := by
  induction h with
  | begin hvalid hnone =>
    refine ⟨accepted_of_validateVM hvalid, ?_⟩
    intro c hc
    rw [hnone] at hc
    cases hc
  | update _ hvalid hstatus ih =>
    obtain ⟨haccepted, hcurrent⟩ := ih
    refine ⟨accepted_of_validateVM hvalid, ?_⟩
    intro c hc
    rw [hstatus] at hc
    rw [hcurrent c hc, verdict_eq_of_update haccepted hvalid]
  | @reconcile vm vmPod _ ih =>
    obtain ⟨haccepted, hcurrent⟩ := ih
    refine ⟨haccepted, ?_⟩
    intro c hc
    have hspec : (reconcileVMConditions vm vmPod).spec = vm.spec := rfl
    rw [calculateMigratableCondition_congr hspec]
    rw [findStatusCondition_reconcile, Option.some.injEq] at hc
    cases hfind : findStatusCondition vm.status.conditions "Migratable" with
    | none => rw [hfind] at hc; exact hc ▸ rfl
    | some d => rw [hfind] at hc; exact hc ▸ hcurrent d hfind
  | write status _ hconditions ih =>
    obtain ⟨haccepted, hcurrent⟩ := ih
    refine ⟨haccepted, ?_⟩
    intro c hc
    rw [hconditions] at hc
    exact hcurrent c hc

/-- Whatever updates were accepted since the Migratable condition was stored,
    its status and reason are those that the current version would get; and
    after every reconcile the condition is there. -/
theorem cached_verdict_is_current {lib : Library} {vm : VM} (h : Incarnation lib vm) :
    (∀ c, findStatusCondition vm.status.conditions "Migratable" = some c →
      c.status = (calculateMigratableCondition vm).status ∧
      c.reason = (calculateMigratableCondition vm).reason) ∧
    ∀ vmPod, ∃ c,
      findStatusCondition (reconcileVMConditions vm vmPod).status.conditions "Migratable" = some c ∧
      c.status = (calculateMigratableCondition vm).status ∧
      c.reason = (calculateMigratableCondition vm).reason := by
  have hpair : ∀ {c : Condition}, c.verdict = (calculateMigratableCondition vm).verdict →
      c.status = (calculateMigratableCondition vm).status ∧
      c.reason = (calculateMigratableCondition vm).reason := by
    intro c hc
    exact ⟨congrArg Prod.fst hc, congrArg Prod.snd hc⟩
  refine ⟨fun c hc => hpair (h.current.2 c hc), ?_⟩
  intro vmPod
  refine ⟨_, findStatusCondition_reconcile vm vmPod, ?_⟩
  cases hfind : findStatusCondition vm.status.conditions "Migratable" with
  | none => exact ⟨rfl, rfl⟩
  | some d => exact hpair (h.current.2 d hfind)

namespace Sample

/-- The pod of the sample machine. -/
def runningPod : Pod :=
  { name := "vm-pod", uid := "pod-uid", nodeName := "node", phase := .running }

/-- The sample machine after its first reconcile. -/
def judged : VM := reconcileVMConditions (withVolumes [rootDisk]) runningPod

/-- The sample machine gets a second disk after the verdict was stored. -/
theorem judged_plugged :
    Incarnation library { withVolumes [dataDisk, rootDisk] with status := judged.status } :=
  .update (.reconcile runningPod (.begin (by decide) (by decide))) (by decide) rfl

end Sample

/-- The verdict on the root disk still stands when a disk was plugged in. -/
theorem cached_verdict_is_current_plugged :
    findStatusCondition Sample.judged.status.conditions "Migratable" =
      some (calculateMigratableCondition (Sample.withVolumes [Sample.rootDisk])) ∧
    (calculateMigratableCondition (Sample.withVolumes [Sample.rootDisk])).status =
      (calculateMigratableCondition
        (Sample.withVolumes [Sample.dataDisk, Sample.rootDisk])).status :=
  ⟨by decide, ((cached_verdict_is_current Sample.judged_plugged).1 _ (by decide)).1⟩

end Virtink
