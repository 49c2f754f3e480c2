import Virtink.Cluster.World

/-! # Hotplug Volumes in the VM Controller

    `handleHotplugVolumes` keeps one volume pod beside each VM pod that holds
    the claims of all ready hotplug volumes; `updateHotplugVolumeStatus`
    records in the VM status how far each volume has come. Events that are
    only recorded for users are left out.
-/

namespace Virtink

open Calls

/-! ### Choosing Volumes and Pods -/

/-- `getHotplugVolumes`: the hotpluggable volumes that are not part of the pod. -/
def getHotplugVolumes (vm : VM) (vmPod : Pod) : List Volume :=
  vm.spec.volumes.filter (fun v => v.isHotpluggable && !vmPod.volumes.any (·.name == v.name))

/-- Insert a pod before the first one that is not newer. -/
def insertNewest (p : Pod) : List Pod → List Pod
  | [] => [p]
  | q :: l =>
      if q.creationTimestamp ≤ p.creationTimestamp then p :: q :: l
      else q :: insertNewest p l

/-- `sort.Slice` with `!pods[i].CreationTimestamp.Before(&pods[j].CreationTimestamp)`:
    newest first. Up to twelve elements it is an insertion sort, which puts
    the later of two equally old pods first. -/
def sortNewestFirst (pods : List Pod) : List Pod :=
  pods.foldl (fun sorted p => insertNewest p sorted) []

/-- The pods among `pods` that the VM pod controls, newest first. -/
def volumePodsOf (vmPod : Pod) (pods : List Pod) : List Pod :=
  sortNewestFirst (pods.filter (fun p => p.controller.any (·.uid == vmPod.uid)))

/-- `getHotplugVolumePods`. -/
def getHotplugVolumePods (vmPod : Pod) : Call (Except Err (List Pod)) := do
  match ← ask .listPods with
  | .error e => pure (.error (.other e.text))
  | .ok pods => pure (.ok (volumePodsOf vmPod pods))

/-- `isPodMatchVMHotplugVolumes`: two volumes of the pod are not claims, the
    socket directory and the token the server adds. -/
def isPodMatchVMHotplugVolumes (pod : Pod) (hotplugVolumes : List Volume) : Bool :=
  (pod.volumes.length : Int) - 2 == hotplugVolumes.length &&
    (pod.volumes.filter (·.claim.isSome)).all
      (fun v => hotplugVolumes.any (·.name == v.name))

/-! ### Building a Volume Pod -/

/-- `controllerutil.SetControllerReference`: a second controller is refused. -/
def setControllerReference (owner : OwnerRef) (t : PodTemplate) : Except String PodTemplate :=
  match t.controller with
  | none => .ok { t with controller := some owner }
  | some r =>
      if r = owner then .ok t
      else .error ("Object is already owned by another controller")

/-- The status of a volume in `volumeStatusMap`: the last entry of that name
    counts, and an absent one reads as the zero value. -/
def lookupVolumeStatus (l : List VolumeStatus) (name : String) : Option VolumeStatus :=
  l.reverse.find? (·.name == name)

/-- The volume loop of `buildHotplugVolumePod`: a volume that is not mounted
    yet is also handed to the container, as a device or as a directory. -/
def addVolumes (vm : VM) : List Volume → PodTemplate → Call (Except Err PodTemplate)
  | [], t => pure (.ok t)
  | volume :: rest, t => do
      let t := { t with
        volumes := t.volumes ++ [{ name := volume.name, claim := some volume.pvcName }] }
      let phase := ((lookupVolumeStatus vm.status.volumeStatus volume.name).map (·.phase)).getD .empty
      if phase ≠ .mountedToPod ∧ phase ≠ .ready then
        match ← ask (.isBlock volume) with
        | .error e => pure (.error (.other e))
        | .ok true => addVolumes vm rest { t with
            volumeDevices := t.volumeDevices ++
              [{ name := volume.name, path := "/hotplug/" ++ volume.name }] }
        | .ok false => addVolumes vm rest { t with
            volumeMounts := t.volumeMounts ++
              [{ name := volume.name, path := "/mnt/" ++ volume.name }] }
      else addVolumes vm rest t

/-- `buildHotplugVolumePod`. -/
def buildHotplugVolumePod (vm : VM) (vmPod : Pod) (hotplugVolumes : List Volume) :
    Call (Except Err PodTemplate) := do
  match ← addVolumes vm hotplugVolumes
      { generateName := vm.name ++ "-hotplug-volumes-"
        volumes := [{ name := "hotplug" }]
        volumeMounts := [{ name := "hotplug", path := "/hotplug" }] } with
  | .error e => pure (.error e)
  | .ok t =>
      match setControllerReference ⟨.pod, vmPod.uid⟩ t with
      | .error e => pure (.error (.other e))
      | .ok t => pure (.ok t)

/-! ### Keeping One Volume Pod -/

/-- The first loop of `handleHotplugVolumes`: the volumes whose data is there. -/
def readyVolumes : List Volume → Call (Except Err (List Volume))
  | [] => pure (.ok [])
  | volume :: rest => do
      match ← ask (.isReady volume) with
      | .error e => pure (.error (.other e))
      | .ok ready =>
          match ← readyVolumes rest with
          | .error e => pure (.error e)
          | .ok l => pure (.ok (if ready then volume :: l else l))

/-- The second loop of `handleHotplugVolumes`: the newest matching pod is kept
    as the current one, all others are old. -/
def splitPods (ready : List Volume) : List Pod → Option Pod × List Pod
  | [] => (none, [])
  | p :: l =>
      if isPodMatchVMHotplugVolumes p ready then (some p, l)
      else
        let (cur, old) := splitPods ready l
        (cur, p :: old)

/-- The third loop of `handleHotplugVolumes`: old pods that are not already
    going are deleted. -/
def deleteOldPods : List Pod → Call (Option Err)
  | [] => pure none
  | p :: l => do
      if p.deletionTimestamp.isSome then deleteOldPods l
      else
        match ← ask (.deletePod p.name .outdated) with
        | .error e => pure (some (.other e.text))
        | .ok _ => deleteOldPods l

/-- `handleHotplugVolumes`. -/
def handleHotplugVolumes (vm : VM) (vmPod : Pod) (waitAllVolumesReady : Bool) :
    Call (Option Err) := do
  let hotplugVolumes := getHotplugVolumes vm vmPod
  match ← readyVolumes hotplugVolumes with
  | .error e => pure (some e)
  | .ok ready =>
      if waitAllVolumesReady ∧ ready.length < hotplugVolumes.length then pure none
      else
        match ← getHotplugVolumePods vmPod with
        | .error e => pure (some e)
        | .ok pods =>
            let (currentPod, oldPods) := splitPods ready pods
            if currentPod.isNone ∧ 0 < ready.length then
              match ← buildHotplugVolumePod vm vmPod ready with
              | .error e => pure (some e)
              | .ok t =>
                  match ← ask (.createPod t) with
                  | .error e => pure (some (.other e.text))
                  | .ok _ => deleteOldPods oldPods
            else deleteOldPods oldPods

/-! ### Volume Status -/

/-- The first volume pod that holds the volume. -/
def volumePodOf (pods : List Pod) (name : String) : Option Pod :=
  pods.find? (fun p => p.volumes.any (·.name == name))

/-- The search for the volume pod of a volume that has left the spec. The
    outer loop is not left when a pod is found: a later pod still replaces it
    if its first volume has the name. -/
def lastVolumePodOf (pods : List Pod) (name : String) : Option Pod :=
  pods.foldl (fun found p =>
    match found with
    | none => if p.volumes.any (·.name == name) then some p else none
    | some q => if p.volumes.head?.any (·.name == name) then some p else some q) none

/-- The status of a hotplug volume of the spec. -/
def currentStatus (pods : List Pod) (status : VolumeStatus) : VolumeStatus :=
  let phase := if status.phase = .empty then .pending else status.phase
  match volumePodOf pods status.name with
  | some p =>
      { status with
        hotplugVolume := some { volumePodName := p.name, volumePodUID := p.uid }
        phase := if p.phase = .running ∧ phase = .pending then .attachedToNode else phase }
  | none => { status with hotplugVolume := some {}, phase := .pending }

/-- The loop over the hotplug volumes; the second component is what is left of
    `volumeStatusMap`. -/
def currentStatuses (pods : List Pod) :
    List Volume → List VolumeStatus → List VolumeStatus × List VolumeStatus
  | [], left => ([], left)
  | volume :: rest, left =>
      let status := (lookupVolumeStatus left volume.name).getD { name := volume.name }
      let (l, left') := currentStatuses pods rest (left.filter (·.name != volume.name))
      (currentStatus pods status :: l, left')

/-- `volumeStatusMap`: one entry per name, the last one. -/
def volumeStatusMap : List VolumeStatus → List VolumeStatus
  | [] => []
  | s :: l => if l.any (·.name == s.name) then volumeStatusMap l else s :: volumeStatusMap l

/-- The loop over the entries that are left: a volume that is still in a
    volume pod is being detached. The status of such a volume has its pointer
    set, or the process panics. -/
def detachingStatuses (pods : List Pod) : List VolumeStatus → Except Err (List VolumeStatus)
  | [] => .ok []
  | status :: rest =>
      match lastVolumePodOf pods status.name, status.hotplugVolume with
      | none, _ => detachingStatuses pods rest
      | some _, none => .error .panic
      | some p, some _ =>
          match detachingStatuses pods rest with
          | .error e => .error e
          | .ok l => .ok ({ status with
              hotplugVolume := some { volumePodName := p.name, volumePodUID := p.uid }
              phase := .detaching } :: l)

/-- `updateHotplugVolumeStatus`: the VM with its new volume status, and the
    error. -/
def updateHotplugVolumeStatus (vm : VM) (vmPod : Pod) : Call (VM × Option Err) := do
  match ← getHotplugVolumePods vmPod with
  | .error e => pure (vm, some e)
  | .ok pods =>
      let (current, left) := currentStatuses pods (getHotplugVolumes vm vmPod)
        (volumeStatusMap vm.status.volumeStatus)
      let left ← ask (.rangeMap left)
      match detachingStatuses pods left with
      | .error e => pure (vm, some e)
      | .ok detaching =>
          let vm := { vm with status := { vm.status with volumeStatus := current ++ detaching } }
          if vm.status.volumeStatus.any (·.phase == .pending) then pure (vm, some (.requeue 60))
          else pure (vm, none)

/-! ### What Is Asked -/

section asks
variable {ok : Op → Prop}

theorem readyVolumes_asks {volumes : List Volume} (h : ∀ v ∈ volumes, ok (.isReady v)) :
    (readyVolumes volumes).Only ok := by
  induction volumes with
  | nil => exact trivial
  | cons volume rest ih =>
    refine only_ask (h volume List.mem_cons_self) fun ready => ?_
    match ready with
    | .error e => exact trivial
    | .ok ready =>
      refine .bind (ih fun v hv => h v (List.mem_cons_of_mem volume hv)) fun r => ?_
      cases r <;> exact trivial

theorem buildHotplugVolumePod_asks (h : ∀ v, ok (.isBlock v)) (vm : VM) (vmPod : Pod)
    (volumes : List Volume) : (buildHotplugVolumePod vm vmPod volumes).Only ok := by
  have hadd : ∀ t, (addVolumes vm volumes t).Only ok := by
    induction volumes with
    | nil => exact fun _ => trivial
    | cons volume rest ih =>
      intro t
      unfold addVolumes
      dsimp only
      split
      · refine only_ask (h volume) fun block => ?_
        cases block with
        | error e => exact trivial
        | ok block => cases block <;> exact ih _
      · exact ih _
  refine (hadd _).bind fun r => ?_
  match r with
  | .error e => exact trivial
  | .ok t =>
    dsimp only
    split <;> exact trivial

theorem deleteOldPods_asks (h : ∀ name, ok (.deletePod name .outdated)) (pods : List Pod) :
    (deleteOldPods pods).Only ok := by
  induction pods with
  | nil => exact trivial
  | cons p rest ih =>
    unfold deleteOldPods
    split
    · exact ih
    · refine only_ask (h p.name) fun done => ?_
      cases done with
      | error e => exact trivial
      | ok u => exact ih

end asks

/-! ### Volume Pods as They Are Built -/

/-- The volume of a volume pod that stands for a hotplug volume. -/
def Volume.asClaim (v : Volume) : PodVolume := { name := v.name, claim := some v.pvcName }

/-- The loop adds the claims of the volumes, in order. -/
theorem addVolumes_volumes {vm : VM} {volumes : List Volume} {t t' : PodTemplate}
    {l : List (Prog.Entry api)} (h : Prog.Path (addVolumes vm volumes t) l (.ok t')) :
    t'.controller = t.controller ∧ t'.volumes = t.volumes ++ volumes.map Volume.asClaim := by
  induction volumes generalizing t l with
  | nil =>
    cases h
    exact ⟨rfl, (List.append_nil _).symm⟩
  | cons volume rest ih =>
    -- whichever way the volume is handed over, it is added to the pod first
    have hadd : ∀ {t₁ : PodTemplate} {l₁ : List (Prog.Entry api)},
        Prog.Path (addVolumes vm rest t₁) l₁ (.ok t') → t₁.controller = t.controller →
        t₁.volumes = t.volumes ++ [volume.asClaim] →
        t'.controller = t.controller ∧
          t'.volumes = t.volumes ++ (volume :: rest).map Volume.asClaim := by
      intro t₁ l₁ hpath hcontroller hvolumes
      obtain ⟨hcontroller', hvolumes'⟩ := ih hpath
      refine ⟨hcontroller'.trans hcontroller, ?_⟩
      rw [hvolumes', hvolumes, List.append_assoc]
      rfl
    unfold addVolumes at h
    dsimp only at h
    split at h
    · obtain ⟨block, l₁, rfl, h₁⟩ := Prog.Path.of_call h
      cases block with
      | error e => cases h₁
      | ok block => cases block <;> exact hadd h₁ rfl rfl
    · exact hadd h rfl rfl

/-- A volume pod is controlled by the VM pod; its volumes are the directory and
    the claims it is built for. -/
theorem buildHotplugVolumePod_volumes {vm : VM} {vmPod : Pod} {volumes : List Volume}
    {t : PodTemplate} {l : List (Prog.Entry api)}
    (h : Prog.Path (buildHotplugVolumePod vm vmPod volumes) l (.ok t)) :
    t.controller = some ⟨.pod, vmPod.uid⟩ ∧
      t.volumes = { name := "hotplug" } :: volumes.map Volume.asClaim := by
  obtain ⟨l₁, l₂, r, rfl, h₁, h₂⟩ := Prog.Path.of_bind h
  match r, h₁, h₂ with
  | .error e, _, h₂ => cases h₂
  | .ok t₁, h₁, h₂ =>
    obtain ⟨hcontroller, hvolumes⟩ := addVolumes_volumes h₁
    have hnone : t₁.controller = none := hcontroller
    simp only [setControllerReference, hnone] at h₂
    cases h₂
    exact ⟨rfl, hvolumes⟩

/-- The volumes that are found ready are some of those asked about. -/
theorem readyVolumes_sublist {volumes ready : List Volume} {l : List (Prog.Entry api)}
    (h : Prog.Path (readyVolumes volumes) l (.ok ready)) : ready.Sublist volumes := by
  induction volumes generalizing ready l with
  | nil => cases h; exact List.Sublist.refl _
  | cons volume rest ih =>
    obtain ⟨flag, l₁, rfl, h₁⟩ := Prog.Path.of_call h
    match flag, h₁ with
    | .error e, h₁ => cases h₁
    | .ok flag, h₁ =>
      obtain ⟨l₂, l₃, r, rfl, h₂, h₃⟩ := Prog.Path.of_bind (p := readyVolumes rest) h₁
      match r, h₂, h₃ with
      | .error e, _, h₃ => cases h₃
      | .ok found, h₂, h₃ =>
        cases h₃
        cases flag with
        | true => exact (ih h₂).cons_cons volume
        | false => exact (ih h₂).cons volume

theorem getHotplugVolumes_sublist (vm : VM) (vmPod : Pod) :
    (getHotplugVolumes vm vmPod).Sublist (vm.spec.volumes.filter Volume.isHotpluggable) := by
  have heq : getHotplugVolumes vm vmPod = (vm.spec.volumes.filter Volume.isHotpluggable).filter
      (fun v => !vmPod.volumes.any (·.name == v.name)) := by
    unfold getHotplugVolumes
    rw [List.filter_filter]
    exact List.filter_congr fun v _ => Bool.and_comm ..
  rw [heq]
  exact List.filter_sublist

end Virtink
