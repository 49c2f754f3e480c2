import Virtink.MountOrder
import Virtink.Daemon.Node

/-! # Whose Devices Are Allowed

    A block volume is made available to a guest in two steps: `mknod` makes its
    device node in the directory of the VM pod, and the cgroup of the
    hypervisor in that pod is allowed to use the device. `mountHotplugVolumes`
    is told which pod it works for, but the manager of the cgroup is found by
    the pod in the status of the VM. For the target of a migration these are
    two pods, and the second is on another node: there is no manager, and the
    daemon dereferences a nil pointer (`target_mount_panics`).

    `mount_touches_own_pod` says exactly when a call is safe.
-/

namespace Virtink

open Calls

/-! ### Statement -/

/-- The answers are those of a node with these hypervisor sockets, and of a
    cluster with these modes of volumes. -/
def Fits (mode : Volume → Bool) (sockets : UID → Bool) : (o : NodeOp) → o.Ans → Prop
  | .base (.isBlock volume), .ok block => block = mode volume
  | .statSocket pod, .ok there => there = sockets pod
  | _, _ => True

/-- As long as the answers fit, device nodes are made for the pod, the rules of
    its cgroup are changed, and no nil manager is used. -/
def deviceRules (mode : Volume → Bool) (sockets : UID → Bool) (pod : UID) :
    Protocol nodeApi Prop where
  told o a fits := fits ∧ Fits mode sockets o a
  guard
    | .mknod volume target _ _, fits => fits → target = mountBlockVolumeTarget pod volume
    | .setCgroup p _ _ _, fits => fits → p = pod
    | .panic, fits => ¬ fits
    | _, _ => True

namespace VMDaemon

/-- The pod that a call of `mountHotplugVolumes` works for. -/
def effectivePod (vm : VM) (vmPodUID : UID) : UID :=
  if vmPodUID = "" then vm.status.vmPodUID else vmPodUID

/-- A call of `mountHotplugVolumes` is safe. -/
def SafeMount (mode : Volume → Bool) (sockets : UID → Bool) (vm : VM)
    (vmPodUID volumePodUID : UID) : Prop :=
  (deviceRules mode sockets (effectivePod vm vmPodUID)).Obeys
    ((mountHotplugVolumes vm vmPodUID volumePodUID).interp handler
      { statusPodUID := vm.status.vmPodUID }) (fun _ _ => True) True

/-- The volumes that the loop of `mountHotplugVolumes` mounts, if nothing
    fails. -/
def toMount : UID → List Volume → VM → List Volume
  | _, [], _ => []
  | volumePodUID, volume :: rest, vm =>
      match vm.status.volumeStatus.find? (·.name == volume.name) with
      | some { name, phase, hotplugVolume := some hotplug } =>
          if !volume.isHotpluggable then toMount volumePodUID rest vm
          else if volumePodUID ≠ "" ∨ phase = .attachedToNode then
            volume :: toMount (if volumePodUID = "" then hotplug.volumePodUID else volumePodUID)
              rest (if phase = .attachedToNode then
                withVolumeStatus vm (setPhase name .mountedToPod vm.status.volumeStatus) else vm)
          else toMount volumePodUID rest vm
      | _ => toMount volumePodUID rest vm

section
variable {mode : Volume → Bool} {sockets : UID → Bool} {pod statusPodUID : UID} {fits : Prop}

/-! ### Safe Programs -/

/-- Once an answer does not fit, nothing is asked any more. -/
theorem obeys_of_unfit {α : Type} {p : NodeCall α} (h : ¬ fits) :
    (deviceRules mode sockets pod).Obeys p (fun _ _ => True) fits := by
  induction p generalizing fits with
  | pure a => trivial
  | call o k ih =>
    refine ⟨?_, fun a => ih a fun h' => h h'.1⟩
    unfold deviceRules
    dsimp only
    split <;> first | exact fun hfits => absurd hfits h | exact h | trivial

/-- Calls that have nothing to do with devices. -/
def Harmless : NodeOp → Prop
  | .mknod _ _ _ _ | .setCgroup _ _ _ _ | .panic => False
  | _ => True

theorem obeys_harmless {α : Type} {p : NodeCall α} (hp : p.Only Harmless) :
    (deviceRules mode sockets pod).Obeys p (fun _ _ => True) fits := by
  refine Protocol.Obeys.of_only (P := fun _ => True) hp (fun o v ho _ => ?_) (fun _ _ _ _ _ => trivial)
    trivial
  unfold deviceRules
  dsimp only
  split <;> first | exact ho.elim | trivial

/-- The manager is nil exactly if there is no socket. -/
theorem NewManager_obeys :
    (deviceRules mode sockets pod).Obeys (NewManager statusPodUID)
      (fun x fits => fits → ∀ m, x = .ok m → m = if sockets statusPodUID then some statusPodUID
        else none) fits := by
  refine ⟨trivial, fun there => ?_⟩
  match there with
  | .error e => exact fun _ _ h => by cases h
  | .ok false =>
    rintro ⟨-, hsocket⟩ m ⟨⟩
    have hsocket : sockets statusPodUID = false := hsocket.symm
    simp [hsocket]
  | .ok true =>
    refine ⟨trivial, fun pid => ?_⟩
    match pid with
    | .error e => exact fun _ _ h => by cases h
    | .ok pid =>
      refine ⟨trivial, fun opened => ?_⟩
      match opened with
      | .error e => exact fun _ _ h => by cases h
      | .ok () =>
        rintro ⟨⟨⟨-, hsocket⟩, -⟩, -⟩ m ⟨⟩
        have hsocket : sockets statusPodUID = true := hsocket.symm
        simp [hsocket]

theorem allowDevice_safe (hpod : pod = statusPodUID) (hsocket : sockets statusPodUID = true)
    {volume : String} {major minor : Int} {r : List MountEntry} :
    (deviceRules mode sockets pod).Obeys (allowDevice statusPodUID volume major minor r)
      (fun _ _ => True) fits := by
  refine Protocol.Obeys.bind (NewManager_obeys.mono ?_)
  intro manager fits' hmanager
  by_cases hfits : fits'
  · have hmanager := hmanager hfits
    match manager with
    | .error e => trivial
    | .ok none => exact absurd (hmanager none rfl) (by simp [hsocket])
    | .ok (some p) =>
      have hp : p = statusPodUID := by simpa [hsocket] using hmanager (some p) rfl
      refine ⟨fun _ => hp.trans hpod.symm, fun set => ?_⟩
      match set with
      | .error e => trivial
      | .ok () => trivial
  · exact obeys_of_unfit hfits

theorem addVolumeToVMMountRecord_harmless (volume target : String) (r : List MountEntry) :
    (addVolumeToVMMountRecord volume target r).Only Harmless := by
  unfold addVolumeToVMMountRecord
  split
  · trivial
  · refine ⟨trivial, fun written => ?_⟩
    match written with
    | .error e => trivial
    | .ok () => trivial

theorem mountBlockVolume_safe (hpod : pod = statusPodUID) (hsocket : sockets statusPodUID = true)
    {volume : String} {volumePodUID : UID} {r : List MountEntry} :
    (deviceRules mode sockets pod).Obeys (mountBlockVolume statusPodUID volume pod volumePodUID r)
      (fun _ _ => True) fits := by
  refine ⟨trivial, fun mounted => ?_⟩
  match mounted with
  | .error e => trivial
  | .ok mounted =>
    refine ⟨trivial, fun numbers => ?_⟩
    match numbers with
    | .error e => trivial
    | .ok (major, minor) =>
      refine Protocol.Obeys.bind (p := addVolumeToVMMountRecord volume _ r)
        ((obeys_harmless (addVolumeToVMMountRecord_harmless volume _ r)).mono ?_)
      intro added fits' _
      match added with
      | .error e => trivial
      | .ok r' =>
        cases mounted with
        | true => exact allowDevice_safe hpod hsocket
        | false =>
          refine ⟨fun _ => rfl, fun made => ?_⟩
          match made with
          | .error e => trivial
          | .ok () => exact allowDevice_safe hpod hsocket

theorem isMounted_harmless (path : String) : (isMounted path).Only Harmless := by
  refine ⟨trivial, fun there => ?_⟩
  match there with
  | .error e => trivial
  | .ok false => trivial
  | .ok true => exact ⟨trivial, fun _ => trivial⟩

theorem createTarget_harmless (target : String) : (createTarget target).Only Harmless := by
  refine ⟨trivial, fun there => ?_⟩
  match there with
  | .error e => trivial
  | .ok true => trivial
  | .ok false => exact ⟨trivial, fun _ => trivial⟩

/-- Mounting a volume with a file system has nothing to do with devices. -/
theorem mountFileSystemVolume_harmless (volume : String) (vmPodUID volumePodUID : UID)
    (r : List MountEntry) :
    (mountFileSystemVolume volume vmPodUID volumePodUID r).Only Harmless := by
  refine (isMounted_harmless _).bind fun mounted => ?_
  match mounted with
  | .error e => trivial
  | .ok true => trivial
  | .ok false =>
    refine ⟨trivial, fun source => ?_⟩
    match source with
    | .error e => trivial
    | .ok source =>
      refine Prog.Only.bind (p := addVolumeToVMMountRecord volume _ r)
        (addVolumeToVMMountRecord_harmless volume _ r) fun added => ?_
      match added with
      | .error e => trivial
      | .ok r' =>
        refine Prog.Only.bind (p := createTarget _) (createTarget_harmless _) fun created => ?_
        match created with
        | .error e => trivial
        | .ok () =>
          refine ⟨trivial, fun bound => ?_⟩
          match bound with
          | .error e => trivial
          | .ok () => trivial

/-! ### The Loop -/

/-- A volume that is due is mounted from a volume pod, and the loop goes on. -/
def mountDue (pod volumePodUID : UID) (volume : Volume) (rest : List Volume) (vm vm' : VM) :
    Call (VM × Option Err) := do
  match ← ask (.isBlock volume) with
  | .error e => pure (vm, some (.other e))
  | .ok block =>
      match ← ask (.mountVolume volume.name block pod volumePodUID) with
      | .error e => pure (vm, some (.other e))
      | .ok _ => mountVolumes pod volumePodUID rest vm'

/-- Each volume is skipped or due. -/
theorem mountVolumes_cons (pod volumePodUID : UID) (volume : Volume) (rest : List Volume) (vm : VM) :
    (mountVolumes pod volumePodUID (volume :: rest) vm = mountVolumes pod volumePodUID rest vm ∧
      toMount volumePodUID (volume :: rest) vm = toMount volumePodUID rest vm) ∨
    ∃ podUID' vm',
      mountVolumes pod volumePodUID (volume :: rest) vm = mountDue pod podUID' volume rest vm vm' ∧
      toMount volumePodUID (volume :: rest) vm = volume :: toMount podUID' rest vm' := by
  cases hfind : vm.status.volumeStatus.find? (·.name == volume.name) with
  | none => exact .inl (by simp [mountVolumes, toMount, hfind])
  | some status =>
    obtain ⟨name, phase, hotplug⟩ := status
    cases hotplug with
    | none => exact .inl (by simp [mountVolumes, toMount, hfind])
    | some hotplug =>
      simp only [mountVolumes, toMount, hfind]
      by_cases hplug : (!volume.isHotpluggable) = true
      · simp only [hplug, if_true]
        exact .inl ⟨trivial, trivial⟩
      · by_cases hdue : volumePodUID ≠ "" ∨ phase = .attachedToNode
        · simp only [hplug, hdue, if_true, if_false, Bool.false_eq_true]
          refine .inr ⟨_, _, ?_, rfl⟩
          unfold mountDue
          congr 1
          funext block
          cases block with
          | error e => rfl
          | ok block =>
            simp only
            congr 1
            funext mounted
            cases mounted <;> rfl
        · simp only [hplug, hdue, if_false, Bool.false_eq_true]
          exact .inl ⟨trivial, trivial⟩

/-- Mounting one volume is safe, and the record stays at hand. -/
theorem mountVolume_safe {l : Local} {r : List MountEntry} (hrecord : l.record = some r)
    {volume : Volume} {block : Bool} {volumePodUID : UID}
    (hfits : fits → block = mode volume)
    (hsafe : mode volume = true → pod = l.statusPodUID ∧ sockets l.statusPodUID = true)
    {Q : Except String Unit × Local → Prop → Prop}
    (hok : ∀ r' fits', Q (.ok (), { l with record := some r' }) fits')
    (herror : ∀ e fits', Q (.error e, { l with record := none }) fits') :
    (deviceRules mode sockets pod).Obeys
      (handler (.mountVolume volume.name block pod volumePodUID) l) Q fits := by
  have hdone : ∀ x fits', Q (l.mounted x) fits' := by
    intro x fits'
    match x with
    | .error e => exact herror e fits'
    | .ok r' => exact hok r' fits'
  simp only [handler, hrecord]
  by_cases hfit : fits
  · obtain rfl := hfits hfit
    cases hblock : mode volume with
    | true =>
      obtain ⟨hpod, hsocket⟩ := hsafe hblock
      exact Protocol.Obeys.bind ((mountBlockVolume_safe hpod hsocket).mono
        fun x fits' _ => hdone x fits')
    | false =>
      exact Protocol.Obeys.bind ((obeys_harmless (mountFileSystemVolume_harmless ..)).mono
        fun x fits' _ => hdone x fits')
  · cases block with
    | true => exact Protocol.Obeys.bind ((obeys_of_unfit hfit).mono fun x fits' _ => hdone x fits')
    | false => exact Protocol.Obeys.bind ((obeys_of_unfit hfit).mono fun x fits' _ => hdone x fits')

/-- **The loop is safe** if the volumes it mounts are no block volumes, or the
    pod is that of the status and its hypervisor has a socket. -/
theorem mountVolumes_safe {volumePodUID : UID} {volumes : List Volume} {vm : VM} {l : Local}
    {r : List MountEntry} (hrecord : l.record = some r)
    (hsafe : ∀ volume ∈ toMount volumePodUID volumes vm, mode volume = true →
      pod = l.statusPodUID ∧ sockets l.statusPodUID = true) :
    (deviceRules mode sockets pod).Obeys ((mountVolumes pod volumePodUID volumes vm).interp handler l)
      (fun _ _ => True) fits := by
  induction volumes generalizing volumePodUID vm l r fits with
  | nil => trivial
  | cons volume rest ih =>
    rcases mountVolumes_cons pod volumePodUID volume rest vm with
      ⟨hloop, hdue⟩ | ⟨podUID', vm', hloop, hdue⟩
    · rw [hloop]
      exact ih hrecord (hdue ▸ hsafe)
    · rw [hloop]
      rw [hdue] at hsafe
      refine ⟨trivial, fun block => ?_⟩
      match block with
      | .error e => trivial
      | .ok block =>
        have hmount := hsafe volume List.mem_cons_self
        refine Protocol.Obeys.bind (p := handler (.mountVolume volume.name block pod podUID') l)
          (mountVolume_safe hrecord ?_ hmount ?_ ?_)
        · exact fun h => h.2
        · exact fun r' fits' => ih rfl fun v hv => hsafe v (List.mem_cons_of_mem _ hv)
        · exact fun e fits' => trivial

/-! ### What Safety Needs

    The other way round, answers that fit lead into a nil manager or into the
    cgroup of another pod. -/

theorem allowDevice_needs {volume : String} {major minor : Int} {r : List MountEntry}
    {Q : Except String (List MountEntry) → Prop → Prop} (hfits : fits)
    (h : (deviceRules mode sockets pod).Obeys (allowDevice statusPodUID volume major minor r) Q
      fits) : pod = statusPodUID ∧ sockets statusPodUID = true := by
  cases hsocket : sockets statusPodUID with
  | false =>
    have hpanic : ¬ (fits ∧ false = sockets statusPodUID) := (h.2 (.ok false)).1
    exact absurd ⟨hfits, hsocket.symm⟩ hpanic
  | true =>
    have hset : ((fits ∧ true = sockets statusPodUID) ∧ True) ∧ True → statusPodUID = pod :=
      (((h.2 (.ok true)).2 (.ok 0)).2 (.ok ())).1
    exact ⟨(hset ⟨⟨⟨hfits, hsocket.symm⟩, trivial⟩, trivial⟩).symm, rfl⟩

/-- The entry can be written. -/
theorem addVolumeToVMMountRecord_can {volume target : String} {r : List MountEntry}
    {Q : Except String (List MountEntry) → Prop → Prop} (hfits : fits)
    (h : (deviceRules mode sockets pod).Obeys (addVolumeToVMMountRecord volume target r) Q fits) :
    ∃ r' fits', fits' ∧ Q (.ok r') fits' := by
  unfold addVolumeToVMMountRecord at h
  split at h
  · exact ⟨r, fits, hfits, h⟩
  · exact ⟨_, _, ⟨hfits, trivial⟩, h.2 (.ok ())⟩

theorem mountBlockVolume_needs {volume : String} {volumePodUID : UID} {r : List MountEntry}
    {Q : Except String (List MountEntry) → Prop → Prop} (hfits : fits)
    (h : (deviceRules mode sockets pod).Obeys
      (mountBlockVolume statusPodUID volume pod volumePodUID r) Q fits) :
    pod = statusPodUID ∧ sockets statusPodUID = true := by
  -- the device node is there already
  have hadd := Protocol.Obeys.of_bind (p := addVolumeToVMMountRecord volume _ r)
    ((h.2 (.ok true)).2 (.ok (0, 0)))
  obtain ⟨r', fits', hfits', hallow⟩ :=
    addVolumeToVMMountRecord_can ⟨⟨hfits, trivial⟩, trivial⟩ hadd
  exact allowDevice_needs hfits' hallow

/-- A volume with a file system can be mounted already. -/
theorem mountFileSystemVolume_can {volume : String} {vmPodUID volumePodUID : UID}
    {r : List MountEntry} {Q : Except String (List MountEntry) → Prop → Prop} (hfits : fits)
    (h : (deviceRules mode sockets pod).Obeys
      (mountFileSystemVolume volume vmPodUID volumePodUID r) Q fits) :
    ∃ fits', fits' ∧ Q (.ok r) fits' :=
  ⟨_, ⟨⟨hfits, trivial⟩, trivial⟩, (h.2 (.ok true)).2 (.ok true)⟩

/-- **The loop is safe only if** it mounts no block volumes, or the pod is that
    of the status and its hypervisor has a socket. -/
theorem mountVolumes_needs {volumePodUID : UID} {volumes : List Volume} {vm : VM} {l : Local}
    {r : List MountEntry} {Q : (VM × Option Err) × Local → Prop → Prop}
    (hrecord : l.record = some r) (hfits : fits)
    (h : (deviceRules mode sockets pod).Obeys
      ((mountVolumes pod volumePodUID volumes vm).interp handler l) Q fits)
    (hblock : ∃ volume ∈ toMount volumePodUID volumes vm, mode volume = true) :
    pod = l.statusPodUID ∧ sockets l.statusPodUID = true := by
  induction volumes generalizing volumePodUID vm l r fits with
  | nil =>
    obtain ⟨v, hv, -⟩ := hblock
    cases hv
  | cons volume rest ih =>
    rcases mountVolumes_cons pod volumePodUID volume rest vm with
      ⟨hloop, hdue⟩ | ⟨podUID', vm', hloop, hdue⟩
    · rw [hloop] at h
      exact ih hrecord hfits h (hdue ▸ hblock)
    · rw [hloop] at h
      -- the mode of the volume is answered as it is
      have hmount := Protocol.Obeys.of_bind
        (p := handler (.mountVolume volume.name (mode volume) pod podUID') l)
        (h.2 (.ok (mode volume)))
      simp only [handler, hrecord] at hmount
      cases hmode : mode volume with
      | true =>
        rw [hmode, if_pos rfl] at hmount
        have hfits' : fits ∧ true = mode volume := ⟨hfits, hmode.symm⟩
        exact mountBlockVolume_needs hfits' (Protocol.Obeys.of_bind hmount)
      | false =>
        rw [hmode, if_neg Bool.false_ne_true] at hmount
        have hfits' : fits ∧ false = mode volume := ⟨hfits, hmode.symm⟩
        obtain ⟨fits'', hfits'', hnext⟩ :=
          mountFileSystemVolume_can hfits' (Protocol.Obeys.of_bind hmount)
        obtain ⟨v, hv, hvmode⟩ := hblock
        rw [hdue] at hv
        rcases List.mem_cons.mp hv with rfl | hv
        · rw [hmode] at hvmode
          cases hvmode
        · exact ih (l := { l with record := some r }) rfl hfits'' hnext ⟨v, hv, hvmode⟩

end

/-! ### Calls of `mountHotplugVolumes` -/

section
variable {mode : Volume → Bool} {sockets : UID → Bool} {vm : VM} {vmPodUID volumePodUID : UID}

/-- A call that mounts a block volume is safe only for the pod of the status,
    while its hypervisor has a socket. -/
theorem SafeMount.needs (h : SafeMount mode sockets vm vmPodUID volumePodUID)
    (hblock : ∃ volume ∈ toMount volumePodUID vm.spec.volumes vm, mode volume = true) :
    effectivePod vm vmPodUID = vm.status.vmPodUID ∧ sockets vm.status.vmPodUID = true := by
  have hloop : (deviceRules mode sockets (effectivePod vm vmPodUID)).Obeys
      ((mountVolumes (effectivePod vm vmPodUID) volumePodUID vm.spec.volumes vm).interp handler
        { statusPodUID := vm.status.vmPodUID, record := some [] }) (fun _ _ => True)
      (True ∧ True) := h.2 (.ok [])
  exact mountVolumes_needs (l := { statusPodUID := vm.status.vmPodUID, record := some [] }) rfl
    ⟨trivial, trivial⟩ hloop hblock

/-- **Device rules**: a call of `mountHotplugVolumes` makes device nodes only
    for the pod it works for, changes only the rules of the cgroup of this pod
    and never uses a nil manager, exactly if the volumes it mounts are no block
    volumes, or the pod it works for is that of the status and its hypervisor
    has a socket on the node. -/
theorem mount_touches_own_pod (mode : Volume → Bool) (sockets : UID → Bool) (vm : VM)
    (vmPodUID volumePodUID : UID) :
    SafeMount mode sockets vm vmPodUID volumePodUID ↔
      (∀ volume ∈ toMount volumePodUID vm.spec.volumes vm, mode volume = false) ∨
        (effectivePod vm vmPodUID = vm.status.vmPodUID ∧ sockets vm.status.vmPodUID = true) := by
  constructor
  · intro h
    by_cases hblock : ∃ volume ∈ toMount volumePodUID vm.spec.volumes vm, mode volume = true
    · exact .inr (h.needs hblock)
    · left
      intro volume hv
      by_contra hmode
      exact hblock ⟨volume, hv, by simpa using hmode⟩
  · intro h
    refine ⟨trivial, fun loaded => ?_⟩
    match loaded with
    | .error e => trivial
    | .ok r =>
      refine mountVolumes_safe (r := r) rfl fun volume hv hmode => ?_
      rcases h with hnone | hown
      · rw [hnone volume hv] at hmode
        cases hmode
      · exact hown

end

end VMDaemon

/-- The sample VM is about to move to pod `t` on node `b`, with a disk. -/
def Sample.migrating : VM :=
  let vm := withDiskStatus [⟨"d", .ready, "v"⟩]
  { vm with status := { vm.status with
      nodeName := "a"
      migration := some { uid := "m", phase := .scheduled, targetNodeName := "b"
                          targetVMPodUID := "t", targetVolumePodUID := "w" } } }

namespace VMDaemon

/-- The target of a migration mounts a block volume: the hypervisor of pod `t`
    has its socket on this node, that of the source has none, and the manager
    is nil. -/
theorem target_mount_panics :
    ∃ vm m mode sockets, vm.status.phase = .running ∧ vm.status.migration = some m ∧
      m.phase = .scheduled ∧ m.targetNodeName = "b" ∧ sockets m.targetVMPodUID = true ∧
      ¬ SafeMount mode sockets vm m.targetVMPodUID m.targetVolumePodUID := by
  refine ⟨Sample.migrating, _, fun _ => true, fun pod => pod == "t", rfl, rfl, rfl, rfl, rfl, ?_⟩
  intro h
  have hsocket := (h.needs ⟨_, List.mem_cons_self, rfl⟩).2
  exact absurd hsocket (by decide)

end VMDaemon

end Virtink
