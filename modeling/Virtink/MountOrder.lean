import Virtink.HotplugPods

/-! # Which Volumes a Run Mounts, and From Where

    `mountHotplugVolumes` is to mount each volume that has reached its node
    from the volume pod its own status names. The loop keeps the volume pod
    UID in one variable for all volumes: the first volume that is mounted sets
    it, and from then on every volume with a status is mounted, from that pod.
    `sharesPod` says exactly when this makes no difference.
-/

namespace Virtink

open Calls

namespace VMDaemon

/-! ### Candidates -/

/-- What the loop looks at in a volume: its name, and the phase and the volume
    pod of its status. -/
structure Candidate where
  name   : String
  phase  : VolumePhase
  podUID : UID
  deriving DecidableEq, Repr

/-- A volume is looked at if it is hotpluggable and its status has the pointer
    to a volume pod set. -/
def candidate (status : List VolumeStatus) (v : Volume) : Option Candidate :=
  match status.find? (·.name == v.name) with
  | some { name := _, phase, hotplugVolume := some hotplug } =>
      if v.isHotpluggable then some ⟨v.name, phase, hotplug.volumePodUID⟩ else none
  | _ => none

/-- The volumes of the VM that are looked at, in the order of the spec. -/
def candidates (vm : VM) : List Candidate :=
  vm.spec.volumes.filterMap (candidate vm.status.volumeStatus)

/-- The mounts that the phases ask for: each volume that is attached to the
    node, from its own volume pod. -/
def due (l : List Candidate) : List (String × UID) :=
  l.filterMap fun c => if c.phase = .attachedToNode then some (c.name, c.podUID) else none

/-- The mounts that the loop attempts when none of them fails. -/
def attempts : UID → List Candidate → List (String × UID)
  | _, [] => []
  | volumePodUID, c :: rest =>
      if volumePodUID ≠ "" ∨ c.phase = .attachedToNode then
        let volumePodUID := if volumePodUID = "" then c.podUID else volumePodUID
        (c.name, volumePodUID) :: attempts volumePodUID rest
      else attempts volumePodUID rest

/-- After the first volume that is attached to the node from a pod with a UID,
    there are only volumes that are attached from the same pod. -/
def sharesPod : List Candidate → Bool
  | [] => true
  | c :: rest =>
      if c.phase ≠ .attachedToNode ∨ c.podUID = "" then sharesPod rest
      else rest.all fun d => d.phase == .attachedToNode && d.podUID == c.podUID

/-- The mounts attempted in the course of the calls `l`. -/
def tried (l : List (Prog.Entry api)) : List (String × UID) :=
  l.filterMap fun e =>
    match e with
    | ⟨.mountVolume volume _ _ volumePodUID, _⟩ => some (volume, volumePodUID)
    | _ => none

/-! ### The Loop -/

/-- Setting a phase leaves the entries of other names alone. -/
theorem find_setPhase {name other : String} (phase : VolumePhase) (hne : other ≠ name)
    (l : List VolumeStatus) :
    (setPhase name phase l).find? (·.name == other) = l.find? (·.name == other) := by
  induction l with
  | nil => rfl
  | cons s l ih =>
    unfold setPhase
    split
    · next hs =>
      have hs' : (s.name == other) = false := by simpa [hs] using hne.symm
      simp [hs']
    · simp only [List.find?_cons, ih]

theorem candidate_setPhase {name : String} {v : Volume} (phase : VolumePhase)
    (hne : v.name ≠ name) (l : List VolumeStatus) :
    candidate (setPhase name phase l) v = candidate l v := by
  unfold candidate
  rw [find_setPhase phase hne]

theorem candidate_name {status : List VolumeStatus} {v : Volume} {c : Candidate}
    (h : candidate status v = some c) : c.name = v.name := by
  unfold candidate at h
  split at h
  · split at h
    · cases h; rfl
    · cases h
  · cases h

/-- Mounting one volume does not change how the volumes after it are looked at. -/
theorem candidates_setPhase {name : String} {rest : List Volume} (phase : VolumePhase)
    (hne : name ∉ rest.map (·.name)) (l : List VolumeStatus) :
    rest.filterMap (candidate (setPhase name phase l)) = rest.filterMap (candidate l) := by
  refine List.filterMap_congr fun v hv => candidate_setPhase phase ?_ l
  rintro rfl
  exact hne (List.mem_map_of_mem hv)

section
variable {vmPodUID volumePodUID : UID} {volume : Volume} {rest : List Volume} {vm : VM}

/-- The VM after the candidate was mounted. -/
def mounted (vm : VM) (c : Candidate) : VM :=
  if c.phase = .attachedToNode then
    withVolumeStatus vm (setPhase c.name .mountedToPod vm.status.volumeStatus)
  else vm

/-- A volume that is no candidate is passed over. -/
theorem mountVolumes_skip (h : candidate vm.status.volumeStatus volume = none) :
    mountVolumes vmPodUID volumePodUID (volume :: rest) vm =
      mountVolumes vmPodUID volumePodUID rest vm := by
  cases hfind : vm.status.volumeStatus.find? (·.name == volume.name) with
  | none => simp only [mountVolumes, hfind]
  | some status =>
    obtain ⟨name, phase, hotplug⟩ := status
    cases hotplug with
    | none => simp only [mountVolumes, hfind]
    | some hotplug =>
      simp only [candidate, hfind] at h
      split at h
      · cases h
      · next hplug => simp [mountVolumes, hfind, hplug]

/-- A candidate is mounted once a volume pod UID is set or if it is attached to
    the node; then the UID is set for the volumes that follow. -/
theorem mountVolumes_candidate {c : Candidate}
    (h : candidate vm.status.volumeStatus volume = some c) :
    mountVolumes vmPodUID volumePodUID (volume :: rest) vm =
      if volumePodUID ≠ "" ∨ c.phase = .attachedToNode then
        .call (.isBlock volume) fun
          | .error e => .pure (vm, some (.other e))
          | .ok block =>
              .call (.mountVolume c.name block vmPodUID
                  (if volumePodUID = "" then c.podUID else volumePodUID)) fun
                | .error e => .pure (vm, some (.other e))
                | .ok _ => mountVolumes vmPodUID
                    (if volumePodUID = "" then c.podUID else volumePodUID) rest (mounted vm c)
      else mountVolumes vmPodUID volumePodUID rest vm := by
  cases hfind : vm.status.volumeStatus.find? (·.name == volume.name) with
  | none => simp only [candidate, hfind] at h; cases h
  | some status =>
    obtain ⟨name, phase, hotplug⟩ := status
    cases hotplug with
    | none => simp only [candidate, hfind] at h; cases h
    | some hotplug =>
      simp only [candidate, hfind] at h
      split at h
      · next hplug =>
        cases h
        have hname : name = volume.name := by simpa using List.find?_some hfind
        simp only [mountVolumes, hfind, hplug, hname]
        rw [if_neg (by decide)]
        split
        · refine congrArg (Prog.call _) (funext fun block => ?_)
          cases block with
          | error e => rfl
          | ok block =>
            refine congrArg (Prog.call _) (funext fun done => ?_)
            cases done <;> rfl
        · rfl
      · cases h

/-- However the calls are answered, the loop attempts the mounts of `attempts`
    in order, and all of them unless one fails. -/
theorem mountVolumes_tried {l : List (Prog.Entry api)} {vm' : VM} {e : Option Err}
    {volumes : List Volume} (hnodup : (volumes.map (·.name)).Nodup)
    (h : Prog.Path (mountVolumes vmPodUID volumePodUID volumes vm) l (vm', e)) :
    tried l <+: attempts volumePodUID (volumes.filterMap (candidate vm.status.volumeStatus)) ∧
      (e = none →
        tried l = attempts volumePodUID (volumes.filterMap (candidate vm.status.volumeStatus))) := by
  induction volumes generalizing volumePodUID vm l with
  | nil =>
    cases h
    exact ⟨List.prefix_rfl, fun _ => rfl⟩
  | cons volume rest ih =>
    have hrest : (rest.map (·.name)).Nodup := (List.nodup_cons.mp hnodup).2
    have hfresh : volume.name ∉ rest.map (·.name) := (List.nodup_cons.mp hnodup).1
    cases hc : candidate vm.status.volumeStatus volume with
    | none =>
      rw [mountVolumes_skip hc] at h
      rw [List.filterMap_cons_none hc]
      exact ih hrest h
    | some c =>
      rw [mountVolumes_candidate hc] at h
      rw [List.filterMap_cons_some hc]
      unfold attempts
      split at h
      · next hmount =>
        rw [if_pos hmount]
        obtain ⟨block, l₁, rfl, h₁⟩ := h.of_call
        match block, h₁ with
        | .error err, h₁ =>
          cases h₁
          exact ⟨List.nil_prefix, nofun⟩
        | .ok block, h₁ =>
          obtain ⟨done, l₂, rfl, h₂⟩ := h₁.of_call
          match done, h₂ with
          | .error err, h₂ =>
            cases h₂
            exact ⟨List.cons_prefix_cons.mpr ⟨rfl, List.nil_prefix⟩, nofun⟩
          | .ok (), h₂ =>
            have hlater : rest.filterMap (candidate (mounted vm c).status.volumeStatus) =
                rest.filterMap (candidate vm.status.volumeStatus) := by
              unfold mounted
              split
              · exact candidates_setPhase _ (candidate_name hc ▸ hfresh) _
              · rfl
            have hih := ih hrest h₂
            rw [hlater] at hih
            exact ⟨List.cons_prefix_cons.mpr ⟨rfl, hih.1⟩, fun he => congrArg _ (hih.2 he)⟩
      · next hmount =>
        rw [if_neg hmount]
        exact ih hrest h

/-- There is a run in which no call fails. -/
theorem mountVolumes_succeeds (volumes : List Volume) :
    ∃ l vm', Prog.Path (mountVolumes vmPodUID volumePodUID volumes vm) l (vm', none) := by
  induction volumes generalizing volumePodUID vm with
  | nil => exact ⟨[], vm, .pure _⟩
  | cons volume rest ih =>
    cases hc : candidate vm.status.volumeStatus volume with
    | none =>
      rw [mountVolumes_skip hc]
      exact ih
    | some c =>
      rw [mountVolumes_candidate hc]
      split
      · obtain ⟨l, vm', hpath⟩ := ih
        refine ⟨⟨.isBlock volume, .ok false⟩ :: ⟨.mountVolume c.name false vmPodUID
          (if volumePodUID = "" then c.podUID else volumePodUID), .ok ()⟩ :: l, vm', .call ?_⟩
        exact .call hpath
      · exact ih

end

/-! ### When the Attempts Are Those That Are Due -/

theorem length_due_le (l : List Candidate) : (due l).length ≤ l.length :=
  List.length_filterMap_le ..

/-- Once a volume pod UID is set, every candidate is mounted from that pod. -/
theorem attempts_of_ne {volumePodUID : UID} (h : volumePodUID ≠ "") (l : List Candidate) :
    attempts volumePodUID l = l.map (fun c => (c.name, volumePodUID)) := by
  induction l with
  | nil => rfl
  | cons c rest ih => simp [attempts, h, ih]

theorem map_eq_due_iff (volumePodUID : UID) (l : List Candidate) :
    l.map (fun c => (c.name, volumePodUID)) = due l ↔
      l.all (fun d => d.phase == .attachedToNode && d.podUID == volumePodUID) = true := by
  induction l with
  | nil => simp [due]
  | cons c rest ih =>
    by_cases hphase : c.phase = .attachedToNode
    · have hdue : due (c :: rest) = (c.name, c.podUID) :: due rest := by simp [due, hphase]
      rw [hdue, List.map_cons, List.cons.injEq, ih]
      simp only [List.all_cons, hphase, beq_self_eq_true, Bool.true_and, Bool.and_eq_true,
        beq_iff_eq, Prod.mk.injEq, true_and]
      exact and_congr_left' eq_comm
    · have hdue : due (c :: rest) = due rest := by simp [due, hphase]
      -- one mount more than can be due
      have hlen : ((c :: rest).map (fun c => (c.name, volumePodUID))).length ≠ (due rest).length := by
        have hle := length_due_le rest
        simp only [List.length_map, List.length_cons]
        omega
      rw [hdue]
      constructor
      · intro heq
        exact absurd (congrArg List.length heq) hlen
      · intro hall
        simp [hphase] at hall

theorem attempts_eq_due_iff (l : List Candidate) :
    attempts "" l = due l ↔ sharesPod l = true := by
  induction l with
  | nil => simp [attempts, due, sharesPod]
  | cons c rest ih =>
    by_cases hphase : c.phase = .attachedToNode
    · have hdue : due (c :: rest) = (c.name, c.podUID) :: due rest := by simp [due, hphase]
      have hatt : attempts "" (c :: rest) = (c.name, c.podUID) :: attempts c.podUID rest := by
        simp [attempts, hphase]
      rw [hdue, hatt, List.cons.injEq, and_iff_right rfl]
      by_cases huid : c.podUID = ""
      · have hshares : sharesPod (c :: rest) = sharesPod rest := by simp [sharesPod, huid]
        rw [huid, hshares, ih]
      · have hshares : sharesPod (c :: rest) =
            rest.all (fun d => d.phase == .attachedToNode && d.podUID == c.podUID) := by
          simp [sharesPod, hphase, huid]
        rw [attempts_of_ne huid, hshares, map_eq_due_iff]
    · have hdue : due (c :: rest) = due rest := by simp [due, hphase]
      have hatt : attempts "" (c :: rest) = attempts "" rest := by simp [attempts, hphase]
      have hshares : sharesPod (c :: rest) = sharesPod rest := by simp [sharesPod, hphase]
      rw [hdue, hatt, hshares, ih]

/-- **Which volumes are mounted.** Called without a volume pod UID, every run
    of `mountHotplugVolumes` attempts to mount, up to the first failure, exactly
    the volumes that are attached to the node, each from its own volume pod, if
    and only if after the first such volume there are only volumes attached
    from the same pod. -/
theorem mounts_from_own_pod (vm : VM) (vmPodUID : UID)
    (hnodup : (vm.spec.volumes.map (·.name)).Nodup) :
    (∀ l vm' e, Prog.Path (mountHotplugVolumes vm vmPodUID "") l (vm', e) →
      tried l <+: due (candidates vm) ∧ (e = none → tried l = due (candidates vm))) ↔
    sharesPod (candidates vm) = true := by
  rw [← attempts_eq_due_iff]
  constructor
  · intro h
    obtain ⟨l, vm', hpath⟩ := mountVolumes_succeeds vm.spec.volumes
    have htried := (mountVolumes_tried hnodup hpath).2 rfl
    have hrun : Prog.Path (mountHotplugVolumes vm vmPodUID "")
        (⟨.getVMMountRecord, .ok ()⟩ :: l) (vm', none) := .call hpath
    exact htried.symm.trans ((h _ _ _ hrun).2 rfl)
  · intro heq l vm' e hpath
    obtain ⟨record, l₁, rfl, hpath₁⟩ := hpath.of_call
    match record, hpath₁ with
    | .error err, hpath₁ =>
      cases hpath₁
      exact ⟨List.nil_prefix, nofun⟩
    | .ok (), hpath₁ =>
      have htried := mountVolumes_tried hnodup hpath₁
      rw [show attempts "" (vm.spec.volumes.filterMap (candidate vm.status.volumeStatus)) =
        due (candidates vm) from heq] at htried
      exact htried

end VMDaemon

/-- The sample VM with disks in the given phases, each with its volume pod. -/
def Sample.withDiskStatus (l : List VMDaemon.Candidate) : VM :=
  { Sample.vm with
    spec := Sample.withDisks (l.map (·.name))
    status := { Sample.vm.status with
      phase := .running, vmPodName := "pod-a", vmPodUID := "uid-a"
      volumeStatus := l.map fun c => { name := c.name, phase := c.phase
                                       hotplugVolume := some { volumePodUID := c.podUID } } } }

namespace VMDaemon

/-- Two disks that wait in the same volume pod. -/
theorem mounts_from_own_pod_sample :
    let vm := Sample.withDiskStatus [⟨"a", .attachedToNode, "v"⟩, ⟨"b", .attachedToNode, "v"⟩]
    (vm.spec.volumes.map (·.name)).Nodup ∧
      ∀ l vm' e, Prog.Path (mountHotplugVolumes vm "" "") l (vm', e) →
        tried l <+: due (candidates vm) ∧ (e = none → tried l = due (candidates vm)) :=
  ⟨by decide, (mounts_from_own_pod _ _ (by decide)).mpr (by decide)⟩

/-- A disk that is in use already is mounted again, from the volume pod of the
    disk that was plugged in before it in the spec. -/
theorem mounts_from_other_pod :
    ∃ vm l vm', (vm.spec.volumes.map (·.name)).Nodup ∧
      Prog.Path (mountHotplugVolumes vm "" "") l (vm', none) ∧
      due (candidates vm) = [("b", "w")] ∧ tried l = [("b", "w"), ("a", "w")] := by
  let vm := Sample.withDiskStatus [⟨"b", .attachedToNode, "w"⟩, ⟨"a", .ready, "v"⟩]
  have hsucceeds : ∃ l vm', Prog.Path (mountVolumes vm.status.vmPodUID "" vm.spec.volumes vm) l
      (vm', none) := mountVolumes_succeeds vm.spec.volumes
  obtain ⟨l, vm', hpath⟩ := hsucceeds
  have htried := (mountVolumes_tried (by decide) hpath).2 rfl
  exact ⟨vm, ⟨.getVMMountRecord, .ok ()⟩ :: l, vm', by decide, .call hpath, by decide,
    htried.trans (by decide)⟩

end VMDaemon

end Virtink
