import Virtink.Admission.Runs
import Virtink.MountOrder
import Virtink.VolumeStatus.Update

/-! # The Volume Status of a Virtual Machine

    The controller rewrites the volume status of a VM over and over, and the
    daemon changes phases in between. Over all such histories
    `updateHotplugVolumeStatus` neither loses nor invents entries. What it does
    not do is to start afresh for a volume that comes back into the spec while
    its old volume pod is still there: such an entry stays `Detaching`.
-/

namespace Virtink

open Calls

/-! ### The Daemon Changes Phases Only -/

/-- The entries without their phases. -/
def pointers (l : List VolumeStatus) : List (String × Option HotplugVolumeStatus) :=
  l.map fun s => (s.name, s.hotplugVolume)

theorem pointers_setPhase (name : String) (phase : VolumePhase) (l : List VolumeStatus) :
    pointers (VMDaemon.setPhase name phase l) = pointers l := by
  induction l with
  | nil => rfl
  | cons s l ih =>
    unfold VMDaemon.setPhase
    split
    · rfl
    · exact congrArg (_ :: ·) ih

/-- The last entry of a name is set by turning the list around. -/
theorem pointers_setPhase_reverse (name : String) (phase : VolumePhase) (l : List VolumeStatus) :
    pointers (VMDaemon.setPhase name phase l.reverse).reverse = pointers l := by
  have hturn : ∀ l : List VolumeStatus, pointers l.reverse = (pointers l).reverse :=
    fun l => List.map_reverse
  rw [hturn, pointers_setPhase, hturn, List.reverse_reverse]

namespace VMDaemon

theorem mounted_pointers (vm : VM) (c : Candidate) :
    pointers (mounted vm c).status.volumeStatus = pointers vm.status.volumeStatus := by
  unfold mounted
  split
  · exact pointers_setPhase ..
  · rfl

theorem mountVolumes_pointers {vmPodUID volumePodUID : UID} {volumes : List Volume} {vm vm' : VM}
    {l : List (Prog.Entry api)} {e : Option Err}
    (h : Prog.Path (mountVolumes vmPodUID volumePodUID volumes vm) l (vm', e)) :
    pointers vm'.status.volumeStatus = pointers vm.status.volumeStatus := by
  induction volumes generalizing volumePodUID vm l with
  | nil =>
    cases h
    rfl
  | cons volume rest ih =>
    cases hc : candidate vm.status.volumeStatus volume with
    | none =>
      rw [mountVolumes_skip hc] at h
      exact ih h
    | some c =>
      rw [mountVolumes_candidate hc] at h
      split at h
      · obtain ⟨block, l₁, rfl, h₁⟩ := h.of_call
        match block, h₁ with
        | .error err, h₁ =>
          cases h₁
          rfl
        | .ok block, h₁ =>
          obtain ⟨done, l₂, rfl, h₂⟩ := h₁.of_call
          match done, h₂ with
          | .error err, h₂ =>
            cases h₂
            rfl
          | .ok (), h₂ => exact (ih h₂).trans (mounted_pointers vm c)
      · exact ih h

theorem mountHotplugVolumes_pointers {vm vm' : VM} {vmPodUID volumePodUID : UID}
    {l : List (Prog.Entry api)} {e : Option Err}
    (h : Prog.Path (mountHotplugVolumes vm vmPodUID volumePodUID) l (vm', e)) :
    pointers vm'.status.volumeStatus = pointers vm.status.volumeStatus := by
  obtain ⟨record, l₁, rfl, h₁⟩ := Prog.Path.of_call h
  match record, h₁ with
  | .error err, h₁ =>
    cases h₁
    rfl
  | .ok (), h₁ => exact mountVolumes_pointers h₁

theorem addHotplugVolumesToVM_pointers {info : VmInfo} {volumes : List Volume} {vm vm' : VM}
    {l : List (Prog.Entry api)} {e : Option Err}
    (h : Prog.Path (addHotplugVolumesToVM info volumes vm) l (vm', e)) :
    pointers vm'.status.volumeStatus = pointers vm.status.volumeStatus := by
  induction volumes generalizing vm l with
  | nil =>
    cases h
    rfl
  | cons volume rest ih =>
    unfold addHotplugVolumesToVM at h
    dsimp only at h
    split at h
    · split at h
      · next status _ _ =>
        have hready : pointers (withVolumeStatus vm
              (setPhase status.name .ready vm.status.volumeStatus.reverse).reverse).status.volumeStatus =
            pointers vm.status.volumeStatus := pointers_setPhase_reverse ..
        split at h
        · exact (ih h).trans hready
        · obtain ⟨block, l₁, rfl, h₁⟩ := Prog.Path.of_call h
          match block, h₁ with
          | .error err, h₁ =>
            cases h₁
            rfl
          | .ok block, h₁ =>
            obtain ⟨done, l₂, rfl, h₂⟩ := Prog.Path.of_call h₁
            match done, h₂ with
            | .error err, h₂ =>
              cases h₂
              rfl
            | .ok (), h₂ => exact (ih h₂).trans hready
      · exact ih h
    · exact ih h

end VMDaemon

/-! ### Known Statuses -/

theorem StatusInv.of_pointers {l l' : List VolumeStatus} (h : StatusInv l)
    (heq : pointers l' = pointers l) : StatusInv l' := by
  have hnames : ∀ l : List VolumeStatus, l.map (·.name) = (pointers l).map Prod.fst := by
    intro l
    unfold pointers
    rw [List.map_map]
    rfl
  -- every entry of the one list has its pair in the other
  have hpair : ∀ s ∈ l', ∃ s' ∈ l, s'.name = s.name ∧ s'.hotplugVolume = s.hotplugVolume := by
    intro s hs
    have hmem : (s.name, s.hotplugVolume) ∈ pointers l := heq ▸ List.mem_map_of_mem hs
    obtain ⟨s', hs', hsame⟩ := List.mem_map.mp hmem
    exact ⟨s', hs', congrArg Prod.fst hsame, congrArg Prod.snd hsame⟩
  refine ⟨?_, fun s hs => ?_, fun s hs => ?_⟩
  · rw [hnames, heq, ← hnames]
    exact h.names
  · obtain ⟨s', hs', -, hpointer⟩ := hpair s hs
    exact hpointer ▸ h.set s' hs'
  · obtain ⟨s', hs', hname, -⟩ := hpair s hs
    exact hname ▸ h.plain s' hs'

/-- The volumes of the VM have distinct names, none of them that of the
    directory, and the volume pods of the VM pod were built by the controller. -/
structure Pluggable (w : World) (vm : VM) (vmPod : Pod) : Prop where
  names : (vm.spec.volumes.map (·.name)).Nodup
  plain : ∀ v ∈ vm.spec.volumes, v.name ≠ "hotplug"
  built : ∀ p ∈ w.pods, p.controller.any (·.uid == vmPod.uid) = true → BuiltVolumePod p

/-- One undisturbed run of `updateHotplugVolumeStatus`. -/
abbrev UpdateRun (w : World) (vm : VM) (vmPod : Pod) (l : List (Prog.Entry api))
    (r : VM × Option Err) (w' : World) : Prop :=
  Prog.Exec (World.alone .controller) (updateHotplugVolumeStatus vm vmPod) w l r w'

/-- The volume statuses a VM can get, from the empty one on, by the controller's
    updates and by what the daemon does to them. -/
inductive KnownStatus : List VolumeStatus → Prop where
  | empty : KnownStatus []
  | update {w w' : World} {vm : VM} {vmPod : Pod} {l : List (Prog.Entry api)}
      {r : VM × Option Err} : Pluggable w vm vmPod → KnownStatus vm.status.volumeStatus →
      UpdateRun w vm vmPod l r w' → KnownStatus r.1.status.volumeStatus
  | mount {vm vm' : VM} {vmPodUID volumePodUID : UID} {l : List (Prog.Entry api)}
      {e : Option Err} : KnownStatus vm.status.volumeStatus →
      Prog.Path (VMDaemon.mountHotplugVolumes vm vmPodUID volumePodUID) l (vm', e) →
      KnownStatus vm'.status.volumeStatus
  | attach {info : VmInfo} {volumes : List Volume} {vm vm' : VM} {l : List (Prog.Entry api)}
      {e : Option Err} : KnownStatus vm.status.volumeStatus →
      Prog.Path (VMDaemon.addHotplugVolumesToVM info volumes vm) l (vm', e) →
      KnownStatus vm'.status.volumeStatus

section
variable {w w' : World} {vm : VM} {vmPod : Pod} {l : List (Prog.Entry api)} {r : VM × Option Err}

theorem Pluggable.hotplug_plain (h : Pluggable w vm vmPod) :
    ∀ v ∈ getHotplugVolumes vm vmPod, v.name ≠ "hotplug" :=
  fun v hv => h.plain v (List.mem_of_mem_filter hv)

theorem Pluggable.volumePods (h : Pluggable w vm vmPod) {pods : List Pod}
    (hpods : pods.Perm w.pods) : ∀ p ∈ volumePodsOf vmPod pods, BuiltVolumePod p := by
  intro p hp
  obtain ⟨hp, hown⟩ := mem_volumePodsOf.mp hp
  exact h.built p (hpods.mem_iff.mp hp) hown

/-- **Step**: one run keeps the invariant. -/
theorem StatusInv.update (hplug : Pluggable w vm vmPod) (h : StatusInv vm.status.volumeStatus)
    (hrun : UpdateRun w vm vmPod l r w') : StatusInv r.1.status.volumeStatus := by
  have hupdates := updateHotplugVolumeStatus_must hplug.names h l r w' hrun
  cases hlisted : listedPods l with
  | none =>
    obtain ⟨_, -, rfl⟩ := hupdates.failed hlisted
    exact h
  | some pods =>
    obtain ⟨-, order, horder, hst⟩ := hupdates.listed pods hlisted
    rw [hst]
    exact updatedStatus_inv (getHotplugVolumes_nodup vmPod hplug.names) hplug.hotplug_plain h horder

/-- **Run**: the invariant holds of every known status. -/
theorem KnownStatus.inv {st : List VolumeStatus} (h : KnownStatus st) : StatusInv st := by
  induction h with
  | empty => exact ⟨List.nodup_nil, nofun, nofun⟩
  | update hplug _ hrun ih => exact StatusInv.update hplug ih hrun
  | mount _ hpath ih => exact ih.of_pointers (VMDaemon.mountHotplugVolumes_pointers hpath)
  | attach _ hpath ih => exact ih.of_pointers (VMDaemon.addHotplugVolumesToVM_pointers hpath)

end

/-- The function returns, whichever way the pods are listed. -/
theorem updateRun_exists {w : World} (vm : VM) (vmPod : Pod) {pods : List Pod}
    (hpods : pods.Perm w.pods) : ∃ l r w', UpdateRun w vm vmPod l r w' ∧ listedPods l = some pods := by
  have hans : World.answer .controller .listPods (.pods pods) w = some (.ok pods, w) := by
    have hperm : pods.isPerm w.pods = true := List.isPerm_iff.mpr hpods
    simp only [World.answer, Choice.askPods, hperm, if_true]
    rfl
  refine Prog.Can.bind (may_ask _ hans (.pure ?_))
  dsimp only
  refine may_ask .ok rfl ?_
  split
  · exact .pure rfl
  · split
    · exact .pure rfl
    · exact .pure rfl

/-! ### Nothing Lost, Nothing Invented -/

/-- What the volume status is to say, given the volume pods, the hotplug volumes
    of the spec and the status before. -/
structure ListsVolumes (pods : List Pod) (volumes : List Volume) (old new : List VolumeStatus) :
    Prop where
  names  : (new.map (·.name)).Nodup
  listed : ∀ name, name ∈ new.map (·.name) ↔ name ∈ volumes.map (·.name) ∨
    name ∈ old.map (·.name) ∧ ∃ p ∈ pods, p.contains name = true
  points : ∀ s ∈ new, (∃ p ∈ pods, p.contains s.name = true) →
    ∃ p, NewestWith pods s.name p ∧ s.hotplugVolume = some p.reference
  waits  : ∀ s ∈ new, s.name ∈ volumes.map (·.name) → (∀ p ∈ pods, p.contains s.name = false) →
    s.phase = .pending ∧ s.hotplugVolume = some {}

/-- Only which pods there are matters to what the status is to say. -/
theorem ListsVolumes.of_perm {pods pods' : List Pod} {volumes : List Volume}
    {old new : List VolumeStatus} (hmem : ∀ p, p ∈ pods ↔ p ∈ pods')
    (h : ListsVolumes pods volumes old new) : ListsVolumes pods' volumes old new := by
  obtain ⟨hnames, hlisted, hpoints, hwaits⟩ := h
  simp only [hmem] at hlisted hpoints hwaits
  refine ⟨hnames, hlisted, fun s hs hin => ?_, hwaits⟩
  obtain ⟨p, ⟨hp, hcontains, hnewest⟩, hpointer⟩ := hpoints s hs hin
  exact ⟨p, ⟨(hmem p).mp hp, hcontains, fun q hq => hnewest q ((hmem q).mpr hq)⟩, hpointer⟩

/-- **The volume status is exact.** From every known status, a run of
    `updateHotplugVolumeStatus` does not dereference a nil pointer. If the pods
    cannot be listed it fails with that error and changes nothing; otherwise it
    leaves the entries described by `ListsVolumes`, for the volume pods there are.
    There is a run for every order in which they can be listed, and runs that
    list the same pods leave the same entries, whatever the order of the map. -/
theorem volume_status_exact {w : World} {vm : VM} {vmPod : Pod} (hplug : Pluggable w vm vmPod)
    (hst : KnownStatus vm.status.volumeStatus) :
    (∀ pods, pods.Perm w.pods → ∃ l r w', UpdateRun w vm vmPod l r w' ∧
      listedPods l = some pods) ∧
    ∀ l r w', UpdateRun w vm vmPod l r w' → r.2 ≠ some .panic ∧
      ((∃ e, l = [⟨.listPods, .error e⟩] ∧ r = (vm, some (.other e.text))) ∨
        (∃ pods, listedPods l = some pods) ∧
        ListsVolumes (volumePodsOf vmPod w.pods) (getHotplugVolumes vm vmPod)
          vm.status.volumeStatus r.1.status.volumeStatus) ∧
      ∀ l₂ r₂ w₂, UpdateRun w vm vmPod l₂ r₂ w₂ → listedPods l₂ = listedPods l →
        r₂.1.status.volumeStatus.Perm r.1.status.volumeStatus := by
  have hinv := hst.inv
  have hnodup := getHotplugVolumes_nodup vmPod hplug.names
  have hupdates : w.must (updateHotplugVolumeStatus vm vmPod) (fun l r _ => Updates w vm vmPod l r) :=
    updateHotplugVolumeStatus_must hplug.names hinv
  refine ⟨fun pods hpods => updateRun_exists vm vmPod hpods, fun l r w' hrun => ?_⟩
  have hupdate := hupdates l r w' hrun
  refine ⟨hupdate.safe, ?_⟩
  cases hlisted : listedPods l with
  | none =>
    refine ⟨.inl (hupdate.failed hlisted), fun l₂ r₂ w₂ hrun₂ hlisted₂ => ?_⟩
    obtain ⟨_, -, rfl⟩ := hupdate.failed hlisted
    obtain ⟨_, -, rfl⟩ := (hupdates l₂ r₂ w₂ hrun₂).failed hlisted₂
    exact .refl _
  | some pods =>
    obtain ⟨hperm, order, horder, heq⟩ := hupdate.listed pods hlisted
    have hbuilt := hplug.volumePods hperm
    have hsorted := sortNewestFirst_sorted
      (pods.filter (fun p => p.controller.any (·.uid == vmPod.uid)))
    have hmem : ∀ p, p ∈ volumePodsOf vmPod pods ↔ p ∈ volumePodsOf vmPod w.pods := by
      simp only [mem_volumePodsOf, hperm.mem_iff, implies_true]
    rw [heq]
    refine ⟨.inr ⟨⟨pods, rfl⟩, .of_perm hmem ⟨?_, ?_, ?_, ?_⟩⟩, ?_⟩
    · exact updatedStatus_nodup hnodup hinv horder
    · exact mem_updatedStatus_names hinv horder hbuilt
    · exact fun s hs hin => updatedStatus_points hinv horder hbuilt hsorted hs hin
    · exact fun s hs _ hout => updatedStatus_waits hinv horder hbuilt hs hout
    · intro l₂ r₂ w₂ hrun₂ hpods₂
      obtain ⟨-, order₂, horder₂, heq₂⟩ := (hupdates l₂ r₂ w₂ hrun₂).listed pods hpods₂
      rw [heq₂]
      exact ((horder₂.trans horder.symm).filterMap _).append_left _

namespace Sample

/-- The sample volume pods are built by the controller. -/
theorem diskPod_built (name : String) : BuiltVolumePod (diskPod name ["a"]) :=
  ⟨{ vm with spec := withDisks ["a"] }, { name := "pod-a", uid := "uid-a" }, [disk "a"],
    [⟨.isBlock (disk "a"), .ok false⟩], _, [{ name := "token" }], .call (.pure _), by decide, rfl⟩

/-- A world with one volume pod for the disk `a`. -/
def oneDisk : World := { vm := none, pods := [diskPod "v" ["a"]] }

/-- The VM with the disk `a`, which has no status yet. -/
def diskVM : VM := { vm with spec := withDisks ["a"] }

/-- Its pod. -/
def diskVMPod : Pod :=
  { name := "pod-a", uid := "uid-a", bound := PodPhase.empty_unbound }

theorem oneDisk_pluggable : Pluggable oneDisk diskVM diskVMPod where
  names := by decide
  plain := by decide
  built p hp _ := by
    rw [List.mem_singleton.mp hp]
    exact diskPod_built "v"

end Sample

/-- A run that lists one volume pod: the disk in it gets an entry that points to
    the pod. -/
theorem volume_status_exact_sample :
    Pluggable Sample.oneDisk Sample.diskVM Sample.diskVMPod ∧
      KnownStatus Sample.diskVM.status.volumeStatus ∧
      ∃ l r, UpdateRun Sample.oneDisk Sample.diskVM Sample.diskVMPod l r Sample.oneDisk ∧
        listedPods l = some Sample.oneDisk.pods ∧
        r.1.status.volumeStatus = [{
          name := "a"
          phase := .pending
          hotplugVolume := some { volumePodName := "v", volumePodUID := "v" } }] ∧
        ListsVolumes (volumePodsOf Sample.diskVMPod Sample.oneDisk.pods)
          (getHotplugVolumes Sample.diskVM Sample.diskVMPod) [] r.1.status.volumeStatus := by
  have hrun : ∃ l r, UpdateRun Sample.oneDisk Sample.diskVM Sample.diskVMPod l r Sample.oneDisk ∧
      listedPods l = some Sample.oneDisk.pods ∧ r.1.status.volumeStatus = [{
        name := "a"
        phase := .pending
        hotplugVolume := some { volumePodName := "v", volumePodUID := "v" } }] :=
    ⟨_, _, .call ⟨.ok, rfl⟩ (.call ⟨.ok, rfl⟩ (.pure _ _)), rfl, rfl⟩
  obtain ⟨l, r, hrun, hlisted, hentries⟩ := hrun
  obtain ⟨-, hexact, -⟩ := (volume_status_exact Sample.oneDisk_pluggable .empty).2 l r _ hrun
  refine ⟨Sample.oneDisk_pluggable, .empty, l, r, hrun, hlisted, hentries, ?_⟩
  rcases hexact with ⟨e, rfl, -⟩ | ⟨-, hlists⟩
  · cases hlisted
  · exact hlists

/-! ### Detaching -/

/-- A hotplug volume of the spec that a volume pod still contains has an entry
    that is `Detaching`. -/
def replugsEarly (pods : List Pod) (volumes : List Volume) (old : List VolumeStatus) : Bool :=
  volumes.any fun v =>
    (lookupVolumeStatus old v.name).any (·.phase == .detaching) && pods.any (·.contains v.name)

theorem previousStatus_detaching {old : List VolumeStatus} {v : Volume} :
    (previousStatus old v).phase = .detaching ↔
      (lookupVolumeStatus old v.name).any (·.phase == .detaching) = true := by
  unfold previousStatus
  cases lookupVolumeStatus old v.name <;> simp

theorem volumePodOf_isSome {pods : List Pod} {name : String} :
    (volumePodOf pods name).isSome = true ↔ pods.any (·.contains name) = true := by
  unfold volumePodOf
  rw [List.find?_isSome, List.any_eq_true]
  rfl

theorem replugsEarly_eq_false {pods : List Pod} {volumes : List Volume} {old : List VolumeStatus} :
    replugsEarly pods volumes old = false ↔
      ∀ v ∈ volumes, (currentStatus pods (previousStatus old v)).phase ≠ .detaching := by
  unfold replugsEarly
  simp only [List.any_eq_false, ne_eq, currentStatus_detaching, previousStatus_detaching,
    previousStatus_name, volumePodOf_isSome, Bool.and_eq_true]

/-- **When `Detaching` means removed from the spec.** From every known status, a
    run of `updateHotplugVolumeStatus` that lists the pods leaves exactly the
    entries `Detaching` whose volumes are not hotplug volumes of the spec, if
    and only if no hotplug volume of the spec that a volume pod contains had an
    entry that was `Detaching`. -/
theorem detaching_iff_unplugged {w : World} {vm : VM} {vmPod : Pod} (hplug : Pluggable w vm vmPod)
    (hst : KnownStatus vm.status.volumeStatus) {l : List (Prog.Entry api)} {r : VM × Option Err}
    {w' : World} (hrun : UpdateRun w vm vmPod l r w') {pods : List Pod}
    (hpods : listedPods l = some pods) :
    (∀ s ∈ r.1.status.volumeStatus,
      s.phase = .detaching ↔ s.name ∉ (getHotplugVolumes vm vmPod).map (·.name)) ↔
    replugsEarly (volumePodsOf vmPod pods) (getHotplugVolumes vm vmPod) vm.status.volumeStatus =
      false := by
  have hupdates := updateHotplugVolumeStatus_must hplug.names hst.inv l r w' hrun
  obtain ⟨-, order, horder, heq⟩ := hupdates.listed pods hpods
  rw [heq, replugsEarly_eq_false]
  constructor
  · intro h v hv hphase
    refine (h _ (currentStatus_mem hv)).mp hphase ?_
    rw [currentStatus_name, previousStatus_name]
    exact List.mem_map_of_mem hv
  · intro h s hs
    rcases mem_updatedStatus hs with ⟨v, hv, hname, rfl⟩ | ⟨s₀, hs₀, hdetached⟩
    · have hin : v.name ∈ (getHotplugVolumes vm vmPod).map (·.name) := List.mem_map_of_mem hv
      rw [hname]
      exact iff_of_false (h v hv) (not_not_intro hin)
    · obtain ⟨hname, hphase, -⟩ := detachedStatus_eq_some hdetached
      have hout := (not_mem_of_leftOver (horder.mem_iff.mp hs₀)).2
      rw [hname]
      exact iff_of_true hphase hout

/-- The disk has just been plugged in. -/
theorem detaching_iff_unplugged_sample :
    Pluggable Sample.oneDisk Sample.diskVM Sample.diskVMPod ∧
      KnownStatus Sample.diskVM.status.volumeStatus ∧
      ∃ l r w', UpdateRun Sample.oneDisk Sample.diskVM Sample.diskVMPod l r w' ∧
        listedPods l = some Sample.oneDisk.pods ∧
        ∀ s ∈ r.1.status.volumeStatus, s.phase = .detaching ↔
          s.name ∉ (getHotplugVolumes Sample.diskVM Sample.diskVMPod).map (·.name) := by
  obtain ⟨l, r, w', hrun, hpods⟩ := updateRun_exists Sample.diskVM Sample.diskVMPod
    (List.Perm.refl Sample.oneDisk.pods)
  exact ⟨Sample.oneDisk_pluggable, .empty, l, r, w', hrun, hpods,
    (detaching_iff_unplugged Sample.oneDisk_pluggable .empty hrun hpods).mpr (by decide)⟩

namespace Sample

/-- It is taken out, which marks the volume pod for deletion, and is plugged in
    again before the pod is gone. -/
def replugs : Script :=
  plugs [] ++ turn .controller [.ok, .ok, .ok, .ok, .ok, .ok, .ok, .ok] ++
  plugs [disk "a"] ++ turn .controller [.ok, .ok, .flag true, .ok, .ok, .ok, .ok, .ok]

end Sample

/-- A disk that is taken out and plugged in again stays `Detaching`. -/
theorem replugged_disk_detaching :
    ∃ c vm vmPod, Reach Sample.cluster (Accepts Sample.library) Init c ∧
      c.store.vm = some vm ∧ c.store.findPod vm.status.vmPodName = some vmPod ∧
      ∃ s ∈ vm.status.volumeStatus, s.phase = .detaching ∧
        s.name ∈ (getHotplugVolumes vm vmPod).map (·.name) := by
  obtain ⟨c, hreach, htest⟩ := Sample.reachAccepted
    (Sample.plugsIn ++ Sample.replugs)
    (fun c => c.store.vm.any fun vm => (c.store.findPod vm.status.vmPodName).any fun vmPod =>
      vm.status.volumeStatus.any fun s => s.phase == .detaching &&
        (getHotplugVolumes vm vmPod).any (·.name == s.name))
    (by decide +kernel)
  obtain ⟨vm, hvm, htest⟩ := (Option.any_eq_true ..).mp htest
  obtain ⟨vmPod, hpod, htest⟩ := (Option.any_eq_true ..).mp htest
  obtain ⟨s, hs, htest⟩ := List.any_eq_true.mp htest
  simp only [Bool.and_eq_true, beq_iff_eq, List.any_eq_true] at htest
  obtain ⟨hphase, v, hv, hname⟩ := htest
  exact ⟨c, vm, vmPod, hreach, hvm, hpod, s, hs, hphase, List.mem_map.mpr ⟨v, hv, hname⟩⟩

end Virtink
