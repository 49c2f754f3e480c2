import Virtink.Node.Truth
import Virtink.VolumeStatus.Update

/-! # What the Daemon Plans

    The daemon keeps these terms on its mounts and disks (`daemonTerms`):

    * it mounts only volumes that have an entry in the volume status;
    * it unplugs only volumes without one, after it has taken away every disk
      that is not in the spec;
    * it attaches a disk only if it knows that no disk of this id is attached,
      provided that the volumes of the VM have distinct names.

    Of the whole reconciler only `reconcileHotplugVolumes` attaches disks and
    unplugs volumes; everything else is `Calm`.
-/

namespace Virtink

open Calls

/-! ### Terms -/

/-- The names of the volumes in the spec. -/
def VM.specNames (vm : VM) : List String := vm.spec.volumes.map (·.name)

/-- The names in the volume status. -/
def VM.statusNames (vm : VM) : List String := vm.status.volumeStatus.map (·.name)

/-- What the daemon keeps to. -/
def daemonTerms : Terms where
  plug vm volume := ∃ w, vm = some w ∧ volume ∈ w.statusNames
  unplug vm disks volume := ∃ w l, vm = some w ∧ disks = some (w.status.vmPodUID, l) ∧
    volume ∉ w.statusNames ∧ ∀ d ∈ l, d ∈ w.specNames
  attach vm disks pod id := (∀ w, vm = some w → w.specNames.Nodup) →
    ∃ l, disks = some (pod, l) ∧ id ∉ l

namespace VMDaemon

/-- Calls of the daemon on behalf of the VM `r` that need not know any disks. -/
def Calm (r : VM) : Op → Prop
  | .getVM | .umountHotplugVolumes _ | .hypervisor _ (.vmAddDisk _ _) _ => False
  | .mountVolume volume _ _ _ => volume ∈ r.statusNames
  | _ => True

variable {r vm : VM} {v : NodeView} {α : Type}

/-- Calm programs keep the terms. -/
theorem obeys_calm {p : Call α} (hp : p.Only (Calm r)) (hv : v.vm = some r) :
    (plan daemonTerms).Obeys p (fun _ v' => v'.vm = some r) v := by
  refine Protocol.Obeys.of_only (P := fun v : NodeView => v.vm = some r) hp (fun o v ho hv => ?_)
    (fun o v a ho hv => ?_) hv
  · cases o with
    | getVM => exact ho.elim
    | umountHotplugVolumes names => exact ho.elim
    | mountVolume volume block vmPodUID volumePodUID => exact ⟨r, hv, ho⟩
    | hypervisor pod call account =>
      cases call with
      | vmAddDisk id path => exact ho.elim
      | _ => trivial
    | _ => trivial
  · refine (NodeView.toldBase_vm (fun h => ?_) a v).trans hv
    subst h
    exact ho

/-! ### Calm Programs -/

theorem cleanup_calm : cleanup.Only (Calm r) := by
  refine ⟨trivial, fun a => ?_⟩
  match a with
  | .error e => trivial
  | .ok () => trivial

theorem deleteGuest_calm (vm : VM) (vmPod : Pod) : (deleteGuest vm vmPod).Only (Calm r) := by
  unfold deleteGuest
  split
  · refine ⟨trivial, fun a => ?_⟩
    match a with
    | .error e =>
      show (if containsText e "VmNotCreated" then pure none else pure (some (.other e)) :
        Call (Option Err)).Only (Calm r)
      split <;> trivial
    | .ok () => trivial
  · trivial

theorem reconcileDeletingVM_calm (vm : VM) (vmPod : Pod) :
    (reconcileDeletingVM vm vmPod).Only (Calm r) := by
  refine (deleteGuest_calm vm vmPod).bind fun err => ?_
  match err with
  | some e => trivial
  | none => exact cleanup_calm.bind fun _ => trivial

theorem setMemlock_calm (vm : VM) (config : VmConfig) : (setMemlock vm config).Only (Calm r) := by
  unfold setMemlock
  split
  · refine ⟨trivial, fun pid => ?_⟩
    match pid with
    | .error e => trivial
    | .ok pid =>
      refine ⟨trivial, fun set => ?_⟩
      match set with
      | .error e => trivial
      | .ok () => trivial
  · trivial

theorem boot_calm (vm : VM) : (boot vm).Only (Calm r) := by
  refine ⟨trivial, fun a => ?_⟩
  match a with
  | .error e => trivial
  | .ok () => trivial

theorem createVM_calm (vm : VM) : (createVM vm).Only (Calm r) := by
  refine ⟨trivial, fun config => ?_⟩
  match config with
  | .error .notExist => trivial
  | .error (.other e) => trivial
  | .ok config =>
    refine Prog.Only.bind (p := setMemlock vm config) (setMemlock_calm vm config) fun err => ?_
    match err with
    | some e => trivial
    | none =>
      refine ⟨trivial, fun created => ?_⟩
      match created with
      | .error e => trivial
      | .ok () => exact boot_calm vm

/-! ### Mounting -/

/-- `vm` is `r` with other phases in its volume status. -/
def Rephased (r vm : VM) : Prop :=
  ∃ l, vm = withVolumeStatus r l ∧ l.map (·.name) = r.statusNames

theorem Rephased.refl (r : VM) : Rephased r r := ⟨r.status.volumeStatus, rfl, rfl⟩

theorem Rephased.statusNames (h : Rephased r vm) : vm.statusNames = r.statusNames := by
  obtain ⟨l, rfl, hl⟩ := h
  exact hl

theorem Rephased.spec (h : Rephased r vm) : vm.spec = r.spec := by
  obtain ⟨l, rfl, -⟩ := h
  rfl

theorem Rephased.vmPodUID (h : Rephased r vm) : vm.status.vmPodUID = r.status.vmPodUID := by
  obtain ⟨l, rfl, -⟩ := h
  rfl

theorem setPhase_names (name : String) (phase : VolumePhase) (l : List VolumeStatus) :
    (setPhase name phase l).map (·.name) = l.map (·.name) := by
  induction l with
  | nil => rfl
  | cons s l ih =>
    unfold setPhase
    split
    · rfl
    · simp only [List.map_cons, ih]

theorem Rephased.set (h : Rephased r vm) {l : List VolumeStatus}
    (hl : l.map (·.name) = vm.statusNames) : Rephased r (withVolumeStatus vm l) := by
  have hnames := hl.trans h.statusNames
  obtain ⟨l', rfl, -⟩ := h
  exact ⟨l, rfl, hnames⟩

/-- The loop mounts volumes that have a status, and changes phases only. -/
theorem mountVolumes_obeys (hv : v.vm = some r) (vmPodUID volumePodUID : UID)
    (volumes : List Volume) (hvm : Rephased r vm) :
    (plan daemonTerms).Obeys (mountVolumes vmPodUID volumePodUID volumes vm)
      (fun x v' => v' = v ∧ Rephased r x.1) v := by
  induction volumes generalizing volumePodUID vm with
  | nil => exact ⟨rfl, hvm⟩
  | cons volume rest ih =>
    unfold mountVolumes
    split
    · next name phase hotplug hfind =>
      have hname : name = volume.name := by simpa using List.find?_some hfind
      have hmem : volume.name ∈ r.statusNames := by
        rw [← hvm.statusNames, ← hname]
        exact List.mem_map_of_mem (List.mem_of_find?_eq_some hfind)
      split
      · exact ih volumePodUID hvm
      · split
        · refine ⟨trivial, fun block => ?_⟩
          match block with
          | .error e => exact ⟨rfl, hvm⟩
          | .ok block =>
            refine ⟨⟨r, hv, hmem⟩, fun mounted => ?_⟩
            match mounted with
            | .error e => exact ⟨rfl, hvm⟩
            | .ok () =>
              refine ih _ ?_
              split
              · exact hvm.set (setPhase_names ..)
              · exact hvm
        · exact ih volumePodUID hvm
    · exact ih volumePodUID hvm

theorem mountHotplugVolumes_obeys (hv : v.vm = some r) (vmPodUID volumePodUID : UID)
    (hvm : Rephased r vm) :
    (plan daemonTerms).Obeys (mountHotplugVolumes vm vmPodUID volumePodUID)
      (fun x v' => v' = v ∧ Rephased r x.1) v := by
  refine ⟨trivial, fun loaded => ?_⟩
  match loaded with
  | .error e => exact ⟨rfl, hvm⟩
  | .ok () => exact mountVolumes_obeys hv _ _ _ hvm

theorem reconcileScheduled_obeys (hv : v.vm = some r) :
    (plan daemonTerms).Obeys (reconcileScheduled r) (fun _ v' => v'.vm = some r) v := by
  refine Protocol.Obeys.bind ((mountHotplugVolumes_obeys hv _ _ (.refl r)).mono ?_)
  rintro ⟨vm, err⟩ v' ⟨rfl, -⟩
  refine obeys_calm ?_ hv
  cases err with
  | some e => trivial
  | none =>
    refine ⟨trivial, fun info => ?_⟩
    cases info with
    | error e =>
      show (if isVMNotCreatedError e then (createVM vm).bind fun err => pure (vm, err)
        else pure (vm, some (.other ("get VM info: " ++ e))) : Call _).Only (Calm r)
      split
      · exact (createVM_calm vm).bind fun _ => trivial
      · trivial
    | ok info =>
      simp only [Prog.bind]
      cases info.state with
      | created => exact (boot_calm vm).bind fun _ => trivial
      | _ => trivial

/-! ### Attaching and Detaching Disks -/

/-- The VM is known, and its disks are among these. -/
structure OnGuest (r : VM) (l : List String) (v : NodeView) : Prop where
  vm    : v.vm = some r
  disks : v.disks = some (r.status.vmPodUID, l)

/-- The volumes that are left have distinct names, if all have, and those that
    are attached were so from the beginning. -/
def Unattached (r : VM) (info : VmInfo) (volumes : List Volume) (l : List String) : Prop :=
  r.specNames.Nodup →
    (volumes.map (·.name)).Nodup ∧ ∀ volume ∈ volumes, volume.name ∈ l → volume.name ∈ info.disks

theorem Unattached.tail {info : VmInfo} {volume : Volume} {rest : List Volume} {l : List String}
    (h : Unattached r info (volume :: rest) l) : Unattached r info rest l := by
  intro hnodup
  obtain ⟨hnames, hattached⟩ := h hnodup
  exact ⟨(List.nodup_cons.mp hnames).2, fun w hw => hattached w (List.mem_cons_of_mem _ hw)⟩

/-- A disk that has been added is none of those that are left. -/
theorem Unattached.added {info : VmInfo} {volume : Volume} {rest : List Volume} {l : List String}
    (h : Unattached r info (volume :: rest) l) : Unattached r info rest (volume.name :: l) := by
  intro hnodup
  obtain ⟨hnames, hattached⟩ := h hnodup
  obtain ⟨hhead, hrest⟩ := List.nodup_cons.mp hnames
  refine ⟨hrest, fun w hw hmem => ?_⟩
  rcases List.mem_cons.mp hmem with heq | hmem
  · exact absurd (List.mem_map.mpr ⟨w, hw, heq⟩) hhead
  · exact hattached w (List.mem_cons_of_mem _ hw) hmem

/-- Disks are attached that are in the spec and were not attached before. -/
theorem addHotplugVolumesToVM_obeys {info : VmInfo} {volumes : List Volume} {l : List String}
    (hv : OnGuest r l v) (hvm : Rephased r vm) (hfree : Unattached r info volumes l)
    (hspec : ∀ volume ∈ volumes, volume.name ∈ r.specNames) :
    (plan daemonTerms).Obeys (addHotplugVolumesToVM info volumes vm)
      (fun x v' => Rephased r x.1 ∧ ∃ l', OnGuest r l' v' ∧ ∀ d ∈ l', d ∈ l ∨ d ∈ r.specNames) v := by
  induction volumes generalizing vm v l with
  | nil => exact ⟨hvm, l, hv, fun d hd => .inl hd⟩
  | cons volume rest ih =>
    have hrest : ∀ w ∈ rest, w.name ∈ r.specNames := fun w hw => hspec w (List.mem_cons_of_mem _ hw)
    unfold addHotplugVolumesToVM
    split
    · next status hlookup =>
      obtain ⟨-, hname⟩ := lookupVolumeStatus_name hlookup
      split
      · have hready : Rephased r (withVolumeStatus vm
            (setPhase status.name .ready vm.status.volumeStatus.reverse).reverse) := by
          refine hvm.set ?_
          rw [List.map_reverse, setPhase_names, List.map_reverse, List.reverse_reverse]
          rfl
        dsimp only
        by_cases hattached : status.name ∈ info.disks
        · simp only [hattached, if_true]
          exact ih hv hready hfree.tail hrest
        · simp only [hattached, if_false]
          refine ⟨trivial, fun block => ?_⟩
          cases block with
          | error e => exact ⟨hvm, l, hv, fun d hd => .inl hd⟩
          | ok block =>
            refine ⟨fun hdistinct => ⟨l, ?_, fun hmem => ?_⟩, fun added => ?_⟩
            · rw [hvm.vmPodUID]
              exact hv.disks
            · have hnodup : r.specNames.Nodup := hdistinct r hv.vm
              rw [hname] at hmem hattached
              exact hattached ((hfree hnodup).2 volume List.mem_cons_self hmem)
            · -- the disk may be attached now, whatever the answer
              have hv' : OnGuest r (volume.name :: l)
                  (v.onDisks vm.status.vmPodUID (status.name :: ·)) := by
                refine ⟨hv.vm, ?_⟩
                simp [NodeView.onDisks, hv.disks, hvm.vmPodUID, hname]
              have hmore : ∀ d ∈ volume.name :: l, d ∈ l ∨ d ∈ r.specNames := by
                intro d hd
                rcases List.mem_cons.mp hd with rfl | hd
                · exact .inr (hspec volume List.mem_cons_self)
                · exact .inl hd
              cases added with
              | error e => exact ⟨hvm, _, hv', hmore⟩
              | ok u =>
                refine (ih hv' hready hfree.added hrest).mono ?_
                rintro x v' ⟨hx, l', hl', hsub⟩
                refine ⟨hx, l', hl', fun d hd => ?_⟩
                rcases hsub d hd with hd | hd
                · exact hmore d hd
                · exact .inr hd
      · exact ih hv hvm hfree.tail hrest
    · exact ih hv hvm hfree.tail hrest

/-- Disks that are not in the spec are taken away. -/
theorem removeHotplugVolumesFromVM_obeys {disks l : List String} (hv : OnGuest r l v)
    (hvm : Rephased r vm) :
    (plan daemonTerms).Obeys (removeHotplugVolumesFromVM vm disks)
      (fun x v' => v'.vm = some r ∧ (x = none → ∃ l', OnGuest r l' v' ∧
        ∀ d ∈ l', d ∈ l ∧ (d ∈ disks → d ∈ r.specNames))) v := by
  induction disks generalizing v l with
  | nil => exact ⟨hv.vm, fun _ => ⟨l, hv, fun d hd => ⟨hd, fun h => by cases h⟩⟩⟩
  | cons disk rest ih =>
    unfold removeHotplugVolumesFromVM
    split
    · next hin =>
      have hdisk : disk ∈ r.specNames := by
        rw [hvm.spec] at hin
        obtain ⟨w, hw, hname⟩ := List.any_eq_true.mp hin
        exact List.mem_map.mpr ⟨w, hw, by simpa using hname⟩
      refine (ih hv).mono ?_
      rintro x v' ⟨hvm', hx⟩
      refine ⟨hvm', fun hnone => ?_⟩
      obtain ⟨l', hl', hsub⟩ := hx hnone
      refine ⟨l', hl', fun d hd => ⟨(hsub d hd).1, fun hmem => ?_⟩⟩
      rcases List.mem_cons.mp hmem with rfl | hmem
      · exact hdisk
      · exact (hsub d hd).2 hmem
    · refine ⟨trivial, fun removed => ?_⟩
      match removed with
      | .error e => exact ⟨hv.vm, nofun⟩
      | .ok () =>
        have hv' : OnGuest r (l.filter (· != disk))
            (v.onDisks vm.status.vmPodUID (·.filter (· != disk))) := by
          refine ⟨hv.vm, ?_⟩
          simp [NodeView.onDisks, hv.disks, hvm.vmPodUID]
        refine (ih hv').mono ?_
        rintro x v' ⟨hvm', hx⟩
        refine ⟨hvm', fun hnone => ?_⟩
        obtain ⟨l', hl', hsub⟩ := hx hnone
        refine ⟨l', hl', fun d hd => ?_⟩
        obtain ⟨hin, hne⟩ := mem_filter_ne (hsub d hd).1
        refine ⟨hin, fun hmem => ?_⟩
        exact (hsub d hd).2 ((List.mem_cons.mp hmem).resolve_left hne)

/-- Volumes are unplugged when only disks of the spec are left. -/
theorem reconcileHotplugVolumes_obeys {info : VmInfo} (hv : OnGuest r info.disks v) :
    (plan daemonTerms).Obeys (reconcileHotplugVolumes r info) (fun _ v' => v'.vm = some r) v := by
  refine Protocol.Obeys.bind ((mountHotplugVolumes_obeys hv.vm _ _ (.refl r)).mono ?_)
  rintro ⟨vm₁, err⟩ v₁ ⟨rfl, hvm₁⟩
  match err with
  | some e => exact hv.vm
  | none =>
    have hfree : Unattached r info vm₁.spec.volumes info.disks := by
      intro hnodup
      rw [hvm₁.spec]
      exact ⟨hnodup, fun _ _ hmem => hmem⟩
    have hspec : ∀ volume ∈ vm₁.spec.volumes, volume.name ∈ r.specNames := by
      intro volume hmem
      rw [hvm₁.spec] at hmem
      exact List.mem_map_of_mem hmem
    refine Protocol.Obeys.bind (p := addHotplugVolumesToVM info vm₁.spec.volumes vm₁)
      ((addHotplugVolumesToVM_obeys hv hvm₁ hfree hspec).mono ?_)
    rintro ⟨vm₂, err⟩ v₂ ⟨hvm₂, l₂, hv₂, hadded⟩
    match err with
    | some e => exact hv₂.vm
    | none =>
      refine Protocol.Obeys.bind (p := removeHotplugVolumesFromVM vm₂ info.disks)
        ((removeHotplugVolumesFromVM_obeys hv₂ hvm₂).mono ?_)
      rintro err v₃ ⟨hvm₃, hremoved⟩
      match err with
      | some e => exact hvm₃
      | none =>
        obtain ⟨l₃, hv₃, hleft⟩ := hremoved rfl
        refine ⟨fun volume hvolume => ⟨r, l₃, hv₃.vm, hv₃.disks, ?_, fun d hd => ?_⟩,
          fun umounted => ?_⟩
        · rw [← hvm₂.statusNames]
          exact hvolume
        · obtain ⟨hl₂, hdisk⟩ := hleft d hd
          rcases hadded d hl₂ with hd | hd
          · exact hdisk hd
          · exact hd
        · match umounted with
          | .error e => exact hv₃.vm
          | .ok () => exact hv₃.vm

/-! ### Running -/

theorem power_calm (vm : VM) : (power vm).Only (Calm r) := by
  unfold power
  dsimp only
  split
  · next call hcall =>
    refine ⟨?_, fun _ => trivial⟩
    cases haction : vm.status.powerAction <;> rw [haction] at hcall <;> cases hcall <;> trivial
  · trivial

theorem reconcileRunning_obeys (node : String) (hv : v.vm = some r) :
    (plan daemonTerms).Obeys (reconcileRunning node r) (fun _ v' => v'.vm = some r) v := by
  unfold reconcileRunning
  split
  · exact hv
  · refine ⟨trivial, fun info => ?_⟩
    match info with
    | .error e => exact hv
    | .ok info =>
      have hguest : OnGuest r info.disks
          (NodeView.toldBase (.vmInfo r.status.vmPodUID) (.ok info) v) := ⟨hv, rfl⟩
      show (plan daemonTerms).Obeys (if info.state = .running ∨ info.state = .paused then _ else _)
        _ (NodeView.toldBase (.vmInfo r.status.vmPodUID) (.ok info) v)
      by_cases hstate : info.state = .running ∨ info.state = .paused
      · simp only [hstate, if_true]
        by_cases hhalted : r.spec.runPolicy = .halted
        · simp only [hhalted, if_true]
          refine ⟨trivial, fun off => ?_⟩
          match off with
          | .error e => exact hguest.vm
          | .ok () => exact reconcileHotplugVolumes_obeys hguest
        · simp only [hhalted, if_false]
          by_cases haction : r.status.powerAction ≠ .empty
          · rw [if_pos haction]
            exact obeys_calm (power_calm r) hguest.vm
          · rw [if_neg haction]
            exact reconcileHotplugVolumes_obeys hguest
      · simp only [hstate, if_false]
        exact hguest.vm

/-! ### Migration -/

/-- If the hypervisor listens, the VM is as it was. -/
theorem receive_obeys (hv : v.vm = some r) (m : Migration) (b : ControlBlock) (ctx : Nat) :
    (plan daemonTerms).Obeys (receive r m b ctx)
      (fun x v' => v'.vm = some r ∧ ∀ vm b', x = .next vm b' → vm = r) v := by
  have hreturn : ∀ vm' err, ∀ vm b', Flow.return_ vm' err = .next vm b' → vm = r :=
    fun _ _ _ _ h => Flow.noConfusion h
  have hnext : ∀ b₁, ∀ vm b', Flow.next r b₁ = .next vm b' → vm = r :=
    fun _ _ _ h => (Flow.next.inj h).1.symm
  refine ⟨trivial, fun there => ?_⟩
  match there with
  | .error e => exact ⟨hv, hreturn _ _⟩
  | .ok true => exact ⟨hv, hnext _⟩
  | .ok false =>
    refine ⟨trivial, fun ch => ⟨trivial, fun waited => ?_⟩⟩
    match waited with
    | .error e => exact ⟨hv, hreturn _ _⟩
    | .ok () => exact ⟨hv, hnext _⟩

theorem openTarget_obeys (nodeIP : String) (hv : v.vm = some r) (m : Migration)
    (b : ControlBlock) (ctx : Nat) :
    (plan daemonTerms).Obeys (openTarget nodeIP r m b ctx) (fun _ v' => v'.vm = some r) v := by
  refine ⟨trivial, fun loaded => ?_⟩
  match loaded with
  | .error e => exact hv
  | .ok () =>
    refine ⟨trivial, fun port => ?_⟩
    match port with
    | .error e => exact hv
    | .ok port =>
      refine Protocol.Obeys.bind (p := mountHotplugVolumes r _ _)
        ((mountHotplugVolumes_obeys hv _ _ (.refl r)).mono ?_)
      rintro ⟨vm', err⟩ v' ⟨rfl, -⟩
      match err with
      | some e => exact hv
      | none => exact hv

theorem reconcileTarget_obeys (nodeIP : String) (hv : v.vm = some r) (m : Migration)
    (b : ControlBlock) :
    (plan daemonTerms).Obeys (reconcileTarget nodeIP r m b) (fun _ v' => v'.vm = some r) v := by
  refine ⟨trivial, fun waited => ?_⟩
  match waited with
  | .error e => exact hv
  | .ok () =>
    refine ⟨trivial, fun ctx => ?_⟩
    refine Protocol.Obeys.bind (p := receive r m _ ctx) ((receive_obeys hv m _ ctx).mono ?_)
    rintro flow v' ⟨hv', hnext⟩
    match flow with
    | .return_ vm err => exact hv'
    | .next vm b' =>
      obtain rfl := hnext vm b' rfl
      exact openTarget_obeys nodeIP hv' m b' ctx

theorem cancelAndGo_calm (cancel : Option Nat) (vm : VM) (b : ControlBlock) :
    (cancelAndGo cancel vm b).Only (Calm r) := by
  unfold cancelAndGo
  match cancel with
  | none => trivial
  | some ctx => exact ⟨trivial, fun _ => trivial⟩

theorem reconcileSend_calm (vm : VM) (m : Migration) (b : ControlBlock) :
    (reconcileSend vm m b).Only (Calm r) := by
  refine ⟨trivial, fun ctx => ⟨trivial, fun relayed => ?_⟩⟩
  match relayed with
  | .error e => trivial
  | .ok () => exact ⟨trivial, fun _ => trivial⟩

theorem reconcileSending_calm (vm : VM) (m : Migration) (b : ControlBlock) (vmPod : Pod) :
    (reconcileSending vm m b vmPod).Only (Calm r) := by
  unfold reconcileSending
  split
  · refine cleanup_calm.bind fun err => ?_
    match err with
    | some e => trivial
    | none => exact cancelAndGo_calm ..
  · split
    · exact cancelAndGo_calm ..
    · refine ⟨trivial, fun polled => ?_⟩
      match polled with
      | some e => exact cancelAndGo_calm ..
      | none => trivial

theorem reconcileSent_calm (vm : VM) (m : Migration) (b : ControlBlock) :
    (reconcileSent vm m b).Only (Calm r) := by
  refine ⟨trivial, fun info => ?_⟩
  match info with
  | .error e => trivial
  | .ok info =>
    show (if info.state = .running then cancelAndGo b.receiveMigrationCancelFunc (arrived vm m) b
      else pure (.return_ vm none) : Call Flow).Only (Calm r)
    split
    · exact cancelAndGo_calm ..
    · trivial

theorem migrationStep_obeys (node nodeIP : String) (hv : v.vm = some r) (m : Migration)
    (vmPod : Pod) (b : ControlBlock) :
    (plan daemonTerms).Obeys (migrationStep node nodeIP r m vmPod b)
      (fun _ v' => v'.vm = some r) v := by
  unfold migrationStep
  split
  · split
    · exact reconcileTarget_obeys nodeIP hv m b
    · exact hv
  · split
    · exact obeys_calm (reconcileSend_calm r m b) hv
    · exact hv
  · split
    · exact obeys_calm (reconcileSending_calm r m b vmPod) hv
    · exact hv
  · split
    · exact obeys_calm (reconcileSent_calm r m b) hv
    · exact hv
  · exact ⟨trivial, fun _ => hv⟩
  · exact ⟨trivial, fun _ => hv⟩
  · exact hv
  · exact hv
  · exact hv

theorem reconcileMigration_obeys (node nodeIP : String) (hv : v.vm = some r) (m : Migration)
    (vmPod : Pod) :
    (plan daemonTerms).Obeys (reconcileMigration node nodeIP r m vmPod)
      (fun _ v' => v'.vm = some r) v := by
  refine ⟨trivial, fun b => ?_⟩
  refine Protocol.Obeys.bind (p := migrationStep node nodeIP r m vmPod b)
    ((migrationStep_obeys node nodeIP hv m vmPod b).mono ?_)
  intro flow v' hv'
  match flow with
  | .return_ vm err => exact hv'
  | .next vm b =>
    refine ⟨trivial, fun _ => ?_⟩
    show (plan daemonTerms).Obeys (if migrationOver node vm then _ else _) _ _
    split
    · exact ⟨trivial, fun _ => hv'⟩
    · exact hv'

/-! ### The Reconciler -/

theorem reconcile_obeys (node nodeIP : String) (hv : v.vm = some r) :
    (plan daemonTerms).Obeys (reconcile node nodeIP r) (fun _ v' => v'.vm = some r) v := by
  unfold reconcile
  split
  · exact hv
  · refine ⟨trivial, fun pod => ?_⟩
    match pod with
    | .error e => exact hv
    | .ok vmPod =>
      show (plan daemonTerms).Obeys (if r.deletionTimestamp.isSome then _ else _) _ v
      split
      · split
        · exact hv
        · exact obeys_calm (reconcileDeletingVM_calm r vmPod) hv
      · split
        · exact reconcileScheduled_obeys hv
        · split
          · exact reconcileRunning_obeys node hv
          · exact reconcileMigration_obeys node nodeIP hv _ vmPod
        · exact obeys_calm (cleanup_calm.bind fun _ => trivial) hv
        · exact obeys_calm (cleanup_calm.bind fun _ => trivial) hv
        all_goals exact hv

/-- **The daemon keeps its terms.** -/
theorem Reconcile_obeys (node nodeIP : String) :
    (plan daemonTerms).Obeys (Reconcile node nodeIP) (fun _ _ => True) {} := by
  refine ⟨trivial, fun got => ?_⟩
  match got with
  | .error .notFound => trivial
  | .error .alreadyExists => trivial
  | .error .conflict => trivial
  | .error (.other e) => trivial
  | .ok vm =>
    refine Protocol.Obeys.bind (p := reconcile node nodeIP vm)
      ((reconcile_obeys node nodeIP rfl).mono ?_)
    rintro ⟨vm', err⟩ v' hv'
    refine ⟨trivial, fun written => ?_⟩
    match err, written with
    | some e, _ => trivial
    | none, .error e => trivial
    | none, .ok _ => trivial

end VMDaemon

/-- The daemons of the system keep the discipline of mounting on these terms. -/
theorem nodeSystem_kept (nodeIP : String → String) :
    (Protocol.contract (nodeSystem nodeIP).main (mounting daemonTerms)).Kept := by
  refine Protocol.kept rfl fun n => ?_
  exact VMDaemon.obeys_interp (VMDaemon.Reconcile_obeys n (nodeIP n)) ⟨rfl, rfl, nofun⟩

end Virtink
