import Mathlib.Data.List.Perm.Subperm
import Virtink.HotplugPods

/-! # Updating the Volume Status

    `updateHotplugVolumeStatus` writes one entry for every hotplug volume of
    the spec and keeps the entries of volumes that have left the spec for as
    long as a volume pod still holds them. The entries that are left over are
    taken from a map, in any order, and their pointers are followed without a
    nil check; that this is safe is an invariant over all earlier runs, and so
    is that the two searches for a volume pod agree.
-/

namespace Virtink

open Calls

/-! ### Newest First -/

/-- The pod has a volume of that name. -/
def Pod.contains (p : Pod) (name : String) : Bool := p.volumes.any (·.name == name)

/-- The first volume of the pod has that name. -/
def Pod.startsWith (p : Pod) (name : String) : Bool :=
  p.volumes.head?.any (fun v : PodVolume => v.name == name)

theorem insertNewest_sorted (p : Pod) {l : List Pod}
    (h : l.Pairwise (fun a b => b.creationTimestamp ≤ a.creationTimestamp)) :
    (insertNewest p l).Pairwise (fun a b => b.creationTimestamp ≤ a.creationTimestamp) := by
  induction l with
  | nil => exact List.pairwise_singleton ..
  | cons q l ih =>
    obtain ⟨hq, hl⟩ := List.pairwise_cons.mp h
    unfold insertNewest
    split
    · next hle =>
      refine List.pairwise_cons.mpr ⟨fun r hr => ?_, h⟩
      rcases List.mem_cons.mp hr with rfl | hr
      · exact hle
      · exact Nat.le_trans (hq r hr) hle
    · next hlt =>
      refine List.pairwise_cons.mpr ⟨fun r hr => ?_, ih hl⟩
      rcases List.mem_cons.mp ((insertNewest_perm p l).mem_iff.mp hr) with rfl | hr
      · omega
      · exact hq r hr

theorem sortNewestFirst_sorted (pods : List Pod) :
    (sortNewestFirst pods).Pairwise (fun a b => b.creationTimestamp ≤ a.creationTimestamp) := by
  have hfold : ∀ sorted : List Pod,
      sorted.Pairwise (fun a b => b.creationTimestamp ≤ a.creationTimestamp) →
      (pods.foldl (fun sorted p => insertNewest p sorted) sorted).Pairwise
        (fun a b => b.creationTimestamp ≤ a.creationTimestamp) := by
    induction pods with
    | nil => exact fun sorted h => h
    | cons p pods ih => exact fun sorted h => ih _ (insertNewest_sorted p h)
  exact hfold [] .nil

/-- The first pod that is found is the newest of those it could have been. -/
theorem le_of_find? {pods : List Pod} {match_ : Pod → Bool} {p q : Pod}
    (h : pods.Pairwise (fun a b => b.creationTimestamp ≤ a.creationTimestamp))
    (hfind : pods.find? match_ = some p) (hq : q ∈ pods) (hmatch : match_ q = true) :
    q.creationTimestamp ≤ p.creationTimestamp := by
  induction pods with
  | nil => cases hq
  | cons r pods ih =>
    obtain ⟨hr, hrest⟩ := List.pairwise_cons.mp h
    rw [List.find?_cons] at hfind
    cases hm : match_ r with
    | true =>
      rw [hm] at hfind
      cases hfind
      rcases List.mem_cons.mp hq with rfl | hq
      · exact Nat.le_refl _
      · exact hr q hq
    | false =>
      rw [hm] at hfind
      rcases List.mem_cons.mp hq with rfl | hq
      · rw [hm] at hmatch
        cases hmatch
      · exact ih hrest hfind hq

/-- `p` is a volume pod that contains the volume, and none that does is newer. -/
structure NewestWith (pods : List Pod) (name : String) (p : Pod) : Prop where
  mem      : p ∈ pods
  contains : p.contains name = true
  newest   : ∀ q ∈ pods, q.contains name = true → q.creationTimestamp ≤ p.creationTimestamp

/-- The first volume pod that contains a volume is the newest one. -/
theorem newest_of_volumePodOf {pods : List Pod} {name : String} {p : Pod}
    (hsorted : pods.Pairwise (fun a b => b.creationTimestamp ≤ a.creationTimestamp))
    (h : volumePodOf pods name = some p) : NewestWith pods name p := by
  refine ⟨List.mem_of_find?_eq_some h, ?_, fun q hq hcontains => le_of_find? hsorted h hq hcontains⟩
  have hp := List.find?_some h
  exact hp

theorem contains_of_volumePodOf {pods : List Pod} {name : String} {p : Pod}
    (h : volumePodOf pods name = some p) : p.contains name = true := by
  have hp := List.find?_some h
  exact hp

theorem volumePodOf_eq_none {pods : List Pod} {name : String} :
    volumePodOf pods name = none ↔ ∀ p ∈ pods, p.contains name = false := by
  unfold volumePodOf Pod.contains
  simp only [List.find?_eq_none, Bool.not_eq_true]

/-- One turn of the outer loop of the second search. -/
def nextVolumePod (name : String) : Option Pod → Pod → Option Pod
  | none, p => if p.contains name then some p else none
  | some q, p => if p.startsWith name then some p else some q

theorem lastVolumePodOf_eq_foldl (pods : List Pod) (name : String) :
    lastVolumePodOf pods name = pods.foldl (nextVolumePod name) none := by
  unfold lastVolumePodOf
  congr 1
  funext found p
  cases found <;> rfl

/-- Where no pod has the name on its first volume, the second search finds the
    pod that the first one does. -/
theorem lastVolumePodOf_eq {pods : List Pod} {name : String}
    (hhead : ∀ p ∈ pods, p.startsWith name = false) :
    lastVolumePodOf pods name = volumePodOf pods name := by
  -- a pod that was found is kept
  have hkeep : ∀ (q : Pod) (l : List Pod), (∀ p ∈ l, p.startsWith name = false) →
      l.foldl (nextVolumePod name) (some q) = some q := by
    intro q l hl
    induction l with
    | nil => rfl
    | cons p l ih =>
      have hp : nextVolumePod name (some q) p = some q := if_neg (by simp [hl p List.mem_cons_self])
      rw [List.foldl_cons, hp]
      exact ih fun p' hp' => hl p' (List.mem_cons_of_mem p hp')
  rw [lastVolumePodOf_eq_foldl]
  induction pods with
  | nil => rfl
  | cons p l ih =>
    have hl : ∀ p' ∈ l, p'.startsWith name = false :=
      fun p' hp' => hhead p' (List.mem_cons_of_mem p hp')
    cases hp : p.contains name with
    | true =>
      have hfind : volumePodOf (p :: l) name = some p := List.find?_cons_of_pos hp
      have hstep : nextVolumePod name none p = some p := if_pos hp
      rw [hfind, List.foldl_cons, hstep]
      exact hkeep p l hl
    | false =>
      have hfind : volumePodOf (p :: l) name = volumePodOf l name :=
        List.find?_cons_of_neg (by simpa [Pod.contains] using hp)
      have hstep : nextVolumePod name none p = none := if_neg (by simp [hp])
      rw [hfind, List.foldl_cons, hstep]
      exact ih hl

/-! ### Volume Pods as They Are Built -/

/-- A pod that matches the ready volumes has claims of their names: there are as
    many of them, and distinct names cannot all be among fewer. -/
theorem names_perm_of_match {p : Pod} {ready volumes : List Volume} {x : PodVolume}
    (hdistinct : (volumes.map (·.name)).Nodup)
    (hvolumes : p.volumes = { name := "hotplug" } :: volumes.map Volume.asClaim ++ [x])
    (h : isPodMatchVMHotplugVolumes p ready = true) :
    (volumes.map (·.name)).Perm (ready.map (·.name)) := by
  simp only [isPodMatchVMHotplugVolumes, Bool.and_eq_true, beq_iff_eq, List.all_eq_true,
    List.any_eq_true, List.mem_filter] at h
  obtain ⟨hcount, hnames⟩ := h
  have hlength : ready.length ≤ volumes.length := by
    rw [hvolumes] at hcount
    simp only [List.cons_append, List.length_cons, List.length_append, List.length_map,
      List.length_nil] at hcount
    omega
  have hsub : volumes.map (·.name) ⊆ ready.map (·.name) := by
    intro name hname
    obtain ⟨u, hu, rfl⟩ := List.mem_map.mp hname
    have hmem : u.asClaim ∈ p.volumes := by
      rw [hvolumes]
      exact List.mem_append_left _ (List.mem_cons_of_mem _ (List.mem_map_of_mem hu))
    obtain ⟨v, hv, heq⟩ := hnames u.asClaim ⟨hmem, rfl⟩
    exact List.mem_map.mpr ⟨v, hv, heq⟩
  exact (List.subperm_of_subset hdistinct hsub).perm_of_length_le (by simpa using hlength)

/-- A volume pod that was built for volumes none of which is named like the
    directory; the server may have added volumes at the end. -/
def BuiltVolumePod (p : Pod) : Prop :=
  ∃ vm vmPod volumes l t extra, Prog.Path (buildHotplugVolumePod vm vmPod volumes) l (.ok t) ∧
    (∀ v ∈ volumes, v.name ≠ "hotplug") ∧ p.volumes = t.volumes ++ extra

/-- Its first volume is the directory. -/
theorem BuiltVolumePod.startsWith {p : Pod} (h : BuiltVolumePod p) {name : String}
    (hname : name ≠ "hotplug") : p.startsWith name = false := by
  obtain ⟨vm, vmPod, volumes, l, t, extra, hpath, -, hvolumes⟩ := h
  have hbuilt := (buildHotplugVolumePod_volumes hpath).2
  have hhead : p.volumes.head? = some { name := "hotplug" } := by
    rw [hvolumes, hbuilt]
    rfl
  unfold Pod.startsWith
  rw [hhead]
  simpa using hname.symm

/-! ### Entries of the Spec -/

/-- Entries of other names do not matter to a lookup. -/
theorem lookupVolumeStatus_filter {l : List VolumeStatus} {name other : String}
    (hne : name ≠ other) :
    lookupVolumeStatus (l.filter (·.name != other)) name = lookupVolumeStatus l name := by
  unfold lookupVolumeStatus
  rw [← List.filter_reverse, List.find?_filter]
  congr 1
  funext s
  by_cases hs : s.name = name
  · simp [hs, hne]
  · simp [hs]

theorem lookupVolumeStatus_name {l : List VolumeStatus} {name : String} {s : VolumeStatus}
    (h : lookupVolumeStatus l name = some s) : s ∈ l ∧ s.name = name := by
  have hname := List.find?_some h
  exact ⟨List.mem_reverse.mp (List.mem_of_find?_eq_some h), by simpa using hname⟩

/-- The entry of a hotplug volume before it is brought up to date. -/
def previousStatus (old : List VolumeStatus) (v : Volume) : VolumeStatus :=
  (lookupVolumeStatus old v.name).getD { name := v.name }

theorem previousStatus_name (old : List VolumeStatus) (v : Volume) :
    (previousStatus old v).name = v.name := by
  unfold previousStatus
  cases h : lookupVolumeStatus old v.name with
  | none => rfl
  | some s => exact (lookupVolumeStatus_name h).2

/-- The loop over the hotplug volumes takes the entry of each out of the map. -/
theorem currentStatuses_eq (pods : List Pod) {volumes : List Volume} (old : List VolumeStatus)
    (hnodup : (volumes.map (·.name)).Nodup) :
    currentStatuses pods volumes old =
      (volumes.map (fun v => currentStatus pods (previousStatus old v)),
        old.filter (fun s => !volumes.any (·.name == s.name))) := by
  induction volumes generalizing old with
  | nil => simp [currentStatuses]
  | cons volume rest ih =>
    obtain ⟨hfresh, hrest⟩ := List.nodup_cons.mp hnodup
    have hsame : rest.map (fun v => currentStatus pods
          (previousStatus (old.filter (·.name != volume.name)) v)) =
        rest.map (fun v => currentStatus pods (previousStatus old v)) := by
      refine List.map_congr_left fun v hv => ?_
      have hne : v.name ≠ volume.name := fun h => hfresh (List.mem_map.mpr ⟨v, hv, h⟩)
      unfold previousStatus
      rw [lookupVolumeStatus_filter hne]
    unfold currentStatuses
    dsimp only
    rw [ih _ hrest, hsame, List.filter_filter]
    refine Prod.ext rfl ?_
    refine List.filter_congr fun s _ => ?_
    rw [List.any_cons, Bool.not_or, Bool.and_comm, BEq.comm]
    rfl

/-- What an entry of the spec points to. -/
def Pod.reference (p : Pod) : HotplugVolumeStatus := { volumePodName := p.name, volumePodUID := p.uid }

section
variable {pods : List Pod} {status : VolumeStatus}

theorem currentStatus_name : (currentStatus pods status).name = status.name := by
  unfold currentStatus
  cases volumePodOf pods status.name <;> rfl

theorem currentStatus_some {p : Pod} (h : volumePodOf pods status.name = some p) :
    (currentStatus pods status).hotplugVolume = some p.reference := by
  unfold currentStatus
  rw [h]
  rfl

theorem currentStatus_none (h : volumePodOf pods status.name = none) :
    (currentStatus pods status).phase = .pending ∧
      (currentStatus pods status).hotplugVolume = some {} := by
  unfold currentStatus
  rw [h]
  exact ⟨rfl, rfl⟩

theorem currentStatus_isSome : (currentStatus pods status).hotplugVolume.isSome = true := by
  cases h : volumePodOf pods status.name with
  | none => rw [(currentStatus_none h).2]; rfl
  | some p => rw [currentStatus_some h]; rfl

/-- An entry of the spec is `Detaching` if it was and a volume pod contains the
    volume. -/
theorem currentStatus_detaching : (currentStatus pods status).phase = .detaching ↔
    status.phase = .detaching ∧ (volumePodOf pods status.name).isSome = true := by
  unfold currentStatus
  cases volumePodOf pods status.name with
  | none => simp
  | some p =>
    by_cases hrunning : p.phase = .running <;> cases hphase : status.phase <;> simp [hrunning]

end

/-! ### Entries That Are Left Over -/

/-- The entry of a volume that has left the spec; it goes once no volume pod
    contains the volume. -/
def detachedStatus (pods : List Pod) (status : VolumeStatus) : Option VolumeStatus :=
  (lastVolumePodOf pods status.name).map fun p =>
    { status with hotplugVolume := some p.reference, phase := .detaching }

/-- Where all pointers are set, the loop over what is left does not panic. -/
theorem detachingStatuses_eq {pods : List Pod} {left : List VolumeStatus}
    (h : ∀ s ∈ left, s.hotplugVolume.isSome = true) :
    detachingStatuses pods left = .ok (left.filterMap (detachedStatus pods)) := by
  induction left with
  | nil => rfl
  | cons s rest ih =>
    have hrest := ih fun s' hs' => h s' (List.mem_cons_of_mem s hs')
    obtain ⟨pointer, hpointer⟩ := Option.isSome_iff_exists.mp (h s List.mem_cons_self)
    unfold detachingStatuses
    rw [List.filterMap_cons, hpointer, hrest]
    unfold detachedStatus
    cases lastVolumePodOf pods s.name <;> rfl

/-- `volumeStatusMap` keeps a list of distinct names. -/
theorem volumeStatusMap_of_nodup {l : List VolumeStatus} (h : (l.map (·.name)).Nodup) :
    volumeStatusMap l = l := by
  induction l with
  | nil => rfl
  | cons s l ih =>
    obtain ⟨hfresh, hl⟩ := List.nodup_cons.mp h
    have hnot : l.any (·.name == s.name) = false := by
      refine List.any_eq_false.mpr fun s' hs' heq => hfresh ?_
      exact List.mem_map.mpr ⟨s', hs', by simpa using heq⟩
    unfold volumeStatusMap
    rw [hnot, ih hl]
    rfl

/-! ### The Whole Function -/

/-- What holds of the volume status of a VM at all times. -/
structure StatusInv (l : List VolumeStatus) : Prop where
  names : (l.map (·.name)).Nodup
  set   : ∀ s ∈ l, s.hotplugVolume.isSome = true
  plain : ∀ s ∈ l, s.name ≠ "hotplug"

/-- The entries of volumes that are not hotplug volumes of the spec. -/
def leftOver (volumes : List Volume) (old : List VolumeStatus) : List VolumeStatus :=
  old.filter (fun s => !volumes.any (·.name == s.name))

/-- The new volume status, when what is left of the map comes as `order`. -/
def updatedStatus (pods : List Pod) (volumes : List Volume) (old order : List VolumeStatus) :
    List VolumeStatus :=
  volumes.map (fun v => currentStatus pods (previousStatus old v)) ++
    order.filterMap (detachedStatus pods)

theorem getHotplugVolumes_nodup {vm : VM} (vmPod : Pod)
    (h : (vm.spec.volumes.map (·.name)).Nodup) :
    ((getHotplugVolumes vm vmPod).map (·.name)).Nodup :=
  h.sublist (List.filter_sublist.map _)

theorem perm_of_listPods {w w' : World} {ch : Choice} {pods : List Pod}
    (h : World.answer .controller .listPods ch w = some (.ok pods, w')) : pods.Perm w.pods := by
  obtain ⟨a, ha, heq⟩ := Option.map_eq_some_iff.mp h
  obtain rfl : a = .ok pods := congrArg Prod.fst heq
  unfold Choice.askPods at ha
  split at ha
  · split at ha
    · next hperm => cases ha; exact List.isPerm_iff.mp hperm
    · cases ha
  · cases ha
  · cases ha; exact .refl _

theorem perm_of_rangeMap {w w' : World} {ch : Choice} {entries order : List VolumeStatus}
    (h : World.answer .controller (.rangeMap entries) ch w = some (order, w')) :
    order.Perm entries := by
  unfold World.answer at h
  dsimp only at h
  split at h
  · split at h
    · next hperm => cases h; exact List.isPerm_iff.mp hperm
    · cases h
  · cases h; exact .refl _

/-- What every undisturbed run of the function does. -/
structure Updates (w : World) (vm : VM) (vmPod : Pod) (l : List (Prog.Entry api))
    (r : VM × Option Err) : Prop where
  safe    : r.2 ≠ some .panic
  listed  : ∀ pods, listedPods l = some pods → pods.Perm w.pods ∧
    ∃ order, order.Perm (leftOver (getHotplugVolumes vm vmPod) vm.status.volumeStatus) ∧
      r.1.status.volumeStatus = updatedStatus (volumePodsOf vmPod pods)
        (getHotplugVolumes vm vmPod) vm.status.volumeStatus order
  failed  : listedPods l = none →
    ∃ e, l = [⟨.listPods, .error e⟩] ∧ r = (vm, some (.other e.text))

theorem updateHotplugVolumeStatus_must {w : World} {vm : VM} {vmPod : Pod}
    (hvolumes : (vm.spec.volumes.map (·.name)).Nodup) (hinv : StatusInv vm.status.volumeStatus) :
    w.must (updateHotplugVolumeStatus vm vmPod) (fun l r _ => Updates w vm vmPod l r) := by
  have hnodup := getHotplugVolumes_nodup vmPod hvolumes
  refine .bind (must_ask fun ch a w₁ hans => ?_)
  match a with
  | .error e => exact .pure (.pure ⟨nofun, nofun, fun _ => ⟨e, rfl, rfl⟩⟩)
  | .ok pods =>
    have hperm : pods.Perm w.pods := perm_of_listPods hans
    refine .pure ?_
    dsimp only
    rw [volumeStatusMap_of_nodup hinv.names, currentStatuses_eq _ _ hnodup]
    refine must_ask fun ch (order : List VolumeStatus) w₂ hans => ?_
    have horder : order.Perm (leftOver (getHotplugVolumes vm vmPod) vm.status.volumeStatus) :=
      perm_of_rangeMap hans
    have hpointers : ∀ s ∈ order, s.hotplugVolume.isSome = true := by
      intro s hs
      have hleft := List.mem_of_mem_filter (horder.mem_iff.mp hs)
      exact hinv.set s hleft
    rw [detachingStatuses_eq hpointers]
    dsimp only
    split
    · refine .pure ⟨nofun, fun pods' hpods' => ?_, nofun⟩
      cases hpods'
      exact ⟨hperm, order, horder, rfl⟩
    · refine .pure ⟨nofun, fun pods' hpods' => ?_, nofun⟩
      cases hpods'
      exact ⟨hperm, order, horder, rfl⟩

/-! ### What the New Status Lists -/

theorem detachedStatus_eq_some {pods : List Pod} {old s : VolumeStatus}
    (h : detachedStatus pods old = some s) :
    s.name = old.name ∧ s.phase = .detaching ∧
      ∃ p, lastVolumePodOf pods old.name = some p ∧ s.hotplugVolume = some p.reference := by
  obtain ⟨p, hp, rfl⟩ := Option.map_eq_some_iff.mp h
  exact ⟨rfl, rfl, p, hp, rfl⟩

/-- The entries that stay keep their names and their order. -/
theorem detached_names (pods : List Pod) (order : List VolumeStatus) :
    ((order.filterMap (detachedStatus pods)).map (·.name)).Sublist (order.map (·.name)) := by
  induction order with
  | nil => exact List.Sublist.refl _
  | cons s rest ih =>
    rw [List.filterMap_cons]
    cases hs : detachedStatus pods s with
    | none => exact ih.cons _
    | some s' =>
      have hname := (detachedStatus_eq_some hs).1
      rw [List.map_cons, List.map_cons, hname]
      exact ih.cons_cons _

section
variable {pods : List Pod} {volumes : List Volume} {old order : List VolumeStatus}

/-- An entry of the new status belongs to a hotplug volume of the spec or is
    left over. -/
theorem mem_updatedStatus {s : VolumeStatus} (h : s ∈ updatedStatus pods volumes old order) :
    (∃ v ∈ volumes, s.name = v.name ∧ s = currentStatus pods (previousStatus old v)) ∨
      ∃ s₀ ∈ order, detachedStatus pods s₀ = some s := by
  rcases List.mem_append.mp h with h | h
  · obtain ⟨v, hv, rfl⟩ := List.mem_map.mp h
    exact .inl ⟨v, hv, currentStatus_name.trans (previousStatus_name old v), rfl⟩
  · exact .inr (List.mem_filterMap.mp h)

theorem currentStatus_mem {v : Volume} (hv : v ∈ volumes) :
    currentStatus pods (previousStatus old v) ∈ updatedStatus pods volumes old order :=
  List.mem_append_left _ (List.mem_map.mpr ⟨v, hv, rfl⟩)

theorem updatedStatus_names :
    (updatedStatus pods volumes old order).map (·.name) =
      volumes.map (·.name) ++ (order.filterMap (detachedStatus pods)).map (·.name) := by
  unfold updatedStatus
  rw [List.map_append, List.map_map]
  refine congrArg (· ++ _) (List.map_congr_left fun v _ => ?_)
  exact currentStatus_name.trans (previousStatus_name old v)

/-- What is left over has other names than the volumes of the spec. -/
theorem not_mem_of_leftOver {s : VolumeStatus} (h : s ∈ leftOver volumes old) :
    s ∈ old ∧ s.name ∉ volumes.map (·.name) := by
  obtain ⟨hs, hnot⟩ := List.mem_filter.mp h
  refine ⟨hs, fun hmem => ?_⟩
  obtain ⟨v, hv, hname⟩ := List.mem_map.mp hmem
  have hany : volumes.any (·.name == s.name) = true :=
    List.any_eq_true.mpr ⟨v, hv, by simpa using hname⟩
  rw [hany] at hnot
  cases hnot

variable (hvolumes : (volumes.map (·.name)).Nodup) (hplain : ∀ v ∈ volumes, v.name ≠ "hotplug")
  (hinv : StatusInv old) (horder : order.Perm (leftOver volumes old))

include hvolumes hinv horder in
theorem updatedStatus_nodup : ((updatedStatus pods volumes old order).map (·.name)).Nodup := by
  have hsub := detached_names pods order
  have hleft : ((leftOver volumes old).map (·.name)).Nodup :=
    hinv.names.sublist (List.filter_sublist.map _)
  have hnodup : ((order.filterMap (detachedStatus pods)).map (·.name)).Nodup :=
    ((horder.map _).nodup_iff.mpr hleft).sublist hsub
  rw [updatedStatus_names]
  refine List.nodup_append.mpr ⟨hvolumes, hnodup, fun a ha b hb hab => ?_⟩
  -- a name cannot be both of the spec and left over
  obtain ⟨s, hs, rfl⟩ := List.mem_map.mp (hsub.subset hb)
  exact (not_mem_of_leftOver (horder.mem_iff.mp hs)).2 (hab ▸ ha)

include hvolumes hplain hinv horder in
/-- The function keeps the invariant. -/
theorem updatedStatus_inv : StatusInv (updatedStatus pods volumes old order) where
  names := updatedStatus_nodup hvolumes hinv horder
  set s hs := by
    rcases mem_updatedStatus hs with ⟨v, -, -, rfl⟩ | ⟨s₀, -, hs₀⟩
    · exact currentStatus_isSome
    · obtain ⟨-, -, p, -, hpointer⟩ := detachedStatus_eq_some hs₀
      rw [hpointer]
      rfl
  plain s hs := by
    rcases mem_updatedStatus hs with ⟨v, hv, hname, -⟩ | ⟨s₀, hs₀, hdetached⟩
    · exact hname ▸ hplain v hv
    · rw [(detachedStatus_eq_some hdetached).1]
      exact hinv.plain s₀ (not_mem_of_leftOver (horder.mem_iff.mp hs₀)).1

variable (hbuilt : ∀ p ∈ pods, BuiltVolumePod p)

include hinv horder hbuilt in
/-- For what is left over, both searches find the same volume pod. -/
theorem lastVolumePodOf_leftOver {s : VolumeStatus} (hs : s ∈ order) :
    lastVolumePodOf pods s.name = volumePodOf pods s.name := by
  have hname := hinv.plain s (not_mem_of_leftOver (horder.mem_iff.mp hs)).1
  exact lastVolumePodOf_eq fun p hp => (hbuilt p hp).startsWith hname

include hinv horder hbuilt in
/-- The names that are listed. -/
theorem mem_updatedStatus_names (name : String) :
    name ∈ (updatedStatus pods volumes old order).map (·.name) ↔
      name ∈ volumes.map (·.name) ∨
        name ∈ old.map (·.name) ∧ ∃ p ∈ pods, p.contains name = true := by
  rw [updatedStatus_names, List.mem_append]
  constructor
  · rintro (h | h)
    · exact .inl h
    · obtain ⟨s, hs, rfl⟩ := List.mem_map.mp h
      obtain ⟨s₀, hs₀, hdetached⟩ := List.mem_filterMap.mp hs
      obtain ⟨hname, -, p, hp, -⟩ := detachedStatus_eq_some hdetached
      rw [lastVolumePodOf_leftOver hinv horder hbuilt hs₀] at hp
      have hold := (not_mem_of_leftOver (horder.mem_iff.mp hs₀)).1
      refine .inr ⟨List.mem_map.mpr ⟨s₀, hold, hname.symm⟩, p, List.mem_of_find?_eq_some hp, ?_⟩
      rw [hname]
      exact contains_of_volumePodOf hp
  · rintro (h | ⟨h, p, hp, hcontains⟩)
    · exact .inl h
    · by_cases hspec : name ∈ volumes.map (·.name)
      · exact .inl hspec
      · obtain ⟨s, hs, rfl⟩ := List.mem_map.mp h
        have hleft : s ∈ leftOver volumes old := by
          refine List.mem_filter.mpr ⟨hs, ?_⟩
          have hnot : volumes.any (·.name == s.name) = false := by
            refine List.any_eq_false.mpr fun v hv heq => hspec ?_
            exact List.mem_map.mpr ⟨v, hv, by simpa using heq⟩
          rw [hnot]
          rfl
        have hmem : s ∈ order := horder.mem_iff.mpr hleft
        have hsome : (volumePodOf pods s.name).isSome = true :=
          List.find?_isSome.mpr ⟨p, hp, hcontains⟩
        obtain ⟨q, hq⟩ := Option.isSome_iff_exists.mp hsome
        rw [← lastVolumePodOf_leftOver hinv horder hbuilt hmem] at hq
        have hdetached : detachedStatus pods s =
            some { s with hotplugVolume := some q.reference, phase := .detaching } := by
          unfold detachedStatus
          rw [hq]
          rfl
        exact .inr (List.mem_map.mpr ⟨_, List.mem_filterMap.mpr ⟨s, hmem, hdetached⟩, rfl⟩)

variable (hsorted : pods.Pairwise (fun a b => b.creationTimestamp ≤ a.creationTimestamp))

include hinv horder hbuilt hsorted in
/-- An entry whose volume is in some volume pod points to the newest one. -/
theorem updatedStatus_points {s : VolumeStatus} (hs : s ∈ updatedStatus pods volumes old order)
    (hin : ∃ p ∈ pods, p.contains s.name = true) :
    ∃ p, NewestWith pods s.name p ∧ s.hotplugVolume = some p.reference := by
  obtain ⟨p, hp, hcontains⟩ := hin
  have hsome : (volumePodOf pods s.name).isSome = true :=
    List.find?_isSome.mpr ⟨p, hp, hcontains⟩
  obtain ⟨q, hq⟩ := Option.isSome_iff_exists.mp hsome
  refine ⟨q, newest_of_volumePodOf hsorted hq, ?_⟩
  rcases mem_updatedStatus hs with ⟨v, -, hname, rfl⟩ | ⟨s₀, hs₀, hdetached⟩
  · rw [hname, ← previousStatus_name old v] at hq
    exact currentStatus_some hq
  · obtain ⟨hname, -, p', hp', hpointer⟩ := detachedStatus_eq_some hdetached
    rw [lastVolumePodOf_leftOver hinv horder hbuilt hs₀, ← hname, hq] at hp'
    cases hp'
    exact hpointer

include hinv horder hbuilt in
/-- An entry whose volume is in no volume pod waits. -/
theorem updatedStatus_waits {s : VolumeStatus} (hs : s ∈ updatedStatus pods volumes old order)
    (hout : ∀ p ∈ pods, p.contains s.name = false) :
    s.phase = .pending ∧ s.hotplugVolume = some {} := by
  have hnone := volumePodOf_eq_none.mpr hout
  rcases mem_updatedStatus hs with ⟨v, -, hname, rfl⟩ | ⟨s₀, hs₀, hdetached⟩
  · rw [hname, ← previousStatus_name old v] at hnone
    exact currentStatus_none hnone
  · -- such an entry would not have been kept
    obtain ⟨hname, -, p, hp, -⟩ := detachedStatus_eq_some hdetached
    rw [lastVolumePodOf_leftOver hinv horder hbuilt hs₀, ← hname, hnone] at hp
    cases hp

end

end Virtink
