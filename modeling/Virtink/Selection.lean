import Virtink.Admission.VMReplicaSet

/-! # Replicas Stay Selected

    The template of a replica set can get new labels while VMs made from older
    templates live on. Every version that the webhook has accepted selects its
    own template, and no version has another selector than the first; so the
    selector of the current version selects the VMs of all of them, and none of
    them is replaced because it is no longer counted.
-/

namespace Virtink

open Calls

namespace VMRSController

/-! ### Histories -/

/-- The versions of a replica set, the current one first: the API server keeps
    its name and UID, and the webhook has accepted every write. -/
inductive VMRSHistory (lib : Packages) : List VMRS → Prop where
  | create {rs : VMRS} : validateVMReplicaSet lib rs none = some [] → VMRSHistory lib [rs]
  | update {rs old : VMRS} {l : List VMRS} : VMRSHistory lib (old :: l) → rs.uid = old.uid →
      rs.name = old.name → validateVMReplicaSet lib rs (some old) = some [] →
      VMRSHistory lib (rs :: old :: l)

/-- What all versions have in common with the current one. -/
structure SameSelector (lib : Packages) (cur rs : VMRS) : Prop where
  uid      : rs.uid = cur.uid
  selector : rs.spec.selector = cur.spec.selector
  selects  : rs.spec.SelectsTemplate lib

/-- **History**: by induction over the updates. -/
theorem VMRSHistory.sameSelector {lib : Packages} {cur : VMRS} {l : List VMRS}
    (h : VMRSHistory lib (cur :: l)) : ∀ rs ∈ cur :: l, SameSelector lib cur rs := by
  generalize hl : cur :: l = versions at h
  induction h generalizing cur l with
  | create hvalid =>
    cases hl
    intro rs hrs
    rw [List.mem_singleton.mp hrs]
    exact ⟨rfl, rfl, (selectsTemplate_of_validateVMReplicaSet hvalid).1⟩
  | @update rs₀ old l' _ huid _ hvalid ih =>
    cases hl
    obtain ⟨hselects, hkept⟩ := selectsTemplate_of_validateVMReplicaSet hvalid
    intro rs hrs
    rcases List.mem_cons.mp hrs with rfl | hrs
    · exact ⟨rfl, rfl, hselects⟩
    · have hold := ih rfl rs hrs
      exact ⟨hold.uid.trans huid.symm, hold.selector.trans (hkept old rfl).symm, hold.selects⟩

/-! ### Replicas -/

/-- The VM was built by `createVM` from one of the versions, and nobody has
    changed its labels or its controller since. -/
def BuiltFrom (versions : List VMRS) (vm : VM) : Prop :=
  ∃ rs ∈ versions, ∃ t, rs.spec.template = some t ∧ vm.labels = some (newVM rs t).labels ∧
    vm.controller = some (newVM rs t).controller

/-- The selector of the current version selects every VM that was built. -/
theorem VMRSHistory.selects {lib : Packages} {cur : VMRS} {l : List VMRS}
    (h : VMRSHistory lib (cur :: l)) :
    ∃ selects, lib.labelSelectorAsSelector cur.spec.selector = .ok selects ∧
      ∀ vm, BuiltFrom (cur :: l) vm →
        selects (vm.labels.getD []) = true ∧ vmrUID vm = some cur.uid := by
  obtain ⟨selects, -, -, hparse, -⟩ := (h.sameSelector cur List.mem_cons_self).selects
  refine ⟨selects, hparse, ?_⟩
  rintro vm ⟨rs, hrs, t, ht, hlabels, hcontroller⟩
  have hsame := h.sameSelector rs hrs
  obtain ⟨selects', t', labels, hparse', ht', hlabels', hmatch⟩ := hsame.selects
  -- both versions have one selector, hence one meaning of it
  rw [hsame.selector, hparse] at hparse'
  cases hparse'
  rw [ht] at ht'
  cases ht'
  constructor
  · simpa [hlabels, newVM, hlabels'] using hmatch
  · simp [vmrUID, hcontroller, newVM, hsame.uid]

/-! ### No Replica Is Replaced -/

/-- The controller makes no call that creates a VM. -/
def NoCreate : Op → Prop
  | .createVM _ => False
  | _ => True

section only
variable {ok : Op → Prop}

/-- The calls of `DeleteVM`. -/
theorem deleteVM_only {rs : VMRS} {vm : VM} (hdelete : ok (.deleteVM vm.name))
    (hobserved : ok (.deletionObserved rs.name vm.name)) : (DeleteVM rs vm).Only ok := by
  refine ⟨hdelete, fun x => ?_⟩
  match x with
  | .ok _ => trivial
  | .error .notFound => trivial
  | .error .conflict | .error .alreadyExists | .error (.other _) =>
    exact ⟨hobserved, fun _ => trivial⟩

/-- The calls of `createVM`. -/
theorem createVM_only {rs : VMRS} {t : VMTemplate} (hcreate : ok (.createVM (newVM rs t)))
    (hobserved : ok (.creationObserved rs.name)) : (createVM rs t).Only ok := by
  refine ⟨hcreate, fun x => ?_⟩
  cases x with
  | ok _ => trivial
  | error e => exact ⟨hobserved, fun _ => trivial⟩

/-- The calls of routines and of what follows. -/
theorem spawn_only {α : Type} {routines : List (Call (Option String))} {n : Nat}
    {k : Option String → Call α} (hpick : ∀ m, ok (.pick m)) (hr : ∀ r ∈ routines, r.Only ok)
    (hk : ∀ e, (k e).Only ok) : (spawn routines n k).Only ok :=
  Pool.only_run (show ∀ m, (pick m).Only ok from fun m => ⟨hpick m, fun _ => trivial⟩) hr hk

/-- The calls of routines that delete VMs, and of what follows. -/
theorem spawn_deletes_only {α : Type} {rs : VMRS} {vms : List VM} {n : Nat}
    {k : Option String → Call α} (hpick : ∀ m, ok (.pick m))
    (hvms : ∀ vm ∈ vms, ok (.deleteVM vm.name) ∧ ok (.deletionObserved rs.name vm.name))
    (hk : ∀ e, (k e).Only ok) : (spawn (vms.map (DeleteVM rs)) n k).Only ok := by
  refine spawn_only hpick ?_ hk
  intro r hr
  obtain ⟨vm, hvm, rfl⟩ := List.mem_map.mp hr
  exact deleteVM_only (hvms vm hvm).1 (hvms vm hvm).2

/-- The calls of `writeStatus`. -/
theorem writeStatus_only {rs : VMRS} {status : VMRSStatus} {e : Option Err}
    (h : ok (.updateStatus rs.name status)) : (writeStatus rs status e).Only ok := by
  simp only [writeStatus]
  split
  · trivial
  · refine ⟨h, fun x => ?_⟩
    cases x <;> cases e <;> trivial

/-- The calls at the end of a reconcile. -/
theorem finish_only {rs : VMRS} {vms : List VM} {e : Option String}
    (h : ∀ status, ok (.updateStatus rs.name status)) : (finish rs vms e).Only ok := by
  simp only [finish]
  split
  · trivial
  · exact writeStatus_only (h _)

end only

/-- With enough active VMs `scaleVMs` creates none. -/
theorem scaleVMs_noCreate {lib : Packages} {rs : VMRS} {vms : List VM}
    (h : wanted rs ≤ vms.length) : (scaleVMs lib rs vms).Only NoCreate := by
  simp only [scaleVMs]
  split
  · trivial
  · split
    · next hneg => omega
    · split
      · trivial
      · exact ⟨trivial, fun _ =>
          spawn_deletes_only (fun _ => trivial) (fun _ _ => ⟨trivial, trivial⟩) (fun _ => trivial)⟩

theorem sync_noCreate {lib : Packages} {rs : VMRS} {vms : List VM}
    (h : wanted rs ≤ (vms.filter isVMActive).length) : (sync lib rs vms).Only NoCreate := by
  have hfinish : ∀ e, (returning (finish rs (vms.filter isVMActive) e)).Only NoCreate :=
    fun e => Prog.Only.bind (finish_only fun _ => trivial) fun _ => trivial
  refine (scaleVMs_noCreate h).bind fun r => ?_
  match r with
  | .returned (some e) => exact hfinish (some e)
  | .returned none =>
    dsimp only
    split
    · exact hfinish none
    · exact spawn_deletes_only (fun _ => trivial) (fun _ _ => ⟨trivial, trivial⟩)
        (fun _ => finish_only fun _ => trivial)
  | .panicked => trivial
  | .hung => trivial

/-- For every history of a replica set and every content of the cache: the
    current selector selects all VMs that were built from any version,
    `getControlledVMs` returns them, and a sync with enough of them active
    creates no further one. -/
theorem built_vms_stay_counted {lib : Packages} {cur : VMRS} {l : List VMRS}
    (h : VMRSHistory lib (cur :: l)) (cache : List VM) :
    (∃ selects, lib.labelSelectorAsSelector cur.spec.selector = .ok selects ∧
      ∀ vm, BuiltFrom (cur :: l) vm → selects (vm.labels.getD []) = true) ∧
    ∃ vms, Prog.Path (getControlledVMs lib cur)
        [⟨.listVMs cur.uid, .ok (listed cur.uid cache)⟩] (.ok vms) ∧
      (∀ vm ∈ cache, BuiltFrom (cur :: l) vm → vm ∈ vms) ∧
      ∀ built : List VM, built.Sublist cache →
        (∀ vm ∈ built, BuiltFrom (cur :: l) vm ∧ isVMActive vm = true) →
        wanted cur ≤ built.length → (sync lib cur vms).Only NoCreate := by
  obtain ⟨selects, hparse, hbuilt⟩ := h.selects
  have hselect : selectVMs lib cur (listed cur.uid cache) =
      .ok ((listed cur.uid cache).filter (fun vm => selects (vm.labels.getD []))) := by
    simp [selectVMs, hparse]
  have hkeep : ∀ vm, BuiltFrom (cur :: l) vm →
      (selects (vm.labels.getD []) && vmrUID vm == some cur.uid) = true := by
    intro vm hvm
    simp [hbuilt vm hvm]
  have hpath : Prog.Path (getControlledVMs lib cur)
      [⟨.listVMs cur.uid, .ok (listed cur.uid cache)⟩] (selectVMs lib cur (listed cur.uid cache)) :=
    .call (.pure _)
  rw [hselect] at hpath
  refine ⟨⟨selects, hparse, fun vm hvm => (hbuilt vm hvm).1⟩, _, hpath, ?_, ?_⟩
  · intro vm hmem hvm
    simpa [listed, List.filter_filter, hmem] using hbuilt vm hvm
  · intro built hsub hall hwanted
    refine sync_noCreate (Int.le_trans hwanted (Int.ofNat_le.mpr ?_))
    -- what was built survives all three filters
    have hself : built.filter (fun vm => isVMActive vm &&
        (selects (vm.labels.getD []) && vmrUID vm == some cur.uid)) = built := by
      rw [List.filter_eq_self]
      intro vm hvm
      simp only [(hall vm hvm).2, hkeep vm (hall vm hvm).1, Bool.and_self]
    have hlength := (hsub.filter (fun vm => isVMActive vm &&
      (selects (vm.labels.getD []) && vmrUID vm == some cur.uid))).length_le
    rw [hself] at hlength
    simpa only [listed, List.filter_filter] using hlength

namespace Sample

/-- Selectors that look at `matchLabels` only, and a sort that keeps the order. -/
def packages : Packages where
  labelSelectorAsSelector s := .ok (fun labels => includesLabels ((s.map (·.matchLabels)).getD []) labels)
  sortSlice _ l := l

theorem packages_lawful : packages.Lawful := ⟨fun _ _ => .refl _⟩

/-- A replica set of one VM with these labels in its template. -/
def web (labels : Labels) : VMRS :=
  { name := "web"
    uid := "web-uid"
    spec := {
      replicas := some 1
      selector := some { matchLabels := [("app", "web")] }
      template := some { labels := some labels } } }

/-- A VM of the first template. -/
def oldReplica : VM :=
  (newVM (web [("app", "web")]) { labels := some [("app", "web")] }).stored "web-1" "uid-1" 1 1

/-- The template gets a second label. -/
theorem relabelled :
    VMRSHistory packages [web [("app", "web"), ("tier", "gold")], web [("app", "web")]] :=
  .update (.create (by decide)) rfl rfl (by decide)

end Sample

/-- The VM of the first template is still counted, and is not replaced. -/
theorem built_vms_stay_counted_relabelled :
    ∃ vms, Prog.Path (getControlledVMs Sample.packages (Sample.web [("app", "web"), ("tier", "gold")]))
        [⟨.listVMs "web-uid", .ok (listed "web-uid" [Sample.oldReplica])⟩] (.ok vms) ∧
      Sample.oldReplica ∈ vms ∧
      (sync Sample.packages (Sample.web [("app", "web"), ("tier", "gold")]) vms).Only NoCreate := by
  have hbuilt : BuiltFrom
      [Sample.web [("app", "web"), ("tier", "gold")], Sample.web [("app", "web")]]
      Sample.oldReplica := ⟨Sample.web [("app", "web")], by simp, _, rfl, rfl, rfl⟩
  obtain ⟨-, vms, hpath, hcounted, hnone⟩ :=
    built_vms_stay_counted Sample.relabelled [Sample.oldReplica]
  refine ⟨vms, hpath, hcounted _ (by simp) hbuilt, hnone [Sample.oldReplica] (.refl _) ?_ (by decide)⟩
  intro vm hvm
  rw [List.mem_singleton.mp hvm]
  exact ⟨hbuilt, by decide⟩

end VMRSController

end Virtink
