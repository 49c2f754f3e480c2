import Mathlib.Data.List.Nodup
import Virtink.Admission.Accepted

/-! # Update Histories of a Virtual Machine

    The webhook compares an update with the version before it only. Over a
    whole history this still fixes everything that does not hotplug: the
    volumes that are not hotpluggable, with their contents, and every field of
    the spec except the run policy, the volumes and the disks.
-/

namespace Virtink

/-! ### Histories -/

/-- The versions of a VM, newest first: the first was accepted on its own, and
    each later one against the version before it. -/
inductive History (lib : Library) : List VM → Prop where
  | create {vm : VM} : validateVM lib vm none = [] → History lib [vm]
  | update {new old : VM} {l : List VM} :
      History lib (old :: l) → validateVM lib new (some old) = [] → History lib (new :: old :: l)

/-- The spec without the fields that may be updated. -/
def VMSpec.fixed (spec : VMSpec) : VMSpec :=
  { spec with
    runPolicy := .empty
    volumes := []
    instance_ := { spec.instance_ with disks := [] } }

/-- Two specs agree on all that no update may change. -/
structure VMSpec.Agrees (s t : VMSpec) : Prop where
  volumes : ∀ v : Volume, v.isHotpluggable = false → (v ∈ s.volumes ↔ v ∈ t.volumes)
  fixed   : s.fixed = t.fixed

namespace VMSpec.Agrees

theorem refl (s : VMSpec) : s.Agrees s := ⟨fun _ _ => Iff.rfl, rfl⟩

theorem symm {s t : VMSpec} (h : s.Agrees t) : t.Agrees s :=
  ⟨fun v hv => (h.volumes v hv).symm, h.fixed.symm⟩

theorem trans {s t u : VMSpec} (h : s.Agrees t) (h' : t.Agrees u) : s.Agrees u :=
  ⟨fun v hv => (h.volumes v hv).trans (h'.volumes v hv), h.fixed.trans h'.fixed⟩

end VMSpec.Agrees

/-! ### One Update -/

section lookup
variable {volumes : List Volume}

/-- The volume that the loops find is one of the list with that name. -/
theorem findVolume_some {name : String} {v : Volume} (h : findVolume volumes name = some v) :
    v ∈ volumes ∧ v.name = name := by
  have hname := List.find?_some h
  exact ⟨List.mem_of_find?_eq_some h, by simpa using hname⟩

/-- Where names are distinct, each element is what is found under its name. -/
theorem find?_name_of_mem {α : Type} {name : α → String} {l : List α} (hnodup : (l.map name).Nodup)
    {x : α} (hx : x ∈ l) : l.find? (name · == name x) = some x := by
  cases hfind : l.find? (name · == name x) with
  | none =>
    have hnone := List.find?_eq_none.mp hfind x hx
    simp at hnone
  | some y =>
    have hname : name y = name x := by simpa using List.find?_some hfind
    rw [List.inj_on_of_nodup_map hnodup (List.mem_of_find?_eq_some hfind) hx hname]

/-- Where names are distinct, the loops find the volume itself. -/
theorem findVolume_of_mem (hnodup : (volumes.map (·.name)).Nodup) {v : Volume}
    (hv : v ∈ volumes) : findVolume volumes v.name = some v :=
  find?_name_of_mem hnodup hv

end lookup

/-- What an accepted update leaves alone. -/
structure UpdateKeeps (new old : VMSpec) : Prop where
  carry : old.carryOver new = new
  kept  : ∀ v ∈ old.volumes, ∀ u, findVolume new.volumes v.name = some u → v = u
  gone  : ∀ v ∈ old.volumes, findVolume new.volumes v.name = none → v.isHotpluggable = true
  added : ∀ v ∈ new.volumes, findVolume old.volumes v.name = none → v.isHotpluggable = true

theorem updateKeeps_of_valid {new old : VMSpec} (h : validateVMUpdate new old = []) :
    UpdateKeeps new old := by
  simp only [validateVMUpdate, List.append_eq_nil_iff, check_eq_nil, List.flatMap_eq_nil_iff] at h
  obtain ⟨⟨hcarry, hold⟩, hnew⟩ := h
  refine ⟨by simpa using hcarry, ?_, ?_, ?_⟩
  · intro v hv u hu
    have hcheck := hold v hv
    rw [hu] at hcheck
    simpa using hcheck
  · intro v hv hu
    have hcheck := hold v hv
    rw [hu] at hcheck
    simpa using hcheck
  · intro v hv hu
    have hcheck := hnew v hv
    rw [hu] at hcheck
    simpa using hcheck

theorem fixed_carryOver (new old : VMSpec) : (old.carryOver new).fixed = old.fixed := rfl

/-- **Step**: an accepted update keeps the fixed part of the spec and the
    volumes that are not hotpluggable. That the new names are distinct is
    needed to know that the first match is the volume itself. -/
theorem agrees_of_update {new old : VMSpec} (hnew : new.Accepted)
    (h : validateVMUpdate new old = []) : new.Agrees old := by
  have hkeeps := updateKeeps_of_valid h
  refine ⟨?_, ?_⟩
  · intro v hv
    constructor
    · intro hmem
      cases hfind : findVolume old.volumes v.name with
      | none =>
        have hplug := hkeeps.added v hmem hfind
        rw [hv] at hplug
        cases hplug
      | some u =>
        obtain ⟨hu, hname⟩ := findVolume_some hfind
        have hback : findVolume new.volumes u.name = some v := by
          rw [hname]
          exact findVolume_of_mem hnew.volume_names hmem
        have huv : u = v := hkeeps.kept u hu v hback
        exact huv ▸ hu
    · intro hmem
      cases hfind : findVolume new.volumes v.name with
      | none =>
        have hplug := hkeeps.gone v hmem hfind
        rw [hv] at hplug
        cases hplug
      | some u =>
        have hvu : v = u := hkeeps.kept v hmem u hfind
        exact hvu ▸ (findVolume_some hfind).1
  · have hfixed := fixed_carryOver new old
    rwa [hkeeps.carry] at hfixed

theorem agrees_of_validateVM {lib : Library} {new old : VM}
    (h : validateVM lib new (some old) = []) : new.spec.Agrees old.spec := by
  have hnew := accepted_of_validateVM h
  simp only [validateVM, List.append_eq_nil_iff, Option.map_some, Option.getD_some] at h
  exact agrees_of_update hnew h.2

/-! ### Whole Histories -/

namespace History

variable {lib : Library} {versions : List VM}

/-- Every version was accepted. -/
theorem accepted (h : History lib versions) : ∀ vm ∈ versions, vm.spec.Accepted := by
  induction h with
  | create hvalid =>
    intro vm hvm
    rw [List.mem_singleton.mp hvm]
    exact accepted_of_validateVM hvalid
  | update _ hvalid ih =>
    intro vm hvm
    rcases List.mem_cons.mp hvm with rfl | hvm
    · exact accepted_of_validateVM hvalid
    · exact ih vm hvm

/-- **Run**: the newest version agrees with all before it. -/
theorem newest_agrees {vm : VM} {l : List VM} (h : History lib (vm :: l)) :
    ∀ u ∈ vm :: l, vm.spec.Agrees u.spec := by
  induction l generalizing vm with
  | nil =>
    intro u hu
    rw [List.mem_singleton.mp hu]
    exact .refl _
  | cons old l ih =>
    cases h with
    | update hold hvalid =>
      intro u hu
      rcases List.mem_cons.mp hu with rfl | hu
      · exact .refl _
      · exact (agrees_of_validateVM hvalid).trans (ih hold u hu)

/-- Any two versions agree. -/
theorem agrees (h : History lib versions) :
    ∀ u ∈ versions, ∀ w ∈ versions, u.spec.Agrees w.spec := by
  intro u hu w hw
  cases versions with
  | nil => cases hu
  | cons vm l => exact (h.newest_agrees u hu).symm.trans (h.newest_agrees w hw)

end History

/-- Over a history of accepted versions the volumes that are not hotpluggable
    are the same in every version, volume names are distinct in every version,
    and the fields of the spec other than `runPolicy`, `volumes` and
    `instance.disks` never change. -/
theorem unhotpluggable_spec_is_immutable {lib : Library} {versions : List VM}
    (h : History lib versions) :
    ∀ u ∈ versions, ∀ w ∈ versions,
      (∀ v : Volume, v.isHotpluggable = false → (v ∈ u.spec.volumes ↔ v ∈ w.spec.volumes)) ∧
      (u.spec.volumes.map (·.name)).Nodup ∧
      u.spec.fixed = w.spec.fixed := by
  intro u hu w hw
  have hagrees := h.agrees u hu w hw
  exact ⟨hagrees.volumes, (h.accepted u hu).volume_names, hagrees.fixed⟩

namespace Sample

/-- Parsers that accept every text. -/
def library : Library where
  parseMAC _ := none
  parseCIDR _ := .ok ⟨30, 32⟩
  quantityString _ := ""

/-- The root disk of the sample machine. -/
def rootDisk : Volume := { name := "root", containerDisk := some { image := "ubuntu" } }

/-- A claim that can be plugged into it. -/
def dataDisk : Volume :=
  { name := "data"
    persistentVolumeClaim := some { hotpluggable := true, claimName := "claim" } }

/-- The sample machine with these volumes, each with a disk. -/
def withVolumes (volumes : List Volume) : VM :=
  { name := "vm"
    uid := "vm-uid"
    spec := {
      instance_ := {
        cpu := { sockets := 1, coresPerSocket := 1 }
        memory := { size := .units 1073741824 }
        disks := volumes.map (fun v => { name := v.name }) }
      volumes := volumes } }

/-- The sample machine is created with its root disk and gets a second one. -/
theorem plugged : History library [withVolumes [dataDisk, rootDisk], withVolumes [rootDisk]] :=
  .update (.create (by decide)) (by decide)

end Sample

/-- Plugging a disk in front of the root disk keeps the root disk. -/
theorem unhotpluggable_spec_is_immutable_plugged :
    (∀ v : Volume, v.isHotpluggable = false →
      (v ∈ [Sample.dataDisk, Sample.rootDisk] ↔ v ∈ [Sample.rootDisk])) ∧
      ["data", "root"].Nodup ∧
      (Sample.withVolumes [Sample.dataDisk, Sample.rootDisk]).spec.fixed =
        (Sample.withVolumes [Sample.rootDisk]).spec.fixed :=
  unhotpluggable_spec_is_immutable Sample.plugged
    (Sample.withVolumes [Sample.dataDisk, Sample.rootDisk]) (by simp)
    (Sample.withVolumes [Sample.rootDisk]) (by simp)

end Virtink
