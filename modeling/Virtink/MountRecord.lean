import Virtink.MountOrder
import Virtink.Node.Truth

/-! # The Mount Record

    The daemon writes down which paths it mounts volumes on, in a file that
    outlives it, and releases what is written there when a volume or the VM
    goes. A path that is in use and is not in the record is never released.

    The record is written before a path is put to use and shortened after its
    paths were released, so that no failure and no crash between two calls does
    harm. Yet an entry is kept by the name of its volume, while the path also
    depends on the pod. If a volume has an entry for one pod, mounting it for
    another puts a path to use that is not recorded (`unrecorded_target`). The
    record covers all paths in runs where this does not happen and where the
    node answers truly (`record_covers_targets`).
-/

namespace Virtink

open Calls

/-! ### Sequences of Calls -/

namespace VMDaemon

/-- One call of the mounting functions. -/
def mountJob : Job → NodeCall Unit
  | .mount vm vmPodUID volumePodUID => do
      let _ ← (mountHotplugVolumes vm vmPodUID volumePodUID).interp handler
        { statusPodUID := vm.status.vmPodUID }
  | .umount vm => do
      let _ ← umountHotplugVolumes vm.status.vmPodUID (vm.status.volumeStatus.map (·.name))
  | .umountAll vm => do
      let _ ← umountAllHotplugVolumes vm.status.vmPodUID

end VMDaemon

/-- Daemons that are given one job after the other, in any order. -/
def mountJobs : Machine nodeApi Site Proc NodeChoice NodeEvent Unit :=
  nodeMachine fun i =>
    match i with
    | .daemon _ => (run .nextJob).bind VMDaemon.mountJob
    | _ => .pure ()

/-- Nothing is mounted yet. -/
structure Unmounted (s : Site) : Prop where
  known   : ∀ i, s.known i = {}
  record  : ∀ n, (s.nodes n).record = .absent
  devices : ∀ n, (s.nodes n).devices = []
  mounts  : ∀ n, (s.nodes n).mounts = []

theorem Unmounted.unknown {s : Site} (h : Unmounted s) : Unknown s :=
  ⟨h.known, fun n => by rw [h.mounts n]; exact List.nodup_nil⟩

/-- Every job keeps the discipline of mounting. -/
theorem VMDaemon.mountJob_obeys (job : Job) :
    (mounting {}).Obeys (mountJob job) (fun _ _ => True) {} := by
  -- under the terms of `{}` a program may ask for any mount
  have hplan : ∀ o v, (plan {}).guard o v := by
    intro o v
    unfold plan
    dsimp only
    split <;> first | trivial | exact fun _ _ => trivial
  cases job with
  | mount vm vmPodUID volumePodUID =>
    have hplanned := Protocol.Obeys.of_guard hplan
      (p := mountHotplugVolumes vm vmPodUID volumePodUID) {}
    have hagrees : Agrees { statusPodUID := vm.status.vmPodUID } {} {} :=
      ⟨rfl, rfl, fun r hr => by cases hr⟩
    exact Protocol.Obeys.bind ((obeys_interp hplanned hagrees).mono fun _ _ _ => trivial)
  | umount vm =>
    exact Protocol.Obeys.bind ((mounting_of_inside
      (umountHotplugVolumes_obeys fun _ _ => trivial)).mono fun _ _ _ => trivial)
  | umountAll vm =>
    exact Protocol.Obeys.bind
      ((mounting_of_inside umountAllHotplugVolumes_obeys).mono fun _ _ _ => trivial)

theorem mountJobs_kept : (Protocol.contract mountJobs.main (mounting {})).Kept :=
  Protocol.kept rfl fun _ => ⟨trivial, fun job => VMDaemon.mountJob_obeys job⟩

/-! ### What Is in Use Is Recorded -/

/-- Every path that is a device node or is mounted on is the target of an entry. -/
def Node.Covered (s : Node) : Prop :=
  ∀ path, path ∈ s.devices ∨ path ∈ s.mounts → ∃ e ∈ s.record.entries, e.target = path

/-- A volume that is mounted has no entry with another target, nothing is
    mounted on a device node, a device node is seen to be one, and the write of
    a record is not cut off. -/
def RecordStays (s : Site) : Act nodeApi Proc NodeChoice NodeEvent → Prop
  | .call (.daemon n) (.mknod volume target _ _) _ =>
      ∀ e ∈ (s.nodes n).record.entries, e.volume = volume → e.target = target
  | .call (.daemon n) (.bindMount volume _ target) _ =>
      (∀ e ∈ (s.nodes n).record.entries, e.volume = volume → e.target = target) ∧
        target ∉ (s.nodes n).devices
  | .call (.daemon n) (.isBlockFile path) (.fail _ _) => path ∉ (s.nodes n).devices
  | .call _ (.writeRecord _) (.torn _) => False
  | _ => True

instance (s : Site) (a : Act nodeApi Proc NodeChoice NodeEvent) : Decidable (RecordStays s a) := by
  unfold RecordStays
  split <;> infer_instance

/-- The invariant of a node, with what the run on it knows. -/
structure CoverInv (v : NodeView) (s : Node) : Prop where
  covered  : s.Covered
  disjoint : ∀ path ∈ s.mounts, path ∉ s.devices
  plain    : ∀ path ∈ v.plain, path ∉ s.devices

section
variable {K : Terms} {v : NodeView} {s s' : Node} {ch : NodeChoice}

/-- Fewer paths in use. -/
theorem CoverInv.shrinks (h : CoverInv v s) (hs : s.Shrinks s')
    (hrecord : s'.record = s.record) : CoverInv v s' where
  covered path hpath := by
    rw [hrecord]
    exact h.covered path (hpath.imp (hs.devices path) (hs.mounts path))
  disjoint path hm hd := h.disjoint path (hs.mounts path hm) (hs.devices path hd)
  plain path hp hd := h.plain path hp (hs.devices path hd)

/-- It becomes known that a path is no device node. -/
theorem CoverInv.add_plain (h : CoverInv v s) {v' : NodeView} {path : String}
    (hv : v'.plain = path :: v.plain) (hpath : path ∉ s.devices) : CoverInv v' s where
  covered := h.covered
  disjoint := h.disjoint
  plain p hp := by
    rw [hv] at hp
    rcases List.mem_cons.mp hp with rfl | hp
    · exact hpath
    · exact h.plain p hp

/-- Another record that lists every path in use. -/
theorem CoverInv.on_record (h : CoverInv v s) {v' : NodeView} {file : RecordFile}
    (hv : v'.plain = v.plain)
    (hfile : ∀ e ∈ s.record.entries, e ∈ file.entries ∨
      e.target ∉ s.devices ∧ e.target ∉ s.mounts) :
    CoverInv v' { s with record := file } where
  covered path hpath := by
    obtain ⟨e, he, rfl⟩ := h.covered path hpath
    rcases hfile e he with he | ⟨hd, hm⟩
    · exact ⟨e, he, rfl⟩
    · exact (hpath.elim hd hm).elim
  disjoint := h.disjoint
  plain p hp := h.plain p (hv ▸ hp)

/-- What is known to be released is not in use. -/
theorem CoverInv.not_in_use (h : CoverInv v s) (hknows : Knows v s) {path : String}
    (hpath : v.released path) : path ∉ s.devices ∧ path ∉ s.mounts :=
  ⟨h.plain path hpath.2, hknows.unmounted path hpath.1⟩

/-- The volume has an entry, and by the condition its target is this one. -/
theorem target_recorded (hknows : Knows v s) {volume target : String} (hrecords : v.records volume)
    (hone : ∀ e ∈ s.record.entries, e.volume = volume → e.target = target) :
    ∃ e ∈ s.record.entries, e.target = target := by
  obtain ⟨r, hr, e, he, hname⟩ := hrecords
  rw [← hknows.record r hr] at he
  exact ⟨e, he, hone e he hname⟩

theorem CoverInv.mknod (h : CoverInv v s) {v' : NodeView} {target : String}
    (hv : v'.plain = v.plain.filter (· != target)) (htarget : s.present target = false)
    (hentry : ∃ e ∈ s.record.entries, e.target = target) :
    CoverInv v' { s with devices := target :: s.devices } where
  covered path hpath := by
    rcases hpath with hd | hm
    · rcases List.mem_cons.mp hd with rfl | hd
      · exact hentry
      · exact h.covered path (.inl hd)
    · exact h.covered path (.inr hm)
  disjoint path hm hd := by
    rcases List.mem_cons.mp hd with rfl | hd
    · exact (Node.present_eq_false.mp htarget).2.2 hm
    · exact h.disjoint path hm hd
  plain path hp hd := by
    rw [hv] at hp
    obtain ⟨hp, hne⟩ := mem_filter_ne hp
    rcases List.mem_cons.mp hd with rfl | hd
    · exact hne rfl
    · exact h.plain path hp hd

theorem CoverInv.bindMount (h : CoverInv v s) {v' : NodeView} {target : String}
    (hv : v'.plain = v.plain) (htarget : target ∉ s.devices)
    (hentry : ∃ e ∈ s.record.entries, e.target = target) :
    CoverInv v' { s with mounts := target :: s.mounts } where
  covered path hpath := by
    rcases hpath with hd | hm
    · exact h.covered path (.inl hd)
    · rcases List.mem_cons.mp hm with rfl | hm
      · exact hentry
      · exact h.covered path (.inr hm)
  disjoint path hm hd := by
    rcases List.mem_cons.mp hm with rfl | hm
    · exact htarget hd
    · exact h.disjoint path hm hd
  plain p hp := h.plain p (hv ▸ hp)

/-- A call that changes nothing and tells nothing about device nodes. -/
theorem CoverInv.same (h : CoverInv v s) {v' : NodeView} (hv : v'.plain = v.plain) :
    CoverInv v' s :=
  ⟨h.covered, h.disjoint, fun p hp => h.plain p (hv ▸ hp)⟩

/-- Nothing is in use that a dropped entry had as its target. -/
theorem CoverInv.dropped (h : CoverInv v s) (hknows : Knows v s) {r l : List MountEntry}
    (hr : v.record = some r) (hkept : ∀ e ∈ r, e ∈ l ∨ v.released e.target) :
    ∀ e ∈ s.record.entries, e ∈ l ∨ e.target ∉ s.devices ∧ e.target ∉ s.mounts := by
  intro e he
  rw [hknows.record r hr] at he
  exact (hkept e he).imp_right (h.not_in_use hknows)

/-- **Step lemma**: calls on the node that meet the condition. -/
theorem CoverInv.answer {site : Site} {n : String} {o : NodeOp} {a : o.Ans}
    (h : CoverInv v (site.nodes n)) (hknows : Knows v (site.nodes n))
    (hguard : (mounting K).guard o v) (hok : RecordStays site (.call (.daemon n) o ch))
    (heff : (site.nodes n).Effect o ch a s') :
    CoverInv (NodeView.told o a v) s' := by
  cases heff with
  | quiet ho => rw [ho.told]; exact h
  | nextJob j => exact h
  | loadRecord => exact h.same rfl
  | loadFails msg => exact h.same rfl
  | writeRecord l =>
    -- entries that are dropped have been released
    obtain ⟨r, hr, hkept, -⟩ := hguard
    exact h.on_record rfl (h.dropped hknows hr hkept)
  | writeFails l msg hfile =>
    obtain ⟨r, hr, hkept, -⟩ := hguard
    rcases hfile with rfl | rfl
    · exact h.same rfl
    · exact h.on_record rfl (h.dropped hknows hr hkept)
  | writeTears l msg => exact hok.elim
  | removeRecord =>
    obtain ⟨r, hr, hreleased⟩ := hguard
    exact h.on_record rfl (h.dropped hknows hr fun e he => .inr (hreleased e he))
  | removeFails msg hfile =>
    obtain ⟨r, hr, hreleased⟩ := hguard
    rcases hfile with rfl | rfl
    · exact h.same rfl
    · exact h.on_record rfl (h.dropped hknows hr fun e he => .inr (hreleased e he))
  | stat path =>
    cases hp : (site.nodes n).present path with
    | true => exact h
    | false => exact h.add_plain rfl (Node.present_eq_false.mp hp).1
  | statFails path msg => exact h
  | isMountPoint path =>
    cases (site.nodes n).mounts.contains path with
    | true => exact h
    | false => exact h.same rfl
  | isMountPointFails path msg => exact h
  | @isBlockFile _ path b hb =>
    cases b with
    | true => exact h
    | false =>
      -- a device node that looks like none would be mounted on, and this is excluded
      exact h.add_plain rfl fun hd => h.disjoint path (hb rfl hd) hd
  | isBlockFileFails path applied msg => exact h.add_plain rfl hok
  | mknod volume target major minor hd =>
    have hentry := target_recorded hknows hguard.2 hok
    have hfree := hknows.absent target hguard.1
    rcases hd with rfl | rfl
    · exact ⟨h.covered, h.disjoint, fun p hp => h.plain p (mem_filter_ne hp).1⟩
    · exact h.mknod rfl hfree hentry
  | create path _ => exact ⟨h.covered, h.disjoint, h.plain⟩
  | bindMount volume source target hm =>
    have hentry := target_recorded hknows hguard.2 hok.1
    rcases hm with rfl | rfl
    · exact h.same rfl
    · exact h.bindMount rfl hok.2 hentry
  | umount cause volume target => exact (h.shrinks (.umount _ target) rfl).same rfl
  | umountFails cause volume target msg hm =>
    rcases hm with rfl | rfl
    · exact h
    · exact h.shrinks (.umount _ target) rfl
  | removeAll cause volume target _ =>
    exact (h.shrinks (.drop _ target) rfl).add_plain rfl fun hd => (mem_filter_ne hd).2 rfl
  | removeAllFails cause volume target msg hx =>
    rcases hx with rfl | rfl
    · exact h
    · exact h.shrinks (.drop _ target) rfl

end

/-! ### Runs -/

/-- Other calls leave paths and the record alone. -/
theorem CoverInv.base {v : NodeView} {x : Node} (h : CoverInv v x) (o : Op) (a : o.Ans)
    (c : Choice) : CoverInv (NodeView.toldBase o a v) (x.afterBase o c) := by
  obtain ⟨guests, heq⟩ := x.afterBase_eq o c
  rw [heq]
  refine ⟨h.covered, h.disjoint, fun path hp => h.plain path ?_⟩
  rwa [NodeView.toldBase_plain] at hp

theorem CoverInv.disturbed {v : NodeView} {x x' : Node} (h : CoverInv v x)
    (hx : x.Disturbed x') : CoverInv v x' := by
  cases hx with
  | same => exact h
  | vanish path => exact h.shrinks (.vanish x path) rfl
  | receive pod disks _ => exact ⟨h.covered, h.disjoint, h.plain⟩
  | exit pod => exact ⟨h.covered, h.disjoint, h.plain⟩

/-- Programs that obey the protocol keep the record complete, as long as their
    steps meet the condition. -/
theorem cover_invariant {K : Terms} :
    NodeInvariant (mounting K) RecordStays fun v x => Informed v x ∧ CoverInv v x where
  forget h := ⟨h.1.forget, h.2.covered, h.2.disjoint, fun _ hp => (List.not_mem_nil hp).elim⟩
  disturbed h hx := ⟨h.1.disturbed hx, h.2.disturbed hx⟩
  base h hok hguard hadmits hans := ⟨informed_invariant.base h.1 hok hguard hadmits hans,
    h.2.base _ _ _⟩
  node h hok hguard hans := ⟨informed_invariant.node h.1 hok hguard hans,
    h.2.answer h.1.knows hguard hok (Node.effect_of_answer hans)⟩

theorem Unmounted.coverInv {s : Site} (h : Unmounted s) (n : String) : CoverInv {} (s.nodes n) := by
  refine ⟨fun path hpath => ?_, fun path hm => ?_, fun path hp => (List.not_mem_nil hp).elim⟩
  · rw [h.devices, h.mounts] at hpath
    rcases hpath with hd | hm
    · cases hd
    · cases hm
  · rw [h.mounts] at hm
    cases hm

/-- **The record covers every target**: whatever is mounted for whichever pod,
    unmounted, fails or is cut short, every path in use is recorded, if each
    step meets the condition. -/
theorem record_covers_targets {c : Conf nodeApi Site Proc Unit}
    (h : Reach mountJobs RecordStays Unmounted c) (node : String) :
    (c.store.nodes node).Covered := by
  have hinit : ∀ s, Unmounted s → ∀ n, Informed {} (s.nodes n) ∧ CoverInv {} (s.nodes n) :=
    fun s hs n => ⟨⟨.fresh _, hs.unknown.nodup n⟩, hs.coverInv n⟩
  have hinv := cover_invariant.holds mountJobs_kept (fun s hs => hs.known) hinit h node
  exact hinv.2.covered

namespace Sample

/-- No VM is needed where the jobs bring their own. -/
def emptySite : Site := { world := World.created vm }

theorem emptySite_unmounted : Unmounted emptySite :=
  ⟨fun _ => rfl, fun _ => rfl, fun _ => rfl, fun _ => rfl⟩

/-- The daemon of node `a` does a job. -/
def works (job : Job) (answers : List NodeChoice) : List (Move Proc NodeChoice NodeEvent) :=
  .start (.daemon "a") :: (.job job :: answers).map (.call (.daemon "a")) ++
    [.finish (.daemon "a")]

/-- A disk waits in the volume pod `v` to be mounted for a pod. -/
def mountsDisk (vmPodUID : UID) : Job :=
  .mount (withDiskStatus [⟨"d", .attachedToNode, "v"⟩]) vmPodUID "v"

/-- A volume with a file system is mounted for the first time. -/
def mountedFirst : List NodeChoice :=
  [.ok, .base (.flag false), .ok, .text "/src", .ok, .ok, .ok, .ok]

/-- It is mounted when the record has an entry of its name. -/
def mountedAgain : List NodeChoice :=
  [.ok, .base (.flag false), .ok, .text "/src", .ok, .ok, .ok]

/-- A site that the jobs lead to. -/
theorem reachJobs (ok : Site → Act nodeApi Proc NodeChoice NodeEvent → Prop)
    [∀ s a, Decidable (ok s a)] (moves : List (Move Proc NodeChoice NodeEvent))
    (test : Conf nodeApi Site Proc Unit → Bool)
    (h : (execAll mountJobs ok (.idle emptySite) moves).any test = true) :
    ∃ c, Reach mountJobs ok Unmounted c ∧ test c = true :=
  reach_of_execAll emptySite_unmounted moves test h

end Sample

/-- A disk is mounted and recorded. -/
theorem record_covers_targets_sample :
    ∃ c, Reach mountJobs RecordStays Unmounted c ∧
      (c.store.nodes "a").mounts = [mountFileSystemVolumeTarget "t" "d"] ∧
      (c.store.nodes "a").Covered := by
  obtain ⟨c, hreach, htest⟩ := Sample.reachJobs RecordStays
    (Sample.works (Sample.mountsDisk "t") Sample.mountedFirst)
    (fun c => (c.store.nodes "a").mounts == [mountFileSystemVolumeTarget "t" "d"])
    (by decide +kernel)
  exact ⟨c, hreach, by simpa using htest, record_covers_targets hreach "a"⟩

/-- A disk is mounted for one pod and, after that migration has failed, for the
    pod of the next one: the entry of the first stays, and the second target is
    not recorded. -/
theorem unrecorded_target :
    ∃ c, Reachable mountJobs Unmounted c ∧
      mountFileSystemVolumeTarget "u" "d" ∈ (c.store.nodes "a").mounts ∧
      (c.store.nodes "a").record =
        .stored [{ volume := "d", target := mountFileSystemVolumeTarget "t" "d" }] ∧
      ¬ (c.store.nodes "a").Covered := by
  obtain ⟨c, hreach, htest⟩ := Sample.reachJobs anyStep
    (Sample.works (Sample.mountsDisk "t") Sample.mountedFirst ++
      Sample.works (Sample.mountsDisk "u") Sample.mountedAgain)
    (fun c => (c.store.nodes "a").mounts.contains (mountFileSystemVolumeTarget "u" "d") &&
      (c.store.nodes "a").record ==
        .stored [{ volume := "d", target := mountFileSystemVolumeTarget "t" "d" }])
    (by decide +kernel)
  obtain ⟨hmount, hrecord⟩ : _ ∧ _ := by simpa using htest
  refine ⟨c, hreach, hmount, hrecord, fun hcovered => ?_⟩
  obtain ⟨e, he, htarget⟩ := hcovered _ (.inr hmount)
  rw [hrecord] at he
  obtain rfl := List.mem_singleton.mp he
  exact absurd htarget (by decide)

end Virtink
