import Virtink.Attachment

/-! # Volumes Are Unmounted After Their Disks Are Detached

    When a volume is taken out of the spec, the daemon detaches its disk and
    then unmounts it. Which disks are to be detached is read off the spec, which
    volumes are to be unmounted off the volume status. If a volume is plugged in
    again after its old status has gone and before it has a new one, its disk
    stays attached while the volume is unmounted under it
    (`unmounted_while_attached`).

    `unmounted_after_detach` is about runs in which a daemon does not read the
    VM at such a moment.
-/

namespace Virtink

open Calls

/-! ### Statement -/

/-- When a daemon reads the VM, every volume of the spec that is recorded on its
    node has a status. -/
def StatusFollows (s : Site) : Act nodeApi Proc NodeChoice NodeEvent → Prop
  | .call (.daemon n) (.base .getVM) _ => ∀ vm, s.world.vm = some vm →
      ∀ e ∈ (s.nodes n).record.entries, e.volume ∈ vm.specNames → e.volume ∈ vm.statusNames
  | _ => True

instance (s : Site) (a : Act nodeApi Proc NodeChoice NodeEvent) : Decidable (StatusFollows s a) := by
  rcases a with i | ⟨i, o, c⟩ | i | i | e
  · exact instDecidableTrue
  · rcases i with ⟨⟩ | u | n
    · exact instDecidableTrue
    · exact instDecidableTrue
    · rcases o with ⟨⟨⟩⟩ <;>
        first | exact instDecidableTrue | exact inferInstanceAs (Decidable (∀ vm, _ → _))
  · exact instDecidableTrue
  · exact instDecidableTrue
  · exact instDecidableTrue

/-- The volume that a call of `umountHotplugVolumes` releases. -/
def NodeOp.unplugs : NodeOp → Option String
  | .umount .unplugged volume _ => some volume
  | .removeAll .unplugged volume _ => some volume
  | _ => none

/-! ### Invariant -/

/-- Recorded volumes of the spec of the VM that is known have a status. -/
def StatusKnown (v : NodeView) (x : Node) : Prop :=
  ∀ vm, v.vm = some vm → ∀ e ∈ x.record.entries, e.volume ∈ vm.specNames → e.volume ∈ vm.statusNames

/-- Only volumes with a status are recorded. -/
theorem StatusKnown.answer {v : NodeView} {x x' : Node} (h : StatusKnown v x) (hknows : Knows v x)
    {o : NodeOp} {ch : NodeChoice} {a : o.Ans} (hguard : (mounting daemonTerms).guard o v)
    (hans : Node.answer o ch x = some (a, x')) : StatusKnown (NodeView.told o a v) x' := by
  have ho : ∀ b, o ≠ .base b := by
    rintro b rfl
    cases hans
  intro vm hvm e he hspec
  rw [NodeView.told_vm ho] at hvm
  rcases (Node.effect_of_answer hans).record with hsame | habsent | ⟨l, rfl, htorn | hl⟩
  · rw [hsame] at he
    exact h vm hvm e he hspec
  · rw [habsent] at he
    cases he
  · rw [htorn] at he
    cases he
  · obtain ⟨r, hr, -, hnew⟩ := hguard
    rw [hl] at he
    rcases hnew e he with hold | ⟨w, hw, hstatus⟩
    · rw [← hknows.record r hr] at hold
      exact h vm hvm e hold hspec
    · obtain rfl : w = vm := Option.some.inj (hw.symm.trans hvm)
      exact hstatus

theorem statusKnown_invariant :
    NodeInvariant (mounting daemonTerms) StatusFollows
      fun v x => Informed v x ∧ StatusKnown v x where
  forget h := ⟨h.1.forget, fun vm hvm => by cases hvm⟩
  disturbed h hx := by
    refine ⟨h.1.disturbed hx, fun vm hvm e he => ?_⟩
    rw [hx.record] at he
    exact h.2 vm hvm e he
  base {s n o c a w} h hok hguard hadmits hans := by
    refine ⟨informed_invariant.base h.1 hok hguard hadmits hans, fun vm hvm e he => ?_⟩
    obtain ⟨guests, heq⟩ := (s.nodes n).afterBase_eq o c
    rw [heq] at he
    rcases NodeView.toldBase_vm_cases hans hvm with hknown | ⟨rfl, hstored⟩
    · exact h.2 vm hknown e he
    · exact hok vm hstored e he
  node h hok hguard hans :=
    ⟨informed_invariant.node h.1 hok hguard hans, h.2.answer h.1.knows hguard hans⟩

/-- A volume that is unplugged has no disk attached. -/
theorem StatusKnown.detached {v : NodeView} {x : Node} (h : StatusKnown v x) (hknows : Knows v x)
    {o : NodeOp} {volume : String} (ho : o.unplugs = some volume)
    (hguard : (mounting daemonTerms).guard o v) :
    ∃ vm, v.vm = some vm ∧ volume ∉ (x.guests vm.status.vmPodUID).disks := by
  have hunplug : v.records volume ∧ daemonTerms.unplug v.vm v.disks volume := by
    cases o with
    | umount cause volume' target =>
      cases cause with
      | unplugged => cases ho; exact hguard
      | all => cases ho
    | removeAll cause volume' target =>
      cases cause with
      | unplugged => cases ho; exact hguard
      | all => cases ho
    | _ => cases ho
  obtain ⟨⟨r, hr, e, he, rfl⟩, w, l, hw, hdisks, hstatus, hspec⟩ := hunplug
  refine ⟨w, hw, fun hattached => hstatus ?_⟩
  -- an attached disk is in the spec, so that the entry has a status
  have hlisted := (hknows.disks _ l hdisks).2 _ hattached
  rw [← hknows.record r hr] at he
  exact h w hw e he (hspec _ hlisted)

section
variable {nodeIP : String → String} {c c' : Conf nodeApi Site Proc (Outcome × VMDaemon.Local)}

/-- **Detach before unmount**: in every run whose steps meet the condition,
    whenever a daemon unmounts a volume that was unplugged, no disk of this id
    is attached to the hypervisor of the VM. -/
theorem unmounted_after_detach {n : String} {o : NodeOp} {ch : NodeChoice} {volume : String}
    (h : Reach (nodeSystem nodeIP) StatusFollows Unknown c)
    (hstep : Step (nodeSystem nodeIP) c (.call (.daemon n) o ch) c')
    (ho : o.unplugs = some volume) :
    ∃ vm, (c.store.known (.daemon n)).vm = some vm ∧
      volume ∉ ((c.store.nodes n).guests vm.status.vmPodUID).disks := by
  have hkept := nodeSystem_kept nodeIP
  have hknown : ∀ s, Unknown s → ∀ i, s.known i = {} := fun s hs => hs.known
  have hinit : ∀ s, Unknown s → ∀ n, Informed {} (s.nodes n) ∧ StatusKnown {} (s.nodes n) :=
    fun s hs n => ⟨⟨.fresh _, hs.nodup n⟩, fun vm hvm => by cases hvm⟩
  have hinv := statusKnown_invariant.holds hkept hknown hinit h n
  have hmove := hkept.gstep hknown h hstep
  cases hmove with
  | call hguard _ => exact hinv.2.detached hinv.1.knows ho (hguard n rfl)

end

/-! ### Sample Runs -/

/-- Where the step is an update of the spec, the webhook accepts it. -/
def acceptedOnSite (lib : Library) (s : Site) : Act nodeApi Proc NodeChoice NodeEvent → Bool
  | .event (.base e) => acceptedUpdate lib s.world (.event e)
  | _ => true

namespace Sample

/-- Disk `a` is mounted and attached. -/
def attached : NodeScript :=
  diskWaits ++ mountsPlugged ++
  [NodeChoice.base .ok, .ok, .ok, .base .ok].map (.call (.daemon "a")) ++ [.finish (.daemon "a")]

/-- It is taken out; its volume pod is deleted and goes, and so does its status. -/
def takenOut : Script :=
  plugs [] ++ turn .controller [.ok, .ok, .ok, .ok, .ok, .ok, .ok, .ok] ++
  [.event (.removePod "vm-hotplug-volumes-v")] ++
  turn .controller [.ok, .ok, .ok, .ok, .ok, .ok, .ok]

/-- A run of the daemon begins and finds the disk attached. -/
def findsDisk : NodeScript :=
  .start (.daemon "a") :: [NodeChoice.base .ok, .base .ok,
    .base (.info { state := .running, disks := ["a", "root"] }), .ok].map (.call (.daemon "a"))

/-- The record is read, and its target is found mounted. -/
def findsMount : NodeScript :=
  [NodeChoice.ok, .ok, .ok, .ok].map (.call (.daemon "a"))

/-- A test on steps that unplug disk `a` on node `a`. -/
def unplugsDisk (c : Conf nodeApi Site Proc (Outcome × VMDaemon.Local))
    (test : List String → Bool) : Act nodeApi Proc NodeChoice NodeEvent → Bool
  | .call (.daemon n) o _ =>
      n == "a" && o.unplugs == some "a" && (c.store.known (.daemon n)).vm.any fun vm =>
        test ((c.store.nodes n).guests vm.status.vmPodUID).disks
  | _ => false

theorem eq_of_unplugsDisk {c : Conf nodeApi Site Proc (Outcome × VMDaemon.Local)}
    {test : List String → Bool} {act : Act nodeApi Proc NodeChoice NodeEvent}
    (h : unplugsDisk c test act = true) :
    ∃ o ch vm, act = .call (.daemon "a") o ch ∧ o.unplugs = some "a" ∧
      (c.store.known (.daemon "a")).vm = some vm ∧
      test ((c.store.nodes "a").guests vm.status.vmPodUID).disks = true := by
  unfold unplugsDisk at h
  split at h
  · next n o ch =>
    simp only [Bool.and_eq_true, beq_iff_eq, Option.any_eq_true] at h
    obtain ⟨⟨rfl, ho⟩, vm, hvm, htest⟩ := h
    exact ⟨o, ch, vm, rfl, ho, hvm, htest⟩
  · cases h

end Sample

/-- The disk is detached, and the volume is unmounted. -/
theorem unmounted_after_detach_sample :
    ∃ c c' o ch, Reach Sample.nodeCluster StatusFollows Unknown c ∧
      Step Sample.nodeCluster c (.call (.daemon "a") o ch) c' ∧ o.unplugs = some "a" ∧
      ∃ vm, (c.store.known (.daemon "a")).vm = some vm ∧
        "a" ∉ ((c.store.nodes "a").guests vm.status.vmPodUID).disks := by
  obtain ⟨c, act, c', hreach, hstep, htest⟩ := Sample.nodeStep StatusFollows
    Sample.bootingSite_unknown
    (Sample.attached ++ Sample.takenOut.map onSite ++ Sample.findsDisk ++
      [.call (.daemon "a") (.base .ok)] ++ Sample.findsMount)
    (.call (.daemon "a") .ok) (fun c act _ => Sample.unplugsDisk c (fun l => l == ["root"]) act)
    (by decide +kernel)
  obtain ⟨o, ch, vm, rfl, ho, -, -⟩ := Sample.eq_of_unplugsDisk htest
  exact ⟨c, c', o, ch, hreach, hstep, ho, unmounted_after_detach hreach hstep ho⟩

/-- The volume is plugged in again, by an update that is accepted, before the
    controller gives it a new status: the daemon leaves the disk attached and
    unmounts the volume. -/
theorem unmounted_while_attached :
    ∃ c c' o ch vm, Reach Sample.nodeCluster (fun s a => acceptedOnSite Sample.library s a = true)
        Unknown c ∧
      Step Sample.nodeCluster c (.call (.daemon "a") o ch) c' ∧ o.unplugs = some "a" ∧
      (c.store.known (.daemon "a")).vm = some vm ∧
      "a" ∈ ((c.store.nodes "a").guests vm.status.vmPodUID).disks := by
  obtain ⟨c, act, c', hreach, hstep, htest⟩ := Sample.nodeStep
    (fun s a => acceptedOnSite Sample.library s a = true) Sample.bootingSite_unknown
    (Sample.attached ++ (Sample.takenOut ++ Sample.plugs [Sample.disk "a"]).map onSite ++
      Sample.findsDisk ++ Sample.findsMount)
    (.call (.daemon "a") .ok) (fun c act _ => Sample.unplugsDisk c (fun l => l.contains "a") act)
    (by decide +kernel)
  obtain ⟨o, ch, vm, rfl, ho, hvm, hdisk⟩ := Sample.eq_of_unplugsDisk htest
  exact ⟨c, c', o, ch, vm, hreach, hstep, ho, hvm, by simpa using hdisk⟩

end Virtink
