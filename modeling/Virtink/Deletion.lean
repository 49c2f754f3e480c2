import Virtink.Incarnations
import Virtink.VolumeClaims

/-! # Pods of a VM that Is Being Deleted

    While pods of a deleted VM are left, `reconcile` goes on to the `switch`
    over the phase as if nothing had happened, and in some of its branches a
    pod is created, at once or by a later reconcile. `VMStatus.parting` says
    from where no pod is to come, and every step of the system keeps it.
-/

namespace Virtink

open Calls

/-! ### The Condition -/

/-- A VM with this status that is being deleted gets no pod any more. A VM pod
    is only created anew while another one is left (`gone` says that none is),
    volume pods only if there are volumes to plug in (`hotplug`), and a target
    pod until the target of the migration is scheduled. -/
def VMStatus.parting (hotplug gone : Bool) (st : VMStatus) : Bool :=
  match st.phase with
  | .pending | .scheduling => gone
  | .scheduled => !hotplug
  | .running =>
      match st.migration with
      | none => !hotplug
      | some m => m.phase != .empty && m.phase != .pending && m.phase != .scheduling
  | .empty | .succeeded | .failed | .unknown => true

/-- The VM has no pods. -/
def World.podless (w : World) (vm : VM) : Bool := w.pods.all fun p => !p.isControlledBy vm

/-- The VM, which is being deleted, gets no pod any more. -/
def World.parting (w : World) (vm : VM) : Bool :=
  vm.status.parting vm.hasHotplug (w.podless vm)

/-- Nobody gives a VM without hotpluggable volumes such a volume. -/
def nothingPlugged (w : World) (a : Action) : Bool :=
  match a with
  | .event (.updateSpec spec) =>
      w.vm.all fun vm => vm.hasHotplug || !spec.volumes.any (·.isHotpluggable)
  | _ => true

/-- The condition as one on steps. -/
def NothingPlugged (w : World) (a : Action) : Prop := nothingPlugged w a = true

instance (w : World) (a : Action) : Decidable (NothingPlugged w a) :=
  inferInstanceAs (Decidable (_ = true))

section condition
variable {hotplug gone : Bool} {st st' : VMStatus}

theorem VMStatus.parting_congr (hphase : st'.phase = st.phase)
    (hm : st'.migration = st.migration) :
    st'.parting hotplug gone = st.parting hotplug gone := by
  unfold VMStatus.parting
  rw [hphase, hm]

theorem VMStatus.parting_mono {hotplug' gone' : Bool} (hhot : hotplug' = true → hotplug = true)
    (hgone : gone = true → gone' = true) (h : st.parting hotplug gone = true) :
    st.parting hotplug' gone' = true := by
  unfold VMStatus.parting at h ⊢
  cases hphase : st.phase with
  | pending | scheduling =>
    rw [hphase] at h
    exact hgone h
  | scheduled =>
    rw [hphase] at h
    cases hotplug' <;> simp_all
  | running =>
    rw [hphase] at h
    cases hm : st.migration with
    | none => cases hotplug' <;> simp_all
    | some m => rw [hm] at h; exact h
  | _ => rfl

theorem World.podless_eq_true {w : World} {vm : VM} :
    w.podless vm = true ↔ ∀ p ∈ w.pods, p.isControlledBy vm = false := by
  simp [World.podless]

/-- Before it is bound to a node, a VM that parts has no pods. -/
theorem World.podless_of_scheduling {w : World} {vm : VM} (h : w.parting vm = true)
    (hphase : vm.status.phase = .scheduling) : ∀ p ∈ w.pods, p.isControlledBy vm = false := by
  unfold World.parting VMStatus.parting at h
  rw [hphase] at h
  exact World.podless_eq_true.mp h

end condition

/-! ### What Is Written -/

theorem Acts.not_deleted {n : String} {r : VM} (h : Acts n r) : r.deletionTimestamp = none := by
  cases h with
  | scheduled hdel _ _ | running hdel _ _ _ | target _ hdel _ _ _ _ | source _ hdel _ _ _ _ =>
    exact hdel

/-- The controller, which has seen no VM pods of a VM in `Scheduling`, keeps the
    condition. -/
theorem CtrlWrite.parting {v : View} {r : VM} {st : VMStatus} {hotplug gone : Bool}
    (h : CtrlWrite v r st) (hr : r.status.parting hotplug gone = true)
    (hlisted : v.pods = some [] → gone = true)
    (hseen : r.status.phase = .scheduling → ∀ p, v.pod = some p → p.isControlledBy r = false) :
    st.parting hotplug gone = true := by
  cases h with
  | same h =>
    rw [VMStatus.parting_congr (VMStatus.phase_of_core h) (VMStatus.migration_of_core h)]
    exact hr
  | name _ hphase _ h =>
    unfold VMStatus.parting at hr ⊢
    rw [hphase] at hr
    rw [VMStatus.phase_of_core h]
    exact hr
  | pod p ph hphase hp _ hown hph h =>
    rcases hphase with hphase | hphase
    · rw [hseen hphase p hp] at hown; cases hown
    · cases hph with
      | same =>
        rw [VMStatus.parting_congr (VMStatus.phase_of_core h) (VMStatus.migration_of_core h)]
        exact hr
      | scheduled hold _ => rw [hphase] at hold; cases hold
      | succeeded | failed | unknown =>
        unfold VMStatus.parting
        rw [VMStatus.phase_of_core h]
  | lost _ h =>
    unfold VMStatus.parting
    rw [VMStatus.phase_of_core h]
  | stop ph _ hph h =>
    unfold VMStatus.parting
    rw [VMStatus.phase_of_core h]
    rcases hph with rfl | rfl | ⟨rfl, -⟩ <;> rfl
  | target m _ hphase hm hmp _ _ =>
    unfold VMStatus.parting at hr
    rcases hmp with hmp | hmp <;> simp [hphase, hm, hmp] at hr
  | targetPod m _ _ _ hphase hm hmp _ _ _ _ _ =>
    unfold VMStatus.parting at hr
    simp [hphase, hm, hmp] at hr
  | reset ph hphase hnone hph h =>
    subst h
    rcases hph with rfl | ⟨rfl, -⟩
    · unfold VMStatus.parting
      rcases hphase with h | h | h <;> simp only [h]
    · exact hlisted hnone

/-- Of a VM that is being deleted the others only write the end. -/
theorem Write.parting {i : Proc} {v : View} {r : VM} {st : VMStatus} {hotplug gone : Bool}
    (h : Write i v r st) (hi : i ≠ .controller) (hdel : r.deletionTimestamp ≠ none)
    (hr : r.status.parting hotplug gone = true) : st.parting hotplug gone = true := by
  cases i with
  | controller => exact absurd rfl hi
  | vmm u =>
    cases h with
    | release _ _ _ _ _ hnot _ _ _ | acquire _ _ _ _ hnot _ _ => exact absurd hnot hdel
  | daemon n =>
    cases h.1 with
    | same h => subst h; exact hr
    | bury _ h => subst h; rfl
    | volumes h _ | boot _ h _ _ _ | power h _ _ _ | stop h _ _ _ | target _ _ _ _ h _ _ _ _ _
    | send _ _ _ h _ _ _ _ _ _ _ _ | sent _ h _ _ _ _ _ | lost _ h _ _ _ _ _
    | arrive _ h _ _ _ _ => exact absurd h.not_deleted hdel

/-! ### Whole Runs -/

/-- The stored VM is being deleted and gets no pod any more, and the controller
    knows nothing else. -/
structure Parted (w : World) (vm : VM) : Prop where
  deleted : vm.deletionTimestamp ≠ none
  vm : w.parting vm = true
  read : ∀ r, (w.views .controller).vm = some r →
    r.deletionTimestamp ≠ none ∧ w.parting r = true
  listed : ∀ r l, (w.views .controller).vm = some r → r.status.phase = .scheduling →
    (w.views .controller).pods = some l → l = []
  seen : ∀ r p, (w.views .controller).vm = some r → r.status.phase = .scheduling →
    (w.views .controller).pod = some p → p.isControlledBy r = false

section run
variable {w w' : World} {a : Action} {vm vm' : VM}

/-- The controller does not ask for a pod. -/
theorem Parted.not_create (hinv : Parted w vm) {r : VM} (hr : (w.views .controller).vm = some r)
    {t : PodTemplate} : ¬ CtrlCreate (w.views .controller) r t := by
  intro hcreate
  obtain ⟨hdel, hparting⟩ := hinv.read r hr
  cases hcreate with
  | vmPod hphase hpods _ _ _ =>
    obtain ⟨l, hl⟩ := Option.ne_none_iff_exists'.mp (hpods.2 hdel)
    have hnil := hinv.listed r l hr hphase hl
    exact hpods.1 (by rw [hl, hnil])
  | target m hphase _ hm hmp _ _ =>
    simp [World.parting, VMStatus.parting, hphase, hm, hmp] at hparting
  | volumePod p hp hvm hset _ _ =>
    unfold VM.settled at hset
    unfold World.parting VMStatus.parting at hparting
    cases hphase : r.status.phase with
    | scheduling => rw [hinv.seen r p hr hphase hp] at hvm; cases hvm
    | scheduled => simp_all
    | running => cases hm : r.status.migration <;> simp_all
    | _ => simp [hphase] at hset

/-- No pods come to the VM. -/
theorem Parted.podless_step (hinv : Parted w vm) (hvm : w.vm = some vm) (hmove : Moved w a w')
    {r : VM} (huid : r.uid = vm.uid) (h : w.podless r = true) : w'.podless r = true := by
  rw [World.podless_eq_true] at h ⊢
  intro p' hp'
  rcases hmove.podsChange.origin hp' with ⟨p, hp, hlater⟩ | ⟨hnew, -, -, -⟩
  · rw [Pod.isControlledBy_congr hlater.controller rfl]
    exact h p hp
  · cases hnew with
    | foreign hforeign =>
      rw [Pod.isControlledBy_congr rfl huid]
      exact hforeign vm hvm
    | created t r' hr' hcreate _ _ => exact absurd hcreate (hinv.not_create hr')

theorem Parted.vm_step (hinv : Parted w vm) (hvm : w.vm = some vm) (hlisted : IncarnationInv w)
    (hocc : Occ w) (hmove : Moved w a w') (hvm' : w'.vm = some vm') (huid : vm'.uid = vm.uid)
    (hhot : vm'.hasHotplug = true → vm.hasHotplug = true) : w'.parting vm' = true := by
  have hgone : w.podless vm = true → w'.podless vm' = true := by
    intro h
    refine hinv.podless_step hvm hmove huid ?_
    rw [World.podless_eq_true] at h ⊢
    exact fun p hp => (Pod.isControlledBy_congr rfl huid).trans (h p hp)
  refine VMStatus.parting_mono hhot hgone ?_
  cases (hmove.vmChange hocc).statusChange hvm' with
  | quiet cur action hcur hst =>
    rw [hvm] at hcur; cases hcur
    rw [hst]
    exact hinv.vm
  | written i x ch cur held _ hcur hread hwrite _ _ =>
    rw [hvm] at hcur; cases hcur
    by_cases hi : i = .controller
    · subst hi
      refine CtrlWrite.parting hwrite hinv.vm (fun hnone => ?_) fun hphase p hp => ?_
      · exact World.podless_eq_true.mpr (hlisted.listed hnone vm hvm)
      · exact hinv.seen vm p hread hphase hp
    · exact hwrite.parting hi hinv.deleted hinv.vm

/-- **Step lemma** for a VM that stays in the store. -/
theorem Parted.step (hinv : Parted w vm) (hvm : w.vm = some vm) (hlisted : IncarnationInv w)
    (hocc : Occ w) (hmove : Moved w a w') (hvm' : w'.vm = some vm')
    (hhot : vm'.hasHotplug = true → vm.hasHotplug = true) : Parted w' vm' := by
  have huid : vm'.uid = vm.uid := by
    obtain ⟨cur, hcur, huid⟩ := hmove.vmStep.uid hvm'
    cases hvm.symm.trans hcur
    exact huid.symm
  have hdel : vm'.deletionTimestamp ≠ none := fun h =>
    hinv.deleted (hmove.vmStep.not_deleting hvm hvm' h)
  have hparting := hinv.vm_step hvm hlisted hocc hmove hvm' huid hhot
  refine ⟨hdel, hparting, fun r hr => ?_, fun r l hr hphase hl => ?_, fun r p hr hphase hp => ?_⟩
  · rcases hmove.holdsCurrent .controller r hr with hold | hnow | ⟨-, hgone⟩
    · obtain ⟨hrdel, hrparting⟩ := hinv.read r hold
      refine ⟨hrdel, VMStatus.parting_mono id (fun h => ?_) hrparting⟩
      exact hinv.podless_step hvm hmove (hocc .controller r vm hold hvm).uid h
    · cases hvm'.symm.trans hnow
      exact ⟨hdel, hparting⟩
    · rw [hgone] at hvm'; cases hvm'
  · rcases hmove.ctrlSees.pods_cases hl with ⟨hold, hsame | hnil⟩ | ⟨r', hr', hperm, hw⟩
    · exact hinv.listed r l (hsame ▸ hr) hphase hold
    · exact hnil
    · -- the list that was just got has no pods of the VM, which has none
      subst hw
      rw [World.see_views_self] at hr
      cases hr'.symm.trans hr
      have hnone := World.podless_of_scheduling (hinv.read r hr').2 hphase
      refine List.eq_nil_iff_forall_not_mem.mpr fun p hp => ?_
      obtain ⟨hmem, huid⟩ := List.mem_filter.mp (hperm.mem_iff.mp hp)
      have hown := isControlledBy_of_vmUID (beq_iff_eq.mp huid)
      rw [hnone p hmem] at hown; cases hown
  · rcases hmove.ctrlSees.pod_cases hp with ⟨hsame, hold⟩ | ⟨hfind, hw⟩
    · exact hinv.seen r p (hsame ▸ hr) hphase hold
    · subst hw
      rw [World.see_views_self] at hr
      exact World.podless_of_scheduling (hinv.read r hr).2 hphase p (List.mem_of_find?_eq_some hfind)

end run

/-- **Run lemma** for a VM that stays in the store. -/
theorem parted_of_steps {nodeIP : String → String} {c c' : Config}
    (hreach : Reachable (system nodeIP) Init c) {vm vm' : VM} (hvm : c.store.vm = some vm)
    (hinv : Parted c.store vm) (hsteps : Steps (system nodeIP) NothingPlugged c c')
    (hvm' : c'.store.vm = some vm') : Parted c'.store vm' := by
  induction hsteps generalizing vm' with
  | refl => cases hvm.symm.trans hvm'; exact hinv
  | @tail c₁ c₂ a hsteps hok hstep ih =>
    have hreach₁ := hreach.steps hsteps
    have hmove := moved_of_step hreach₁ hstep
    have hreached := reached_of_reach hreach₁
    obtain ⟨vm₁, hvm₁, hspec⟩ :=
      spec_of_gstep ((kept nodeIP).gstep (fun _ => init_views) hreach₁ hstep) hvm'
    refine (ih hvm₁).step hvm₁ hreached.incarnationInv hreached.occ hmove hvm' fun hhot => ?_
    rcases hspec with hspec | rfl
    · unfold VM.hasHotplug at hhot ⊢
      rwa [hspec] at hhot
    · have hok : (vm₁.hasHotplug || !vm'.hasHotplug) = true := by
        have := hok
        simp only [NothingPlugged, nothingPlugged, hvm₁, Option.all_some] at this
        exact this
      simpa [hhot] using hok

/-- **A VM that parts gets no more pods**: once it is being deleted and in such a
    state, and the controller has not yet read it, no later reconcile asks for
    a VM pod, a target pod or a volume pod, however the cluster behaves, unless
    the VM is given its first hotpluggable volume on its way. -/
theorem deleted_vm_gets_no_pods {nodeIP : String → String} {c c' c'' : Config} {a : Action}
    (hreach : Reachable (system nodeIP) Init c) {vm vm' : VM} (hvm : c.store.vm = some vm)
    (hdel : vm.deletionTimestamp ≠ none) (hparting : c.store.parting vm = true)
    (hread : (c.store.views .controller).vm = none)
    (hsteps : Steps (system nodeIP) NothingPlugged c c') (hvm' : c'.store.vm = some vm')
    (hstep : Step (system nodeIP) c' a c'') : ∀ t ch, a ≠ .call .controller (.createPod t) ch := by
  rintro t ch rfl
  have hinv : Parted c.store vm := by
    refine ⟨hdel, hparting, fun r hr => ?_, fun r l hr => ?_, fun r p hr => ?_⟩ <;>
      rw [hread] at hr <;> cases hr
  obtain ⟨r, hr, hcreate⟩ := (moved_of_step (hreach.steps hsteps) hstep).guard
  exact (parted_of_steps hreach hvm hinv hsteps hvm').not_create hr hcreate

namespace Sample

/-- A step that the sample VM takes after a run in two parts. -/
theorem laterStep (moves moves' : Script) (move : Move Proc Choice Event)
    (test : Config → Config → Action → Config → Bool)
    (h : ((execAll cluster anyStep (.idle (World.created vm)) moves).any fun c =>
      (execAll cluster NothingPlugged c moves').any fun c' =>
        (exec cluster c' move).any fun x => test c c' x.1 x.2) = true) :
    ∃ c c' a c'', Reachable cluster Init c ∧ Steps cluster NothingPlugged c c' ∧
      Step cluster c' a c'' ∧ test c c' a c'' = true := by
  obtain ⟨c, hc, h⟩ := (Option.any_eq_true ..).mp h
  obtain ⟨c', hc', h⟩ := (Option.any_eq_true ..).mp h
  obtain ⟨⟨a, c''⟩, hexec, htest⟩ := (Option.any_eq_true ..).mp h
  exact ⟨c, c', a, c'', execAll_reach (.init init) hc, execAll_steps .refl hc', exec_step hexec,
    htest⟩

/-- A state in which a VM is deleted and still gets a pod: how it gets there,
    and what happens until the controller asks for the pod. -/
structure Exposure where
  phase : VMPhase
  migration : Option MigrationPhase := none
  hotplug : Bool := false
  before : Script
  after : Script

/-- The controller has begun a run. -/
def begins (l : List Choice) : Script := .start .controller :: l.map (.call .controller)

/-- Migration `u` takes the record. -/
def acquires : Script := [.event (.createVMM "u")] ++ turn (.vmm "u") [.ok, .ok, .ok, .ok]

/-- A name for the target pod is drawn. -/
def namesTarget : Script := turn .controller [.ok, .ok, .name "pod-b", .ok, .ok]

/-- States of a VM that does not part. -/
def exposures : List Exposure :=
  [ -- the VM pod goes at once, and the same run creates it again
    { phase := .scheduling
      before := turn .controller [.ok, .ok, .ok, .ok] ++ turn .controller [.ok, .ok, .ok, .ok] ++
        turn .controller [.ok, .name "pod-a", .ok, .ok] ++
        turn .controller [.ok, .ok, .template {}, .create "uid-a" "" [] none, .ok, .ok]
      after := begins [.ok, .ok, .gone, .ok, .template {}] },
    { phase := .scheduled
      hotplug := true
      before := scheduled ++ [.event (.updateSpec (withDisks ["a"]))]
      after := begins [.ok, .ok, .flag true, .ok, .flag false] },
    { phase := .running
      hotplug := true
      before := running ++ [.event (.updateSpec (withDisks ["a"]))]
      after := begins [.ok, .ok, .flag true, .ok, .flag false] },
    -- one reconcile names the target, the next one creates it
    { phase := .running
      migration := some .empty
      before := running ++ acquires
      after := namesTarget ++ begins [.ok, .ok, .ok, .template {}] },
    { phase := .running
      migration := some .scheduling
      before := running ++ acquires ++ namesTarget
      after := begins [.ok, .ok, .ok, .template {}] }]

/-- The VM is in the state. -/
def Exposure.at (e : Exposure) (vm : VM) : Bool :=
  vm.status.phase == e.phase && vm.status.migration.map (·.phase) == e.migration &&
    vm.hasHotplug == e.hotplug

/-- The controller asks for a pod. -/
def asksForPod : Action → Bool
  | .call .controller (.createPod _) _ => true
  | _ => false

theorem eq_of_asksForPod {a : Action} (h : asksForPod a = true) :
    ∃ t ch, a = .call .controller (.createPod t) ch := by
  unfold asksForPod at h
  split at h
  · exact ⟨_, _, rfl⟩
  · cases h

end Sample

/-- The sample VM is deleted while its guest runs, and the controller looks for
    its pod. -/
theorem deleted_vm_gets_no_pods_running :
    ∃ c c' a c'' vm, Reachable Sample.cluster Init c ∧ c.store.vm = some vm ∧
      vm.deletionTimestamp ≠ none ∧ c.store.parting vm = true ∧
      (c.store.views .controller).vm = none ∧ Steps Sample.cluster NothingPlugged c c' ∧
      c'.store.vm = some vm ∧ Step Sample.cluster c' a c'' ∧
      ∀ t ch, a ≠ .call .controller (.createPod t) ch := by
  obtain ⟨c, c', a, c'', hreach, hsteps, hstep, htest⟩ := Sample.laterStep
    (Sample.running ++ [.event .deleteVM]) (Sample.begins [.ok]) (.call .controller .ok)
    (fun c c' _ _ => c.store.vm.any fun vm => vm.deletionTimestamp.isSome &&
      c.store.parting vm && (c.store.views .controller).vm.isNone && c'.store.vm == some vm)
    (by decide +kernel)
  obtain ⟨vm, hvm, htest⟩ := (Option.any_eq_true ..).mp htest
  simp only [Bool.and_eq_true, Option.isNone_iff_eq_none, beq_iff_eq,
    Option.isSome_iff_ne_none] at htest
  obtain ⟨⟨⟨hdel, hparting⟩, hread⟩, hvm'⟩ := htest
  exact ⟨c, c', a, c'', vm, hreach, hvm, hdel, hparting, hread, hsteps, hvm', hstep,
    deleted_vm_gets_no_pods hreach hvm hdel hparting hread hsteps hvm' hstep⟩

/-- The sample VM is deleted in one of five states that are not parting, and then
    the controller, which knows, creates a pod for it. -/
theorem deleted_vm_gets_pod :
    Sample.exposures.map (fun e => (e.phase, e.migration, e.hotplug)) =
      [(.scheduling, none, false), (.scheduled, none, true), (.running, none, true),
        (.running, some .empty, false), (.running, some .scheduling, false)] ∧
    ∀ e ∈ Sample.exposures, ∃ c c' a c'', Reachable Sample.cluster Init c ∧
      (c.store.vm.any fun vm => vm.deletionTimestamp.isSome && e.at vm) = true ∧
      (c.store.views .controller).vm = none ∧ Steps Sample.cluster NothingPlugged c c' ∧
      (c'.store.views .controller).vm.any (·.deletionTimestamp.isSome) = true ∧
      c'.store.vm.isSome = true ∧ Step Sample.cluster c' a c'' ∧
      (∃ t ch, a = .call .controller (.createPod t) ch) ∧
      c''.store.pods.length = c'.store.pods.length + 1 := by
  refine ⟨rfl, fun e he => ?_⟩
  obtain ⟨c, c', a, c'', hreach, hsteps, hstep, htest⟩ := Sample.laterStep
    (e.before ++ [.event .deleteVM]) e.after (.call .controller (.create "uid-n" "n" [] none))
    (fun c c' a c'' => Sample.asksForPod a &&
      (c.store.vm.any fun vm => vm.deletionTimestamp.isSome && e.at vm) &&
      (c.store.views .controller).vm.isNone &&
      (c'.store.views .controller).vm.any (·.deletionTimestamp.isSome) &&
      c'.store.vm.isSome && c''.store.pods.length == c'.store.pods.length + 1)
    (by revert e; decide +kernel)
  simp only [Bool.and_eq_true, Option.isNone_iff_eq_none, beq_iff_eq] at htest
  obtain ⟨⟨⟨⟨⟨hasks, hvm⟩, hread⟩, hknows⟩, hvm'⟩, hlength⟩ := htest
  exact ⟨c, c', a, c'', hreach, hvm, hread, hsteps, hknows, hvm', hstep,
    Sample.eq_of_asksForPod hasks, hlength⟩

end Virtink
