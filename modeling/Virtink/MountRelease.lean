import Virtink.Incarnations
import Virtink.Node.Refinement
import Virtink.Unplugging

/-! # Mounts Are Released Before the VM Is Let Go

    The VM controller lets go of a VM when it resets its status for a new
    incarnation or takes its finalizer off. It waits for the pods of the VM to
    be gone, and does not ask whether the daemon has released the mounts. The
    daemon in turn cannot release them any more once the pod is gone, since it
    gives up when it does not find it. If a pod goes before its mounts are
    released, the VM is let go with its mount record in place
    (`record_left_behind`).

    `mounts_released_first` is about runs in which the mounts keep the pod: a
    pod of the VM goes only when the record of its node is empty, and a daemon
    writes its record only while a pod of the VM is bound to its node.
-/

namespace Virtink

open Calls

/-! ### Statement -/

/-- Nothing is recorded. -/
def RecordFile.isEmpty : RecordFile → Bool
  | .absent => true
  | .torn => false
  | .stored l => l.isEmpty

/-- A pod of the VM is bound to the node. -/
def Hosts (w : World) (vm : VM) (n : String) : Prop :=
  n ≠ "" ∧ ∃ p ∈ w.pods, p.isControlledBy vm = true ∧ p.nodeName = n

instance (w : World) (vm : VM) (n : String) : Decidable (Hosts w vm n) :=
  inferInstanceAs (Decidable (_ ∧ _))

/-- If a pod of the VM has this name, nothing is recorded on its node. -/
def Released (s : Site) (name : String) : Prop :=
  ∀ vm, s.world.vm = some vm → ∀ p ∈ s.world.pods, p.name = name → p.isControlledBy vm = true →
    (s.nodes p.nodeName).record.isEmpty = true

instance (s : Site) (name : String) : Decidable (Released s name) := by
  unfold Released
  infer_instance

/-- The mounts keep the pod: it goes when they are released, and they are made
    while it is there. -/
def MountsKeepPod (s : Site) : Act nodeApi Proc NodeChoice NodeEvent → Prop
  | .event (.base (.removePod name)) => Released s name
  | .call _ (.base (.deletePod name _)) (.base .gone) => Released s name
  | .call (.daemon n) (.writeRecord _) _ => ∀ vm, s.world.vm = some vm → Hosts s.world vm n
  | _ => True

instance (s : Site) (a : Act nodeApi Proc NodeChoice NodeEvent) :
    Decidable (MountsKeepPod s a) := by
  rcases a with i | ⟨i, o, c⟩ | i | i | e
  · exact instDecidableTrue
  · -- only the deletion of a pod and the writing of a record say anything
    rcases i with ⟨⟩ | u | n <;> rcases o with ⟨⟨⟩⟩ <;> first
      | exact instDecidableTrue
      | exact inferInstanceAs (Decidable (∀ vm, _ → Hosts s.world vm n))
      | rcases c with ⟨⟨⟩⟩ <;>
          first | exact instDecidableTrue | exact inferInstanceAs (Decidable (Released s _))
  · exact instDecidableTrue
  · exact instDecidableTrue
  · rcases e with e | ⟨⟩ | ⟨⟩ | ⟨⟩
    · rcases e with ⟨⟩ <;>
        first | exact instDecidableTrue | exact inferInstanceAs (Decidable (Released s _))
    · exact instDecidableTrue
    · exact instDecidableTrue
    · exact instDecidableTrue

/-- The finalizer of the controller is on the VM. -/
def World.protected (w : World) : Bool :=
  w.vm.any fun vm => vm.finalizers.contains VMController.VMProtectionFinalizer

/-- The controller lets go of the VM: it resets a status that had more in it
    than a phase, or it takes its finalizer off. -/
def letsGo (w w' : World) : Act nodeApi Proc NodeChoice NodeEvent → Bool
  | .call .controller (.base (.updateVMStatus _)) _ =>
      w.vm.any fun vm => w'.vm.any fun vm' =>
        vm'.status == { phase := vm'.status.phase } && vm.status.core != vm'.status
  | .call .controller (.base (.updateVM _)) _ => w.protected && !w'.protected
  | _ => false

/-- A VM nobody has touched, and no records. -/
structure NewSite (s : Site) : Prop where
  world  : Init s.world
  record : ∀ n, (s.nodes n).record = .absent

/-! ### Pods That Stay -/

/-- The pod that a step takes away. -/
def takesAway : Action → Option String
  | .event (.removePod name) => some name
  | .call _ (.deletePod name _) .gone => some name
  | _ => none

/-- A pod that is deleted is marked, unless it is gone at once. -/
theorem World.deletePod_marks {w w' : World} {name : String} {ch : Choice}
    {a : Except ApiError Unit} (h : w.deletePod name ch = (a, w')) (hch : ch ≠ .gone) :
    w' = w ∨ w' = w.mapPods (World.markedAt w.now name) := by
  unfold World.deletePod at h
  split at h
  · cases h; exact .inl rfl
  · split at h
    · cases h; exact .inl rfl
    · cases h; exact .inr rfl
    · exact absurd rfl hch
    · cases h; exact .inr rfl

/-- A pod is there after the move, or the move takes it away. -/
theorem Moved.pod_stays {w w' : World} {b : Action} (h : Moved w b w') {p : Pod} (hp : p ∈ w.pods) :
    (∃ p' ∈ w'.pods, p.Later p') ∨ takesAway b = some p.name := by
  have hchanged : ∀ {f : Pod → Pod}, (∀ q : Pod, q.Later (f q)) → w'.pods = w.pods.map f →
      ∃ p' ∈ w'.pods, p.Later p' := by
    intro f hf hpods
    exact ⟨f p, by rw [hpods]; exact List.mem_map_of_mem hp, hf p⟩
  have hsame : w'.pods = w.pods → ∃ p' ∈ w'.pods, p.Later p' := by
    intro hpods
    exact ⟨p, by rw [hpods]; exact hp, .refl p⟩
  cases h with
  | start i _ => exact .inl (hsame rfl)
  | finish i _ => exact .inl (hsame rfl)
  | crash i => cases i <;> exact .inl (hsame rfl)
  | call i o ch hg hans heff =>
    cases heff with
    | createPod _ _ => exact .inl ⟨p, List.mem_append_left _ hp, .refl p⟩
    | markPod => exact .inl (hchanged (.markedAt w.now _) rfl)
    | @removePod name cause =>
      by_cases hgone : ch = .gone
      · by_cases hname : p.name = name
        · exact .inr (by rw [hgone, hname]; rfl)
        · exact .inl ⟨p, List.mem_filter.mpr ⟨hp, by simpa using hname⟩, .refl p⟩
      · -- then nothing but a mark is set
        obtain ⟨a, hans⟩ := hans
        rcases World.deletePod_marks (Option.some.inj hans) hgone with heq | heq
        · exact .inl (hsame (by rw [heq]))
        · exact .inl (hchanged (.markedAt w.now name) (by rw [heq]; rfl))
    | _ => exact .inl (hsame rfl)
  | event e hev =>
    cases hev with
    | changePods _ hf => exact .inl (hchanged hf rfl)
    | @dropPod name =>
      by_cases hname : p.name = name
      · exact .inr (by rw [hname]; rfl)
      · exact .inl ⟨p, List.mem_filter.mpr ⟨hp, by simpa using hname⟩, .refl p⟩
    | newPod _ _ _ => exact .inl ⟨p, List.mem_append_left _ hp, .refl p⟩
    | @sendCompletes k x _ _ =>
      exact .inl (hchanged (f := fun p => if p.uid = x.pod then p.handOver else p)
        (fun p => .ite (.handOver p)) rfl)
    | _ => exact .inl (hsame rfl)

/-! ### Invariant -/

/-- Where something is recorded, a pod of the VM is bound. -/
def RecordsHosted (s : Site) : Prop :=
  ∀ vm, s.world.vm = some vm → ∀ n, (s.nodes n).record.isEmpty = false → Hosts s.world vm n

/-- A record that has something in it had something before, or it is written. -/
theorem Site.record_before {i : Proc} {o : NodeOp} {ch : NodeChoice} {a : o.Ans} {s s' : Site}
    (h : Site.answer i o ch s = some (a, s')) {n : String}
    (hn : (s'.nodes n).record.isEmpty = false) :
    (s.nodes n).record.isEmpty = false ∨ ∃ l, i = .daemon n ∧ o = .writeRecord l := by
  by_cases hi : i = .daemon n
  · subst hi
    by_cases ho : ∃ b, o = .base b
    · obtain ⟨b, rfl⟩ := ho
      obtain ⟨c, -, hbase⟩ := Site.answer_base h
      obtain ⟨guests, heq⟩ := (s.nodes n).afterBase_eq b c
      rw [hbase.nodes, if_pos rfl, heq] at hn
      exact .inl hn
    · obtain ⟨m, x, hm, hx, rfl⟩ := Site.answer_node (fun b hb => ho ⟨b, hb⟩) h
      cases hm
      simp only [setAt_self] at hn
      rcases (Node.effect_of_answer hx).record with hsame | habsent | ⟨l, hl, -⟩
      · rw [hsame] at hn
        exact .inl hn
      · rw [habsent] at hn
        cases hn
      · exact .inr ⟨l, rfl, hl⟩
  · rw [(Site.answer_elsewhere h hi).1] at hn
    exact .inl hn

section
variable {nodeIP : String → String} {c c' : Conf nodeApi Site Proc (Outcome × VMDaemon.Local)}
  {act : Act nodeApi Proc NodeChoice NodeEvent}

theorem record_before_step (hstep : Step (nodeSystem nodeIP) c act c') {n : String}
    (hn : (c'.store.nodes n).record.isEmpty = false) :
    (c.store.nodes n).record.isEmpty = false ∨
      ∃ l ch, act = .call (.daemon n) (.writeRecord l) ch := by
  cases hstep with
  | start _ => exact .inl hn
  | finish _ => exact .inl hn
  | crash => exact .inl hn
  | @call i o k ch a s' _ hans =>
    rcases Site.record_before hans hn with hold | ⟨l, rfl, rfl⟩
    · exact .inl hold
    · exact .inr ⟨l, ch, rfl⟩
  | event hev =>
    rw [(Site.event_nodes hev n).record] at hn
    exact .inl hn

/-- A pod that the step takes away has its mounts released. -/
theorem MountsKeepPod.released {s : Site} (h : MountsKeepPod s act) {b : Action}
    (hb : onWorld act = some b) {name : String} (hname : takesAway b = some name) :
    Released s name := by
  unfold onWorld at hb
  split at hb <;> cases hb
  · cases hname
  · cases hname
  · cases hname
  · next i o ch =>
    unfold takesAway at hname
    split at hname
    · next heq => cases heq
    · next heq => cases heq; cases hname; exact h
    · cases hname
  · next e =>
    unfold takesAway at hname
    split at hname
    · next heq => cases heq; cases hname; exact h
    · next heq => cases heq
    · cases hname

/-- Pods of the VM stay bound where something is recorded. -/
theorem Hosts.move {s : Site} {w' : World} (hok : MountsKeepPod s act)
    (hmove : WorldMove Moved s.world act w') {vm' : VM} (hvm' : w'.vm = some vm') :
    ∃ vm, s.world.vm = some vm ∧ ∀ n, (s.nodes n).record.isEmpty = false →
      Hosts s.world vm n → Hosts w' vm' n := by
  unfold WorldMove at hmove
  split at hmove
  · next b hb =>
    obtain ⟨vm, hvm, huid⟩ := hmove.vmStep.uid hvm'
    refine ⟨vm, hvm, fun n hn hhosts => ?_⟩
    obtain ⟨hne, p, hp, hown, hnode⟩ := hhosts
    rcases hmove.pod_stays hp with ⟨p', hp', hlater⟩ | haway
    · refine ⟨hne, p', hp', ?_, ?_⟩
      · rw [Pod.isControlledBy_congr hlater.controller huid.symm]
        exact hown
      · have hbound : p.nodeName ≠ "" := by rw [hnode]; exact hne
        rw [hlater.node hbound, hnode]
    · -- a pod that goes has nothing recorded on its node
      have hempty := hok.released hb haway vm hvm p hp rfl hown
      rw [hnode, hn] at hempty
      cases hempty
  · subst hmove
    exact ⟨vm', hvm', fun n _ hhosts => hhosts⟩

/-- **Step**. -/
theorem RecordsHosted.step (h : RecordsHosted c.store)
    (hreach : Reach (nodeSystem nodeIP) MountsKeepPod NewSite c) (hok : MountsKeepPod c.store act)
    (hstep : Step (nodeSystem nodeIP) c act c') : RecordsHosted c'.store := by
  intro vm' hvm' n hn
  have hmove := moved_of_siteStep (fun s hs => hs.world) hreach hstep
  obtain ⟨vm, hvm, hhosts⟩ := Hosts.move hok hmove hvm'
  rcases record_before_step hstep hn with hold | ⟨l, ch, rfl⟩
  · exact hhosts n hold (h vm hvm n hold)
  · -- the record is written while a pod is bound, and the cluster does not change
    have hworld : c'.store.world = c.store.world := hmove
    rw [hworld] at hvm' ⊢
    exact hok vm' hvm'

/-- **Run**: in every run that meets the condition, a pod of the VM is bound
    where something is recorded. -/
theorem recordsHosted_of_reach (h : Reach (nodeSystem nodeIP) MountsKeepPod NewSite c) :
    RecordsHosted c.store := by
  induction h with
  | @init s hs =>
    intro vm _ n hn
    have habsent : (s.nodes n).record = .absent := hs.record n
    have hempty : (s.nodes n).record.isEmpty = true := by rw [habsent]; rfl
    rw [show (s.nodes n).record.isEmpty = false from hn] at hempty
    cases hempty
  | step hc hok hstep ih => exact ih.step hc hok hstep

/-- Where no pod of the VM is left, nothing is recorded. -/
theorem RecordsHosted.isEmpty {s : Site} (h : RecordsHosted s) {vm : VM} (hvm : s.world.vm = some vm)
    (hnone : ∀ p ∈ s.world.pods, p.isControlledBy vm = false) (n : String) :
    (s.nodes n).record.isEmpty = true := by
  cases hn : (s.nodes n).record.isEmpty with
  | true => rfl
  | false =>
    obtain ⟨-, p, hp, hown, -⟩ := h vm hvm n hn
    rw [hnone p hp] at hown
    cases hown

end

/-! ### When the Controller Lets Go -/

/-- A status that had more in it is reset to a phase only when no pod was
    found. -/
theorem CtrlWrite.listed_of_reset {v : View} {r : VM} {st : VMStatus} (h : CtrlWrite v r st)
    (hr : WellNamed r.status) (hdrawn : ∀ s, v.drawn = some s → s ≠ "")
    (hst : st = { phase := st.phase }) (hne : r.status.core ≠ st) : v.pods = some [] := by
  have hname : st.vmPodName = "" := by rw [hst]
  have hcore : st.core = st := by rw [hst]; rfl
  -- in the phases in which a pod is looked after, the status has its name
  have hkeeps : r.status.phase.hasPod = true → st.vmPodName ≠ r.status.vmPodName := by
    intro hpod heq
    exact hr.vmPod hpod (heq.symm.trans hname)
  cases h with
  | same h => exact absurd (h.symm.trans hcore) hne
  | name s _ hs h =>
    have hnew : st.vmPodName = s := VMStatus.vmPodName_of_core h
    exact absurd (hnew.symm.trans hname) (hdrawn s hs)
  | pod p ph hphase _ _ _ _ h =>
    have hpod : r.status.phase.hasPod = true := by
      rcases hphase with hphase | hphase <;> rw [hphase] <;> rfl
    exact absurd (VMStatus.vmPodName_of_core h) (hkeeps hpod)
  | lost hphase h =>
    exact absurd (VMStatus.vmPodName_of_core h) (hkeeps (by rw [hphase]; rfl))
  | stop ph hphase _ h =>
    exact absurd (VMStatus.vmPodName_of_core h) (hkeeps (by rw [hphase]; rfl))
  | target m s hphase _ _ _ h =>
    exact absurd (VMStatus.vmPodName_of_core h) (hkeeps (by rw [hphase]; rfl))
  | targetPod m p _ _ hphase _ _ _ _ _ _ h =>
    exact absurd (VMStatus.vmPodName_of_core h) (hkeeps (by rw [hphase]; rfl))
  | reset ph _ hnone _ _ => exact hnone

/-- A VM that is written with the finalizer keeps it. -/
theorem World.protected_of_update {w w' : World} {i : Proc} {x : VM} {ch : Choice}
    {a : Except ApiError VM} (hx : VMController.VMProtectionFinalizer ∈ x.finalizers)
    (hw : w.protected = true) (h : w.updateFinalizers i x ch = (a, w')) : w'.protected = true := by
  have hput : ∀ cur, w.vm = some cur → (w.putFinalizers cur x.finalizers).protected = true := by
    intro cur hcur
    unfold World.putFinalizers
    split
    · exact hw
    · split
      · next hlast => rw [hlast.2] at hx; cases hx
      · simpa [World.protected, World.replace] using hx
  unfold World.updateFinalizers at h
  split at h
  · cases h; exact hw
  · next cur hcur =>
    split at h
    · cases h; exact hw
    · split at h
      · cases h; exact hw
      · cases h; exact hput cur hcur
      · cases h; exact hput cur hcur

section
variable {nodeIP : String → String} {c c' : Conf nodeApi Site Proc (Outcome × VMDaemon.Local)}
  {act : Act nodeApi Proc NodeChoice NodeEvent}
  {ok : Site → Act nodeApi Proc NodeChoice NodeEvent → Prop}

/-- A status that is reset was reset by a write of the controller. -/
theorem listed_of_reset {w w' : World} {x : VM} {d : Choice} (hinv : IncarnationInv w)
    (hchange : VMChange w (.call .controller (.updateVMStatus x) d) w') {vm vm' : VM}
    (hvm : w.vm = some vm) (hvm' : w'.vm = some vm')
    (hst : vm'.status = { phase := vm'.status.phase }) (hne : vm.status.core ≠ vm'.status) :
    (w.views .controller).pods = some [] := by
  -- the write is not lost: otherwise the status had been a phase before
  have hsame : vm'.status ≠ vm.status := by
    intro heq
    have hcore : vm'.status.core = vm'.status := by rw [hst]; rfl
    exact hne (by rw [← heq, hcore])
  cases hchange with
  | same h _ =>
    obtain rfl : vm' = vm := Option.some.inj (hvm'.symm.trans (h.trans hvm))
    exact absurd rfl hsame
  | gone h _ => rw [h] at hvm'; cases hvm'
  | touched cur new hcur hnew _ hstatus _ =>
    rw [hcur] at hvm; rw [hnew] at hvm'; cases hvm; cases hvm'
    exact absurd hstatus hsame
  | patched action cur ha _ _ => cases ha
  | written i y ch cur held ha hcur _ hwrite _ _ hw =>
    cases ha
    subst hw
    rw [hcur] at hvm; cases hvm; cases hvm'
    exact hwrite.listed_of_reset (hinv.status vm hcur).1 hinv.drawn hst hne

/-- There is a VM to be let go. -/
theorem vm_of_letsGo {w w' : World} (h : letsGo w w' act = true) : ∃ vm, w.vm = some vm := by
  unfold letsGo at h
  split at h
  · obtain ⟨vm, hvm, -⟩ := (Option.any_eq_true ..).mp h
    exact ⟨vm, hvm⟩
  · obtain ⟨vm, hvm, -⟩ := (Option.any_eq_true ..).mp (Bool.and_eq_true_iff.mp h).1
    exact ⟨vm, hvm⟩
  · cases h

/-- When the controller lets go of the VM, it has found no pods of it. -/
theorem listed_of_letsGo (h : Reach (nodeSystem nodeIP) ok NewSite c)
    (hstep : Step (nodeSystem nodeIP) c act c')
    (hgo : letsGo c.store.world c'.store.world act = true) :
    (c.store.world.views .controller).pods = some [] := by
  have hI : ∀ s, NewSite s → Init s.world := fun s hs => hs.world
  have hreached := reached_of_site hI h
  unfold letsGo at hgo
  split at hgo
  · next x ch =>
    simp only [Option.any_eq_true, Bool.and_eq_true, beq_iff_eq, bne_iff_ne] at hgo
    obtain ⟨vm, hvm, vm', hvm', hst, hne⟩ := hgo
    have hchange : ∃ d, VMChange c.store.world (.call .controller (.updateVMStatus x) d)
        c'.store.world := by
      rcases (moved_of_siteStep hI h hstep).of_base with ⟨d, hmove⟩ | hsame
      · exact ⟨d, hmove.vmChange hreached.occ⟩
      · exact ⟨.ok, by rw [hsame]; exact .same rfl ⟨rfl, rfl, rfl, rfl⟩⟩
    obtain ⟨d, hchange⟩ := hchange
    exact listed_of_reset hreached.incarnationInv hchange hvm hvm' hst hne
  · next x ch =>
    rw [Bool.and_eq_true, Bool.not_eq_true'] at hgo
    have hkept := siteContract_kept (kept nodeIP) fun _ _ _ _ => guard_getPIDBySocket
    rcases (worldMove_of_step hkept hI h hstep).of_base with ⟨d, hmove⟩ | hsame
    · generalize c'.store.world = w' at hmove hgo
      cases hmove with
      | call hguard hans =>
        rcases hguard.2.2 with hstays | hnone
        · have hprotected := World.protected_of_update hstays hgo.1 (Option.some.inj hans)
          rw [hgo.2] at hprotected
          cases hprotected
        · exact hnone
    · rw [hsame, hgo.1] at hgo
      cases hgo.2
  · cases hgo

/-- **Mounts are released first**: in every run whose steps meet the condition,
    whenever the controller lets go of the VM, nothing is recorded on any node,
    and so not on the one in its status. -/
theorem mounts_released_first (h : Reach (nodeSystem nodeIP) MountsKeepPod NewSite c)
    (hstep : Step (nodeSystem nodeIP) c act c')
    (hgo : letsGo c.store.world c'.store.world act = true) (n : String) :
    (c.store.nodes n).record.isEmpty = true := by
  have hlisted := listed_of_letsGo h hstep hgo
  have hinv := (reached_of_site (fun s hs => hs.world) h).incarnationInv
  obtain ⟨vm, hvm⟩ := vm_of_letsGo hgo
  exact (recordsHosted_of_reach h).isEmpty hvm (hinv.listed hlisted vm hvm) n

end

/-! ### Sample Runs -/

namespace Sample

theorem bootingSite_new : NewSite bootingSite := ⟨booting_init, fun _ => rfl⟩

/-- The VM is deleted, and the daemon deletes the guest and releases its
    mounts. -/
def buries : NodeScript :=
  .event (.base .deleteVM) ::
  daemonTurn [.base .ok, .base .ok, .base .ok, .ok, .ok, .ok, .ok, .ok, .ok, .base .ok]

/-- The pod of the VM is deleted and goes, and the controller finds none left. -/
def podGoes : Script :=
  turn .controller [.ok, .ok, .ok, .ok, .ok, .ok] ++ [.event (.removePod "pod-a")] ++
  [.start .controller, .call .controller .ok, .call .controller .ok]

/-- The pod of the running VM is evicted; the VM has failed, and the controller
    finds no pod of it. -/
def evicted : Script :=
  [.event (.deletePod "pod-a"), .event (.removePod "pod-a")] ++
  turn .controller [.ok, .ok, .ok, .ok] ++
  [.start .controller, .call .controller .ok, .call .controller .ok]

end Sample

/-- The VM is deleted with a volume mounted: the finalizer is taken off after
    the volume has been released. -/
theorem mounts_released_first_sample :
    ∃ c act c', Reach Sample.nodeCluster MountsKeepPod NewSite c ∧
      Step Sample.nodeCluster c act c' ∧
      letsGo c.store.world c'.store.world act = true ∧
      (c.store.nodes "a").record.isEmpty = true := by
  obtain ⟨c, act, c', hreach, hstep, hgo⟩ := Sample.nodeStep MountsKeepPod Sample.bootingSite_new
    (Sample.attached ++ Sample.buries ++ Sample.podGoes.map onSite)
    (.call .controller (.base .ok))
    (fun c act c' => letsGo c.store.world c'.store.world act) (by decide +kernel)
  exact ⟨c, act, c', hreach, hstep, hgo, mounts_released_first hreach hstep hgo "a"⟩

/-- The pod goes while a volume is mounted: the controller resets the status
    and the volume is still in the record of the node. -/
theorem record_left_behind :
    ∃ c act c' vm, Reach Sample.nodeCluster (fun s a => acceptedOnSite Sample.library s a = true)
        NewSite c ∧
      Step Sample.nodeCluster c act c' ∧
      letsGo c.store.world c'.store.world act = true ∧
      c.store.world.vm = some vm ∧ vm.status.nodeName = "a" ∧
      (c.store.nodes "a").record.entries.map MountEntry.volume = ["a"] := by
  obtain ⟨c, act, c', hreach, hstep, htest⟩ := Sample.nodeStep
    (fun s a => acceptedOnSite Sample.library s a = true) Sample.bootingSite_new
    (Sample.attached ++ Sample.evicted.map onSite) (.call .controller (.base .ok))
    (fun c act c' => letsGo c.store.world c'.store.world act &&
      c.store.world.vm.any (fun vm => vm.status.nodeName == "a") &&
      (c.store.nodes "a").record.entries.map MountEntry.volume == ["a"])
    (by decide +kernel)
  simp only [Bool.and_eq_true, beq_iff_eq, Option.any_eq_true] at htest
  obtain ⟨⟨hgo, vm, hvm, hnode⟩, hrecord⟩ := htest
  exact ⟨c, act, c', vm, hreach, hstep, hgo, hvm, hnode, hrecord⟩

end Virtink
