import Virtink.Pods

/-! # Pod Pointers and the Acting Daemon

    The status points to the VM pod by name, UID and node, and to the target
    pod of a migration likewise. The controller writes the pointers from pods
    it has seen, the target daemon replaces the first by the second when the
    guest has arrived, and the daemons go by the node names to find out which
    of them is to act. Here: each set of pointers describes one pod, and at
    most one daemon acts.
-/

namespace Virtink

open Calls

/-! ### What Writes Do to the Pointers -/

/-- The migration has not begun. -/
def MigrationPhase.early : MigrationPhase → Bool
  | .empty | .pending | .scheduling => true
  | _ => false

/-- The target pod was placed and the migration has not failed. -/
def MigrationPhase.placed : MigrationPhase → Bool
  | .scheduled | .targetReady | .running | .sent | .succeeded => true
  | _ => false

/-- The pointers to the VM pod. -/
def VMStatus.pointsTo (st : VMStatus) (name : String) (uid : UID) (node : String) : Prop :=
  st.vmPodName = name ∧ st.vmPodUID = uid ∧ st.nodeName = node

/-- The pointers to the target pod. -/
def Migration.pointsTo (m : Migration) (name : String) (uid : UID) (node : String) : Prop :=
  m.targetVMPodName = name ∧ m.targetVMPodUID = uid ∧ m.targetNodeName = node

section writes
variable {v : View} {r : VM} {st : VMStatus}

/-- Where the pointers to the VM pod of a scheduled or running VM come from. -/
inductive PointerMove (i : Proc) (v : View) (r : VM) (st : VMStatus) : Prop where
  | keep (h : st.pointsTo r.status.vmPodName r.status.vmPodUID r.status.nodeName)
      (hphase : st.phase = r.status.phase ∨
        (r.status.phase = .scheduled ∧ st.phase = .running))
  /-- The controller has seen the pod. -/
  | pod (p : Pod) (hi : i = .controller) (hp : v.pod = some p)
      (hname : p.name = r.status.vmPodName) (hown : p.isControlledBy r = true)
      (h : st.pointsTo p.name p.uid p.nodeName) (hst : st.phase = .scheduled)
      (hphase : (r.status.phase = .scheduling ∧ p.phase = .running) ∨
        r.status.phase = .scheduled)
  /-- The guest has arrived in the target pod. -/
  | arrive (m : Migration) (hm : r.status.migration = some m) (hmp : m.phase = .sent)
      (h : st.pointsTo m.targetVMPodName m.targetVMPodUID m.targetNodeName)
      (hst : st.phase = .running)

theorem VMStatus.pointsTo_of_core {x : VMStatus} (h : st.core = x) :
    st.pointsTo x.vmPodName x.vmPodUID x.nodeName :=
  ⟨VMStatus.vmPodName_of_core h, VMStatus.vmPodUID_of_core h, VMStatus.nodeName_of_core h⟩

theorem PointerMove.of_core {i : Proc} {x : VMStatus} (h : st.core = x)
    (hx : x.pointsTo r.status.vmPodName r.status.vmPodUID r.status.nodeName)
    (hphase : x.phase = r.status.phase ∨ (r.status.phase = .scheduled ∧ x.phase = .running)) :
    PointerMove i v r st := by
  subst h
  exact .keep hx hphase

theorem CtrlWrite.pointerMove (h : CtrlWrite v r st)
    (hst : st.phase = .scheduled ∨ st.phase = .running) : PointerMove .controller v r st := by
  cases h with
  | same h | target _ _ _ _ _ _ h | targetPod _ _ _ _ _ _ _ _ _ _ _ h =>
    exact .of_core h ⟨rfl, rfl, rfl⟩ (.inl rfl)
  | name _ _ _ h =>
    rw [VMStatus.phase_of_core h] at hst
    rcases hst with hst | hst <;> cases hst
  | pod p ph hphase hp hname hown hph h =>
    have hst' := VMStatus.phase_of_core h
    have hpoints : st.pointsTo p.name p.uid p.nodeName := by
      obtain ⟨hn, hu⟩ := VMStatus.pointsTo_of_core h
      exact ⟨hn.trans hname.symm, hu⟩
    dsimp only at hst'
    rw [hst'] at hst
    cases hph with
    | same =>
      have hsched : r.status.phase = .scheduled := by
        rcases hphase with h | h
        · rw [h] at hst; rcases hst with hst | hst <;> cases hst
        · exact h
      exact .pod p rfl hp hname hown hpoints (hst'.trans hsched) (.inr hsched)
    | scheduled hsched hrun =>
      exact .pod p rfl hp hname hown hpoints hst' (.inl ⟨hsched, hrun⟩)
    | _ => rcases hst with hst | hst <;> cases hst
  | lost _ h =>
    rw [VMStatus.phase_of_core h] at hst
    rcases hst with hst | hst <;> cases hst
  | stop ph _ hph h =>
    rw [VMStatus.phase_of_core h] at hst
    rcases hph with rfl | rfl | ⟨rfl, -⟩ <;> rcases hst with hst | hst <;> cases hst
  | reset ph hphase _ hph h =>
    subst h
    dsimp only at hst
    rcases hph with rfl | ⟨rfl, -⟩
    · rcases hphase with h | h | h <;> rw [h] at hst <;> rcases hst with hst | hst <;> cases hst
    · rcases hst with hst | hst <;> cases hst

theorem VmmWrite.pointerMove {u : UID} (h : VmmWrite u v r st) : PointerMove (.vmm u) v r st := by
  cases h with
  | release _ _ _ _ _ _ _ _ h | acquire _ _ _ _ _ _ h =>
    subst h; exact .keep ⟨rfl, rfl, rfl⟩ (.inl rfl)

theorem DaemonWrite.pointerMove {n : String} (h : DaemonWrite n v r st)
    (hst : st.phase = .scheduled ∨ st.phase = .running) : PointerMove (.daemon n) v r st := by
  cases h with
  | volumes _ h | target _ _ _ _ _ _ _ _ _ h => exact .of_core h ⟨rfl, rfl, rfl⟩ (.inl rfl)
  | bury _ h | stop _ _ _ h =>
    subst h
    rcases hst with hst | hst <;> cases hst
  | boot ph _ hphase hph h =>
    rcases hph with rfl | rfl
    · exact .of_core h ⟨rfl, rfl, rfl⟩ (.inr ⟨hphase, rfl⟩)
    · rw [VMStatus.phase_of_core h] at hst
      rcases hst with hst | hst <;> cases hst
  | arrive m _ hphase hm hmp h =>
    subst h
    exact .arrive m hm hmp ⟨rfl, rfl, rfl⟩ hphase
  | same h | power _ _ _ h | send _ _ _ _ _ _ _ _ _ _ _ h | sent _ _ _ _ _ _ h
  | lost _ _ _ _ _ _ h => subst h; exact .keep ⟨rfl, rfl, rfl⟩ (.inl rfl)

theorem Write.pointerMove {i : Proc} (h : Write i v r st)
    (hst : st.phase = .scheduled ∨ st.phase = .running) : PointerMove i v r st := by
  cases i with
  | controller => exact CtrlWrite.pointerMove h hst
  | vmm u => exact VmmWrite.pointerMove h
  | daemon n => exact h.1.pointerMove hst

/-- Where the pointers to the target pod come from, once it was placed. -/
inductive TargetMove (i : Proc) (v : View) (r : VM) (m' : Migration) : Prop where
  | early (h : m'.phase.early = true)
  | keep (m : Migration) (hm : r.status.migration = some m)
      (h : m'.pointsTo m.targetVMPodName m.targetVMPodUID m.targetNodeName)
      (hphase : m'.phase = m.phase ∨ m.phase.placed = true)
  /-- The target pod was lost before it was placed. -/
  | lost (m : Migration) (hm : r.status.migration = some m) (hmp : m.phase = .scheduling)
      (h : m'.phase = .failed)
  /-- The controller has seen the pod. -/
  | pod (p : Pod) (hi : i = .controller) (hp : v.pod = some p) (hrun : p.phase = .running)
      (h : m'.pointsTo p.name p.uid p.nodeName)

theorem TargetMove.same {i : Proc} {m' : Migration} (hm' : r.status.migration = some m') :
    TargetMove i v r m' :=
  .keep m' hm' ⟨rfl, rfl, rfl⟩ (.inl rfl)

theorem CtrlWrite.targetMove (h : CtrlWrite v r st) {m' : Migration}
    (hm' : st.migration = some m') : TargetMove .controller v r m' := by
  cases h with
  | same h | name _ _ _ h | pod _ _ _ _ _ _ _ h | lost _ h | stop _ _ _ h =>
    rw [VMStatus.migration_of_core h] at hm'
    exact .same hm'
  | target m s _ _ _ _ h =>
    rw [VMStatus.migration_of_core h] at hm'; cases hm'
    exact .early rfl
  | targetPod m p volumePod ph _ hm hmp hp hname _ hph h =>
    rw [VMStatus.migration_of_core h] at hm'; cases hm'
    cases hph with
    | same => exact .early rfl
    | failed => exact .lost m hm hmp rfl
    | scheduled hrun => exact .pod p rfl hp hrun ⟨hname.symm, rfl, rfl⟩
  | reset _ _ _ _ h => subst h; cases hm'

theorem VmmWrite.targetMove {u : UID} (h : VmmWrite u v r st) {m' : Migration}
    (hm' : st.migration = some m') : TargetMove (.vmm u) v r m' := by
  cases h with
  | release _ _ _ _ _ _ _ _ h => subst h; cases hm'
  | acquire _ _ _ _ _ _ h => subst h; cases hm'; exact .early rfl

theorem DaemonWrite.targetMove {n : String} (h : DaemonWrite n v r st) {m' : Migration}
    (hm' : st.migration = some m') : TargetMove (.daemon n) v r m' := by
  cases h with
  | volumes _ h | boot _ _ _ _ h =>
    rw [VMStatus.migration_of_core h] at hm'
    exact .same hm'
  | same h | bury _ h | power _ _ _ h | stop _ _ _ h => subst h; exact .same hm'
  | target m _ _ ph _ _ hm hmp _ h =>
    rw [VMStatus.migration_of_core h] at hm'; cases hm'
    exact .keep m hm ⟨rfl, rfl, rfl⟩ (.inr (by rw [hmp]; rfl))
  | send m _ _ _ _ hm hmp _ _ _ _ h | sent m _ _ hm hmp _ h | lost m _ _ hm hmp _ h
  | arrive m _ _ hm hmp h =>
    subst h; cases hm'
    exact .keep m hm ⟨rfl, rfl, rfl⟩ (.inr (by rw [hmp]; rfl))

theorem Write.targetMove {i : Proc} (h : Write i v r st) {m' : Migration}
    (hm' : st.migration = some m') : TargetMove i v r m' := by
  cases i with
  | controller => exact CtrlWrite.targetMove h hm'
  | vmm u => exact VmmWrite.targetMove h hm'
  | daemon n => exact h.1.targetMove hm'

/-- Before the guest runs, a migration record only says who holds it. -/
def Untouched (st : VMStatus) : Prop :=
  st.phase = .empty ∨ st.phase = .pending ∨ st.phase = .scheduling ∨ st.phase = .scheduled →
    ∀ m, st.migration = some m → m = { uid := m.uid }

theorem Untouched.of_phase {st : VMStatus} (h : st.phase = .running ∨ st.phase = .succeeded ∨
    st.phase = .failed ∨ st.phase = .unknown) : Untouched st := by
  intro h'
  rcases h with h | h | h | h <;> rw [h] at h' <;> simp at h'

theorem Untouched.of_core {x : VMStatus} (h : st.core = x) (hx : Untouched x) : Untouched st := by
  intro hphase m hm
  rw [VMStatus.phase_of_core h] at hphase
  rw [VMStatus.migration_of_core h] at hm
  exact hx hphase m hm

theorem CtrlWrite.untouched (h : CtrlWrite v r st) (hr : Untouched r.status) : Untouched st := by
  cases h with
  | same h => exact .of_core h hr
  | name s hphase _ h => exact .of_core h fun _ => hr (.inr (.inl hphase))
  | pod p ph hphase _ _ _ _ h =>
    exact .of_core h fun _ => hr (.inr (.inr hphase))
  | lost _ h => exact .of_core h (.of_phase (.inr (.inr (.inl rfl))))
  | stop ph _ hph h =>
    refine .of_core h (.of_phase ?_)
    rcases hph with rfl | rfl | ⟨rfl, -⟩
    · exact .inr (.inr (.inl rfl))
    · exact .inr (.inr (.inr rfl))
    · exact .inr (.inl rfl)
  | target _ _ hphase _ _ _ h | targetPod _ _ _ _ hphase _ _ _ _ _ _ h =>
    exact .of_core h (.of_phase (.inl hphase))
  | reset _ _ _ _ h => subst h; exact fun _ m hm => by cases hm

theorem VmmWrite.untouched {u : UID} (h : VmmWrite u v r st) : Untouched st := by
  cases h with
  | release _ _ _ _ _ _ _ _ h => subst h; exact fun _ m hm => by cases hm
  | acquire _ _ _ _ _ _ h => subst h; exact fun _ m hm => by cases hm; rfl

theorem DaemonWrite.untouched {n : String} (h : DaemonWrite n v r st) (hr : Untouched r.status) :
    Untouched st := by
  cases h with
  | same h => subst h; exact hr
  | volumes _ h => exact .of_core h hr
  | bury _ h | stop _ _ _ h => subst h; exact .of_phase (.inr (.inl rfl))
  | boot ph _ _ hph h =>
    refine .of_core h (.of_phase ?_)
    rcases hph with rfl | rfl
    · exact .inl rfl
    · exact .inr (.inr (.inl rfl))
  | target _ _ _ _ _ hphase _ _ _ h => exact .of_core h (.of_phase (.inl hphase))
  | power _ hphase _ h | send _ _ _ _ hphase _ _ _ _ _ _ h | sent _ _ hphase _ _ _ h
  | lost _ _ hphase _ _ _ h | arrive _ _ hphase _ _ h =>
    subst h; exact .of_phase (.inl hphase)

theorem Write.untouched {i : Proc} (h : Write i v r st) (hr : Untouched r.status) :
    Untouched st := by
  cases i with
  | controller => exact CtrlWrite.untouched h hr
  | vmm u => exact VmmWrite.untouched h
  | daemon n => exact h.1.untouched hr

end writes

/-! ### The Invariant -/

/-- Both sets of pointers describe one pod each; and what the controller has
    seen of the VM pod is consistent with the status it has read. -/
structure PointerInv (w : World) : Prop where
  /-- Without the controller the phase does not go far. -/
  drift : ∀ vm r, w.vm = some vm → (w.views .controller).vm = some r →
    Drift r.status.phase vm.status.phase
  untouched : ∀ vm, w.vm = some vm → Untouched vm.status
  reached : ∀ vm m, w.vm = some vm → vm.status.migration = some m →
    (m.phase.early = true → w.reached = false) ∧ (m.phase.placed = true → w.reached = true)
  pointers : ∀ vm, w.vm = some vm → vm.status.phase = .scheduled ∨ vm.status.phase = .running →
    Was w vm.status.vmPodName vm.status.vmPodUID vm.status.nodeName
  target : ∀ vm m, w.vm = some vm → vm.status.migration = some m → w.reached = true →
    Was w m.targetVMPodName m.targetVMPodUID m.targetNodeName
  /-- A pod the controller has seen bound was there. -/
  seen : ∀ p, (w.views .controller).pod = some p → p.nodeName ≠ "" → Was w p.name p.uid p.nodeName
  /-- The VM pod is not replaced while the VM is `Scheduled`, -/
  only : ∀ vm, w.vm = some vm → vm.status.phase = .scheduled → ∀ q ∈ w.pods,
    q.isControlledBy vm = true → q.name = vm.status.vmPodName →
    q.uid = vm.status.vmPodUID ∧ q.nodeName = vm.status.nodeName
  /-- nor after the controller has seen it bound in `Scheduling`, -/
  fresh : ∀ vm r p, w.vm = some vm → (w.views .controller).vm = some r →
    r.status.phase = .scheduling → (w.views .controller).pod = some p →
    p.isControlledBy r = true → p.nodeName ≠ "" → ∀ q ∈ w.pods, q.isControlledBy vm = true →
    q.name = p.name → q.uid = p.uid ∧ q.nodeName = p.nodeName
  /-- and the one it sees in `Scheduled` is the one the status points to. -/
  same : ∀ r p, w.vm = some r → (w.views .controller).vm = some r →
    r.status.phase = .scheduled → (w.views .controller).pod = some p →
    p.isControlledBy r = true → p.name = r.status.vmPodName →
    p.uid = r.status.vmPodUID ∧ p.nodeName = r.status.nodeName

theorem reachedScheduled_early {b : Bool} {st : VMStatus} {m : Migration}
    (hm : st.migration = some m) (h : m.phase.early = true) : reachedScheduled b st = false := by
  unfold reachedScheduled
  rw [hm]
  revert h
  cases hp : m.phase <;> simp [MigrationPhase.early, hp]

theorem reachedScheduled_placed {b : Bool} {st : VMStatus} {m : Migration}
    (hm : st.migration = some m) (h : m.phase.placed = true) : reachedScheduled b st = true := by
  unfold reachedScheduled
  rw [hm]
  revert h
  cases hp : m.phase <;> simp [MigrationPhase.placed, hp]

theorem reachedScheduled_failed {b : Bool} {st : VMStatus} {m : Migration}
    (hm : st.migration = some m) (h : m.phase = .failed) : reachedScheduled b st = b := by
  unfold reachedScheduled
  rw [hm]
  simp [h]

theorem MigrationPhase.early_or_placed_or_failed (p : MigrationPhase) :
    p.early = true ∨ p.placed = true ∨ p = .failed := by
  cases p <;> simp [MigrationPhase.early, MigrationPhase.placed]

/-- A VM that a process holds and that is stored now was stored before. -/
theorem Occ.held_before {w w' : World} (hocc : Occ w) (h : VMStep w w') {i : Proc} {r : VM}
    (hr : (w.views i).vm = some r) (hnow : w'.vm = some r) : w.vm = some r := by
  cases h with
  | same h => rw [← h]; exact hnow
  | gone h => rw [h] at hnow; cases hnow
  | newer cur new hcur hnew hn =>
    rw [hnew] at hnow; cases hnow
    have := (hocc i _ cur hr hcur).rv
    have := hn.rv
    omega

section step
variable {w w' : World} {a : Action}

theorem PointerInv.drift_step (hinv : PointerInv w) (hocc : Occ w) (hmove : Moved w a w')
    {vm' r : VM} (hvm' : w'.vm = some vm') (hr : (w'.views .controller).vm = some r) :
    Drift r.status.phase vm'.status.phase := by
  rcases hmove.holdsCurrent .controller r hr with hold | hnow | ⟨-, hgone⟩
  · cases (hmove.vmChange hocc).statusChange hvm' with
    | quiet cur action hcur hst =>
      rw [hst]
      exact hinv.drift cur r hcur hold
    | written i x ch cur held _ hcur _ hwrite hheld hw =>
      subst hw
      by_cases hi : i = .controller
      · -- the controller holds what it has written
        subst hi
        rw [World.release, World.see_views_self] at hr
        rw [hheld r hr]; exact .inl rfl
      · exact (hinv.drift cur r hcur hold).trans (hwrite.drift hi)
  · rw [hnow] at hvm'; cases hvm'; exact .inl rfl
  · rw [hgone] at hvm'; cases hvm'

theorem PointerInv.untouched_step (hinv : PointerInv w) (hocc : Occ w) (hmove : Moved w a w')
    {vm' : VM} (hvm' : w'.vm = some vm') : Untouched vm'.status := by
  cases (hmove.vmChange hocc).statusChange hvm' with
  | quiet cur action hcur hst =>
    rw [hst]
    exact hinv.untouched cur hcur
  | written i x ch cur held _ hcur _ hwrite _ _ =>
    exact hwrite.untouched (hinv.untouched cur hcur)

theorem PointerInv.reached_step (hinv : PointerInv w) (hocc : Occ w) (hmove : Moved w a w')
    {vm' : VM} {m : Migration} (hvm' : w'.vm = some vm') (hm : vm'.status.migration = some m) :
    (m.phase.early = true → w'.reached = false) ∧ (m.phase.placed = true → w'.reached = true) := by
  cases hmove.vmChange hocc with
  | same h hb => rw [hb.reached]; exact hinv.reached vm' m (by rw [← h]; exact hvm') hm
  | gone h _ => rw [h] at hvm'; cases hvm'
  | touched cur new hcur hnew _ hst hb =>
    rw [hnew] at hvm'; cases hvm'
    rw [hb.reached]; exact hinv.reached cur m hcur (by rw [← hst]; exact hm)
  | patched action cur _ hcur hw =>
    subst hw; cases hvm'
    exact ⟨reachedScheduled_early hm, reachedScheduled_placed hm⟩
  | written i x ch cur held _ hcur _ hwrite _ _ hw =>
    subst hw; cases hvm'
    exact ⟨reachedScheduled_early hm, reachedScheduled_placed hm⟩

theorem PointerInv.pointers_step (hinv : PointerInv w) (hocc : Occ w) (hmove : Moved w a w')
    {vm' : VM} (hvm' : w'.vm = some vm')
    (hphase : vm'.status.phase = .scheduled ∨ vm'.status.phase = .running) :
    Was w' vm'.status.vmPodName vm'.status.vmPodUID vm'.status.nodeName := by
  refine hmove.podsChange.was ?_
  cases (hmove.vmChange hocc).statusChange hvm' with
  | quiet cur action hcur hst =>
    rw [hst] at hphase ⊢
    exact hinv.pointers cur hcur hphase
  | written i x ch cur held _ hcur hread hwrite _ _ =>
    cases hwrite.pointerMove hphase with
    | keep h hph =>
      rw [h.1, h.2.1, h.2.2]
      refine hinv.pointers cur hcur ?_
      rcases hph with hph | ⟨hph, -⟩
      · rw [← hph]; exact hphase
      · exact .inl hph
    | pod p hi hp hname hown h _ hph =>
      subst hi
      rw [h.1, h.2.1, h.2.2]
      rcases hph with ⟨_, hrun⟩ | hph
      · exact hinv.seen p hp (p.bound hrun)
      · obtain ⟨hu, hn⟩ := hinv.same cur p hcur hread hph hp hown hname
        rw [hu, hn, hname]
        exact hinv.pointers cur hcur (.inl hph)
    | arrive m hm hmp h _ =>
      rw [h.1, h.2.1, h.2.2]
      exact hinv.target cur m hcur hm ((hinv.reached cur m hcur hm).2 (by rw [hmp]; rfl))

theorem PointerInv.target_step (hinv : PointerInv w) (hocc : Occ w) (hmove : Moved w a w')
    {vm' : VM} {m' : Migration} (hvm' : w'.vm = some vm') (hm' : vm'.status.migration = some m')
    (hreached : w'.reached = true) :
    Was w' m'.targetVMPodName m'.targetVMPodUID m'.targetNodeName := by
  -- the record stays: it had been `Scheduled` before
  have hstays : ∀ vm m, w.vm = some vm → vm.status.migration = some m →
      m'.phase = m.phase ∨ m.phase.placed = true → (m'.phase = .failed → w.reached = true) →
      w.reached = true := by
    intro vm m hvm hm hphase hfailed
    obtain ⟨-, hplaced⟩ := hinv.reached vm m hvm hm
    rcases hphase with hphase | hphase
    · rcases m'.phase.early_or_placed_or_failed with h | h | h
      · rw [(hinv.reached_step hocc hmove hvm' hm').1 h] at hreached; cases hreached
      · exact hplaced (hphase ▸ h)
      · exact hfailed h
    · exact hplaced hphase
  refine hmove.podsChange.was ?_
  cases hmove.vmChange hocc with
  | same h hb =>
    exact hinv.target vm' m' (by rw [← h]; exact hvm') hm' (by rw [← hb.reached]; exact hreached)
  | gone h _ => rw [h] at hvm'; cases hvm'
  | touched cur new hcur hnew _ hst hb =>
    rw [hnew] at hvm'; cases hvm'
    exact hinv.target cur m' hcur (by rw [← hst]; exact hm') (by rw [← hb.reached]; exact hreached)
  | patched action cur _ hcur hw =>
    subst hw; cases hvm'
    refine hinv.target cur m' hcur hm' (hstays cur m' hcur hm' (.inl rfl) fun h => ?_)
    rw [← hreached]; exact (reachedScheduled_failed hm' h).symm
  | written i x ch cur held _ hcur _ hwrite _ _ hw =>
    subst hw; cases hvm'
    have hfailed : m'.phase = .failed → w.reached = true := fun h => by
      rw [← hreached]; exact (reachedScheduled_failed hm' h).symm
    cases hwrite.targetMove hm' with
    | early h =>
      have : reachedScheduled w.reached x.status = false := reachedScheduled_early hm' h
      exact absurd (this.symm.trans hreached) nofun
    | keep m hm h hph =>
      rw [h.1, h.2.1, h.2.2]
      exact hinv.target cur m hcur hm (hstays cur m hcur hm hph hfailed)
    | lost m hm hmp h =>
      have := (hinv.reached cur m hcur hm).1 (by rw [hmp]; rfl)
      rw [hfailed h] at this; cases this
    | pod p hi hp hrun h =>
      subst hi
      rw [h.1, h.2.1, h.2.2]
      exact hinv.seen p hp (p.bound hrun)

/-- While the VM is `Scheduled`, and after the controller has seen its pod in
    `Scheduling`, the controller creates no VM pod under its name. -/
theorem PointerInv.not_created (hinv : PointerInv w) (hstore : StoreInv w) {vm : VM}
    (hvm : w.vm = some vm) {p : Pod} (hnew : NewPod w p) (hown : p.isControlledBy vm = true)
    (hwhen : vm.status.phase = .scheduled ∨ ∃ r q, (w.views .controller).vm = some r ∧
      r.status.phase = .scheduling ∧ (w.views .controller).pod = some q ∧
      q.isControlledBy r = true) : False := by
  cases hnew with
  | foreign hforeign => rw [hforeign vm hvm] at hown; cases hown
  | created t r hr hcreate hc _ =>
    have hphase : r.status.phase = .scheduled ∨ (r.status.phase = .scheduling ∧
        ∃ q, (w.views .controller).pod = some q ∧ q.isControlledBy r = true) := by
      rcases hwhen with h | ⟨r', q, hr', hph, hq, hqo⟩
      · have := hinv.drift vm r hvm hr
        rw [h] at this
        rcases this with h | h | ⟨-, h | h⟩
        · exact .inl h.symm
        all_goals cases h
      · rw [hr] at hr'; cases hr'
        exact .inr ⟨hph, q, hq, hqo⟩
    cases hcreate with
    | vmPod hph _ hpod _ _ =>
      rcases hphase with h | ⟨-, q, hq, hqo⟩
      · rw [hph] at h; cases h
      · rw [hpod q hq] at hqo; cases hqo
    | target _ hph _ _ _ _ _ =>
      rcases hphase with h | ⟨h, -⟩ <;> rw [hph] at h <;> cases h
    | volumePod q hq _ _ _ hown' =>
      unfold Pod.isControlledBy at hown
      rw [hc, hown'] at hown
      exact hstore.seen_not_vm vm q hvm hq (by simpa using hown)

/-- A pod stays the pod it was. -/
theorem Pod.Later.pointers {q q' : Pod} (h : q.Later q') {uid : UID} {node : String}
    (hne : node ≠ "") (hq : q.uid = uid ∧ q.nodeName = node) : q'.uid = uid ∧ q'.nodeName = node :=
  ⟨h.uid.trans hq.1, (h.node (by rw [hq.2]; exact hne)).trans hq.2⟩

theorem PointerInv.only_step (hinv : PointerInv w) (hstore : StoreInv w) (hocc : Occ w)
    (hmove : Moved w a w') {vm' : VM} (hvm' : w'.vm = some vm')
    (hphase : vm'.status.phase = .scheduled) {q' : Pod} (hq' : q' ∈ w'.pods)
    (hown : q'.isControlledBy vm' = true) (hname : q'.name = vm'.status.vmPodName) :
    q'.uid = vm'.status.vmPodUID ∧ q'.nodeName = vm'.status.nodeName := by
  -- moves that leave the pointers alone
  have hkeep : ∀ vm, w.vm = some vm → vm.uid = vm'.uid → vm.status.phase = .scheduled →
      vm'.status.pointsTo vm.status.vmPodName vm.status.vmPodUID vm.status.nodeName →
      q'.uid = vm'.status.vmPodUID ∧ q'.nodeName = vm'.status.nodeName := by
    intro vm hvm huid hph hpoints
    rw [hpoints.1] at hname
    rw [hpoints.2.1, hpoints.2.2]
    rcases hmove.podsChange.origin hq' with ⟨q, hq, hlater⟩ | ⟨hnew, -, -, -⟩
    · rw [Pod.isControlledBy_congr hlater.controller huid.symm] at hown
      exact hlater.pointers (hinv.pointers vm hvm (.inl hph)).1
        (hinv.only vm hvm hph q hq hown (hlater.name.symm.trans hname))
    · rw [Pod.isControlledBy_congr rfl huid.symm] at hown
      exact (hinv.not_created hstore hvm hnew hown (.inl hph)).elim
  cases hmove.vmChange hocc with
  | same h _ => exact hkeep vm' (by rw [← h]; exact hvm') rfl hphase ⟨rfl, rfl, rfl⟩
  | gone h _ => rw [h] at hvm'; cases hvm'
  | touched cur new hcur hnew hnewer hst _ =>
    rw [hnew] at hvm'; cases hvm'
    exact hkeep cur hcur hnewer.uid.symm (by rw [← hst]; exact hphase)
      (by rw [hst]; exact ⟨rfl, rfl, rfl⟩)
  | patched action cur _ hcur hw =>
    subst hw; cases hvm'
    exact hkeep cur hcur rfl hphase ⟨rfl, rfl, rfl⟩
  | written i x ch cur held _ hcur hread hwrite _ _ hw =>
    subst hw; cases hvm'
    dsimp only at hphase hkeep hname ⊢
    cases hwrite.pointerMove (.inl hphase) with
    | keep h hph =>
      refine hkeep cur hcur rfl ?_ h
      rcases hph with hph | ⟨hph, -⟩
      · rw [← hph]; exact hphase
      · exact hph
    | pod p hi hp hpname hpown h _ hph =>
      subst hi
      rcases hph with ⟨hph, hrun⟩ | hph
      · rw [h.2.1, h.2.2]
        exact hinv.fresh cur cur p hcur hread hph hp hpown (p.bound hrun) q' hq' hown
          (hname.trans h.1)
      · obtain ⟨hu, hn⟩ := hinv.same cur p hcur hread hph hp hpown hpname
        exact hkeep cur hcur rfl hph
          ⟨h.1.trans hpname, h.2.1.trans hu, h.2.2.trans hn⟩
    | arrive _ _ _ _ hst => rw [hphase] at hst; cases hst

theorem PointerInv.fresh_step (hinv : PointerInv w) (hstore : StoreInv w) (hmove : Moved w a w')
    {vm' r : VM} {p : Pod} (hvm' : w'.vm = some vm') (hr : (w'.views .controller).vm = some r)
    (hph : r.status.phase = .scheduling) (hp : (w'.views .controller).pod = some p)
    (hpo : p.isControlledBy r = true) (hne : p.nodeName ≠ "") {q' : Pod} (hq' : q' ∈ w'.pods)
    (hown : q'.isControlledBy vm' = true) (hname : q'.name = p.name) :
    q'.uid = p.uid ∧ q'.nodeName = p.nodeName := by
  obtain ⟨vm, hvm, huid⟩ := hmove.vmStep.uid hvm'
  -- moves that leave the pod of the controller alone
  have hkeep : (w.views .controller).vm = some r → (w.views .controller).pod = some p →
      q'.uid = p.uid ∧ q'.nodeName = p.nodeName := by
    intro hr hp
    rcases hmove.podsChange.origin hq' with ⟨q, hq, hlater⟩ | ⟨hnew, -, -, -⟩
    · rw [Pod.isControlledBy_congr hlater.controller huid.symm] at hown
      exact hlater.pointers hne
        (hinv.fresh vm r p hvm hr hph hp hpo hne q hq hown (hlater.name.symm.trans hname))
    · rw [Pod.isControlledBy_congr rfl huid.symm] at hown
      exact (hinv.not_created hstore hvm hnew hown (.inr ⟨r, p, hr, hph, hp, hpo⟩)).elim
  rcases hmove.ctrlSees.pod_cases hp with ⟨hv, hp⟩ | ⟨hread, hw⟩
  · exact hkeep (by rw [← hv]; exact hr) hp
  · subst hw
    obtain ⟨hmem, -⟩ := World.findPod_mem hread
    rw [hstore.names q' hq' p hmem hname]
    exact ⟨rfl, rfl⟩

theorem PointerInv.same_step (hinv : PointerInv w) (hocc : Occ w) (hmove : Moved w a w')
    {r : VM} {p : Pod} (hnow : w'.vm = some r) (hr : (w'.views .controller).vm = some r)
    (hph : r.status.phase = .scheduled) (hp : (w'.views .controller).pod = some p)
    (hpo : p.isControlledBy r = true) (hname : p.name = r.status.vmPodName) :
    p.uid = r.status.vmPodUID ∧ p.nodeName = r.status.nodeName := by
  rcases hmove.ctrlSees.pod_cases hp with ⟨hv, hp⟩ | ⟨hread, hw⟩
  · have hr : (w.views .controller).vm = some r := by rw [← hv]; exact hr
    exact hinv.same r p (hocc.held_before hmove.vmStep hr hnow) hr hph hp hpo hname
  · subst hw
    exact hinv.only r hnow hph p (World.findPod_mem hread).1 hpo hname

theorem PointerInv.seen_step (hinv : PointerInv w) (hmove : Moved w a w') {p : Pod}
    (hp : (w'.views .controller).pod = some p) (hne : p.nodeName ≠ "") :
    Was w' p.name p.uid p.nodeName := by
  refine hmove.podsChange.was ?_
  rcases hmove.ctrlSees.pod_cases hp with ⟨-, hp⟩ | ⟨hread, -⟩
  · exact hinv.seen p hp hne
  · exact .of_mem (World.findPod_mem hread).1 hne

theorem PointerInv.step (hinv : PointerInv w) (hstore : StoreInv w) (hocc : Occ w)
    (hmove : Moved w a w') : PointerInv w' where
  drift _ _ hvm hr := hinv.drift_step hocc hmove hvm hr
  untouched _ hvm := hinv.untouched_step hocc hmove hvm
  reached _ _ hvm hm := hinv.reached_step hocc hmove hvm hm
  pointers _ hvm hphase := hinv.pointers_step hocc hmove hvm hphase
  target _ _ hvm hm hreached := hinv.target_step hocc hmove hvm hm hreached
  seen _ hp hne := hinv.seen_step hmove hp hne
  only _ hvm hphase _ hq hown hname := hinv.only_step hstore hocc hmove hvm hphase hq hown hname
  fresh _ _ _ hvm hr hph hp hpo hne _ hq hown hname :=
    hinv.fresh_step hstore hmove hvm hr hph hp hpo hne hq hown hname
  same _ _ hnow hr hph hp hpo hname := hinv.same_step hocc hmove hnow hr hph hp hpo hname

end step

theorem Reached.pointerInv {nodeIP : String → String} {ok : World → Action → Prop} {w : World}
    (h : Reached nodeIP ok w) : PointerInv w := by
  refine Reached.invariant ?_ ?_ h
  · rintro w ⟨v, hst, -, rfl⟩
    exact {
      drift := fun _ _ _ hr => by cases hr
      untouched := fun _ hvm => by
        cases hvm; rw [hst]; exact fun _ _ hm => by cases hm
      reached := fun _ _ hvm hm => by cases hvm; rw [hst] at hm; cases hm
      pointers := fun _ hvm hphase => by
        cases hvm; rw [hst] at hphase
        rcases hphase with h | h <;> cases h
      target := fun _ _ hvm hm => by cases hvm; rw [hst] at hm; cases hm
      seen := fun _ hp => by cases hp
      only := fun _ _ _ _ hq => by cases hq
      fresh := fun _ _ _ _ hr => by cases hr
      same := fun _ _ _ hr => by cases hr }
  · intro w a w' hreach hinv _ hmove
    exact hinv.step hreach.storeInv hreach.occ hmove

/-! ### The Acting Daemon -/

/-- The node whose daemon is to act on the VM. -/
def actingNode (vm : VM) : String :=
  match vm.status.migration with
  | some m =>
      if m.phase = .scheduled ∨ m.phase = .sent then m.targetNodeName else vm.status.nodeName
  | none => vm.status.nodeName

/-- Calls to a hypervisor. -/
def Op.callsHypervisor : Op → Bool
  | .vmInfo _ | .hypervisor _ _ _ | .startReceive _ _ | .startSend _ _ _ _ => true
  | _ => false

theorem Acts.node {n : String} {r : VM} (h : Acts n r) (hr : Untouched r.status) :
    n = actingNode r := by
  unfold actingNode
  cases h with
  | scheduled _ hphase hshould =>
    -- no record says more than who holds it, so the target plays no part yet
    have hrec := hr (.inr (.inr (.inr hphase)))
    simp only [VMDaemon.shouldReconcile, Bool.or_eq_true, Bool.and_eq_true, bne_iff_ne,
      beq_iff_eq] at hshould
    cases hm : r.status.migration with
    | none =>
      rw [hm] at hshould
      rcases hshould with h | h
      · exact h.2.symm
      · cases h
    | some m =>
      have hm' := hrec m hm
      rw [hm, hm'] at hshould
      rw [hm']
      rcases hshould with h | h
      · exact h.2.symm
      · simp at h
  | running _ _ hm hnode => rw [hm]; exact hnode.symm
  | target m _ _ hm hmp hnode => rw [hm]; exact (if_pos hmp).trans hnode |>.symm
  | source m _ _ hm hmp hnode =>
    rw [hm]
    refine ((if_neg ?_).trans hnode).symm
    rintro (h | h) <;> rcases hmp with h' | h' <;> rw [h'] at h <;> cases h

/-- What the daemons hold as the VM is `Untouched`. -/
def HeldUntouched (w : World) : Prop :=
  ∀ n r, (w.views (.daemon n)).vm = some r → Untouched r.status

/-- The VMs the daemons hold were stored once. -/
theorem Reached.heldUntouched {nodeIP : String → String} {ok : World → Action → Prop} {w : World}
    (h : Reached nodeIP ok w) : HeldUntouched w := by
  refine Reached.invariant ?_ ?_ h
  · rintro w ⟨v, -, -, rfl⟩ n r hr
    cases hr
  · intro w a w' hreach hinv _ hmove n r hr
    rcases hmove.holdsCurrent (.daemon n) r hr with hold | hnow | ⟨h, -⟩
    · exact hinv n r hold
    · exact hreach.pointerInv.untouched_step hreach.occ hmove hnow
    · cases h

/-- What a daemon does to the VM or to a hypervisor it does as the acting
    daemon of the VM it has read, unless the VM is being deleted. -/
theorem acts_of_call {w w' : World} {n : String} {o : Op} {ch : Choice} (hocc : Occ w)
    (hmove : Moved w (.call (.daemon n) o ch) w')
    (h : o.callsHypervisor = true ∨ w'.vm ≠ w.vm) :
    ∃ r, (w.views (.daemon n)).vm = some r ∧ (w'.vm ≠ w.vm → w.vm = some r) ∧
      (r.deletionTimestamp = none → Acts n r) := by
  cases hmove with
  | call _ _ _ hg hans heff =>
    clear hans
    by_cases hne : w'.vm = w.vm
    · -- a call to a hypervisor
      have hcall := h.resolve_right (fun h => h hne)
      have hread : ∃ r, (w.views (.daemon n)).vm = some r ∧ (Acts n r ∨ Buries n r) := by
        cases o <;> simp [Op.callsHypervisor] at hcall
        case vmInfo pod => exact hg.imp fun r h => ⟨h.1, .inl h.2⟩
        case hypervisor pod c account =>
          cases account with
          | lifecycle => exact hg
          | powerAction => exact hg.imp fun r h => ⟨h.1, .inl h.2.1⟩
        case startReceive pod ctx => exact hg.imp fun r h => ⟨h.1, .inl h.2⟩
        case startSend pod source ctx u =>
          obtain ⟨r, hr, ⟨m, hacts, -⟩, -⟩ := hg
          exact ⟨r, hr, .inl hacts⟩
      obtain ⟨r, hr, hacts⟩ := hread
      exact ⟨r, hr, fun h => absurd hne h, fun hdel => hacts.resolve_right fun hb => hb.1 hdel⟩
    · -- a status write
      cases heff with
      | @writeStatus x cur held hvm hrv hst hheld =>
        obtain ⟨r, hr, hrrv, hwrite, -⟩ := hg
        obtain rfl : r = cur := (hocc _ r cur hr hvm).same (hrrv.symm.trans hrv)
        refine ⟨r, hr, fun _ => hvm, fun hdel => ?_⟩
        cases hwrite with
        | same h => exact absurd h.symm hst
        | bury hb _ => exact absurd hdel hb.1
        | volumes hacts _ | boot _ hacts _ _ _ | power hacts _ _ _ | stop hacts _ _ _
        | target _ _ _ _ hacts _ _ _ _ _ | send _ _ _ hacts _ _ _ _ _ _ _ _
        | sent _ hacts _ _ _ _ _ | lost _ hacts _ _ _ _ _ | arrive _ hacts _ _ _ _ => exact hacts
      | writeFinalizers _ _ _ _ => exact hg.elim
      | removeVM _ _ _ _ => exact hg.elim
      | _ => exact absurd rfl hne

/-- **Pod pointers are consistent and one daemon acts.** While the VM is
    `Scheduled` or `Running`, its pointers describe one bound pod, and so do
    those of a migration that was once `Scheduled`. A daemon that changes the
    VM or calls a hypervisor is the one on the acting node of the VM it has
    read, and to change it, it must have read the VM that is stored. -/
theorem pointers_consistent {nodeIP : String → String} {c : Config}
    (h : Reachable (system nodeIP) Init c) :
    (∀ vm, c.store.vm = some vm →
      vm.status.phase = .scheduled ∨ vm.status.phase = .running →
      Was c.store vm.status.vmPodName vm.status.vmPodUID vm.status.nodeName ∧
      ∀ m, vm.status.migration = some m → c.store.reached = true →
        Was c.store m.targetVMPodName m.targetVMPodUID m.targetNodeName) ∧
    (∀ n o ch c', Step (system nodeIP) c (.call (.daemon n) o ch) c' →
      o.callsHypervisor = true ∨ c'.store.vm ≠ c.store.vm →
      ∃ r, (c.store.views (.daemon n)).vm = some r ∧
        (c'.store.vm ≠ c.store.vm → c.store.vm = some r) ∧
        (r.deletionTimestamp = none → n = actingNode r)) := by
  have hreached := reached_of_reach h
  have hinv := hreached.pointerInv
  refine ⟨fun vm hvm hphase => ⟨hinv.pointers vm hvm hphase, fun m hm => hinv.target vm m hvm hm⟩,
    fun n o ch c' hstep hdo => ?_⟩
  obtain ⟨r, hr, hsame, hacts⟩ := acts_of_call hreached.occ (moved_of_step h hstep) hdo
  exact ⟨r, hr, hsame, fun hdel => (hacts hdel).node (hreached.heldUntouched n r hr)⟩

/-- The sample migration after its target was placed. -/
theorem pointers_consistent_migrating :
    ∃ c vm m, Reachable Sample.cluster Init c ∧ c.store.vm = some vm ∧
      vm.status.phase = .running ∧ vm.status.migration = some m ∧ m.phase = .targetReady ∧
      Was c.store vm.status.vmPodName vm.status.vmPodUID vm.status.nodeName ∧
      Was c.store m.targetVMPodName m.targetVMPodUID m.targetNodeName := by
  obtain ⟨c, hreach, htest⟩ := Sample.reach anyStep Sample.targetReady
    (fun c => c.store.reached && c.store.vm.any (fun vm => vm.status.phase == .running &&
      vm.status.migration.any (·.phase == .targetReady)))
    (by decide +kernel)
  rw [Bool.and_eq_true] at htest
  obtain ⟨vm, hvm, h⟩ := (Option.any_eq_true ..).mp htest.2
  rw [Bool.and_eq_true] at h
  obtain ⟨m, hm, hmp⟩ := (Option.any_eq_true ..).mp h.2
  have hphase : vm.status.phase = .running := by simpa using h.1
  obtain ⟨hptr, htarget⟩ := (pointers_consistent hreach).1 vm hvm (.inr hphase)
  exact ⟨c, vm, m, hreach, hvm, hphase, hm, by simpa using hmp, hptr, htarget m hm htest.1⟩

end Virtink
