import Virtink.Pods

/-! # Incarnations

    Each move of the VM to `Pending` begins a new incarnation. The disks of
    the VM are safe only if no pod of an earlier incarnation is left then. The
    controller resets the status after it has seen that there are no VM pods,
    and creates a pod only under a name that the status has carried since; so
    every VM pod belongs to the current incarnation and has one of its names.
-/

namespace Virtink

open Calls

/-! ### Names -/

/-- The phases in which there is or will be a VM pod. -/
def VMPhase.hasPod : VMPhase → Bool
  | .scheduling | .scheduled | .running => true
  | _ => false

/-- The phases in which there is or will be a target pod. -/
def MigrationPhase.hasTarget : MigrationPhase → Bool
  | .scheduling | .scheduled | .targetReady | .running | .sent => true
  | _ => false

/-- The VM pod and the target pod have a name from before they are created. -/
structure WellNamed (st : VMStatus) : Prop where
  vmPod : st.phase.hasPod = true → st.vmPodName ≠ ""
  target : ∀ m, st.migration = some m → m.phase.hasTarget = true → m.targetVMPodName ≠ ""

theorem WellNamed.of_core {st x : VMStatus} (h : st.core = x) (hx : WellNamed x) :
    WellNamed st where
  vmPod := by
    rw [VMStatus.phase_of_core h, VMStatus.vmPodName_of_core h]; exact hx.vmPod
  target := by rw [VMStatus.migration_of_core h]; exact hx.target

section wellNamed
variable {v : View} {r : VM} {st : VMStatus}

theorem CtrlWrite.wellNamed (h : CtrlWrite v r st) (hr : WellNamed r.status)
    (hdrawn : ∀ s, v.drawn = some s → s ≠ "") : WellNamed st := by
  cases h with
  | same h => exact .of_core h ⟨hr.vmPod, hr.target⟩
  | name s _ hs h => exact .of_core h ⟨fun _ => hdrawn s hs, hr.target⟩
  | pod p ph _ _ _ _ hph h =>
    refine .of_core h ⟨?_, hr.target⟩
    cases hph with
    | same => exact hr.vmPod
    | scheduled hold _ => exact fun _ => hr.vmPod (by rw [hold]; rfl)
    | _ => exact fun h => by cases h
  | lost _ h => exact .of_core h ⟨(fun h => by cases h), hr.target⟩
  | stop ph _ hph h =>
    refine .of_core h ⟨?_, hr.target⟩
    rcases hph with rfl | rfl | ⟨rfl, -⟩ <;> exact fun h => by cases h
  | target m s _ _ _ hs h =>
    exact .of_core h ⟨hr.vmPod, fun m' hm' _ => by cases hm'; exact hdrawn s hs⟩
  | targetPod m p _ _ _ hm hmp _ _ _ _ h =>
    refine .of_core h ⟨hr.vmPod, fun m' hm' _ => ?_⟩
    cases hm'
    exact hr.target m hm (by rw [hmp]; rfl)
  | reset ph hphase _ hph h =>
    subst h
    refine ⟨fun h => ?_, fun m hm => by cases hm⟩
    rcases hph with rfl | ⟨rfl, -⟩
    · rcases hphase with h' | h' | h' <;> rw [h'] at h <;> cases h
    · cases h

theorem VmmWrite.wellNamed {u : UID} (h : VmmWrite u v r st) (hr : WellNamed r.status) :
    WellNamed st := by
  cases h with
  | release _ _ _ _ _ _ _ _ h => subst h; exact ⟨hr.vmPod, fun m hm => by cases hm⟩
  | acquire _ _ _ _ _ _ h => subst h; exact ⟨hr.vmPod, fun m hm hmp => by cases hm; cases hmp⟩

theorem DaemonWrite.wellNamed {n : String} (h : DaemonWrite n v r st) (hr : WellNamed r.status) :
    WellNamed st := by
  cases h with
  | same h => subst h; exact hr
  | volumes _ h => exact .of_core h ⟨hr.vmPod, hr.target⟩
  | bury _ h => subst h; exact ⟨(fun h => by cases h), hr.target⟩
  | boot ph _ hphase hph h =>
    exact .of_core h ⟨fun _ => hr.vmPod (by rw [hphase]; rfl), hr.target⟩
  | power _ _ _ h => subst h; exact ⟨hr.vmPod, hr.target⟩
  | stop _ _ _ h => subst h; exact ⟨(fun h => by cases h), hr.target⟩
  | target m _ _ ph _ _ hm hmp _ h =>
    refine .of_core h ⟨hr.vmPod, fun m' hm' _ => ?_⟩
    cases hm'
    exact hr.target m hm (by rw [hmp]; rfl)
  | send m _ _ _ _ hm hmp _ _ _ _ h | sent m _ _ hm hmp _ h | lost m _ _ hm hmp _ h =>
    subst h
    refine ⟨hr.vmPod, fun m' hm' _ => ?_⟩
    cases hm'
    exact hr.target m hm (by rw [hmp]; rfl)
  | arrive m _ _ hm hmp h =>
    -- the VM pod is the target pod now
    subst h
    exact ⟨fun _ => hr.target m hm (by rw [hmp]; rfl), fun m' hm' hmp' => by cases hm'; cases hmp'⟩

theorem Write.wellNamed {i : Proc} (h : Write i v r st) (hr : WellNamed r.status)
    (hdrawn : i = .controller → ∀ s, v.drawn = some s → s ≠ "") : WellNamed st := by
  cases i with
  | controller => exact CtrlWrite.wellNamed h hr (hdrawn rfl)
  | vmm u => exact VmmWrite.wellNamed h hr
  | daemon n => exact h.1.wellNamed hr

end wellNamed

/-- All names a status carries are in `l`. -/
def NamedIn (l : List String) (st : VMStatus) : Prop :=
  ∀ s ∈ st.named, s ≠ "" → s ∈ l

theorem NamedIn.mono {l l' : List String} {st : VMStatus} (h : NamedIn l st)
    (hl : ∀ s ∈ l, s ∈ l') : NamedIn l' st :=
  fun s hs hne => hl s (h s hs hne)

/-! ### The Invariant -/

/-- The VM pods belong to the current incarnation. -/
structure IncarnationInv (w : World) : Prop where
  /-- When the controller has seen that there are no VM pods, there are none. -/
  listed : (w.views .controller).pods = some [] → ∀ vm, w.vm = some vm →
    ∀ p ∈ w.pods, p.isControlledBy vm = false
  born : ∀ vm, w.vm = some vm → ∀ p ∈ w.pods, p.isControlledBy vm = true →
    w.born p.uid = w.incarnation
  named : ∀ vm, w.vm = some vm → ∀ p ∈ w.pods, p.isControlledBy vm = true →
    p.name ∈ w.podNames
  /-- The status is well named, -/
  status : ∀ vm, w.vm = some vm → WellNamed vm.status ∧ NamedIn w.podNames vm.status
  /-- and so is the one the controller has read. -/
  read : ∀ vm r, w.vm = some vm → (w.views .controller).vm = some r →
    WellNamed r.status ∧ NamedIn w.podNames r.status
  drawn : ∀ s, (w.views .controller).drawn = some s → s ≠ ""

/-- A move begins a new incarnation. -/
structure Restarts (w w' : World) : Prop where
  listed : (w.views .controller).pods = some []
  alive : ∃ vm, w.vm = some vm
  pods : w'.pods = w.pods
  /-- The controller holds the VM as it has written it. -/
  holds : ∀ r, (w'.views .controller).vm = some r → w'.vm = some r

section step
variable {w w' : World} {a : Action}

/-- A move begins a new incarnation, or the names only grow. -/
theorem VMChange.restarts_or (h : VMChange w a w') :
    Restarts w w' ∨ (w'.incarnation = w.incarnation ∧ ∀ s ∈ w.podNames, s ∈ w'.podNames) := by
  cases h with
  | same _ hb | gone _ hb | touched _ _ _ _ _ _ hb =>
    exact .inr ⟨hb.incarnation, fun s hs => by rw [hb.podNames]; exact hs⟩
  | patched action cur _ _ hw =>
    subst hw
    have hno : ¬ movesToPending cur.status { cur.status with powerAction := action } :=
      fun h => h.2 h.1
    refine .inr ⟨if_neg hno, fun s hs => List.mem_append_right _ ?_⟩
    rw [if_neg hno]; exact hs
  | written i x ch cur held _ hcur _ hwrite _ hheld hw =>
    subst hw
    by_cases hp : movesToPending cur.status x.status
    · obtain ⟨rfl, hnone, -⟩ := hwrite.pending hp
      refine .inl ⟨hnone, ⟨cur, hcur⟩, rfl, fun r hr => ?_⟩
      rw [World.release, World.see_views_self] at hr
      rw [hheld r hr]; rfl
    · refine .inr ⟨if_neg hp, fun s hs => List.mem_append_right _ ?_⟩
      rw [if_neg hp]; exact hs

theorem IncarnationInv.listed_step (hinv : IncarnationInv w) (hstore : StoreInv w) (hocc : Occ w)
    (hmove : Moved w a w') (hl : (w'.views .controller).pods = some []) {vm' : VM}
    (hvm' : w'.vm = some vm') {p' : Pod} (hp' : p' ∈ w'.pods) : p'.isControlledBy vm' = false := by
  obtain ⟨vm, hvm, huid⟩ := hmove.vmStep.uid hvm'
  have hkeep : (w.views .controller).pods = some [] → p'.isControlledBy vm' = false := by
    intro hl
    rcases hmove.podsChange.origin hp' with ⟨p, hp, hlater⟩ | ⟨hnew, -, -, -⟩
    · rw [Pod.isControlledBy_congr hlater.controller huid.symm]
      exact hinv.listed hl vm hvm p hp
    · rw [Pod.isControlledBy_congr rfl huid.symm]
      cases hnew with
      | foreign hown => exact hown vm hvm
      | created t r _ hcreate hc _ =>
        cases hcreate with
        | vmPod _ hpods _ _ _ => exact absurd hl hpods.1
        | target _ _ hpods _ _ _ _ => exact absurd hl hpods
        | volumePod q hq _ _ _ hown =>
          unfold Pod.isControlledBy
          rw [hc, hown]
          simpa using hstore.seen_not_vm vm q hvm hq
  rcases hmove.ctrlSees.pods_cases hl with ⟨hl, -⟩ | ⟨r, hr, hperm, hw⟩
  · exact hkeep hl
  · subst hw
    rw [Pod.isControlledBy_congr rfl huid.symm]
    cases hown : p'.isControlledBy vm with
    | false => rfl
    | true =>
      -- it would have been listed
      have hkind := hstore.kind vm hvm p' hp' hown
      have hru : r.uid = vm.uid := (hocc .controller r vm hr hvm).uid
      have hmem : p' ∈ w.pods.filter (·.vmUID == some r.uid) :=
        List.mem_filter.mpr ⟨hp', by rw [hkind, hru]; simp⟩
      rw [← hperm.mem_iff] at hmem
      cases hmem

/-- A VM pod was there before the move and has not changed its incarnation, or
    the controller creates it under a name it has read. -/
theorem IncarnationInv.pod_origin (hinv : IncarnationInv w) (hstore : StoreInv w) (hocc : Occ w)
    (hmove : Moved w a w') {vm' : VM} (hvm' : w'.vm = some vm') {p' : Pod} (hp' : p' ∈ w'.pods)
    (hown : p'.isControlledBy vm' = true) :
    (∃ vm p, w.vm = some vm ∧ p ∈ w.pods ∧ p.Later p' ∧ p.isControlledBy vm = true ∧
      w'.incarnation = w.incarnation ∧ ∀ s ∈ w.podNames, s ∈ w'.podNames) ∨
    (w' = w.addPod p' ∧ p'.name ≠ "" ∧ p'.name ∈ w.podNames) := by
  obtain ⟨vm, hvm, huid⟩ := hmove.vmStep.uid hvm'
  rcases hmove.podsChange.origin hp' with ⟨p, hp, hlater⟩ | ⟨hnew, -, -, hw⟩
  · rw [Pod.isControlledBy_congr hlater.controller huid.symm] at hown
    rcases (hmove.vmChange hocc).restarts_or with hre | ⟨hinc, hnames⟩
    · rw [hinv.listed hre.listed vm hvm p hp] at hown; cases hown
    · exact .inl ⟨vm, p, hvm, hp, hlater, hown, hinc, hnames⟩
  · refine .inr ⟨hw, ?_⟩
    rw [Pod.isControlledBy_congr rfl huid.symm] at hown
    cases hnew with
    | foreign hforeign => rw [hforeign vm hvm] at hown; cases hown
    | created t r hr hcreate hc hname =>
      obtain ⟨hwell, hnamed⟩ := hinv.read vm r hvm hr
      cases hcreate with
      | vmPod hphase _ _ htname _ =>
        have hne := hwell.vmPod (by rw [hphase]; rfl)
        rw [hname (by rw [htname]; exact hne), htname]
        exact ⟨hne, hnamed _ (.head _) hne⟩
      | target m _ _ hm hmp htname _ =>
        have hne := hwell.target m hm (by rw [hmp]; rfl)
        rw [hname (by rw [htname]; exact hne), htname]
        refine ⟨hne, hnamed _ ?_ hne⟩
        simp [VMStatus.named, hm]
      | volumePod q hq _ _ _ hown' =>
        exfalso
        unfold Pod.isControlledBy at hown
        rw [hc, hown'] at hown
        exact hstore.seen_not_vm vm q hvm hq (by simpa using hown)

theorem IncarnationInv.status_step (hinv : IncarnationInv w) (hocc : Occ w)
    (hmove : Moved w a w') {vm' : VM} (hvm' : w'.vm = some vm') :
    WellNamed vm'.status ∧ NamedIn w'.podNames vm'.status := by
  cases hmove.vmChange hocc with
  | same h hb => rw [hb.podNames]; exact hinv.status vm' (by rw [← h]; exact hvm')
  | gone h _ => rw [h] at hvm'; cases hvm'
  | touched cur new hcur hnew _ hst hb =>
    rw [hnew] at hvm'; cases hvm'
    rw [hb.podNames, hst]; exact hinv.status cur hcur
  | patched action cur _ hcur hw =>
    subst hw
    cases hvm'
    have hwell := (hinv.status cur hcur).1
    exact ⟨⟨hwell.vmPod, hwell.target⟩, fun s hs _ => List.mem_append_left _ hs⟩
  | written i x ch cur held _ hcur hread hwrite _ _ hw =>
    subst hw
    cases hvm'
    refine ⟨hwrite.wellNamed (hinv.status cur hcur).1 ?_, fun s hs _ => List.mem_append_left _ hs⟩
    rintro rfl
    exact hinv.drawn

theorem IncarnationInv.step (hinv : IncarnationInv w) (hstore : StoreInv w) (hocc : Occ w)
    (hmove : Moved w a w') : IncarnationInv w' where
  listed hl vm' hvm' p' hp' := hinv.listed_step hstore hocc hmove hl hvm' hp'
  born vm' hvm' p' hp' hown := by
    rcases hinv.pod_origin hstore hocc hmove hvm' hp' hown with
      ⟨vm, p, hvm, hp, hlater, hown, hinc, -⟩ | ⟨hw, -⟩
    · rw [hinc, hlater.uid, ← hinv.born vm hvm p hp hown]
      cases hmove.podsChange with
      | same _ _ hborn | changed _ _ _ hborn => rw [hborn]
      | dropped name hw => subst hw; rfl
      | added q _ hfresh _ hw =>
        subst hw
        exact setAt_ne _ _ fun h => hfresh (h ▸ hstore.pod_uid p hp)
    · subst hw
      exact setAt_self _ _ _
  named vm' hvm' p' hp' hown := by
    rcases hinv.pod_origin hstore hocc hmove hvm' hp' hown with
      ⟨vm, p, hvm, hp, hlater, hown, -, hnames⟩ | ⟨hw, -, hname⟩
    · rw [hlater.name]; exact hnames _ (hinv.named vm hvm p hp hown)
    · subst hw; exact hname
  status vm' hvm' := hinv.status_step hocc hmove hvm'
  read vm' r hvm' hr := by
    obtain ⟨vm, hvm, -⟩ := hmove.vmStep.uid hvm'
    rcases hmove.holdsCurrent .controller r hr with hold | hnow | ⟨-, hgone⟩
    · rcases (hmove.vmChange hocc).restarts_or with hre | ⟨-, hnames⟩
      · exact hinv.status_step hocc hmove (hre.holds r hr)
      · obtain ⟨hwell, hnamed⟩ := hinv.read vm r hvm hold
        exact ⟨hwell, hnamed.mono hnames⟩
    · exact hinv.status_step hocc hmove hnow
    · rw [hgone] at hvm'; cases hvm'
  drawn s hs := by
    cases hmove.ctrlSees with
    | same _ _ _ hdrawn => exact hinv.drawn s (by rw [← hdrawn]; exact hs)
    | fresh hview => rw [hview] at hs; cases hs
    | update _ _ _ _ hdrawn _ => exact hinv.drawn s (by rw [← hdrawn]; exact hs)
    | write held hview _ => rw [hview] at hs; cases hs
    | draw s' hne hw =>
      subst hw
      rw [World.see_views_self] at hs; cases hs
      exact hne
    | readVM _ _ _ _ hw | readPod _ _ hw | list _ _ _ _ hw =>
      subst hw
      simp only [World.hold, World.see_views_self] at hs
      exact hinv.drawn s hs

end step

theorem Reached.incarnationInv {nodeIP : String → String} {ok : World → Action → Prop} {w : World}
    (h : Reached nodeIP ok w) : IncarnationInv w := by
  refine Reached.invariant ?_ ?_ h
  · rintro w ⟨v, hst, -, rfl⟩
    exact {
      listed := fun h => by cases h
      born := fun vm _ p hp => by cases hp
      named := fun vm _ p hp => by cases hp
      status := fun vm hvm => by
        cases hvm
        rw [hst]
        exact ⟨⟨(fun h => by cases h), (fun m hm => by cases hm)⟩,
          fun s hs hne => absurd (by simpa [VMStatus.named] using hs) hne⟩
      read := fun vm r _ hr => by cases hr
      drawn := fun s hs => by cases hs }
  · intro w a w' hreach hinv _ hmove
    exact hinv.step hreach.storeInv hreach.occ hmove

/-! ### Incarnations Never Overlap -/

/-- A move to `Pending` begins a new incarnation. -/
theorem VMChange.restarts {w w' : World} {a : Action} (h : VMChange w a w') {vm vm' : VM}
    (hvm : w.vm = some vm) (hvm' : w'.vm = some vm')
    (hp : movesToPending vm.status vm'.status) : Restarts w w' := by
  cases h with
  | same h _ => rw [h, hvm] at hvm'; cases hvm'; exact absurd hp.1 hp.2
  | gone h _ => rw [h] at hvm'; cases hvm'
  | touched cur new hcur hnew _ hst _ =>
    rw [hcur] at hvm; rw [hnew] at hvm'; cases hvm; cases hvm'
    rw [hst] at hp
    exact absurd hp.1 hp.2
  | patched action cur _ hcur hw =>
    subst hw
    rw [hcur] at hvm; cases hvm; cases hvm'
    exact absurd hp.1 hp.2
  | written i x ch cur held _ hcur _ hwrite _ hheld hw =>
    subst hw
    rw [hcur] at hvm; cases hvm; cases hvm'
    obtain ⟨rfl, hnone, -⟩ := hwrite.pending hp
    refine ⟨hnone, ⟨vm, hcur⟩, rfl, fun r hr => ?_⟩
    rw [World.release, World.see_views_self] at hr
    rw [hheld r hr]; rfl

/-- The pod `p` had a name of this incarnation that the status does not carry
    any more. -/
def Former (w : World) (st : VMStatus) (p : Pod) : Prop :=
  p.name ∈ w.podNames ∧ p.name ∉ st.named

/-- Two VM pods are source and target of the migration, or one of them is a
    former one. -/
def Coexist (w : World) (st : VMStatus) (p q : Pod) : Prop :=
  (∃ m, st.migration = some m ∧
    (p.name = st.vmPodName ∧ q.name = m.targetVMPodName ∨
      q.name = st.vmPodName ∧ p.name = m.targetVMPodName)) ∨
  Former w st p ∨ Former w st q

/-- Two names of a status are the name of the VM pod and of the target pod. -/
theorem VMStatus.named_ne {st : VMStatus} {s t : String} (hs : s ∈ st.named) (ht : t ∈ st.named)
    (hne : s ≠ t) :
    ∃ m, st.migration = some m ∧
      (s = st.vmPodName ∧ t = m.targetVMPodName ∨ t = st.vmPodName ∧ s = m.targetVMPodName) := by
  cases hm : st.migration with
  | none =>
    simp only [VMStatus.named, hm, Option.map_none, Option.toList_none, List.mem_singleton]
      at hs ht
    exact absurd (hs.trans ht.symm) hne
  | some m =>
    simp only [VMStatus.named, hm, Option.map_some, Option.toList_some, List.mem_cons,
      List.not_mem_nil, or_false] at hs ht
    refine ⟨m, rfl, ?_⟩
    rcases hs with rfl | rfl <;> rcases ht with rfl | rfl
    · exact absurd rfl hne
    · exact .inl ⟨rfl, rfl⟩
    · exact .inr ⟨rfl, rfl⟩
    · exact absurd rfl hne

theorem IncarnationInv.coexist {w : World} (hinv : IncarnationInv w) (hstore : StoreInv w)
    {vm : VM} (hvm : w.vm = some vm) {p q : Pod} (hp : p ∈ w.pods) (hq : q ∈ w.pods)
    (hpo : p.isControlledBy vm = true) (hqo : q.isControlledBy vm = true) (hne : p ≠ q) :
    Coexist w vm.status p q := by
  by_cases hpn : p.name ∈ vm.status.named
  · by_cases hqn : q.name ∈ vm.status.named
    · exact .inl (VMStatus.named_ne hpn hqn fun h => hne (hstore.names p hp q hq h))
    · exact .inr (.inr ⟨hinv.named vm hvm q hq hqo, hqn⟩)
  · exact .inr (.inl ⟨hinv.named vm hvm p hp hpo, hpn⟩)

/-- **Incarnations never overlap**: when the VM moves to `Pending` it controls
    no pod, so every pod it controls was created in the current incarnation;
    and two of them are source and target, or one is a former one. -/
theorem incarnations_never_overlap {nodeIP : String → String} {c : Config}
    (h : Reachable (system nodeIP) Init c) {vm : VM} (hvm : c.store.vm = some vm) :
    (∀ a c' vm', Step (system nodeIP) c a c' → c'.store.vm = some vm' →
      movesToPending vm.status vm'.status →
      c'.store.pods = c.store.pods ∧ ∀ p ∈ c.store.pods, p.isControlledBy vm = false) ∧
    (∀ p ∈ c.store.pods, p.isControlledBy vm = true →
      c.store.born p.uid = c.store.incarnation) ∧
    (∀ p ∈ c.store.pods, ∀ q ∈ c.store.pods, p.isControlledBy vm = true →
      q.isControlledBy vm = true → p ≠ q → Coexist c.store vm.status p q) := by
  have hreached := reached_of_reach h
  have hinv := hreached.incarnationInv
  refine ⟨fun a c' vm' hstep hvm' hp => ?_, hinv.born vm hvm,
    fun p hp q hq hpo hqo hne => hinv.coexist hreached.storeInv hvm hp hq hpo hqo hne⟩
  have hre := ((moved_of_step h hstep).vmChange hreached.occ).restarts hvm hvm' hp
  exact ⟨hre.pods, hinv.listed hre.listed vm hvm⟩

/-- Source and target pod of the sample migration. -/
theorem incarnations_never_overlap_migrating :
    ∃ c vm p q, Reachable Sample.cluster Init c ∧ c.store.vm = some vm ∧
      p ∈ c.store.pods ∧ q ∈ c.store.pods ∧ p.isControlledBy vm = true ∧
      q.isControlledBy vm = true ∧ p ≠ q ∧ c.store.born p.uid = c.store.born q.uid ∧
      Coexist c.store vm.status p q := by
  obtain ⟨c, hreach, htest⟩ := Sample.reach anyStep Sample.targetReady
    (fun c => c.store.vm.any (fun vm => c.store.pods.any (fun p => c.store.pods.any (fun q =>
      p.isControlledBy vm && q.isControlledBy vm && p.name != q.name))))
    (by decide +kernel)
  obtain ⟨vm, hvm, htest⟩ := (Option.any_eq_true ..).mp htest
  obtain ⟨p, hp, htest⟩ := List.any_eq_true.mp htest
  obtain ⟨q, hq, htest⟩ := List.any_eq_true.mp htest
  simp only [Bool.and_eq_true, bne_iff_ne] at htest
  obtain ⟨⟨hpo, hqo⟩, hne⟩ := htest
  have hne : p ≠ q := fun h => hne (by rw [h])
  obtain ⟨-, hborn, hcoexist⟩ := incarnations_never_overlap hreach hvm
  exact ⟨c, vm, p, q, hreach, hvm, hp, hq, hpo, hqo, hne,
    (hborn p hp hpo).trans (hborn q hq hqo).symm, hcoexist p hp q hq hpo hqo hne⟩

end Virtink
