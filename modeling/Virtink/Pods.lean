import Virtink.Guarded

/-! # Pods

    What a move does to the pods (`PodsChange`) and to what the VM controller
    has seen (`CtrlSees`), and the invariants of the store that follow: UIDs
    are unique, names are unique among the pods that exist, and a pod the VM
    controls by UID is a VM pod. `Was` is the history of bound pods, and
    `Drift` says how far the phase of the VM moves without the controller.
-/

namespace Virtink

open Calls

/-! ### What a Move Does to the Pods -/

/-- Where a new pod comes from. -/
inductive NewPod (w : World) (p : Pod) : Prop where
  /-- The controller creates it. -/
  | created (t : PodTemplate) (r : VM) (hr : (w.views .controller).vm = some r)
      (hcreate : CtrlCreate (w.views .controller) r t) (hown : p.controller = t.controller)
      (hname : t.name ≠ "" → p.name = t.name)
  /-- Somebody else creates it. -/
  | foreign (hown : ∀ vm, w.vm = some vm → p.isControlledBy vm = false)

/-- What a move does to the pods. -/
inductive PodsChange (w w' : World) : Prop where
  | same (hpods : w'.pods = w.pods) (hpast : w'.past = w.past) (hborn : w'.born = w.born)
  | changed {f : Pod → Pod} (hf : ∀ p : Pod, p.Later (f p)) (hpods : w'.pods = w.pods.map f)
      (hpast : w'.past = w.past) (hborn : w'.born = w.born)
  | dropped (name : String) (hw : w' = w.removePod name)
  | added (p : Pod) (hnew : NewPod w p) (huid : p.uid ∉ w.uids)
      (hname : w.findPod p.name = none) (hw : w' = w.addPod p)

theorem Effect.podsChange {i : Proc} {o : Op} {w w' : World} (hg : guard i o (w.views i))
    (h : Effect i w o w') : PodsChange w w' := by
  cases h with
  | @createPod t uid suffix extra huid hname =>
    cases i with
    | controller =>
      obtain ⟨r, hr, hcreate⟩ := hg
      exact .added _ (.created t r hr hcreate rfl fun hne => if_neg hne) huid hname rfl
    | vmm u => exact hg.elim
    | daemon n => exact hg.elim
  | @markPod name => exact .changed (.markedAt w.now name) rfl rfl rfl
  | @removePod name => exact .dropped name rfl
  | _ => exact .same rfl rfl rfl

theorem Happening.podsChange {e : Event} {w w' : World} (h : Happening w e w') :
    PodsChange w w' := by
  cases h with
  | changePods _ hf => exact .changed hf rfl rfl rfl
  | @dropPod name => exact .dropped name rfl
  | @newPod p huid hname hown => exact .added p (.foreign hown) huid hname rfl
  | @sendCompletes k x _ _ =>
    exact .changed (f := fun p => if p.uid = x.pod then p.handOver else p)
      (fun p => .ite (.handOver p)) rfl rfl rfl
  | _ => exact .same rfl rfl rfl

theorem Moved.podsChange {w w' : World} {a : Action} (h : Moved w a w') : PodsChange w w' := by
  cases h with
  | start i _ => exact .same rfl rfl rfl
  | finish i _ => exact .same rfl rfl rfl
  | crash i => cases i <;> exact .same rfl rfl rfl
  | call i o ch hg _ heff => exact heff.podsChange hg
  | event e hev => exact hev.podsChange

/-- A pod was there before, or it is new. -/
theorem PodsChange.origin {w w' : World} (h : PodsChange w w') {p' : Pod} (hp' : p' ∈ w'.pods) :
    (∃ p ∈ w.pods, p.Later p') ∨
      (NewPod w p' ∧ p'.uid ∉ w.uids ∧ w.findPod p'.name = none ∧ w' = w.addPod p') := by
  cases h with
  | same hpods _ _ => exact .inl ⟨p', by rw [← hpods]; exact hp', .refl p'⟩
  | changed hf hpods _ _ =>
    rw [hpods] at hp'
    obtain ⟨p, hp, rfl⟩ := List.mem_map.mp hp'
    exact .inl ⟨p, hp, hf p⟩
  | dropped name hw =>
    subst hw
    exact .inl ⟨p', (List.mem_filter.mp hp').1, .refl p'⟩
  | added p hnew huid hname hw =>
    subst hw
    rcases List.mem_append.mp hp' with hp' | hp'
    · exact .inl ⟨p', hp', .refl p'⟩
    · rw [List.mem_singleton] at hp'; subst hp'
      exact .inr ⟨hnew, huid, hname, rfl⟩

/-! ### Bound Pods -/

/-- There is or was a pod of that name and UID on that node. -/
def Was (w : World) (name : String) (uid : UID) (node : String) : Prop :=
  node ≠ "" ∧ ∃ p, (p ∈ w.pods ∨ p ∈ w.past) ∧ p.name = name ∧ p.uid = uid ∧ p.nodeName = node

theorem Was.of_mem {w : World} {p : Pod} (hp : p ∈ w.pods) (hnode : p.nodeName ≠ "") :
    Was w p.name p.uid p.nodeName :=
  ⟨hnode, p, .inl hp, rfl, rfl, rfl⟩

/-- Nothing that was is undone. -/
theorem PodsChange.was {w w' : World} (h : PodsChange w w') {name : String} {uid : UID}
    {node : String} (hwas : Was w name uid node) : Was w' name uid node := by
  obtain ⟨hnode, p, hp, rfl, rfl, rfl⟩ := hwas
  refine ⟨hnode, ?_⟩
  cases h with
  | same hpods hpast _ => exact ⟨p, by rw [hpods, hpast]; exact hp, rfl, rfl, rfl⟩
  | changed hf hpods hpast _ =>
    rcases hp with hp | hp
    · have hl := hf p
      exact ⟨_, .inl (by rw [hpods]; exact List.mem_map_of_mem hp), hl.name, hl.uid,
        hl.node hnode⟩
    · exact ⟨p, .inr (by rw [hpast]; exact hp), rfl, rfl, rfl⟩
  | dropped name hw =>
    subst hw
    refine ⟨p, ?_, rfl, rfl, rfl⟩
    rcases hp with hp | hp
    · by_cases hn : p.name = name
      · exact .inr (List.mem_append_left _ (List.mem_filter.mpr ⟨hp, by simpa using hn⟩))
      · exact .inl (List.mem_filter.mpr ⟨hp, by simpa using hn⟩)
    · exact .inr (List.mem_append_right _ hp)
  | added q _ _ _ hw =>
    subst hw
    exact ⟨p, hp.imp_left (List.mem_append_left _), rfl, rfl, rfl⟩

/-! ### What the VM Controller Sees -/

/-- What a move does to what the VM controller has seen of the VM and of its
    pods. -/
inductive CtrlSees (w w' : World) : Prop where
  | same (hvm : (w'.views .controller).vm = (w.views .controller).vm)
      (hpod : (w'.views .controller).pod = (w.views .controller).pod)
      (hpods : (w'.views .controller).pods = (w.views .controller).pods)
      (hdrawn : (w'.views .controller).drawn = (w.views .controller).drawn)
  | fresh (hview : w'.views .controller = {})
  /-- The VM is read, before anything else. -/
  | readVM (cur : VM) (hcur : w.vm = some cur) (hpod : (w.views .controller).pod = none)
      (hpods : (w.views .controller).pods = none) (hw : w' = w.hold .controller (some cur))
  /-- The finalizers are written, before any pod is got. -/
  | update (hnow : w'.vm = none ∨ (w'.views .controller).vm = (w.views .controller).vm ∨
        (w'.views .controller).vm = w'.vm)
      (hpod : (w'.views .controller).pod = none)
      (hpods : (w'.views .controller).pods = (w.views .controller).pods)
      (hnone : ∀ l, (w.views .controller).pods = some l → l = [])
      (hdrawn : (w'.views .controller).drawn = (w.views .controller).drawn)
      (hstore : w'.pods = w.pods)
  /-- The status is written, and everything seen before is forgotten. -/
  | write (held : Option VM)
      (hview : w'.views .controller = { vm := held, vmm := (w.views .controller).vmm })
      (hnow : ∀ c, held = some c → w'.vm = some c)
  | readPod (p : Pod) (hp : w.findPod p.name = some p)
      (hw : w' = w.see .controller { w.views .controller with pod := some p })
  | list (r : VM) (l : List Pod) (hr : (w.views .controller).vm = some r)
      (hl : l.Perm (w.pods.filter (·.vmUID == some r.uid)))
      (hw : w' = w.see .controller { w.views .controller with pods := some l })
  | draw (s : String) (hs : s ≠ "")
      (hw : w' = { w with names := s :: w.names }.see .controller
        { w.views .controller with drawn := some s })

theorem Moved.ctrlSees {w w' : World} {a : Action} (h : Moved w a w') : CtrlSees w w' := by
  rcases h.view .controller with hv | ⟨hv, -⟩ | ⟨o, ch, -, hg, heff⟩
  · exact .same (by rw [hv]) (by rw [hv]) (by rw [hv]) (by rw [hv])
  · exact .fresh hv
  · cases heff with
    | @readVM v hvm => exact .readVM v hvm hg.1 hg.2 rfl
    | @keepStatus _ held hheld =>
      exact .write held (World.see_views_self ..) hheld
    | @writeStatus _ cur held _ _ _ hheld =>
      exact .write held (World.see_views_self ..) fun c hc => by rw [hheld c hc]; rfl
    | @keepFinalizers _ cur hvm =>
      refine .update (.inr (.inr ?_)) ?_ ?_ hg.2.1 ?_ rfl <;>
        simp only [World.hold, World.see_views_self]
      · exact hvm.symm
      · exact hg.1
    | @writeFinalizers _ cur held hvm _ _ hheld =>
      refine .update (.inr ?_) ?_ ?_ hg.2.1 ?_ rfl <;>
        simp only [World.hold, World.see_views_self, World.replace]
      · exact hheld.imp_right fun h => by rw [h]; rfl
      · exact hg.1
    | removeVM _ _ _ _ =>
      refine .update (.inl rfl) ?_ ?_ hg.2.1 ?_ rfl <;> simp only [World.hold, World.see_views_self]
      exact hg.1
    | @readPod name p hp =>
      have hname : p.name = name := by simpa using List.find?_some hp
      subst hname
      exact .readPod p hp rfl
    | @listVMPods uid l hl =>
      obtain ⟨r, hr, rfl⟩ := hg
      exact .list r l hr hl rfl
    | @draw base s hs => exact .draw s hs rfl
    | same | createPod _ _ | markPod | removePod => exact .same rfl rfl rfl rfl
    | keepVMM | writeVMM _ _ => exact hg.elim
    | _ => refine .same ?_ ?_ ?_ ?_ <;> simp only [World.see_views_self]

/-- A pod that the controller has got was got before, with the same VM held, or
    has just been read. -/
theorem CtrlSees.pod_cases {w w' : World} (h : CtrlSees w w') {p : Pod}
    (hp : (w'.views .controller).pod = some p) :
    ((w'.views .controller).vm = (w.views .controller).vm ∧
      (w.views .controller).pod = some p) ∨
    (w.findPod p.name = some p ∧
      w' = w.see .controller { w.views .controller with pod := some p }) := by
  cases h with
  | same hvm hpod _ _ => exact .inl ⟨hvm, by rw [← hpod]; exact hp⟩
  | fresh hview => rw [hview] at hp; cases hp
  | readVM cur _ hpod _ hw =>
    subst hw
    rw [World.hold, World.see_views_self] at hp
    rw [hpod] at hp; cases hp
  | update _ hpod _ _ _ _ => rw [hpod] at hp; cases hp
  | write held hview _ => rw [hview] at hp; cases hp
  | readPod q hq hw =>
    subst hw
    rw [World.see_views_self] at hp; cases hp
    exact .inr ⟨hq, rfl⟩
  | list _ _ _ _ hw | draw _ _ hw =>
    subst hw
    rw [World.see_views_self] at hp ⊢
    exact .inl ⟨rfl, hp⟩

/-- A list of pods that the controller has got was got before, with the same VM
    held if it is not empty, or is what it has just listed. -/
theorem CtrlSees.pods_cases {w w' : World} (h : CtrlSees w w') {l : List Pod}
    (hl : (w'.views .controller).pods = some l) :
    ((w.views .controller).pods = some l ∧
      ((w'.views .controller).vm = (w.views .controller).vm ∨ l = [])) ∨
      ∃ r, (w.views .controller).vm = some r ∧
        l.Perm (w.pods.filter (·.vmUID == some r.uid)) ∧
        w' = w.see .controller { w.views .controller with pods := some l } := by
  cases h with
  | same hvm _ hpods _ => exact .inl ⟨by rw [← hpods]; exact hl, .inl hvm⟩
  | update _ _ hpods hnone _ _ =>
    rw [hpods] at hl
    exact .inl ⟨hl, .inr (hnone l hl)⟩
  | fresh hview => rw [hview] at hl; cases hl
  | write held hview _ => rw [hview] at hl; cases hl
  | readVM _ _ _ hpods hw =>
    subst hw
    simp only [World.hold, World.see_views_self] at hl
    rw [hpods] at hl; cases hl
  | readPod _ _ hw | draw _ _ hw =>
    subst hw
    rw [World.see_views_self] at hl
    exact .inl ⟨hl, .inl (by rw [World.see_views_self])⟩
  | list r l' hr hperm hw =>
    subst hw
    rw [World.see_views_self] at hl
    obtain rfl : l' = l := Option.some.inj hl
    exact .inr ⟨r, hr, hperm, rfl⟩

/-! ### The Phase of the VM -/

/-- The phase of the VM moves from `p` to `q` without the VM controller. -/
def Drift (p q : VMPhase) : Prop :=
  q = p ∨ q = .succeeded ∨ (p = .scheduled ∧ (q = .running ∨ q = .failed))

theorem Drift.trans {p q r : VMPhase} (hpq : Drift p q) (hqr : Drift q r) : Drift p r := by
  unfold Drift at *
  grind

theorem VmmWrite.phase {u : UID} {v : View} {r : VM} {st : VMStatus} (h : VmmWrite u v r st) :
    st.phase = r.status.phase := by
  cases h with
  | release _ _ _ _ _ _ _ _ h => rw [h]
  | acquire _ _ _ _ _ _ h => rw [h]

theorem DaemonWrite.drift {n : String} {v : View} {r : VM} {st : VMStatus}
    (h : DaemonWrite n v r st) : Drift r.status.phase st.phase := by
  cases h with
  | volumes _ h => rw [VMStatus.phase_of_core h]; exact .inl rfl
  | boot ph _ hphase hph h =>
    rw [VMStatus.phase_of_core h, hphase]
    exact .inr (.inr ⟨rfl, hph⟩)
  | target _ _ _ _ _ _ _ _ _ h => rw [VMStatus.phase_of_core h]; exact .inl rfl
  | bury _ h => exact .inr (.inl (by rw [h]))
  | stop _ _ _ h => exact .inr (.inl (by rw [h]))
  | same h | power _ _ _ h | send _ _ _ _ _ _ _ _ _ _ _ h | sent _ _ _ _ _ _ h
  | lost _ _ _ _ _ _ h | arrive _ _ _ _ _ h => rw [h]; exact .inl rfl

/-- Only the controller moves the phase further than `Drift`. -/
theorem Write.drift {i : Proc} {v : View} {r : VM} {st : VMStatus} (h : Write i v r st)
    (hi : i ≠ .controller) : Drift r.status.phase st.phase := by
  cases i with
  | controller => exact absurd rfl hi
  | vmm u => exact .inl (VmmWrite.phase h)
  | daemon n => exact h.1.drift

/-- A VM is moved to `Pending` by the controller, which has seen no VM pods and
    has found that the VM is to run; it resets the whole status. -/
theorem Write.pending {i : Proc} {v : View} {r : VM} {st : VMStatus} (h : Write i v r st)
    (hp : movesToPending r.status st) :
    i = .controller ∧ v.pods = some [] ∧ VMController.shouldRun r = true ∧
      st = { phase := .pending } := by
  obtain ⟨hp, hne⟩ := hp
  by_cases hi : i = .controller
  · subst hi
    refine ⟨rfl, ?_⟩
    cases h with
    | same h => exact absurd ((VMStatus.phase_of_core h).symm.trans hp) hne
    | name _ _ _ h => exact absurd ((VMStatus.phase_of_core h).symm.trans hp) nofun
    | pod p ph hphase _ _ _ hph h =>
      have hph' : ph = .pending := (VMStatus.phase_of_core h).symm.trans hp
      cases hph with
      | same => exact absurd hph' hne
      | _ => cases hph'
    | lost _ h => exact absurd ((VMStatus.phase_of_core h).symm.trans hp) nofun
    | stop ph _ hph h =>
      have hph' : ph = .pending := (VMStatus.phase_of_core h).symm.trans hp
      subst hph'
      rcases hph with h | h | ⟨h, -⟩ <;> cases h
    | target _ _ _ _ _ _ h => exact absurd ((VMStatus.phase_of_core h).symm.trans hp) hne
    | targetPod _ _ _ _ _ _ _ _ _ _ _ h =>
      exact absurd ((VMStatus.phase_of_core h).symm.trans hp) hne
    | reset ph _ hnone hph h =>
      subst h
      rcases hph with rfl | ⟨rfl, hrun⟩
      · exact absurd hp hne
      · exact ⟨hnone, hrun, rfl⟩
  · rcases h.drift hi with h | h | ⟨-, h | h⟩
    · exact absurd (h.symm.trans hp) hne
    all_goals rw [hp] at h; cases h

/-! ### The Store -/

theorem World.findPod_mem {w : World} {name : String} {p : Pod} (h : w.findPod name = some p) :
    p ∈ w.pods ∧ p.name = name :=
  ⟨List.mem_of_find?_eq_some h, by simpa using List.find?_some h⟩

theorem World.not_mem_of_findPod {w : World} {name : String} (h : w.findPod name = none) :
    ∀ p ∈ w.pods, p.name ≠ name := by
  intro p hp
  simpa using List.find?_eq_none.mp h p hp

/-- UIDs and names in the store. -/
structure StoreInv (w : World) : Prop where
  vm_uid : ∀ vm, w.vm = some vm → vm.uid ∈ w.uids
  pod_uid : ∀ p ∈ w.pods, p.uid ∈ w.uids
  /-- No pod has the UID of the VM, -/
  not_vm : ∀ vm, w.vm = some vm → ∀ p ∈ w.pods, p.uid ≠ vm.uid
  /-- nor has one the controller has seen. -/
  seen_not_vm : ∀ vm p, w.vm = some vm → (w.views .controller).pod = some p → p.uid ≠ vm.uid
  /-- Names are unique. -/
  names : ∀ p ∈ w.pods, ∀ q ∈ w.pods, p.name = q.name → p = q
  /-- Pods the VM controls are listed as VM pods. -/
  kind : ∀ vm, w.vm = some vm → ∀ p ∈ w.pods, p.isControlledBy vm = true →
    p.vmUID = some vm.uid

theorem VMStep.uid {w w' : World} (h : VMStep w w') {vm' : VM} (hvm' : w'.vm = some vm') :
    ∃ vm, w.vm = some vm ∧ vm.uid = vm'.uid := by
  cases h with
  | same h => exact ⟨vm', by rw [← h]; exact hvm', rfl⟩
  | gone h => rw [h] at hvm'; cases hvm'
  | newer cur new hcur hnew hn =>
    rw [hnew] at hvm'; cases hvm'
    exact ⟨cur, hcur, hn.uid.symm⟩

theorem Pod.isControlledBy_congr {p q : Pod} {vm vm' : VM} (hc : q.controller = p.controller)
    (hu : vm'.uid = vm.uid) : q.isControlledBy vm' = p.isControlledBy vm := by
  unfold Pod.isControlledBy; rw [hc, hu]

theorem isControlledBy_of_vmUID {p : Pod} {vm : VM} (h : p.vmUID = some vm.uid) :
    p.isControlledBy vm = true := by
  unfold Pod.vmUID at h
  split at h
  · next r hr =>
    split at h
    · simp [Pod.isControlledBy, hr, Option.some.inj h]
    · cases h
  · cases h

/-- What the controller creates is controlled by the VM as a VM pod, or by a
    pod the controller has seen. -/
theorem CtrlCreate.owner {v : View} {r : VM} {t : PodTemplate} (h : CtrlCreate v r t) :
    t.controller = some ⟨.virtualMachine, r.uid⟩ ∨
      ∃ p, v.pod = some p ∧ t.controller = some ⟨.pod, p.uid⟩ := by
  cases h with
  | vmPod _ _ _ _ hown => exact .inl hown
  | target _ _ _ _ _ _ hown => exact .inl hown
  | volumePod p hp _ _ _ hown => exact .inr ⟨p, hp, hown⟩

section store
variable {w w' : World} {a : Action}

theorem StoreInv.names_step (hinv : StoreInv w) (h : PodsChange w w') :
    ∀ p ∈ w'.pods, ∀ q ∈ w'.pods, p.name = q.name → p = q := by
  cases h with
  | same hpods _ _ => rw [hpods]; exact hinv.names
  | changed hf hpods _ _ =>
    rw [hpods]
    intro p' hp' q' hq' heq
    obtain ⟨p, hp, rfl⟩ := List.mem_map.mp hp'
    obtain ⟨q, hq, rfl⟩ := List.mem_map.mp hq'
    rw [(hf p).name, (hf q).name] at heq
    rw [hinv.names p hp q hq heq]
  | dropped name hw =>
    subst hw
    exact fun p hp q hq =>
      hinv.names p (List.mem_filter.mp hp).1 q (List.mem_filter.mp hq).1
  | added x _ _ hname hw =>
    subst hw
    have hother := World.not_mem_of_findPod hname
    intro p hp q hq heq
    rcases List.mem_append.mp hp with hold | hx <;> rcases List.mem_append.mp hq with hold' | hx'
    · exact hinv.names p hold q hold' heq
    · rw [List.mem_singleton] at hx'; subst hx'
      exact absurd heq (hother p hold)
    · rw [List.mem_singleton] at hx; subst hx
      exact absurd heq.symm (hother q hold')
    · rw [List.mem_singleton] at hx hx'; rw [hx, hx']

theorem StoreInv.kind_step (hinv : StoreInv w) (hocc : Occ w) (hmove : Moved w a w') {vm' : VM}
    (hvm' : w'.vm = some vm') {p' : Pod} (hp' : p' ∈ w'.pods)
    (hown : p'.isControlledBy vm' = true) : p'.vmUID = some vm'.uid := by
  obtain ⟨vm, hvm, huid⟩ := hmove.vmStep.uid hvm'
  rcases hmove.podsChange.origin hp' with ⟨p, hp, hl⟩ | ⟨hnew, -, -, hw⟩
  · rw [Pod.isControlledBy_congr hl.controller huid.symm] at hown
    have := hinv.kind vm hvm p hp hown
    unfold Pod.vmUID at this ⊢
    rw [hl.controller, ← huid]; exact this
  · cases hnew with
    | created t r hr hcreate hc _ =>
      have hru : r.uid = vm.uid := (hocc .controller r vm hr hvm).uid
      rcases hcreate.owner with h | ⟨q, hq, h⟩
      · unfold Pod.vmUID
        rw [hc, h, ← huid, hru]; rfl
      · -- a volume pod: its owner is a pod, so it is not the VM
        exfalso
        unfold Pod.isControlledBy at hown
        rw [hc, h, ← huid] at hown
        exact hinv.seen_not_vm vm q hvm hq (by simpa using hown)
    | foreign hforeign =>
      have := hforeign vm hvm
      rw [Pod.isControlledBy_congr rfl huid.symm, this] at hown
      cases hown

theorem StoreInv.step (hinv : StoreInv w) (hocc : Occ w) (hmove : Moved w a w') : StoreInv w' where
  vm_uid vm' hvm' := by
    obtain ⟨vm, hvm, huid⟩ := hmove.vmStep.uid hvm'
    rw [← huid]; exact hmove.uids (hinv.vm_uid vm hvm)
  pod_uid p' hp' := by
    rcases hmove.podsChange.origin hp' with ⟨p, hp, hl⟩ | ⟨-, -, -, hw⟩
    · rw [hl.uid]; exact hmove.uids (hinv.pod_uid p hp)
    · subst hw; exact .head _
  not_vm vm' hvm' p' hp' := by
    obtain ⟨vm, hvm, huid⟩ := hmove.vmStep.uid hvm'
    rcases hmove.podsChange.origin hp' with ⟨p, hp, hl⟩ | ⟨-, hfresh, -, -⟩
    · rw [hl.uid, ← huid]; exact hinv.not_vm vm hvm p hp
    · rintro h
      exact hfresh (by rw [h, ← huid]; exact hinv.vm_uid vm hvm)
  seen_not_vm vm' p hvm' hp := by
    obtain ⟨vm, hvm, huid⟩ := hmove.vmStep.uid hvm'
    rw [← huid]
    rcases hmove.ctrlSees.pod_cases hp with ⟨-, hp⟩ | ⟨hread, -⟩
    · exact hinv.seen_not_vm vm p hvm hp
    · exact hinv.not_vm vm hvm p (World.findPod_mem hread).1
  names := hinv.names_step hmove.podsChange
  kind vm' hvm' p' hp' hown := hinv.kind_step hocc hmove hvm' hp' hown

end store

theorem Reached.storeInv {nodeIP : String → String} {ok : World → Action → Prop} {w : World}
    (h : Reached nodeIP ok w) : StoreInv w := by
  refine Reached.invariant ?_ ?_ h
  · rintro w ⟨v, -, -, rfl⟩
    exact {
      vm_uid := fun vm hvm => by cases hvm; exact .head _
      pod_uid := fun p hp => by cases hp
      not_vm := fun vm _ p hp => by cases hp
      seen_not_vm := fun vm p _ hp => by cases hp
      names := fun p hp => by cases hp
      kind := fun vm _ p hp => by cases hp }
  · intro w a w' hreach hinv _ hmove
    exact hinv.step hreach.occ hmove

end Virtink
