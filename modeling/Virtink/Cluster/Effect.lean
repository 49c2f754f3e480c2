import Virtink.Cluster.Semantics

/-! # The Effects of Calls

    `Effect` is the inversion of `World.answer`: everything a call can do to
    the world, one constructor per kind of change. Proofs about the store go
    through it and never unfold `answer`.
-/

namespace Virtink

open Calls

/-- `Effect i w o w'`: the call `o` of process `i` can turn `w` into `w'`. -/
inductive Effect (i : Proc) (w : World) : Op → World → Prop where
  /-- Nothing changes. -/
  | same (o : Op) : Effect i w o w
  | readVM {v : VM} (hvm : w.vm = some v) : Effect i w .getVM (w.hold i (some v))
  | missVM (hvm : w.vm = none) : Effect i w .getVM (w.see i { w.views i with gone := true })
  /-- A status write that was refused or changed nothing. -/
  | keepStatus {v : VM} {held : Option VM} (hheld : ∀ c, held = some c → w.vm = some c) :
      Effect i w (.updateVMStatus v) (w.release i held)
  | writeStatus {v cur : VM} {held : Option VM} (hvm : w.vm = some cur)
      (hrv : v.resourceVersion = cur.resourceVersion) (hne : cur.status ≠ v.status)
      (hheld : ∀ c, held = some c → c = { cur with
        status := v.status, resourceVersion := cur.resourceVersion + 1 }) :
      Effect i w (.updateVMStatus v) ((w.commit cur v.status).release i held)
  /-- A write of the finalizers that changed nothing. -/
  | keepFinalizers {v cur : VM} (hvm : w.vm = some cur) :
      Effect i w (.updateVM v) (w.hold i (some cur))
  | writeFinalizers {v cur : VM} {held : Option VM} (hvm : w.vm = some cur)
      (hrv : v.resourceVersion = cur.resourceVersion) (hne : cur.finalizers ≠ v.finalizers)
      (hheld : held = (w.views i).vm ∨ held = some { cur with
        finalizers := v.finalizers, resourceVersion := cur.resourceVersion + 1 }) :
      Effect i w (.updateVM v) ((w.replace { cur with finalizers := v.finalizers }).hold i held)
  /-- The last finalizer of a VM that is being deleted is removed. -/
  | removeVM {v cur : VM} {held : Option VM} (hvm : w.vm = some cur)
      (hrv : v.resourceVersion = cur.resourceVersion) (hne : cur.finalizers ≠ v.finalizers)
      (hdel : cur.deletionTimestamp.isSome) :
      Effect i w (.updateVM v) ({ w with vm := none }.hold i held)
  | readVMM {u : UID} {m : VMM} (hm : w.findVMM u = some m) :
      Effect i w (.getVMM u) (w.see i { w.views i with vmm := some m })
  /-- A status write of a migration that was refused or changed nothing. -/
  | keepVMM {m : VMM} : Effect i w (.updateVMMStatus m) (w.see i {})
  | writeVMM {m cur : VMM} (hm : w.findVMM m.uid = some cur)
      (hrv : m.resourceVersion = cur.resourceVersion) :
      Effect i w (.updateVMMStatus m) ((w.commitVMM cur.uid m.status).see i {})
  | readPod {name : String} {p : Pod} (hp : w.findPod name = some p) :
      Effect i w (.getPod name) (w.see i { w.views i with pod := some p })
  | listVMPods {uid : UID} {l : List Pod}
      (hl : l.Perm (w.pods.filter (·.vmUID == some uid))) :
      Effect i w (.listVMPods uid) (w.see i { w.views i with pods := some l })
  | createPod {t : PodTemplate} {uid : UID} {suffix : String} {extra : List PodVolume}
      (huid : uid ∉ w.uids) (hname : w.findPod (w.podOf t uid suffix extra).name = none) :
      Effect i w (.createPod t) (w.addPod (w.podOf t uid suffix extra))
  | markPod {name : String} {cause : Cause} :
      Effect i w (.deletePod name cause) (w.mapPods (World.markedAt w.now name))
  | removePod {name : String} {cause : Cause} :
      Effect i w (.deletePod name cause) (w.removePod name)
  | draw {base s : String} (hs : s ≠ "") :
      Effect i w (.generateName base)
        ({ w with names := s :: w.names }.see i { w.views i with drawn := some s })
  | power {n : String} {pod : UID} {c : HypervisorCall} (hi : i = .daemon n) :
      Effect i w (.hypervisor pod c .powerAction)
        ({ w with powerCalls := w.powerCalls + 1 }.see i { w.views i with acted := .powered })
  | look {n : String} (hi : i = .daemon n) :
      Effect i w .getControlBlock
        (w.see i { w.views i with block := some ((w.memory n).getD {}) })
  | setBlock {n : String} {b : ControlBlock} (hi : i = .daemon n) :
      Effect i w (.setControlBlock b)
        ({ w with memory := setAt w.memory n (some b) }.see i { w.views i with saved := some b })
  | deleteBlock {n : String} (hi : i = .daemon n) :
      Effect i w .deleteControlBlock
        ({ w with memory := setAt w.memory n none }.see i
          { w.views i with saved := none, acted := .closed })
  | relay {n : String} {ctx : Nat} {pod : UID} {ip : String} {port : Nat} {u : UID}
      (hi : i = .daemon n) :
      Effect i w (.relaySocketToTCP ctx pod ip port u)
        ({ w with relays := u :: w.relays }.see i { w.views i with acted := .relayed })
  | send {n : String} {pod : UID} {source : String} {ctx : Nat} {u : UID} (hi : i = .daemon n) :
      Effect i w (.startSend pod source ctx u)
        ((w.addSend { migration := u, source := source, pod := pod }).see i
          { w.views i with acted := .sent, channel := some w.sends.length })
  | sendFailed {k : Nat} {x : Send} (hx : w.sends[k]? = some x) (hf : x.state = .failed) :
      Effect i w (.pollSend k) (w.see i { w.views i with failed := some k })

/-! ### Inversion -/

theorem setAt_eq_self {ι α : Type} [DecidableEq ι] (f : ι → α) (i : ι) : setAt f i (f i) = f := by
  funext j
  by_cases h : j = i
  · subst h; simp
  · simp [h]

/-- Listed pods are the stored ones in some order. -/
theorem Choice.perm_of_askPods {ch : Choice} {l l' : List Pod}
    (h : ch.askPods l = some (.ok l')) : l'.Perm l := by
  unfold askPods at h
  split at h
  · split at h
    · next hp => cases h; exact List.isPerm_iff.mp hp
    · cases h
  · cases h
  · cases h; exact .refl _

namespace World

variable {i : Proc} {w w' : World} {ch : Choice}

theorem putStatus_cases (cur : VM) (st : VMStatus) :
    (cur.status = st ∧ w.putStatus cur st = w ∧ withStatus cur st = cur) ∨
    (cur.status ≠ st ∧ w.putStatus cur st = w.commit cur st ∧
      withStatus cur st =
        { cur with status := st, resourceVersion := cur.resourceVersion + 1 }) := by
  unfold putStatus withStatus
  split
  · next h => exact .inl ⟨h, rfl, rfl⟩
  · next h => exact .inr ⟨h, rfl, rfl⟩

@[simp] theorem withStatus_status (cur : VM) (st : VMStatus) :
    (withStatus cur st).status = st := by
  unfold withStatus
  split
  · assumption
  · rfl

theorem putStatus_views (cur : VM) (st : VMStatus) : (w.putStatus cur st).views = w.views := by
  unfold putStatus
  split <;> rfl

theorem putStatus_vm {cur : VM} {st : VMStatus} (h : w.vm = some cur) :
    (w.putStatus cur st).vm = some (withStatus cur st) := by
  rcases putStatus_cases (w := w) cur st with ⟨_, hp, hc⟩ | ⟨_, hp, hc⟩
  · rw [hp, hc, h]
  · rw [hp, hc]; rfl

theorem updateStatus_effect {v : VM} {a : Except ApiError VM}
    (h : w.updateStatus i v ch = (a, w')) : Effect i w (.updateVMStatus v) w' := by
  unfold updateStatus at h
  split at h
  · cases h; exact .keepStatus (fun _ hc => by cases hc)
  · next cur hvm =>
    split at h
    · cases h; exact .keepStatus (fun _ hc => by cases hc)
    · next hrv =>
      have hrv : v.resourceVersion = cur.resourceVersion := by simpa using hrv
      rcases putStatus_cases (w := w) cur v.status with ⟨_, hp, hc⟩ | ⟨hne, hp, hc⟩
      · simp only [hp, hc] at h
        split at h
        · cases h; exact .keepStatus (fun _ hc => by cases hc)
        · cases h; exact .keepStatus (fun _ hc => by cases hc)
        · cases h; exact .keepStatus (fun c hc => by cases hc; exact hvm)
      · simp only [hp, hc] at h
        split at h
        · cases h; exact .keepStatus (fun _ hc => by cases hc)
        · cases h; exact .writeStatus hvm hrv hne (fun _ hc => by cases hc)
        · cases h; exact .writeStatus hvm hrv hne (fun c hc => by cases hc; rfl)

theorem putFinalizers_cases (cur : VM) (fs : List String) :
    (w.putFinalizers cur fs = w ∧ withFinalizers cur fs = cur) ∨
    (cur.finalizers ≠ fs ∧ cur.deletionTimestamp.isSome ∧
      w.putFinalizers cur fs = { w with vm := none }) ∨
    (cur.finalizers ≠ fs ∧ w.putFinalizers cur fs = w.replace { cur with finalizers := fs } ∧
      withFinalizers cur fs =
        { cur with finalizers := fs, resourceVersion := cur.resourceVersion + 1 }) := by
  unfold putFinalizers withFinalizers
  split
  · exact .inl ⟨rfl, rfl⟩
  · next hne =>
    split
    · next h => exact .inr (.inl ⟨hne, h.1, rfl⟩)
    · exact .inr (.inr ⟨hne, rfl, rfl⟩)

theorem hold_self (w' : World) (h : w'.views = w.views) : w'.hold i (w.views i).vm = w' := by
  rw [hold, see, ← h, setAt_eq_self]

theorem updateFinalizers_effect {v : VM} {a : Except ApiError VM}
    (h : w.updateFinalizers i v ch = (a, w')) : Effect i w (.updateVM v) w' := by
  unfold updateFinalizers at h
  split at h
  · cases h; exact .same _
  · next cur hvm =>
    split at h
    · cases h; exact .same _
    · next hrv =>
      have hrv : v.resourceVersion = cur.resourceVersion := by simpa using hrv
      split at h
      · cases h; exact .same _
      · -- applied, but the caller is not told: it keeps what it held
        cases h
        rcases putFinalizers_cases (w := w) cur v.finalizers with
          ⟨hp, _⟩ | ⟨hne, hdel, hp⟩ | ⟨hne, hp, _⟩
        · rw [hp]; exact .same _
        · rw [hp, ← hold_self { w with vm := none } rfl]; exact .removeVM hvm hrv hne hdel
        · rw [hp, ← hold_self (w.replace _) rfl]; exact .writeFinalizers hvm hrv hne (.inl rfl)
      · cases h
        rcases putFinalizers_cases (w := w) cur v.finalizers with
          ⟨hp, hc⟩ | ⟨hne, hdel, hp⟩ | ⟨hne, hp, hc⟩
        · rw [hp, hc]; exact .keepFinalizers hvm
        · rw [hp]; exact .removeVM hvm hrv hne hdel
        · rw [hp, hc]; exact .writeFinalizers hvm hrv hne (.inr rfl)

theorem updateVMM_effect {m : VMM} {a : Except ApiError Unit}
    (h : w.updateVMM i m ch = (a, w')) : Effect i w (.updateVMMStatus m) w' := by
  unfold updateVMM at h
  split at h
  · cases h; exact .keepVMM
  · next cur hm =>
    split at h
    · cases h; exact .keepVMM
    · next hrv =>
      have hput : Effect i w (.updateVMMStatus m) ((w.putVMM cur m.status).see i {}) := by
        unfold putVMM
        split
        · exact .keepVMM
        · exact .writeVMM hm (by simpa using hrv)
      split at h
      · cases h; exact .keepVMM
      · cases h; exact hput
      · cases h; exact hput

theorem createPod_effect {t : PodTemplate} {a : Except ApiError Unit}
    (h : w.createPod t ch = some (a, w')) : Effect i w (.createPod t) w' := by
  unfold createPod at h
  split at h
  · cases h; exact .same _
  · next uid suffix extra lost =>
    simp only at h
    split at h
    · cases h
    · next huid =>
      split at h
      · cases h; exact .same _
      · next hname =>
        have hname : w.findPod (w.podOf t uid suffix extra).name = none := by simpa using hname
        split at h <;> (cases h; exact .createPod huid hname)
  · cases h

theorem deletePod_effect {name : String} {cause : Cause} {a : Except ApiError Unit}
    (h : w.deletePod name ch = (a, w')) : Effect i w (.deletePod name cause) w' := by
  unfold deletePod at h
  split at h
  · cases h; exact .same _
  · split at h
    · cases h; exact .same _
    · cases h; exact .markPod
    · cases h; exact .removePod
    · cases h; exact .markPod

end World

/-- **Inversion**: whatever a call is answered with, its effect is listed. -/
theorem effect_of_answer {i : Proc} {o : Op} {ch : Choice} {w w' : World} {a : o.Ans}
    (h : World.answer i o ch w = some (a, w')) : Effect i w o w' := by
  cases o <;> simp only [World.answer, World.onNode] at h
  case updateVM v => exact World.updateFinalizers_effect (Option.some.inj h)
  case updateVMStatus v => exact World.updateStatus_effect (Option.some.inj h)
  case updateVMMStatus m => exact World.updateVMM_effect (Option.some.inj h)
  case deletePod name cause => exact World.deletePod_effect (Option.some.inj h)
  case createPod t => exact World.createPod_effect h
  case getVM =>
    split at h
    · cases h; exact .same _
    · split at h
      · next hvm => cases h; exact .missVM hvm
      · next hvm => cases h; exact .readVM hvm
  case getVMM u =>
    split at h
    · cases h; exact .same _
    · split at h
      · cases h; exact .same _
      · next hm => cases h; exact .readVMM hm
  case generateName base =>
    split at h
    · split at h
      · cases h
      · next hs => cases h; exact .draw hs
    · cases h
  case hypervisor pod c account =>
    split at h
    · split at h
      · cases h; exact .same _
      · cases h; exact .power rfl
    · cases h
  case getControlBlock =>
    split at h
    · cases h; exact .look rfl
    · cases h
  case setControlBlock b =>
    split at h
    · cases h; exact .setBlock rfl
    · cases h
  case deleteControlBlock =>
    split at h
    · cases h; exact .deleteBlock rfl
    · cases h
  case relaySocketToTCP =>
    split at h
    · split at h
      · cases h; exact .same _
      · cases h; exact .relay rfl
    · cases h
  case startSend =>
    split at h
    · cases h; exact .send rfl
    · cases h
  case pollSend k =>
    split at h
    · split at h
      · next hk =>
        obtain ⟨x, hx, hf⟩ := (Option.any_eq_true ..).mp hk
        cases h; exact .sendFailed hx (by simpa using hf)
      · cases h
    · cases h; exact .same _
  case getPod name =>
    split at h
    · cases h; exact .same _
    · split at h
      · cases h; exact .same _
      · next hp => cases h; exact .readPod hp
  case listVMPods uid =>
    split at h
    · next hl => cases h; exact .listVMPods (Choice.perm_of_askPods hl)
    · cases h; exact .same _
    · cases h
  -- the other calls leave the world as it is
  case listPods | isReady | isBlock | getPIDBySocket | statReceiveSocket |
      relayTCPToSocket =>
    obtain ⟨_, _, hw⟩ := Option.map_eq_some_iff.mp h
    cases hw; exact .same _
  case rangeMap entries =>
    split at h
    · split at h
      · cases h; exact .same _
      · cases h
    · cases h; exact .same _
  case buildVMPod | vmInfo | loadVmConfig | withCancel | startReceive =>
    split at h <;> first | (cases h; exact .same _) | cases h
  all_goals
    cases h; exact .same _

/-! ### What Stays -/

@[simp] theorem World.see_views_self (w : World) (i : Proc) (v : View) :
    (w.see i v).views i = v := by simp [World.see]

@[simp] theorem World.see_views_ne (w : World) {i j : Proc} (v : View) (h : j ≠ i) :
    (w.see i v).views j = w.views j := by simp [World.see, h]

/-- A call changes no view but the caller's. -/
theorem Effect.views_ne {i j : Proc} {o : Op} {w w' : World} (h : Effect i w o w') (hj : j ≠ i) :
    w'.views j = w.views j := by
  cases h <;> first
    | rfl
    | exact World.see_views_ne _ _ hj

/-! ### Events -/

/-- `p.Later q`: the pod `p` has become `q`. What it is called and who controls
    it stays, and it is bound to a node once. -/
structure Pod.Later (p q : Pod) : Prop where
  name : q.name = p.name
  uid : q.uid = p.uid
  controller : q.controller = p.controller
  node : p.nodeName ≠ "" → q.nodeName = p.nodeName

namespace Pod

theorem Later.refl (p : Pod) : p.Later p := ⟨rfl, rfl, rfl, fun _ => rfl⟩

theorem Later.bindTo (p : Pod) (node : String) : p.Later (p.bindTo node) := by
  unfold Pod.bindTo
  split
  · next h => exact ⟨rfl, rfl, rfl, fun hne => absurd h hne⟩
  · exact .refl p

theorem Later.report (p : Pod) (phase : PodPhase) : p.Later (p.report phase) := by
  unfold Pod.report
  split
  · exact ⟨rfl, rfl, rfl, fun _ => rfl⟩
  · exact .refl p

theorem Later.handOver (p : Pod) : p.Later p.handOver := by
  unfold Pod.handOver
  split
  · exact .refl p
  · exact ⟨rfl, rfl, rfl, fun _ => rfl⟩

theorem Later.markedAt (now : Nat) (name : String) (p : Pod) :
    p.Later (World.markedAt now name p) := by
  unfold World.markedAt
  split
  · exact ⟨rfl, rfl, rfl, fun _ => rfl⟩
  · exact .refl p

theorem Later.ite {p q : Pod} {b : Prop} [Decidable b] (h : p.Later q) :
    p.Later (if b then q else p) := by
  split
  · exact h
  · exact .refl p

end Pod

/-- The event is a write of the VM. -/
def Event.writesVM : Event → Bool
  | .patchPowerAction _ | .deleteVM | .updateSpec _ | .touchVM => true
  | _ => false

/-- `Happening w e w'`: the event `e` can turn `w` into `w'`. -/
inductive Happening (w : World) : Event → World → Prop where
  | same (e : Event) : Happening w e w
  | changePods (e : Event) {f : Pod → Pod} (hf : ∀ p : Pod, p.Later (f p)) :
      Happening w e (w.mapPods f)
  | dropPod {name : String} : Happening w (.removePod name) (w.removePod name)
  | newPod {p : Pod} (huid : p.uid ∉ w.uids) (hname : w.findPod p.name = none)
      (hown : ∀ vm, w.vm = some vm → p.isControlledBy vm = false) :
      Happening w (.createPod p) (w.addPod p)
  | tick : Happening w .tick { w with now := w.now + 1 }
  /-- A user asks for the power action that is already asked for. -/
  | repatch {cur : VM} (hvm : w.vm = some cur) :
      Happening w (.patchPowerAction cur.status.powerAction)
        { w with
          patches := w.patches + 1
          powerOns := if cur.status.powerAction = .powerOn then w.powerOns + 1 else w.powerOns }
  | patch {action : PowerAction} {cur : VM} (hvm : w.vm = some cur) :
      Happening w (.patchPowerAction action)
        { w.commit cur { cur.status with powerAction := action } with
          patches := w.patches + 1
          powerOns := if action = .powerOn then w.powerOns + 1 else w.powerOns }
  | removeVM : Happening w .deleteVM { w with vm := none }
  /-- The VM changes, but for its status. -/
  | replace (e : Event) {cur new : VM} (he : e.writesVM = true) (hvm : w.vm = some cur)
      (huid : new.uid = cur.uid)
      (hrv : new.resourceVersion = cur.resourceVersion) (hst : new.status = cur.status)
      (hdel : cur.deletionTimestamp ≠ none → new.deletionTimestamp ≠ none) :
      Happening w e (w.replace new)
  | newVMM {u : UID} (hu : u ∉ w.uids) :
      Happening w (.createVMM u)
        { w with vmms := w.vmms ++ [{ uid := u }], uids := u :: w.uids }
  | markVMM {u : UID} :
      Happening w (.deleteVMM u) { w with vmms := w.vmms.map (fun x =>
        if x.uid = u ∧ x.deletionTimestamp = none then
          { x with
            deletionTimestamp := some w.now
            resourceVersion := x.resourceVersion + 1 } else x) }
  | dropVMM {u : UID} :
      Happening w (.removeVMM u) { w with vmms := w.vmms.filter (·.uid != u) }
  | sendCompletes {k : Nat} {x : Send} (hx : w.sends[k]? = some x) (hrun : x.state = .running) :
      Happening w (.completeSend k) ((w.endSend k .completed).onPod x.pod (·.handOver))
  | sendFails {k : Nat} : Happening w (.failSend k) (w.endSend k .failed)

/-- Inversion of events. -/
theorem happening_of_event {e : Event} {w w' : World} (h : World.event e w = some w') :
    Happening w e w' := by
  cases e <;> simp only [World.event, Option.some.injEq, Option.map_eq_some_iff] at h
  case bindPod uid node =>
    subst h; exact .changePods _ fun p => .ite (.bindTo p node)
  case setPodPhase uid phase =>
    subst h; exact .changePods _ fun p => .ite (.report p phase)
  case setPodConditions uid conditions =>
    subst h; exact .changePods _ fun p => .ite ⟨rfl, rfl, rfl, fun _ => rfl⟩
  case deletePod name => subst h; exact .changePods _ (.markedAt w.now name)
  case removePod name => subst h; exact .dropPod
  case createPod p =>
    split at h
    · cases h
    · next hno =>
      cases h
      simp only [not_or, Option.not_isSome_iff_eq_none] at hno
      refine .newPod hno.1 hno.2.1 fun vm hvm => ?_
      have := hno.2.2
      rw [hvm, Option.any_some] at this
      simpa using this
  case tick => subst h; exact .tick
  case patchPowerAction action =>
    obtain ⟨cur, hvm, rfl⟩ := h
    rcases World.putStatus_cases (w := w) cur { cur.status with powerAction := action } with
      ⟨hst, hp, _⟩ | ⟨_, hp, _⟩
    · rw [hp]
      obtain rfl : cur.status.powerAction = action := by rw [hst]
      exact .repatch hvm
    · rw [hp]; exact .patch hvm
  case deleteVM =>
    obtain ⟨cur, hvm, rfl⟩ := h
    split
    · exact .removeVM
    · split
      · exact .same _
      · exact .replace _ rfl hvm rfl rfl rfl fun _ => nofun
  case updateSpec spec => obtain ⟨cur, hvm, rfl⟩ := h; exact .replace _ rfl hvm rfl rfl rfl id
  case touchVM => obtain ⟨cur, hvm, rfl⟩ := h; exact .replace _ rfl hvm rfl rfl rfl id
  case createVMM u =>
    split at h
    · cases h
    · next hu => cases h; exact .newVMM hu
  case deleteVMM u => subst h; exact .markVMM
  case removeVMM u => subst h; exact .dropVMM
  case completeSend k =>
    obtain ⟨x, hx, h⟩ := Option.bind_eq_some_iff.mp h
    split at h
    · next hrun => cases h; exact .sendCompletes hx hrun
    · cases h
  case failSend k => subst h; exact .sendFails

/-- An event changes no view. -/
theorem Happening.views {e : Event} {w w' : World} (h : Happening w e w') :
    w'.views = w.views := by
  cases h <;> rfl

end Virtink
