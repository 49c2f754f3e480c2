import Virtink.Contract.Controller
import Virtink.Contract.Migration
import Virtink.Contract.Daemon

/-! # Guarded Moves

    All programs keep their contract, so every step of the system is a guarded
    move of the world. This module takes such a move apart (`Moved`), proves
    optimistic concurrency (`Occ`: what a process holds as the VM is the
    stored VM as long as the version is the same), and says once what a move
    can do to the VM (`VMChange`). The invariants of the modules that follow
    are read off from these.
-/

namespace Virtink

open Calls

/-- **Every program keeps the contract.** -/
theorem kept (nodeIP : String → String) : (contract nodeIP).Kept := by
  intro i
  cases i with
  | controller => exact VMController.Reconcile_wp
  | vmm u => exact VMMController.Reconcile_wp u
  | daemon n => exact VMDaemon.Reconcile_wp n (nodeIP n)

/-! ### Moves, Taken Apart -/

/-- A guarded move: a process begins, stops or is restarted, a call has one of
    its effects, or an event happens. -/
inductive Moved (w : World) : Action → World → Prop where
  | start (i : Proc) (hidle : w.views i = {}) : Moved w (.start i) (World.enter i w)
  | finish (i : Proc) (hdone : done i (w.views i)) : Moved w (.finish i) (World.enter i w)
  | crash (i : Proc) : Moved w (.crash i) (World.crash i w)
  | call (i : Proc) (o : Op) (ch : Choice) {w' : World} (hg : guard i o (w.views i))
      (hans : ∃ a, World.answer i o ch w = some (a, w')) (heff : Effect i w o w') :
      Moved w (.call i o ch) w'
  | event (e : Event) {w' : World} (hev : Happening w e w') : Moved w (.event e) w'

theorem Moved.guard {w w' : World} {i : Proc} {o : Op} {ch : Choice}
    (h : Moved w (.call i o ch) w') : Virtink.guard i o (w.views i) := by
  cases h with
  | call _ _ _ hg _ _ => exact hg

theorem Moved.answer {w w' : World} {i : Proc} {o : Op} {ch : Choice}
    (h : Moved w (.call i o ch) w') : ∃ ans, World.answer i o ch w = some (ans, w') := by
  cases h with
  | call _ _ _ _ hans _ => exact hans

theorem Moved.done {w w' : World} {i : Proc} (h : Moved w (.finish i) w') :
    Virtink.done i (w.views i) := by
  cases h with
  | finish _ hdone => exact hdone

/-- What a move does to the view of process `j`: nothing, unless the process
    begins or ends a run, or it is the process itself that calls. -/
theorem Moved.view {w w' : World} {a : Action} (h : Moved w a w') (j : Proc) :
    w'.views j = w.views j ∨ (w'.views j = {} ∧ w'.vm = w.vm) ∨
      ∃ o ch, a = .call j o ch ∧ Virtink.guard j o (w.views j) ∧ Effect j w o w' := by
  have hsee : ∀ {w₀ : World} {i : Proc}, w₀.views = w.views →
      (w₀.see i {}).views j = w.views j ∨ (w₀.see i {}).views j = {} := by
    intro w₀ i h
    by_cases hj : j = i
    · subst hj; exact .inr (World.see_views_self ..)
    · exact .inl (by rw [World.see_views_ne _ _ hj, h])
  cases h with
  | start i _ => exact (hsee rfl).imp_right fun h => .inl ⟨h, rfl⟩
  | finish i _ => exact (hsee rfl).imp_right fun h => .inl ⟨h, rfl⟩
  | crash i => cases i <;> exact (hsee rfl).imp_right fun h => .inl ⟨h, rfl⟩
  | call i o ch hg _ heff =>
    by_cases hj : j = i
    · subst hj; exact .inr (.inr ⟨o, ch, rfl, hg, heff⟩)
    · exact .inl (heff.views_ne hj)
  | event e hev => exact .inl (by rw [hev.views])

/-- Worlds reached by guarded moves that all meet the condition `ok`. -/
abbrev Reached (nodeIP : String → String) (ok : World → Action → Prop) (w : World) : Prop :=
  GReach (system nodeIP) (contract nodeIP).guards ok Init w

section transport
variable {nodeIP : String → String} {ok : World → Action → Prop}

theorem moved_of_gstep {w w' : World} {a : Action}
    (h : GStep (system nodeIP) (contract nodeIP).guards w a w') : Moved w a w' := by
  cases h with
  | start hidle => exact .start _ hidle
  | call hg hans => exact .call _ _ _ hg ⟨_, hans⟩ (effect_of_answer hans)
  | finish hdone => exact .finish _ hdone
  | crash => exact .crash _
  | event hev => exact .event _ (happening_of_event hev)

theorem init_views {w : World} (h : Init w) (i : Proc) : w.views i = {} := by
  obtain ⟨v, _, _, rfl⟩ := h
  rfl

/-- Every step of the system moves its world by a guarded move. -/
theorem moved_of_step {c c' : Config} {a : Action} (h : Reach (system nodeIP) ok Init c)
    (hstep : Step (system nodeIP) c a c') : Moved c.store a c'.store :=
  moved_of_gstep ((kept nodeIP).gstep (fun _ => init_views) h hstep)

/-- The world of every configuration reached is reached by guarded moves. -/
theorem reached_of_reach {c : Config} (h : Reach (system nodeIP) ok Init c) :
    Reached nodeIP ok c.store :=
  (kept nodeIP).simulates (fun _ => init_views) h

/-- **Invariant rule** for guarded moves. -/
theorem Reached.invariant {Inv : World → Prop} (hinit : ∀ w, Init w → Inv w)
    (hstep : ∀ w a w', Reached nodeIP ok w → Inv w → ok w a → Moved w a w' → Inv w') :
    ∀ {w}, Reached nodeIP ok w → Inv w :=
  GReach.invariant hinit fun w a w' hw hinv hok h => hstep w a w' hw hinv hok (moved_of_gstep h)

end transport

/-! ### What a Move Does to the VM -/

/-- `new` is a later version of `cur`. -/
structure Newer (cur new : VM) : Prop where
  uid : new.uid = cur.uid
  rv : new.resourceVersion = cur.resourceVersion + 1
  deleting : cur.deletionTimestamp ≠ none → new.deletionTimestamp ≠ none

/-- The bookkeeping about the status stays. -/
structure SameBooks (w w' : World) : Prop where
  incarnation : w'.incarnation = w.incarnation
  podNames : w'.podNames = w.podNames
  reached : w'.reached = w.reached
  failures : w'.failures = w.failures

/-- What a move does to the VM. A status write of a process is accepted only
    if the process holds the VM that is stored. -/
inductive VMChange (w : World) (a : Action) (w' : World) : Prop where
  | same (hvm : w'.vm = w.vm) (hbooks : SameBooks w w')
  | gone (hvm : w'.vm = none) (hbooks : SameBooks w w')
  /-- Something else than the status is written. -/
  | touched (cur new : VM) (hcur : w.vm = some cur) (hnew : w'.vm = some new)
      (hnewer : Newer cur new) (hst : new.status = cur.status) (hbooks : SameBooks w w')
  /-- A user asks for a power action. -/
  | patched (action : PowerAction) (cur : VM) (ha : a = .event (.patchPowerAction action))
      (hcur : w.vm = some cur)
      (hw : w' = { w.commit cur { cur.status with powerAction := action } with
        patches := w.patches + 1
        powerOns := if action = .powerOn then w.powerOns + 1 else w.powerOns })
  /-- A process writes a status. -/
  | written (i : Proc) (x : VM) (ch : Choice) (cur : VM) (held : Option VM)
      (ha : a = .call i (.updateVMStatus x) ch)
      (hcur : w.vm = some cur) (hread : (w.views i).vm = some cur)
      (hwrite : Write i (w.views i) cur x.status) (hne : cur.status ≠ x.status)
      (hheld : ∀ c, held = some c → c = { cur with
        status := x.status, resourceVersion := cur.resourceVersion + 1 })
      (hw : w' = (w.commit cur x.status).release i held)

/-- What a move does to the stored VM, versions only. -/
inductive VMStep (w w' : World) : Prop where
  | same (h : w'.vm = w.vm)
  | gone (h : w'.vm = none)
  | newer (cur new : VM) (h : w.vm = some cur) (h' : w'.vm = some new) (hnew : Newer cur new)

theorem Happening.vmChange {e : Event} {w w' : World} (h : Happening w e w') :
    VMChange w (.event e) w' := by
  cases h with
  | @patch action cur hvm => exact .patched action cur rfl hvm rfl
  | removeVM => exact .gone rfl ⟨rfl, rfl, rfl, rfl⟩
  | @replace _ cur new _ hvm huid hrv hst hdel =>
    exact .touched cur _ hvm rfl ⟨huid, by rw [← hrv], hdel⟩ hst ⟨rfl, rfl, rfl, rfl⟩
  | _ => exact .same rfl ⟨rfl, rfl, rfl, rfl⟩

theorem VMChange.vmStep {w w' : World} {a : Action} (h : VMChange w a w') : VMStep w w' := by
  cases h with
  | same hvm _ => exact .same hvm
  | gone hvm _ => exact .gone hvm
  | touched cur new hcur hnew hnewer _ _ => exact .newer cur new hcur hnew hnewer
  | patched action cur _ hcur hw => subst hw; exact .newer cur _ hcur rfl ⟨rfl, rfl, id⟩
  | written i x ch cur held _ hcur _ _ _ _ hw => subst hw; exact .newer cur _ hcur rfl ⟨rfl, rfl, id⟩

/-- A VM that is not being deleted was not being deleted before. -/
theorem VMStep.not_deleting {w w' : World} (h : VMStep w w') {vm vm' : VM}
    (hvm : w.vm = some vm) (hvm' : w'.vm = some vm') (hdel : vm'.deletionTimestamp = none) :
    vm.deletionTimestamp = none := by
  cases h with
  | same h => rw [h, hvm] at hvm'; cases hvm'; exact hdel
  | gone h => rw [h] at hvm'; cases hvm'
  | newer cur new hcur hnew hn =>
    rw [hcur] at hvm; rw [hnew] at hvm'; cases hvm; cases hvm'
    exact Decidable.not_not.mp fun h => hn.deleting h hdel

/-! ### Optimistic Concurrency -/

/-- `r` was the stored VM at some time up to now. -/
structure Older (r cur : VM) : Prop where
  uid : r.uid = cur.uid
  rv : r.resourceVersion ≤ cur.resourceVersion
  same : r.resourceVersion = cur.resourceVersion → r = cur
  deleting : r.deletionTimestamp ≠ none → cur.deletionTimestamp ≠ none

theorem Older.refl (r : VM) : Older r r := ⟨rfl, Nat.le_refl _, fun _ => rfl, id⟩

theorem Older.newer {r cur new : VM} (h : Older r cur) (hnew : Newer cur new) : Older r new where
  uid := h.uid.trans hnew.uid.symm
  rv := by have := h.rv; have := hnew.rv; omega
  same hrv := by have := h.rv; have := hnew.rv; omega
  deleting hdel := hnew.deleting (h.deleting hdel)

/-- **Optimistic concurrency**: what a process holds as the VM is a former
    version of it, and the stored one itself while the version is the same. -/
def Occ (w : World) : Prop :=
  ∀ i r cur, (w.views i).vm = some r → w.vm = some cur → Older r cur

/-- A process holds what it held, or the VM that is stored now; the controller
    may also hold the VM it has just removed. -/
def HoldsCurrent (w w' : World) : Prop :=
  ∀ i r, (w'.views i).vm = some r →
    (w.views i).vm = some r ∨ w'.vm = some r ∨ (i = .controller ∧ w'.vm = none)

theorem Occ.step {w w' : World} (h : Occ w) (hvm : VMStep w w') (hviews : HoldsCurrent w w') :
    Occ w' := by
  intro i r cur' hr hcur'
  rcases hviews i r hr with hr | hr | ⟨-, hgone⟩
  · cases hvm with
    | same hsame => exact h i r cur' hr (hsame ▸ hcur')
    | gone hgone => rw [hgone] at hcur'; cases hcur'
    | newer cur new hcur hnew hn =>
      rw [hnew] at hcur'; cases hcur'
      exact (h i r cur hr hcur).newer hn
  · rw [hr] at hcur'; cases hcur'; exact .refl r
  · rw [hgone] at hcur'; cases hcur'

theorem HoldsCurrent.of_views {w w' : World} (h : w'.views = w.views) : HoldsCurrent w w' :=
  fun i r hr => .inl (by rw [← h]; exact hr)

theorem HoldsCurrent.see {w w₀ : World} (h : w₀.views = w.views) {i : Proc} {v : View}
    (hv : ∀ r, v.vm = some r →
      (w.views i).vm = some r ∨ w₀.vm = some r ∨ (i = .controller ∧ w₀.vm = none)) :
    HoldsCurrent w (w₀.see i v) := by
  intro j r hr
  by_cases hj : j = i
  · subst hj
    rw [World.see_views_self] at hr
    exact hv r hr
  · rw [World.see_views_ne _ _ hj, h] at hr
    exact .inl hr

theorem Effect.vmStep {i : Proc} {o : Op} {w w' : World} (h : Effect i w o w') : VMStep w w' := by
  cases h with
  | writeStatus hvm _ _ _ => exact .newer _ _ hvm rfl ⟨rfl, rfl, id⟩
  | writeFinalizers hvm _ _ _ => exact .newer _ _ hvm rfl ⟨rfl, rfl, id⟩
  | removeVM _ _ _ _ => exact .gone rfl
  | _ => exact .same rfl

theorem Effect.holdsCurrent {i : Proc} {o : Op} {w w' : World} (hg : guard i o (w.views i))
    (h : Effect i w o w') : HoldsCurrent w w' := by
  cases h with
  | same => exact .of_views rfl
  | readVM hvm => exact .see rfl fun r hr => by cases hr; exact .inr (.inl hvm)
  | keepStatus hheld => exact .see rfl fun r hr => .inr (.inl (hheld r hr))
  | writeStatus _ _ _ hheld =>
    exact .see rfl fun r hr => .inr (.inl (by rw [hheld r hr]; rfl))
  | keepFinalizers hvm => exact .see rfl fun r hr => by cases hr; exact .inr (.inl hvm)
  | writeFinalizers _ _ _ hheld =>
    refine .see rfl fun r hr => ?_
    rcases hheld with rfl | rfl
    · exact .inl hr
    · cases hr; exact .inr (.inl rfl)
  | removeVM _ _ _ _ =>
    refine .see rfl fun r _ => .inr (.inr ⟨?_, rfl⟩)
    cases i with
    | controller => rfl
    | vmm u => exact hg.elim
    | daemon n => exact hg.elim
  | keepVMM => exact .see rfl fun r hr => by cases hr
  | writeVMM _ _ => exact .see rfl fun r hr => by cases hr
  | createPod _ _ => exact .of_views rfl
  | markPod => exact .of_views rfl
  | removePod => exact .of_views rfl
  | _ => exact .see rfl fun r hr => .inl hr

theorem Moved.vmStep {w w' : World} {a : Action} (h : Moved w a w') : VMStep w w' := by
  cases h with
  | start i _ => exact .same rfl
  | finish i _ => exact .same rfl
  | crash i => cases i <;> exact .same rfl
  | call _ _ _ _ _ heff => exact heff.vmStep
  | event _ hev => exact hev.vmChange.vmStep

theorem Moved.holdsCurrent {w w' : World} {a : Action} (h : Moved w a w') : HoldsCurrent w w' := by
  cases h with
  | start i _ => exact .see rfl fun r hr => by cases hr
  | finish i _ => exact .see rfl fun r hr => by cases hr
  | crash i => cases i <;> exact .see rfl fun r hr => by cases hr
  | call _ _ _ hg _ heff => exact heff.holdsCurrent hg
  | event _ hev => exact .of_views hev.views

/-- **Optimistic concurrency** holds in every world reached. -/
theorem Reached.occ {nodeIP : String → String} {ok : World → Action → Prop} {w : World}
    (h : Reached nodeIP ok w) : Occ w := by
  refine Reached.invariant ?_ ?_ h
  · rintro w ⟨v, _, _, rfl⟩ i r cur hr
    cases hr
  · intro w a w' _ hocc _ hmove
    exact hocc.step hmove.vmStep hmove.holdsCurrent

/-- What a call does to the VM. -/
theorem Effect.vmChange {i : Proc} {o : Op} {ch : Choice} {w w' : World} (hocc : Occ w)
    (hg : guard i o (w.views i)) (h : Effect i w o w') : VMChange w (.call i o ch) w' := by
  cases h with
  | @writeStatus x cur held hvm hrv hne hheld =>
    obtain ⟨r, hr, hrrv, hwrite⟩ := hg
    -- the version of the write is the version read and the version stored
    obtain rfl : r = cur := (hocc i r cur hr hvm).same (hrrv.symm.trans hrv)
    exact .written i x ch r held rfl hvm hr hwrite hne hheld rfl
  | @writeFinalizers x cur held hvm _ _ _ =>
    exact .touched cur _ hvm rfl ⟨rfl, rfl, id⟩ rfl ⟨rfl, rfl, rfl, rfl⟩
  | removeVM _ _ _ _ => exact .gone rfl ⟨rfl, rfl, rfl, rfl⟩
  | _ => exact .same rfl ⟨rfl, rfl, rfl, rfl⟩

theorem Moved.vmChange {w w' : World} {a : Action} (hocc : Occ w) (h : Moved w a w') :
    VMChange w a w' := by
  cases h with
  | start i _ => exact .same rfl ⟨rfl, rfl, rfl, rfl⟩
  | finish i _ => exact .same rfl ⟨rfl, rfl, rfl, rfl⟩
  | crash i => cases i <;> exact .same rfl ⟨rfl, rfl, rfl, rfl⟩
  | call i o ch hg _ heff => exact heff.vmChange hocc hg
  | event e hev => exact hev.vmChange

theorem VMChange.vm_before {w w' : World} {a : Action} (h : VMChange w a w') {vm' : VM}
    (hvm' : w'.vm = some vm') : ∃ vm, w.vm = some vm := by
  cases h with
  | same h _ => exact ⟨vm', by rw [← h]; exact hvm'⟩
  | gone h _ => rw [h] at hvm'; cases hvm'
  | touched cur _ hcur _ _ _ _ | patched _ cur _ hcur _ | written _ _ _ cur _ _ hcur _ _ _ _ _ =>
    exact ⟨cur, hcur⟩

/-- What a move does to the status of a VM that stays: at most a user asks for a
    power action, or a process that holds the stored VM writes. -/
inductive StatusChange (w : World) (a : Action) (w' : World) (vm' : VM) : Prop where
  | quiet (vm : VM) (action : PowerAction) (hvm : w.vm = some vm)
      (hst : vm'.status = { vm.status with powerAction := action })
  | written (i : Proc) (x : VM) (ch : Choice) (cur : VM) (held : Option VM)
      (ha : a = .call i (.updateVMStatus x) ch) (hcur : w.vm = some cur)
      (hread : (w.views i).vm = some cur) (hwrite : Write i (w.views i) cur vm'.status)
      (hheld : ∀ c, held = some c → c = vm')
      (hw : w' = (w.commit cur vm'.status).release i held)

theorem VMChange.statusChange {w w' : World} {a : Action} (h : VMChange w a w') {vm' : VM}
    (hvm' : w'.vm = some vm') : StatusChange w a w' vm' := by
  cases h with
  | same h _ =>
    rw [h] at hvm'
    exact .quiet vm' vm'.status.powerAction hvm' rfl
  | gone h _ =>
    rw [h] at hvm'
    cases hvm'
  | touched cur new hcur hnew _ hst _ =>
    obtain rfl : new = vm' := Option.some.inj (hnew.symm.trans hvm')
    exact .quiet cur cur.status.powerAction hcur hst
  | patched action cur _ hcur hw =>
    subst hw
    cases hvm'
    exact .quiet cur action hcur rfl
  | written i x ch cur held ha hcur hread hwrite _ hheld hw =>
    subst hw
    cases hvm'
    exact .written i x ch cur held ha hcur hread hwrite hheld rfl

/-- A UID that was given out stays given out. -/
theorem Moved.uids {w w' : World} {a : Action} (h : Moved w a w') {u : UID}
    (hu : u ∈ w.uids) : u ∈ w'.uids := by
  cases h with
  | start i _ => exact hu
  | finish i _ => exact hu
  | crash i => cases i <;> exact hu
  | call i o ch _ _ heff =>
    cases heff with
    | createPod _ _ => exact List.mem_cons_of_mem _ hu
    | _ => exact hu
  | event e hev =>
    cases hev with
    | newPod _ _ _ => exact List.mem_cons_of_mem _ hu
    | newVMM _ => exact List.mem_cons_of_mem _ hu
    | _ => exact hu

end Virtink
