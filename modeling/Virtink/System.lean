import Virtink.Framework.View
import Virtink.Cluster.Effect
import Virtink.Controller.VM
import Virtink.Controller.VMM
import Virtink.Daemon.VM

/-! # The System

    The VM controller, one worker per migration and one daemon per node, all
    working on one virtual machine from its creation on. Their programs are
    interleaved call by call; the cluster moves on its own in between, and a
    process may be restarted at any point.

    The second half says what the view of a process becomes with each answer.
-/

namespace Virtink

open Calls Contract

/-- The machine; `nodeIP` is the address each daemon is configured with. -/
def system (nodeIP : String → String) : Machine api World Proc Choice Event Outcome where
  main
    | .controller => VMController.Reconcile
    | .vmm u => VMMController.Reconcile u
    | .daemon n => VMDaemon.Reconcile n (nodeIP n)
  answer := World.answer
  event := World.event
  enter := World.enter
  crash := World.crash

/-- The world in which the VM `v` has just been created. -/
def World.created (v : VM) : World := { vm := some v, uids := [v.uid] }

/-- The initial worlds: a VM nobody has touched, and nothing else. -/
def Init (w : World) : Prop :=
  ∃ v : VM, v.status = {} ∧ v.deletionTimestamp = none ∧ w = World.created v

/-- A configuration of the system. -/
abbrev Config := Conf api World Proc Outcome

/-- A step of the system, as far as it can be observed. -/
abbrev Action := Act api Proc Choice Event

/-! ### A Sample Run

    A VM that is booted on node `a` and migrated to node `b`, move by move. -/

/-- Moves of the system. -/
abbrev Script := List (Move Proc Choice Event)

/-- One whole run of a process, given how its calls are answered. -/
def turn (i : Proc) (answers : List Choice) : Script :=
  .start i :: answers.map (.call i) ++ [.finish i]

namespace Sample

/-- The addresses of the nodes do not matter here. -/
abbrev cluster : Machine api World Proc Choice Event Outcome := system fun _ => ""

/-- A VM that is to run always. -/
def vm : VM := { name := "vm", uid := "vm-uid", spec := { runPolicy := .always } }

theorem init : Init (World.created vm) := ⟨vm, rfl, rfl, rfl⟩

/-- The VM becomes `Pending`, a name for its pod is drawn, and the pod is placed
    on node `a`. -/
def scheduled : Script :=
  turn .controller [.ok, .ok, .ok, .ok] ++
  turn .controller [.ok, .ok, .ok, .ok] ++
  turn .controller [.ok, .name "pod-a", .ok, .ok] ++
  turn .controller [.ok, .ok, .template {}, .create "uid-a" "" [] none, .ok, .ok] ++
  [.event (.bindPod "uid-a" "a"), .event (.setPodPhase "uid-a" .running)] ++
  turn .controller [.ok, .ok, .ok, .ok, .ok, .ok, .ok]

/-- The guest is found running. -/
def boots : Script :=
  turn (.daemon "a") [.ok, .ok, .ok, .info { state := .running }, .ok]

/-- Migration `u` takes the record, and its target pod is placed on node `b`. -/
def migrates : Script :=
  [.event (.createVMM "u")] ++ turn (.vmm "u") [.ok, .ok, .ok, .ok] ++
  turn .controller [.ok, .ok, .name "pod-b", .ok, .ok] ++
  turn .controller [.ok, .ok, .ok, .template {}, .create "uid-b" "" [] none, .ok, .ok] ++
  [.event (.bindPod "uid-b" "b"), .event (.setPodPhase "uid-b" .running)] ++
  turn .controller [.ok, .ok, .ok, .ok, .ok]

/-- The target daemon gets ready to receive. -/
def prepares : Script :=
  turn (.daemon "b") [.ok, .ok, .ok, .ok, .num 1, .flag false, .num 1, .ok, .ok, .num 1, .ok, .ok,
    .ok]

/-- The source daemon issues the send. -/
def sends : Script :=
  turn (.daemon "a") [.ok, .ok, .ok, .num 1, .ok, .ok, .ok, .ok]

/-- The guest arrives, and migration `u` gives the record back. -/
def arrives : Script :=
  [.event (.completeSend 0)] ++
  turn (.daemon "a") [.ok, .ok, .ok, .ok, .ok, .ok, .ok, .ok] ++
  turn (.daemon "b") [.ok, .ok, .ok, .info { state := .running }, .ok, .ok, .ok, .ok] ++
  turn (.vmm "u") [.ok, .ok, .ok] ++ turn (.vmm "u") [.ok, .ok, .ok, .ok]

/-- The guest runs on node `a`. -/
def running : Script := scheduled ++ boots

/-- The target on node `b` is ready. -/
def targetReady : Script := running ++ migrates ++ prepares

/-- The whole migration. -/
def migrated : Script := targetReady ++ sends ++ arrives

section runs
variable (ok : World → Action → Prop) [∀ w a, Decidable (ok w a)] (moves : Script)

/-- A configuration that the sample VM gets into by steps that meet `ok`. -/
theorem reach (test : Config → Bool)
    (h : (execAll cluster ok (.idle (World.created vm)) moves).any test = true) :
    ∃ c, Reach cluster ok Init c ∧ test c = true :=
  reach_of_execAll init moves test h

/-- Two configurations that the sample VM gets into one after the other. -/
theorem later (moves' : Script) (test : Config → Config → Bool)
    (h : ((execAll cluster ok (.idle (World.created vm)) moves).any
      (fun c => (execAll cluster ok c moves').any (test c))) = true) :
    ∃ c c', Reach cluster ok Init c ∧ Steps cluster ok c c' ∧ test c c' = true :=
  steps_of_execAll init moves moves' test h

/-- A step that the sample VM takes after steps that meet `ok`. -/
theorem step (move : Move Proc Choice Event) (test : Config → Action → Config → Bool)
    (h : ((execAll cluster ok (.idle (World.created vm)) moves).any
      (fun c => (exec cluster c move).any (fun x => test c x.1 x.2))) = true) :
    ∃ c a c', Reach cluster ok Init c ∧ Step cluster c a c' ∧ test c a c' = true :=
  step_of_execAll init moves move test h

end runs

end Sample

/-! ### Views -/

/-- The views of the processes. -/
def views (nodeIP : String → String) : Views (system nodeIP) View where
  view i w := w.views i
  fresh := {}
  view_enter i w := World.see_views_self w i {}
  view_crash i w := by
    cases i <;> exact World.see_views_self _ _ {}
  view_enter_ne hij w := World.see_views_ne w {} hij
  view_crash_ne {i j} hij w := by
    cases j <;> exact World.see_views_ne _ {} hij
  view_call_ne := by
    intro i j hij o ch a w w' h
    exact (effect_of_answer h).views_ne hij
  view_event h := by rw [(happening_of_event h).views]

/-! ### What a Process Sees -/

section sees
variable {nodeIP : String → String} {i : Proc} {v v' : View}

/-- The calls that leave the caller's view alone. -/
def Op.quiet : Op → Bool
  | .getVM | .updateVM _ | .updateVMStatus _ | .getVMM _ | .updateVMMStatus _ | .getPod _
  | .listVMPods _ | .generateName _ | .getControlBlock | .setControlBlock _ | .deleteControlBlock
  | .relaySocketToTCP _ _ _ _ _ | .startSend _ _ _ _ | .pollSend _ => false
  | .hypervisor _ _ account => account == .lifecycle
  | _ => true

theorem sees_quiet {o : Op} {a : o.Ans} (hq : o.quiet = true)
    (h : Sees (views nodeIP) i o v a v') : v' = v := by
  obtain ⟨w, ch, w', rfl, hans, rfl⟩ := h
  have heff := effect_of_answer hans
  cases heff <;> first
    | rfl
    | (simp [Op.quiet] at hq)

theorem sees_getVM {a : Op.Ans .getVM} (h : Sees (views nodeIP) i .getVM v a v') :
    (∃ msg, a = .error (.other msg) ∧ v' = v) ∨
    (a = .error .notFound ∧ v' = { v with gone := true }) ∨
    (∃ x, a = .ok x ∧ v' = { v with vm := some x }) := by
  obtain ⟨w, ch, w', rfl, hans, rfl⟩ := h
  simp only [system, World.answer] at hans
  split at hans
  · cases hans; exact .inl ⟨_, rfl, rfl⟩
  · split at hans
    · cases hans; exact .inr (.inl ⟨rfl, World.see_views_self ..⟩)
    · cases hans; exact .inr (.inr ⟨_, rfl, World.see_views_self ..⟩)

theorem sees_updateVM {x : VM} {a : Op.Ans (.updateVM x)}
    (h : Sees (views nodeIP) i (.updateVM x) v a v') :
    (∃ e, a = .error e ∧ v' = v) ∨ (∃ y, a = .ok y ∧ v' = { v with vm := some y }) := by
  obtain ⟨w, ch, w', rfl, hans, rfl⟩ := h
  simp only [system, World.answer] at hans
  have hans := Option.some.inj hans
  unfold World.updateFinalizers at hans
  have hput : ∀ cur fs, (w.putFinalizers cur fs).views = w.views := by
    intro cur fs; unfold World.putFinalizers; split
    · rfl
    · split <;> rfl
  split at hans
  · cases hans; exact .inl ⟨_, rfl, rfl⟩
  · split at hans
    · cases hans; exact .inl ⟨_, rfl, rfl⟩
    · split at hans
      · cases hans; exact .inl ⟨_, rfl, rfl⟩
      · cases hans; exact .inl ⟨_, rfl, congrFun (hput _ _) i⟩
      · cases hans
        refine .inr ⟨_, rfl, ?_⟩
        rw [views, World.hold]; simp only [World.see_views_self, hput]

theorem sees_updateVMStatus {x : VM} {a : Op.Ans (.updateVMStatus x)}
    (h : Sees (views nodeIP) i (.updateVMStatus x) v a v') :
    (∃ e, a = .error e ∧ v' = { vmm := v.vmm }) ∨
    (∃ y, a = .ok y ∧ v' = { vm := some y, vmm := v.vmm } ∧ y.status = x.status) := by
  obtain ⟨w, ch, w', rfl, hans, rfl⟩ := h
  simp only [system, World.answer] at hans
  have hans := Option.some.inj hans
  unfold World.updateStatus at hans
  have hrel : ∀ cur st held, (World.release (w.putStatus cur st) i held).views i =
      { vm := held, vmm := (w.views i).vmm } := by
    intro cur st held; rw [World.release, World.see_views_self, World.putStatus_views]
  split at hans
  · cases hans; exact .inl ⟨_, rfl, World.see_views_self ..⟩
  · split at hans
    · cases hans; exact .inl ⟨_, rfl, World.see_views_self ..⟩
    · split at hans
      · cases hans; exact .inl ⟨_, rfl, World.see_views_self ..⟩
      · cases hans; exact .inl ⟨_, rfl, hrel _ _ _⟩
      · cases hans; exact .inr ⟨_, rfl, hrel _ _ _, World.withStatus_status ..⟩

theorem sees_getVMM {u : UID} {a : Op.Ans (.getVMM u)}
    (h : Sees (views nodeIP) i (.getVMM u) v a v') :
    (∃ e, a = .error e ∧ v' = v) ∨
    (∃ m, a = .ok m ∧ m.uid = u ∧ v' = { v with vmm := some m }) := by
  obtain ⟨w, ch, w', rfl, hans, rfl⟩ := h
  simp only [system, World.answer] at hans
  split at hans
  · cases hans; exact .inl ⟨_, rfl, rfl⟩
  · split at hans
    · cases hans; exact .inl ⟨_, rfl, rfl⟩
    · next hm =>
      cases hans
      exact .inr ⟨_, rfl, by simpa using List.find?_some hm, World.see_views_self ..⟩

theorem sees_updateVMMStatus {m : VMM} {a : Op.Ans (.updateVMMStatus m)}
    (h : Sees (views nodeIP) i (.updateVMMStatus m) v a v') : v' = {} := by
  obtain ⟨w, ch, w', rfl, hans, rfl⟩ := h
  simp only [system, World.answer] at hans
  have hans := Option.some.inj hans
  unfold World.updateVMM at hans
  split at hans
  · cases hans; exact World.see_views_self ..
  · split at hans
    · cases hans; exact World.see_views_self ..
    · split at hans <;> (cases hans; exact World.see_views_self ..)

theorem sees_getPod {name : String} {a : Op.Ans (.getPod name)}
    (h : Sees (views nodeIP) i (.getPod name) v a v') :
    (∃ e, a = .error e ∧ v' = v) ∨
    (∃ p, a = .ok p ∧ p.name = name ∧ v' = { v with pod := some p }) := by
  obtain ⟨w, ch, w', rfl, hans, rfl⟩ := h
  simp only [system, World.answer] at hans
  split at hans
  · cases hans; exact .inl ⟨_, rfl, rfl⟩
  · split at hans
    · cases hans; exact .inl ⟨_, rfl, rfl⟩
    · next hp =>
      cases hans
      exact .inr ⟨_, rfl, by simpa using List.find?_some hp, World.see_views_self ..⟩

theorem sees_listVMPods {uid : UID} {a : Op.Ans (.listVMPods uid)}
    (h : Sees (views nodeIP) i (.listVMPods uid) v a v') :
    (∃ e, a = .error e ∧ v' = v) ∨ (∃ l, a = .ok l ∧ v' = { v with pods := some l }) := by
  obtain ⟨w, ch, w', rfl, hans, rfl⟩ := h
  simp only [system, World.answer] at hans
  split at hans
  · cases hans; exact .inr ⟨_, rfl, World.see_views_self ..⟩
  · cases hans; exact .inl ⟨_, rfl, rfl⟩
  · cases hans

theorem sees_generateName {base : String} {a : String}
    (h : Sees (views nodeIP) i (.generateName base) v a v') :
    v' = { v with drawn := some a } := by
  obtain ⟨w, ch, w', rfl, hans, rfl⟩ := h
  simp only [system, World.answer] at hans
  split at hans
  · split at hans
    · cases hans
    · cases hans; exact World.see_views_self ..
  · cases hans

theorem sees_power {pod : UID} {c : HypervisorCall} {a : Op.Ans (.hypervisor pod c .powerAction)}
    (h : Sees (views nodeIP) i (.hypervisor pod c .powerAction) v a v') :
    v' = { v with acted := .powered } := by
  obtain ⟨w, ch, w', rfl, hans, rfl⟩ := h
  simp only [system, World.answer, World.onNode] at hans
  split at hans
  · cases hans; exact World.see_views_self ..
  · cases hans

theorem sees_getControlBlock {a : ControlBlock}
    (h : Sees (views nodeIP) i .getControlBlock v a v') : v' = { v with block := some a } := by
  obtain ⟨w, ch, w', rfl, hans, rfl⟩ := h
  simp only [system, World.answer, World.onNode] at hans
  split at hans
  · cases hans; exact World.see_views_self ..
  · cases hans

theorem sees_setControlBlock {b : ControlBlock} {a : Op.Ans (.setControlBlock b)}
    (h : Sees (views nodeIP) i (.setControlBlock b) v a v') : v' = { v with saved := some b } := by
  obtain ⟨w, ch, w', rfl, hans, rfl⟩ := h
  simp only [system, World.answer, World.onNode] at hans
  split at hans
  · cases hans; exact World.see_views_self ..
  · cases hans

theorem sees_deleteControlBlock {a : Op.Ans .deleteControlBlock}
    (h : Sees (views nodeIP) i .deleteControlBlock v a v') :
    v' = { v with saved := none, acted := .closed } := by
  obtain ⟨w, ch, w', rfl, hans, rfl⟩ := h
  simp only [system, World.answer, World.onNode] at hans
  split at hans
  · cases hans; exact World.see_views_self ..
  · cases hans

theorem sees_relaySocketToTCP {ctx : Nat} {pod : UID} {ip : String} {port : Nat} {u : UID}
    {a : Op.Ans (.relaySocketToTCP ctx pod ip port u)}
    (h : Sees (views nodeIP) i (.relaySocketToTCP ctx pod ip port u) v a v') :
    (∃ e, a = .error e ∧ v' = v) ∨ (a = .ok () ∧ v' = { v with acted := .relayed }) := by
  obtain ⟨w, ch, w', rfl, hans, rfl⟩ := h
  simp only [system, World.answer, World.onNode] at hans
  split at hans
  · split at hans
    · cases hans; exact .inl ⟨_, rfl, rfl⟩
    · cases hans; exact .inr ⟨rfl, World.see_views_self ..⟩
  · cases hans

theorem sees_startSend {pod : UID} {source : String} {ctx : Nat} {u : UID} {a : Nat}
    (h : Sees (views nodeIP) i (.startSend pod source ctx u) v a v') :
    v' = { v with acted := .sent, channel := some a } := by
  obtain ⟨w, ch, w', rfl, hans, rfl⟩ := h
  simp only [system, World.answer, World.onNode] at hans
  split at hans
  · cases hans; exact World.see_views_self ..
  · cases hans

theorem sees_pollSend {k : Nat} {a : Option String}
    (h : Sees (views nodeIP) i (.pollSend k) v a v') :
    (a = none ∧ v' = v) ∨ (∃ e, a = some e ∧ v' = { v with failed := some k }) := by
  obtain ⟨w, ch, w', rfl, hans, rfl⟩ := h
  simp only [system, World.answer] at hans
  split at hans
  · split at hans
    · cases hans; exact .inr ⟨_, rfl, World.see_views_self ..⟩
    · cases hans
  · cases hans; exact .inl ⟨rfl, rfl⟩

end sees

end Virtink
