import Virtink.Guarded
import Virtink.Node.Knowledge

/-! # The Cluster Under the Nodes

    The system with its nodes refines the system without them: what a daemon
    does on its node looks to the cluster like one of the answers it gives to
    the calls about mounts. A step of the finer system is therefore a guarded
    move of the cluster, or it leaves the cluster as it is
    (`worldMove_of_step`), and the cluster of every site reached is reached by
    guarded moves (`reached_of_site`).

    The contract may be any that the programs keep on the cluster alone.
-/

namespace Virtink

open Calls

/-! ### What Happens to the Cluster -/

/-- The step as the cluster has it, if it is one of the cluster. -/
def onWorld : Act nodeApi Proc NodeChoice NodeEvent → Option Action
  | .start i => some (.start i)
  | .finish i => some (.finish i)
  | .crash i => some (.crash i)
  | .call i (.base o) (.base ch) => some (.call i o ch)
  | .event (.base e) => some (.event e)
  | _ => none

/-- A step is a move of the cluster, or leaves it as it is. -/
def WorldMove (step : World → Action → World → Prop) (w : World)
    (a : Act nodeApi Proc NodeChoice NodeEvent) (w' : World) : Prop :=
  match onWorld a with
  | some b => step w b w'
  | none => w' = w

theorem WorldMove.mono {step step' : World → Action → World → Prop} {w w' : World}
    {a : Act nodeApi Proc NodeChoice NodeEvent} (h : WorldMove step w a w')
    (himp : ∀ b, step w b w' → step' w b w') : WorldMove step' w a w' := by
  unfold WorldMove at h ⊢
  split
  · next b hb => rw [hb] at h; exact himp b h
  · next hb => rw [hb] at h; exact h

/-- A call of the cluster is a move of it, or has no answer there. -/
theorem WorldMove.of_base {step : World → Action → World → Prop} {w w' : World} {i : Proc} {o : Op}
    {ch : NodeChoice} (h : WorldMove step w (.call i (.base o) ch) w') :
    (∃ d, step w (.call i o d) w') ∨ w' = w := by
  cases ch with
  | base d => exact .inl ⟨d, h⟩
  | _ => exact .inr h

namespace Site

variable {s s' : Site}

/-- A call on a node leaves the cluster alone. -/
theorem answer_world {i : Proc} {o : NodeOp} {ch : NodeChoice} {a : o.Ans} (ho : ∀ b, o ≠ .base b)
    (h : Site.answer i o ch s = some (a, s')) : s'.world = s.world := by
  obtain ⟨n, node, -, -, rfl⟩ := answer_node ho h
  rfl

theorem event_base {e : Event} (h : Site.event (.base e) s = some s') :
    World.event e s.world = some s'.world := by
  obtain ⟨w, hw, rfl⟩ := Option.map_eq_some_iff.mp h
  exact hw

/-- So does an event on a node. -/
theorem event_world {e : NodeEvent} (he : ∀ b, e ≠ .base b) (h : Site.event e s = some s') :
    s'.world = s.world := by
  cases e with
  | base b => exact absurd rfl (he b)
  | vanish n path => cases h; rfl
  | receive n pod disks =>
    simp only [Site.event] at h
    split at h
    · cases h; rfl
    · cases h
  | exit n pod => cases h; rfl

end Site

/-! ### Views -/

/-- What each process sees of the cluster. -/
def worldViews {R : Type} (main : Proc → NodeCall R) : Views (nodeMachine main) View where
  view i s := s.world.views i
  fresh := {}
  view_enter i s := (views fun _ => "").view_enter i s.world
  view_crash i s := (views fun _ => "").view_crash i s.world
  view_enter_ne hij s := (views fun _ => "").view_enter_ne hij s.world
  view_crash_ne hij s := (views fun _ => "").view_crash_ne hij s.world
  view_call_ne {i j} hij {o ch a s s'} h := by
    by_cases ho : ∃ b, o = .base b
    · obtain ⟨b, rfl⟩ := ho
      obtain ⟨c, -, hbase⟩ := Site.answer_base h
      exact (views fun _ => "").view_call_ne hij hbase.world
    · rw [Site.answer_world (fun b hb => ho ⟨b, hb⟩) h]
  view_event {i e s s'} h := by
    by_cases he : ∃ b, e = .base b
    · obtain ⟨b, rfl⟩ := he
      exact (views fun _ => "").view_event (Site.event_base h)
    · rw [Site.event_world (fun b hb => he ⟨b, hb⟩) h]

section sees
variable {R : Type} {main : Proc → NodeCall R} {nodeIP : String → String} {i : Proc} {v v' : View}

/-- A call of the cluster is seen as it is there. -/
theorem sees_base {o : Op} {a : o.Ans} (h : Contract.Sees (worldViews main) i (.base o) v a v') :
    Contract.Sees (views nodeIP) i o v a v' := by
  obtain ⟨s, ch, s', hv, hans, hv'⟩ := h
  obtain ⟨c, -, hbase⟩ := Site.answer_base hans
  exact ⟨s.world, c, s'.world, hv, hbase.world, hv'⟩

/-- The calls by which a daemon mounts and unmounts show nothing of the cluster. -/
theorem sees_inPlace {o : NodeOp} {a : o.Ans} (ho : o.InPlace)
    (h : Contract.Sees (worldViews main) i o v a v') : v' = v := by
  by_cases hbase : ∃ b, o = .base b
  · obtain ⟨b, rfl⟩ := hbase
    have hquiet : b.quiet = true := by
      cases b with
      | getPIDBySocket pod => rfl
      | _ => exact ho.elim
    have hsees : Contract.Sees (views fun _ => "") i b v a v' := sees_base h
    exact sees_quiet hquiet hsees
  · obtain ⟨s, ch, s', rfl, hans, rfl⟩ := h
    show s'.world.views i = s.world.views i
    rw [Site.answer_world (fun b hb => hbase ⟨b, hb⟩) hans]

end sees

/-! ### Contracts -/

/-- The calls about mounts, which are carried out on the node. -/
def Op.mounts : Op → Bool
  | .getVMMountRecord | .mountVolume _ _ _ _ | .umountHotplugVolumes _
  | .umountAllHotplugVolumes => true
  | _ => false

/-- However such a call ends, the cluster might have answered it so. -/
theorem sees_mounts {nodeIP : String → String} {i : Proc} {o : Op} (ho : o.mounts = true)
    (a : o.Ans) (v : View) : Contract.Sees (views nodeIP) i o v a v := by
  have hseen : (World.see { vm := none } i v).views i = v := World.see_views_self ..
  have hunit : ∀ r : Except String Unit, ∃ ch : Choice, ch.unit = r := by
    intro r
    cases r with
    | error msg => exact ⟨.fail false msg, rfl⟩
    | ok _ => exact ⟨.ok, rfl⟩
  cases o with
  | getVMMountRecord | umountHotplugVolumes names | umountAllHotplugVolumes
  | mountVolume volume block pod volumePod =>
    obtain ⟨ch, rfl⟩ := hunit a
    exact ⟨World.see { vm := none } i v, ch, _, hseen, rfl, hseen⟩
  | _ => cases ho

section contracts
variable {nodeIP : String → String} {T : Contract (views nodeIP)}

/-- The contract, kept by the programs on their nodes. -/
def siteContract (T : Contract (views nodeIP)) : Contract (worldViews (nodeSystem nodeIP).main) where
  guard
    | i, .base o, v => T.guard i o v
    | _, _, _ => True
  done := T.done

/-- Programs on nodes in place of the calls about mounts keep the contract. -/
theorem handler_wp {i : Proc} (hpid : ∀ o pod v, o.mounts = true → T.guard i o v →
      T.guard i (.getPIDBySocket pod) v) (o : Op) (l : VMDaemon.Local) (v : View)
    (hg : T.guard i o v) :
    (siteContract T).wp i (VMDaemon.handler o l)
      (fun x v' => Contract.Sees (views nodeIP) i o v x.1 v') v := by
  have hplace : ∀ p : NodeCall (o.Ans × VMDaemon.Local), o.mounts = true →
      p.Only NodeOp.InPlace → (siteContract T).wp i p
        (fun x v' => Contract.Sees (views nodeIP) i o v x.1 v') v := by
    intro p ho hp
    have hguard : ∀ o' v', NodeOp.InPlace o' → v' = v → (siteContract T).guard i o' v' := by
      rintro o' v' ho' rfl
      cases o' with
      | base b =>
        cases b with
        | getPIDBySocket pod => exact hpid o pod v' ho hg
        | _ => exact ho'.elim
      | _ => exact trivial
    have hstay : (siteContract T).wp i p (fun _ v' => v' = v) v := by
      refine Contract.wp_of_only hp hguard ?_ rfl
      rintro o' v₁ a v₂ ho' rfl hsees
      exact sees_inPlace ho' hsees
    refine Contract.wp_mono hstay ?_
    rintro ⟨a, l'⟩ v' rfl
    exact sees_mounts ho a v'
  cases o with
  | getVMMountRecord =>
    refine hplace _ rfl ⟨trivial, fun r => ?_⟩
    cases r <;> exact trivial
  | mountVolume volume block vmPodUID volumePodUID =>
    refine hplace _ rfl ?_
    unfold VMDaemon.handler
    dsimp only
    split
    · exact ⟨trivial, fun a => a.elim⟩
    · next r _ =>
      have hr : ({ record := some r } : NodeView).record = some r := rfl
      split
      · exact Prog.Only.bind (inPlace_of_inside
          (VMDaemon.mountBlockVolume_obeys (K := {}) hr trivial)) fun _ => trivial
      · exact Prog.Only.bind (inPlace_of_inside
          (VMDaemon.mountFileSystemVolume_obeys (K := {}) hr trivial)) fun _ => trivial
  | umountHotplugVolumes names =>
    exact hplace _ rfl (Prog.Only.bind (inPlace_of_inside
      (VMDaemon.umountHotplugVolumes_obeys (K := {}) (v := {}) fun _ _ => trivial))
      fun _ => trivial)
  | umountAllHotplugVolumes =>
    exact hplace _ rfl (Prog.Only.bind (inPlace_of_inside
      (VMDaemon.umountAllHotplugVolumes_obeys (K := {}) (v := {}))) fun _ => trivial)
  | getVM =>
    refine ⟨hg, fun a v' hsees => ?_⟩
    cases a with
    | error e => exact sees_base hsees
    | ok vm => exact sees_base hsees
  | _ => exact ⟨hg, fun a v' hsees => sees_base hsees⟩

/-- **Refinement of contracts**: what the programs keep on the cluster alone
    they keep with their nodes. -/
theorem siteContract_kept (hT : T.Kept) (hpid : ∀ i o pod v, o.mounts = true → T.guard i o v →
      T.guard i (.getPIDBySocket pod) v) : (siteContract T).Kept := by
  intro i
  have h := Contract.wp_interp (f := id) (l := {}) (handler_wp (hpid i)) (hT i)
  exact h

end contracts

theorem guard_getPIDBySocket {i : Proc} {o : Op} {pod : UID} {v : View} (ho : o.mounts = true)
    (hg : guard i o v) : guard i (.getPIDBySocket pod) v := by
  cases i with
  | controller => exact trivial
  | daemon n => exact trivial
  | vmm u =>
    cases o with
    | getVMMountRecord | mountVolume _ _ _ _ | umountHotplugVolumes _
    | umountAllHotplugVolumes => exact hg.elim
    | _ => cases ho

/-! ### Steps and Runs -/

section runs
variable {nodeIP : String → String} {ok : Site → Act nodeApi Proc NodeChoice NodeEvent → Prop}
  {I : Site → Prop} {c c' : Conf nodeApi Site Proc (Outcome × VMDaemon.Local)}
  {a : Act nodeApi Proc NodeChoice NodeEvent}

/-- A step of the system with its nodes is a guarded move of the cluster, or
    leaves it as it is. -/
theorem worldMove_of_step {T : Contract (views nodeIP)} (hT : (siteContract T).Kept)
    (hI : ∀ s, I s → Init s.world) (h : Reach (nodeSystem nodeIP) ok I c)
    (hstep : Step (nodeSystem nodeIP) c a c') :
    WorldMove (GStep (system nodeIP) T.guards) c.store.world a c'.store.world := by
  have hmove := hT.gstep (fun s hs => init_views (hI s hs)) h hstep
  generalize c'.store = s' at hmove
  cases hmove with
  | start hidle => exact .start hidle
  | finish hdone => exact .finish hdone
  | crash => exact .crash
  | @call _ i o ch x hguard hans =>
    by_cases ho : ∃ b, o = .base b
    · obtain ⟨b, rfl⟩ := ho
      obtain ⟨d, rfl, hbase⟩ := Site.answer_base hans
      exact .call hguard hbase.world
    · have hnode : ∀ b, o ≠ .base b := fun b hb => ho ⟨b, hb⟩
      have hnone : onWorld (.call i o ch) = none := by
        cases o with
        | base b => exact absurd rfl (hnode b)
        | _ => rfl
      unfold WorldMove
      rw [hnone]
      exact Site.answer_world hnode hans
  | @event _ e hev =>
    by_cases he : ∃ b, e = .base b
    · obtain ⟨b, rfl⟩ := he
      exact .event (Site.event_base hev)
    · have hnode : ∀ b, e ≠ .base b := fun b hb => he ⟨b, hb⟩
      have hnone : onWorld (.event e) = none := by
        cases e with
        | base b => exact absurd rfl (hnode b)
        | _ => rfl
      unfold WorldMove
      rw [hnone]
      exact Site.event_world hnode hev

/-- The move is one of the moves of the cluster, taken apart. -/
theorem moved_of_siteStep (hI : ∀ s, I s → Init s.world) (h : Reach (nodeSystem nodeIP) ok I c)
    (hstep : Step (nodeSystem nodeIP) c a c') :
    WorldMove Moved c.store.world a c'.store.world := by
  have hkept := siteContract_kept (kept nodeIP) fun _ _ _ _ => guard_getPIDBySocket
  exact (worldMove_of_step hkept hI h hstep).mono fun b => moved_of_gstep

/-- **Refinement**: the cluster of every site reached is reached by guarded
    moves. -/
theorem reached_of_site (hI : ∀ s, I s → Init s.world) (h : Reach (nodeSystem nodeIP) ok I c) :
    Reached nodeIP anyStep c.store.world := by
  have hkept := siteContract_kept (kept nodeIP) fun _ _ _ _ => guard_getPIDBySocket
  induction h with
  | init hs => exact .init (hI _ hs)
  | @step c c' a hc _ hstep ih =>
    have hmove := worldMove_of_step hkept hI hc hstep
    unfold WorldMove at hmove
    split at hmove
    · exact .step ih trivial hmove
    · rw [hmove]
      exact ih

end runs

end Virtink
