import Virtink.Replicas.Steps
import Virtink.Selection

/-! # The Number of Replicas Is Not Overshot

    With up-to-date caches and no create event under way at the start, the
    number of active VMs of the set never passes the number wanted, from below
    or from above, however reconciles, calls, deliveries and the doings of
    others are interleaved.

    A create event that is still under way is counted by the handlers as if it
    were one that the controller waits for; then it may act on a cache that
    does not have its own VM yet, and create one too many.
-/

namespace Virtink

open Calls Contract Watch

namespace VMRSController

variable {setup : Setup}

/-- The active VMs of the set in the API store. -/
def activeVMs (setup : Setup) (w : Cluster) : List VM := w.store.filter setup.active

theorem length_names (setup : Setup) (w : Cluster) :
    (setup.names w.store).length = (activeVMs setup w).length := List.length_map ..

/-! ### Bounds -/

/-- There will not be too many, even if all announced creates are made. -/
def AtMost (setup : Setup) (w : Cluster) : Prop :=
  (setup.names w.store).length + w.run.creates ≤ setup.replicas

/-- There will not be too few, even if all announced deletes are made. -/
def AtLeast (setup : Setup) (w : Cluster) : Prop :=
  setup.replicas + w.run.deletes.length ≤ (setup.names w.store).length

theorem Moved.atMost {w w' : Cluster} (h : Moved setup w w') (hle : AtMost setup w) :
    AtMost setup w' := by
  simp only [AtMost] at hle ⊢
  cases h with
  | other hstore hcreates _ => omega
  | created hstore hcreates _ => omega
  | deleted hstore hcreates _ => omega
  | expectCreations hstore hcreates _ =>
    rw [hstore]
    exact hcreates
  | expectDeletions hstore hcreates _ =>
    rw [hstore, hcreates]
    exact hle

theorem Moved.atLeast {w w' : Cluster} (h : Moved setup w w') (hle : AtLeast setup w) :
    AtLeast setup w' := by
  simp only [AtLeast] at hle ⊢
  cases h with
  | other hstore _ hdeletes => omega
  | created hstore _ hdeletes =>
    rw [hdeletes]
    omega
  | deleted hstore _ hdeletes => omega
  | expectCreations hstore _ hdeletes =>
    rw [hstore, hdeletes]
    exact hle
  | expectDeletions hstore _ hdeletes =>
    rw [hstore]
    exact hdeletes

/-- **Run**: a bound that every step keeps holds in every state reached. -/
theorem bound_reached (hlib : setup.lib.Lawful) {Bound : Cluster → Prop} {I : Cluster → Prop}
    (hstart : ∀ w, I w → Start setup w ∧ Bound w)
    (hmoved : ∀ w w', Moved setup w w' → Bound w → Bound w')
    {c : Conf api Cluster Unit (Ending Outcome)} (h : Reach (machine setup) noRestart I c) :
    Bound c.store := by
  have hfresh : ∀ w, I w → ∀ i, (views setup).view i w = (views setup).fresh :=
    fun w hw _ => (hstart w hw).1.run
  -- the programs are forgotten: only guarded moves matter
  have hguarded := (kept hlib).simulates hfresh h
  let Held : Cluster → Prop := fun w => (∃ seen, Inv setup seen w) ∧ Bound w
  have hinit : ∀ w, I w → Held w := fun w hw => ⟨(hstart w hw).1.inv, (hstart w hw).2⟩
  have hstep : ∀ w a w', GReach (machine setup) (contract setup).guards noRestart I w → Held w →
      noRestart w a → GStep (machine setup) (contract setup).guards w a w' → Held w' := by
    rintro w a w' - ⟨⟨seen, hw⟩, hbound⟩ hok hmove
    obtain ⟨hw', hmv⟩ := hw.step hok hmove
    exact ⟨hw', hmoved w w' hmv hbound⟩
  exact (GReach.invariant hinit hstep hguarded).2

/-! ### No Overshoot -/

/-- Starting with at most the number of replicas that is wanted there are never
    more active VMs, and starting with at least that number never fewer. -/
theorem replicas_never_overshoot (hlib : setup.lib.Lawful) :
    (∀ c, Reach (machine setup) noRestart
        (fun w => Start setup w ∧ (activeVMs setup w).length ≤ setup.replicas) c →
      (activeVMs setup c.store).length ≤ setup.replicas) ∧
    ∀ c, Reach (machine setup) noRestart
        (fun w => Start setup w ∧ setup.replicas ≤ (activeVMs setup w).length) c →
      setup.replicas ≤ (activeVMs setup c.store).length := by
  constructor
  · intro c h
    have hbound : AtMost setup c.store := by
      refine bound_reached hlib (fun w hw => ⟨hw.1, ?_⟩) (fun w w' hm => hm.atMost) h
      simp only [AtMost, length_names, hw.1.run]
      exact hw.2
    have := length_names setup c.store
    simp only [AtMost] at hbound
    omega
  · intro c h
    have hbound : AtLeast setup c.store := by
      refine bound_reached hlib (fun w hw => ⟨hw.1, ?_⟩) (fun w w' hm => hm.atLeast) h
      simp only [AtLeast, length_names, hw.1.run]
      exact hw.2
    have := length_names setup c.store
    simp only [AtLeast] at hbound
    omega

namespace Sample

/-- A set of `n` replicas. -/
def webOf (n : Nat) : Setup where
  lib := packages
  name := "web"
  uid := "web-uid"
  replicas := n
  selector := some { matchLabels := [("app", "web")] }

/-- The set as it is read. -/
def sized (n : Int32) : VMRS :=
  { web [("app", "web")] with spec := { (web [("app", "web")]).spec with replicas := some n } }

/-- A reconcile of a set that lists these VMs, and then makes one call in a
    routine. -/
def reconciles (n : Int32) (vms : List VM) (reply : Cluster.Reply) :
    List (Move Unit Cluster.Reply Cluster.Event) :=
  .start () ::
    [.set (sized n), .ok, .list vms, .ok, .turn 0, reply, .turn 0, .turn 0, .turn 0, .ok].map
      (.call ()) ++
    [.finish ()]

/-- A VM that was created after the first one. -/
def youngReplica : VM := { oldReplica with name := "web-2", uid := "uid-2", creationTimestamp := 2 }

/-- VMs of the set, in the store and in the cache. -/
def cluster (vms : List VM) : Cluster := { store := vms, cache := vms }

theorem cluster_start {n : Nat} {vms : List VM} (hkeyed : Keyed VM.name vms)
    (hfine : ∀ vm ∈ vms, (webOf n).Fine vm) : Start (webOf n) (cluster vms) where
  keyed := hkeyed
  fine := hfine
  cache := rfl
  toCache := rfl
  handlers := ⟨vms, hkeyed, trivial, rfl⟩
  quiet := by simp [cluster]
  entries := rfl
  uids := rfl
  run := rfl

/-- A run of the set, exhibited by evaluation, that ends with so many active
    VMs. -/
theorem reached (n count : Nat) {I : Cluster → Prop} {w : Cluster} (hI : I w)
    (moves : List (Move Unit Cluster.Reply Cluster.Event))
    (h : ((execAll (machine (webOf n)) noRestart (.idle w) moves).any
      (fun c => decide ((activeVMs (webOf n) c.store).length = count))) = true) :
    ∃ c, Reach (machine (webOf n)) noRestart I c ∧
      (activeVMs (webOf n) c.store).length = count := by
  obtain ⟨c, hc, hcount⟩ := reach_of_execAll hI moves _ h
  exact ⟨c, hc, of_decide_eq_true hcount⟩

end Sample

/-- With one VM of two a second one is created, and there are not more; with
    two VMs of one the second one is deleted, and there are not fewer. -/
theorem replicas_never_overshoot_samples :
    (∃ c, Reach (machine (Sample.webOf 2)) noRestart
        (fun w => Start (Sample.webOf 2) w ∧ (activeVMs (Sample.webOf 2) w).length ≤ 2) c ∧
      (activeVMs (Sample.webOf 2) c.store).length = 2 ∧
      (activeVMs (Sample.webOf 2) c.store).length ≤ 2) ∧
    ∃ c, Reach (machine (Sample.webOf 1)) noRestart
        (fun w => Start (Sample.webOf 1) w ∧ 1 ≤ (activeVMs (Sample.webOf 1) w).length) c ∧
      (activeVMs (Sample.webOf 1) c.store).length = 1 ∧
      1 ≤ (activeVMs (Sample.webOf 1) c.store).length := by
  constructor
  · let I : Cluster → Prop :=
      fun w => Start (Sample.webOf 2) w ∧ (activeVMs (Sample.webOf 2) w).length ≤ 2
    have hstart : I (Sample.cluster [Sample.oldReplica]) :=
      ⟨Sample.cluster_start (by simp [Keyed]) (by decide), by decide⟩
    obtain ⟨c, hc, htwo⟩ := Sample.reached 2 2 hstart
      (Sample.reconciles 2 [Sample.oldReplica] (.created "web-2" "uid-2" 2)) (by decide +kernel)
    exact ⟨c, hc, htwo, (replicas_never_overshoot Sample.packages_lawful).1 c hc⟩
  · let I : Cluster → Prop :=
      fun w => Start (Sample.webOf 1) w ∧ 1 ≤ (activeVMs (Sample.webOf 1) w).length
    have hkeyed : Keyed VM.name [Sample.oldReplica, Sample.youngReplica] := by
      simp [Keyed, Sample.oldReplica, Sample.youngReplica, NewVM.stored]
    have hstart : I (Sample.cluster [Sample.oldReplica, Sample.youngReplica]) :=
      ⟨Sample.cluster_start hkeyed (by decide), by decide⟩
    obtain ⟨c, hc, hone⟩ := Sample.reached 1 1 hstart
      (Sample.reconciles 1 [Sample.oldReplica, Sample.youngReplica] (.deleted 3)) (by decide +kernel)
    exact ⟨c, hc, hone, (replicas_never_overshoot Sample.packages_lawful).2 c hc⟩

/-- The handlers have yet to be told of the one VM of two that there is. The
    controller creates the second one; then the late event is taken for the
    creation it waits for, and from a cache that lacks its own VM it creates a
    third one. -/
theorem replicas_overshoot_untold :
    ∃ w c, w.cache = w.store ∧ w.toCache = [] ∧ w.toHandlers = w.store.map .created ∧
      w.expectations.entries "web" = none ∧ w.expectations.uids "web" = [] ∧
      (activeVMs (Sample.webOf 2) w).length ≤ 2 ∧
      Reach (machine (Sample.webOf 2)) noRestart (fun w' => w' = w) c ∧
      2 < (activeVMs (Sample.webOf 2) c.store).length := by
  let w : Cluster :=
    { Sample.cluster [Sample.oldReplica] with toHandlers := [.created Sample.oldReplica] }
  let I : Cluster → Prop := fun w' => w' = w
  have hinit : I w := rfl
  obtain ⟨c, hc, hthree⟩ := Sample.reached 2 3 hinit
    (Sample.reconciles 2 [Sample.oldReplica] (.created "web-2" "uid-2" 2) ++
      [.event (.deliver fun name => if name = "web" then some "web-uid" else none)] ++
      Sample.reconciles 2 [Sample.oldReplica] (.created "web-3" "uid-3" 3)) (by decide +kernel)
  refine ⟨w, c, rfl, rfl, rfl, rfl, rfl, by decide, hc, ?_⟩
  rw [hthree]
  decide

end VMRSController

end Virtink
