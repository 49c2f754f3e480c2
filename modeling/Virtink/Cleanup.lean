import Mathlib.Data.List.Nodup
import Virtink.Scaling

/-! # The Clean-Up of Replicas That Have Ended

    `cleanVMs` starts a routine for every VM it is given, while the wait group
    and the channel are made for `BurstReplicas` of them at most. So it is safe
    exactly for lists that are not longer (`clean_safe_iff`).

    What it cleans up includes VMs whose phase is Unknown. These still count as
    active when `scaleVMs` decides how many VMs there are too many of, so one
    reconcile can delete a healthy VM for an Unknown one that it deletes next
    (`healthy_spared_iff`).
-/

namespace Virtink

open Calls

namespace VMRSController

/-! ### Routines, Wait Group and Channel -/

/-- What `cleanVMs` sets up before it waits. -/
def cleanPool (rs : VMRS) (vms : List VM) : Pool api String where
  routines := vms.map (DeleteVM rs)
  counter := min vms.length BurstReplicas
  capacity := min vms.length BurstReplicas

/-- The moments of a clean-up, with the calls that were made before. -/
def Cleaning (rs : VMRS) (vms : List VM) (l : List (Prog.Entry api)) (pool : Pool api String)
    (main : Main api String (Option String)) : Prop :=
  Pool.Runs (cleanPool rs vms) (.waiting Prog.pure) l pool main

/-- What is expected of a clean-up at every moment, whatever the deletes are
    answered with and whoever takes the turns. -/
structure CleanSafe (rs : VMRS) (vms : List VM) : Prop where
  /-- There are `BurstReplicas` deletes at most. -/
  bounded  : ∀ l pool main, Cleaning rs vms l pool main → (changesMade l).length ≤ BurstReplicas
  /-- The wait group waits for one `Done` of every routine that is left. -/
  balanced : ∀ l pool main, Cleaning rs vms l pool main → pool.counter = pool.routines.length
  /-- No `Done` makes its counter negative. -/
  positive : ∀ l pool main, Cleaning rs vms l pool main → ¬ Pool.Ends pool main .panicked
  /-- `Wait` returns after all deletes. -/
  waits    : ∀ l pool p, Cleaning rs vms l pool (.going p) → pool.routines = []
  /-- No routine is blocked on the channel. -/
  sends    : ∀ l pool main, Cleaning rs vms l pool main → ∀ r ∈ pool.routines,
    pool.canTurn r = true
  /-- `Wait` returns at all, and so does `cleanVMs`. -/
  returns  : ∀ l e, Prog.Path (cleanVMs rs vms Prog.pure) l e → ∃ err, e = .returned err

/-- All routines of a short list are counted. -/
theorem cleanPool_counted {rs : VMRS} {vms : List VM} (h : vms.length ≤ BurstReplicas) :
    Pool.Counted changes (vms.map (fun vm => Op.deleteVM vm.name)) (cleanPool rs vms)
      (.waiting (Prog.pure : Option String → Call (Option String))) [] := by
  have hpool : cleanPool rs vms =
      { routines := vms.map (DeleteVM rs)
        counter := (vms.map (DeleteVM rs)).length
        capacity := (vms.map (DeleteVM rs)).length } := by
    simp only [cleanPool, List.length_map, Nat.min_eq_left h]
  rw [hpool]
  exact Pool.counted_of_makes (deleteVMs_make rs vms) (deletes_flatten vms) pure_changes

theorem cleanVMs_eq_spawn {α : Type} {rs : VMRS} {vms : List VM} (h : vms.length ≤ BurstReplicas)
    (k : Option String → Call α) :
    cleanVMs rs vms k = spawn (vms.map (DeleteVM rs)) (vms.map (DeleteVM rs)).length k := by
  rw [cleanVMs, Nat.min_eq_left h, List.length_map]

/-- As many routines as are counted have left, and the next one is about to. -/
theorem cleaning_panics (rs : VMRS) {vms : List VM} (h : BurstReplicas < vms.length) :
    ∃ l pool main, Cleaning rs vms l pool main ∧ Pool.Ends pool main .panicked := by
  have hrest : vms.drop BurstReplicas ≠ [] := by
    intro hnil
    have hlength := congrArg List.length hnil
    rw [List.length_drop, List.length_nil] at hlength
    omega
  obtain ⟨vm, rest, hdrop⟩ := List.exists_cons_of_ne_nil hrest
  have hsplit : vms.map (DeleteVM rs) =
      (vms.take BurstReplicas).map (DeleteVM rs) ++ DeleteVM rs vm :: rest.map (DeleteVM rs) := by
    rw [← List.map_cons, ← hdrop, ← List.map_append, List.take_append_drop]
  have hcount : ((vms.take BurstReplicas).map (DeleteVM rs)).length =
      min vms.length BurstReplicas := by
    simp [Nat.min_comm]
  obtain ⟨l, hruns, -⟩ :=
    runs_succeed (k := (Prog.pure : Option String → Call (Option String)))
      (deleteVMs_syncRoutine rs vms) hsplit
  rw [hcount] at hruns
  -- its delete is answered, and it has no error to send
  have hlast := hruns.trans (.step (.call (.ok () : (Op.deleteVM vm.name).Ans)
    (rfl : _ = [] ++ DeleteVM rs vm :: rest.map (DeleteVM rs))) .refl)
  exact ⟨_, _, _, hlast, .panicked rfl rfl⟩

/-- **The clean-up is safe** exactly for lists of at most `BurstReplicas` VMs. -/
theorem clean_safe_iff (rs : VMRS) (vms : List VM) :
    CleanSafe rs vms ↔ vms.length ≤ BurstReplicas := by
  constructor
  · intro hsafe
    by_contra hlong
    obtain ⟨l, pool, main, hcleaning, hends⟩ := cleaning_panics rs (Nat.lt_of_not_le hlong)
    exact hsafe.positive l pool main hcleaning hends
  · intro hshort
    have hcounted : ∀ l pool main, Cleaning rs vms l pool main →
        Pool.Counted changes (vms.map (fun vm => Op.deleteVM vm.name)) pool main l :=
      fun l pool main h => by simpa using Pool.Runs.counted h (cleanPool_counted hshort)
    refine ⟨?_, ?_, ?_, ?_, ?_, ?_⟩
    · intro l pool main h
      have hle : (changesMade l).length ≤ (vms.map (fun vm => Op.deleteVM vm.name)).length :=
        (hcounted l pool main h).length_made_le
      rw [List.length_map] at hle
      omega
    · exact fun l pool main h => (hcounted l pool main h).counter
    · exact fun l pool main h => (hcounted l pool main h).not_panicked
    · exact fun l pool p h => (hcounted l pool _ h).waits p rfl
    · exact fun l pool main h => (hcounted l pool main h).canTurn
    · intro l e h
      rw [cleanVMs_eq_spawn hshort] at h
      obtain ⟨err, rfl, -⟩ := spawn_makes (deleteVMs_syncRoutine rs vms) (deleteVMs_make rs vms)
        (deletes_flatten vms) pure_changes pure_turns h
      exact ⟨err, rfl⟩

/-- So many replicas that have failed. -/
def Sample.failedReplicas (n : Nat) : List VM :=
  (List.range n).map fun i =>
    { Sample.oldReplica with name := "web-" ++ toString i, status := { phase := .failed } }

/-- With eleven VMs to clean up the wait group counts ten: the eleventh `Done`
    brings the controller down. -/
theorem eleventh_cleanup_panics :
    (∀ vm ∈ Sample.failedReplicas 11, isVMFinished vm = true) ∧
    (∃ l, Prog.Path (cleanVMs (Sample.web [("app", "web")]) (Sample.failedReplicas 11) Prog.pure) l
      .panicked) ∧
    ¬ CleanSafe (Sample.web [("app", "web")]) (Sample.failedReplicas 11) := by
  have hlong : BurstReplicas < (Sample.failedReplicas 11).length := by decide
  obtain ⟨l, pool, main, hcleaning, hends⟩ := cleaning_panics (Sample.web [("app", "web")]) hlong
  refine ⟨by decide, ?_, fun hsafe => hsafe.positive l pool main hcleaning hends⟩
  obtain ⟨l', hpath, -⟩ := Pool.Runs.path pick_any hcleaning hends
    (spawn_turnsLeft (deleteVMs_syncRoutine _ _) pure_turns)
  exact ⟨l', hpath⟩

/-! ### Healthy Replicas -/

/-- A VM that is active and whose state is known. -/
def isHealthy (vm : VM) : Bool := isVMActive vm && !isVMUnknown vm

/-- The VM that a call deletes. -/
def deletedName : Op → Option String
  | .deleteVM name => some name
  | _ => none

/-- The VMs that a run has deleted. -/
def deletedNames (l : List (Prog.Entry api)) : List String :=
  (changesMade l).filterMap deletedName

/-- The number of healthy VMs that are not among those deleted. -/
def spared (deleted : List String) (vms : List VM) : Nat :=
  vms.countP (fun vm => isHealthy vm && !deleted.contains vm.name)

/-- How many VMs `scaleVMs` deletes when it is given the active ones. -/
def surplus (rs : VMRS) (active : List VM) : Nat :=
  min (active.length - wanted rs).toNat BurstReplicas

/-- The VMs that it deletes. -/
def scaledDown (lib : Packages) (rs : VMRS) (active : List VM) : List VM :=
  (getVMsToDelete lib active (surplus rs active)).getD []

/-- Whatever happens in a `reconcile` of these VMs, as many healthy ones are left
    as are wanted, or all of them. -/
def HealthySpared (lib : Packages) (rs : VMRS) (listedVMs vms : List VM) : Prop :=
  ∀ needsSync l e, Prog.Path (reconcile lib rs)
    (⟨.satisfiedExpectations rs.name, needsSync⟩ :: ⟨.listVMs rs.uid, .ok listedVMs⟩ :: l) e →
    min (wanted rs) (vms.countP isHealthy) ≤ spared (deletedNames l) vms

/-- The number of VMs that were created after the VM. -/
def newerThan (vms : List VM) (vm : VM) : Nat :=
  vms.countP (fun a => decide (vm.creationTimestamp < a.creationTimestamp))

/-- The number of VMs that were not created before the VM. -/
def notOlderThan (vms : List VM) (vm : VM) : Nat :=
  vms.countP (fun a => decide (vm.creationTimestamp ≤ a.creationTimestamp))

/-- The greatest number of healthy VMs among the `k` newest. VMs of the same age
    come in any order: healthy ones before which there are not `k` newer ones can
    be there, except in the places of Unknown ones that are there in any order. -/
def mayLose (active : List VM) (k : Nat) : Nat :=
  min (active.countP (fun vm => isHealthy vm && decide (newerThan active vm < k)))
    (k - active.countP (fun vm => isVMUnknown vm && decide (notOlderThan active vm ≤ k)))

/-- When that is so: nothing is deleted, or there is no healthy VM among the
    newest active ones that are deleted, or there are so many more healthy VMs
    than are wanted. -/
def SparesEnough (rs : VMRS) (vms : List VM) : Prop :=
  rs.spec.paused = true ∨ rs.deletionTimestamp.isSome = true ∨
  mayLose (vms.filter isVMActive) (surplus rs (vms.filter isVMActive)) = 0 ∨
  wanted rs + mayLose (vms.filter isVMActive) (surplus rs (vms.filter isVMActive)) ≤
    vms.countP isHealthy

/-- The controller deletes no other VMs than these. -/
def DeletesOnly (names : List String) : Op → Prop
  | .deleteVM name => name ∈ names
  | _ => True

theorem mem_of_deletesOnly {α : Type} {names : List String} {p : Call α}
    (hp : p.Only (DeletesOnly names)) {l : List (Prog.Entry api)} {a : α} (h : Prog.Path p l a) :
    ∀ name ∈ deletedNames l, name ∈ names := by
  intro name hname
  obtain ⟨o, ho, hdeleted⟩ := List.mem_filterMap.mp hname
  have hentry : o ∈ l.map (fun x => x.1) := (List.mem_filter.mp ho).1
  obtain ⟨x, hx, rfl⟩ := List.mem_map.mp hentry
  have honly := hp.path h x hx
  obtain ⟨o, answer⟩ := x
  cases o <;> cases hdeleted
  exact honly

theorem spared_mono {deleted deleted' : List String} {vms : List VM}
    (h : ∀ vm ∈ vms, isHealthy vm = true → vm.name ∈ deleted → vm.name ∈ deleted') :
    spared deleted' vms ≤ spared deleted vms := by
  refine List.countP_mono_left fun vm hvm hspared => ?_
  simp only [Bool.and_eq_true, Bool.not_eq_true', List.contains_eq_mem, decide_eq_false_iff_not]
    at hspared ⊢
  exact ⟨hspared.1, fun hin => hspared.2 (h vm hvm hspared.1 hin)⟩

/-! ### Healthy VMs Among the Newest -/

section ages
variable {active deleted kept : List VM} (hperm : (deleted ++ kept).Perm active)
include hperm

theorem countP_split (f : VM → Bool) : active.countP f = deleted.countP f + kept.countP f := by
  rw [← hperm.countP_eq, List.countP_append]

theorem length_eq_of_active (hactive : ∀ vm ∈ active, isVMActive vm = true) :
    deleted.countP isHealthy + deleted.countP isVMUnknown = deleted.length := by
  have hnot : deleted.countP isVMUnknown =
      deleted.countP (fun vm => decide ¬ isHealthy vm = true) := by
    refine List.countP_congr fun vm hvm => ?_
    have hmem := hperm.mem_iff.mp (List.mem_append_left kept hvm)
    simp [isHealthy, hactive vm hmem]
  rw [hnot, ← List.length_eq_countP_add_countP]

/-- **Bound**: whichever of the newest are deleted. -/
theorem healthy_le_mayLose (hactive : ∀ vm ∈ active, isVMActive vm = true)
    (hnewest : ∀ a ∈ kept, ∀ b ∈ deleted, a.creationTimestamp ≤ b.creationTimestamp) :
    deleted.countP isHealthy ≤ mayLose active deleted.length := by
  refine Nat.le_min.mpr ⟨?_, ?_⟩
  · -- what is newer than a VM that is deleted is deleted as well
    have hnewer : ∀ vm ∈ deleted, newerThan active vm < deleted.length := by
      intro vm hvm
      have hkept : kept.countP
          (fun a => decide (vm.creationTimestamp < a.creationTimestamp)) = 0 := by
        rw [List.countP_eq_zero]
        intro a ha
        simpa using hnewest a ha vm hvm
      rw [newerThan, countP_split hperm, hkept, Nat.add_zero]
      refine Nat.lt_of_le_of_ne List.countP_le_length fun heq => ?_
      have hself := List.countP_eq_length.mp heq vm hvm
      simp at hself
    rw [countP_split hperm]
    refine Nat.le_trans (List.countP_mono_left fun vm hvm hhealthy => ?_) (Nat.le_add_right _ _)
    simp [hhealthy, hnewer vm hvm]
  · -- of an Unknown VM that is left, all that are deleted are not older
    have hkept : kept.countP (fun vm => isVMUnknown vm &&
        decide (notOlderThan active vm ≤ deleted.length)) = 0 := by
      rw [List.countP_eq_zero]
      intro vm hvm
      have hall : deleted.countP
          (fun a => decide (vm.creationTimestamp ≤ a.creationTimestamp)) = deleted.length :=
        List.countP_eq_length.mpr fun a ha => by simpa using hnewest vm hvm a ha
      have hself : 0 < kept.countP
          (fun a => decide (vm.creationTimestamp ≤ a.creationTimestamp)) :=
        List.countP_pos_iff.mpr ⟨vm, hvm, by simp⟩
      have hlt : deleted.length < notOlderThan active vm := by
        rw [notOlderThan, countP_split hperm, hall]
        omega
      simp [hlt]
    have hunknown : deleted.countP (fun vm => isVMUnknown vm &&
        decide (notOlderThan active vm ≤ deleted.length)) ≤ deleted.countP isVMUnknown :=
      List.countP_mono_left fun vm _ h => (Bool.and_eq_true_iff.mp h).1
    have hlength := length_eq_of_active hperm hactive
    rw [countP_split hperm, hkept]
    omega

/-- **The bound is met** if healthy VMs come before others of the same age. -/
theorem mayLose_le_healthy (hactive : ∀ vm ∈ active, isVMActive vm = true)
    (hfirst : ∀ a ∈ kept, ∀ b ∈ deleted, a.creationTimestamp < b.creationTimestamp ∨
      isHealthy b = true ∨ isHealthy a = false) :
    mayLose active deleted.length ≤ deleted.countP isHealthy := by
  by_contra hlt
  obtain ⟨hmany, hroom⟩ := Nat.lt_min.mp (Nat.lt_of_not_le hlt)
  have hlength := length_eq_of_active hperm hactive
  rw [countP_split hperm] at hmany hroom
  -- a healthy VM is left that could have been deleted
  have hleft : 0 < kept.countP (fun vm => isHealthy vm &&
      decide (newerThan active vm < deleted.length)) := by
    have hle : deleted.countP (fun vm => isHealthy vm &&
        decide (newerThan active vm < deleted.length)) ≤ deleted.countP isHealthy :=
      List.countP_mono_left fun vm _ h => (Bool.and_eq_true_iff.mp h).1
    omega
  obtain ⟨x, hx, hleft⟩ := List.countP_pos_iff.mp hleft
  -- and an Unknown one is deleted that need not have been
  have htaken : ¬ ∀ vm ∈ deleted, isVMUnknown vm = true →
      notOlderThan active vm ≤ deleted.length := by
    intro hall
    have hle : deleted.countP isVMUnknown ≤ deleted.countP (fun vm => isVMUnknown vm &&
        decide (notOlderThan active vm ≤ deleted.length)) :=
      List.countP_mono_left fun vm hvm h => by simp [h, hall vm hvm h]
    omega
  push Not at htaken
  obtain ⟨y, hy, hunknown, htaken⟩ := htaken
  simp only [Bool.and_eq_true, decide_eq_true_eq] at hleft
  have hsick : isHealthy y = false := by simp [isHealthy, hunknown]
  have hage : x.creationTimestamp < y.creationTimestamp := by
    rcases hfirst x hx y hy with h | h | h
    · exact h
    · rw [hsick] at h
      cases h
    · rw [hleft.1] at h
      cases h
  have hle : notOlderThan active y ≤ newerThan active x := by
    refine List.countP_mono_left fun a _ ha => ?_
    simp only [decide_eq_true_eq] at ha ⊢
    omega
  omega

end ages

/-- The healthy VMs that are not among those deleted. -/
theorem spared_of_split {vms deleted kept : List VM}
    (hperm : (deleted ++ kept).Perm (vms.filter isVMActive)) (hnames : (vms.map (·.name)).Nodup) :
    spared (deleted.map (·.name)) vms + deleted.countP isHealthy = vms.countP isHealthy := by
  have hcount : ∀ f : VM → Bool, vms.countP (fun vm => isHealthy vm && f vm) =
      deleted.countP (fun vm => isHealthy vm && f vm) +
        kept.countP (fun vm => isHealthy vm && f vm) := by
    intro f
    rw [← countP_split hperm, List.countP_filter]
    refine List.countP_congr fun vm _ => ?_
    simp only [isHealthy, Bool.and_eq_true]
    grind
  have hnodup : ((deleted ++ kept).map (·.name)).Nodup :=
    (hperm.map _).nodup_iff.mpr (hnames.sublist (List.filter_sublist.map _))
  rw [List.map_append, List.nodup_append] at hnodup
  have hgone : deleted.countP
      (fun vm => isHealthy vm && !(deleted.map (·.name)).contains vm.name) = 0 := by
    rw [List.countP_eq_zero]
    intro vm hvm
    simp [List.mem_map_of_mem hvm]
  have hleft : kept.countP
      (fun vm => isHealthy vm && !(deleted.map (·.name)).contains vm.name) =
        kept.countP isHealthy := by
    refine List.countP_congr fun vm hvm => ?_
    have hnot : vm.name ∉ deleted.map (·.name) := fun hmem =>
      hnodup.2.2 _ hmem _ (List.mem_map_of_mem hvm) rfl
    simp [List.contains_eq_mem, hnot]
  have hall : vms.countP isHealthy = deleted.countP isHealthy + kept.countP isHealthy := by
    simpa using hcount fun _ => true
  rw [spared, hcount, hgone, hleft, hall, Nat.zero_add, Nat.add_comm]

/-- What is scaled down and what is left of the active VMs. -/
theorem scaledDown_split {lib : Packages} (hlib : lib.Lawful) {R : VM → VM → Prop}
    (hsorted : ∀ vms, (lib.sortSlice
      (fun a b => decide (b.creationTimestamp < a.creationTimestamp)) vms).Pairwise R)
    {rs : VMRS} (hwanted : 0 ≤ wanted rs) (active : List VM) :
    ∃ kept, (scaledDown lib rs active ++ kept).Perm active ∧
      (scaledDown lib rs active).length = surplus rs active ∧
      ∀ a ∈ kept, ∀ b ∈ scaledDown lib rs active, R b a := by
  have hrange : surplus rs active ≤ active.length := by
    unfold surplus
    omega
  obtain ⟨deleted, kept, hdelete, hlength, hperm, hpair⟩ :=
    getVMsToDelete_split hlib hsorted hrange
  rw [scaledDown, hdelete]
  exact ⟨kept, hperm, hlength, hpair⟩

/-! ### Deletes of a Reconcile -/

theorem scaleVMs_deletesOnly {lib : Packages} {rs : VMRS} {active : List VM} {names : List String}
    (h : ∀ vm ∈ scaledDown lib rs active, vm.name ∈ names) :
    (scaleVMs lib rs active).Only (DeletesOnly names) := by
  simp only [scaleVMs]
  split
  · trivial
  · next hne =>
    split
    · -- creates delete nothing
      refine ⟨trivial, fun _ => ?_⟩
      cases rs.spec.template with
      | none => trivial
      | some t =>
        refine spawn_only (fun _ => trivial) ?_ (fun _ => trivial)
        intro r hr
        rw [List.eq_of_mem_replicate hr]
        exact createVM_only trivial trivial
    · next hpos =>
      have hcount : ((active.length : Int) - wanted rs).natAbs =
          (active.length - wanted rs).toNat := by omega
      rw [scaledDown, surplus, ← hcount] at h
      cases hdelete : getVMsToDelete lib active _ with
      | none => trivial
      | some vmToDelete =>
        rw [hdelete] at h
        exact ⟨trivial, fun _ => spawn_deletes_only (fun _ => trivial)
          (fun vm hvm => ⟨h vm hvm, trivial⟩) (fun _ => trivial)⟩

theorem sync_deletesOnly {lib : Packages} {rs : VMRS} {vms : List VM} {names : List String}
    (hscale : ∀ vm ∈ scaledDown lib rs (vms.filter isVMActive), vm.name ∈ names)
    (hclean : ∀ vm ∈ finishedVMs vms, vm.name ∈ names) :
    (sync lib rs vms).Only (DeletesOnly names) := by
  have hfinish : ∀ e, (returning (finish rs (vms.filter isVMActive) e)).Only (DeletesOnly names) :=
    fun e => Prog.Only.bind (finish_only fun _ => trivial) fun _ => trivial
  refine (scaleVMs_deletesOnly hscale).bind fun r => ?_
  cases r with
  | returned err =>
    cases err with
    | some e => exact hfinish (some e)
    | none =>
      dsimp only
      split
      · exact hfinish none
      · exact spawn_deletes_only (fun _ => trivial) (fun vm hvm => ⟨hclean vm hvm, trivial⟩)
          (fun _ => finish_only fun _ => trivial)
  | panicked => trivial
  | hung => trivial

/-- A healthy VM is not deleted in a clean-up, not even by its name. -/
theorem healthy_not_finished {vms : List VM} (hnames : (vms.map (·.name)).Nodup) {vm vm' : VM}
    (hvm : vm ∈ vms) (hhealthy : isHealthy vm = true) (hvm' : vm' ∈ finishedVMs vms) :
    vm.name ≠ vm'.name := by
  intro heq
  have hmem : vm' ∈ vms ∧ (isVMFinished vm' = true ∨ isVMUnknown vm' = true) := by
    rcases List.mem_append.mp hvm' with h | h
    · exact ⟨(List.mem_filter.mp h).1, .inl (List.mem_filter.mp h).2⟩
    · exact ⟨(List.mem_filter.mp h).1, .inr (List.mem_filter.mp h).2⟩
  obtain rfl := List.inj_on_of_nodup_map hnames hvm hmem.1 heq
  simp only [isHealthy, isVMActive, Bool.and_eq_true, Bool.not_eq_true'] at hhealthy
  rcases hmem.2 with hfinished | hunknown
  · rw [isVMFinished, hhealthy.1.1] at hfinished
    cases hfinished
  · rw [hhealthy.2] at hunknown
    cases hunknown

/-- A sync that scales down makes all its deletes. -/
theorem sync_scales_down {lib : Packages} (hlib : lib.Lawful) {rs : VMRS} (h : 0 ≤ wanted rs)
    {vms : List VM} {l : List (Prog.Entry api)} {e : Ending Outcome}
    (hpath : Prog.Path (sync lib rs vms) l e) :
    ∀ vm ∈ scaledDown lib rs (vms.filter isVMActive), vm.name ∈ deletedNames l := by
  intro vm hvm
  obtain ⟨l₁, l₂, r, rfl, hscale, -⟩ := Prog.Path.of_bind hpath
  by_cases hmany : wanted rs < (vms.filter isVMActive).length
  · have hrange : min (((vms.filter isVMActive).length : Int) - wanted rs).toNat BurstReplicas ≤
        (vms.filter isVMActive).length := by omega
    obtain ⟨vmToDelete, hdelete, hlength, -⟩ := getVMsToDelete_eq_some hlib hrange
    obtain ⟨-, hperm⟩ := scaleVMs_deletes hmany hdelete hlength hscale
    rw [scaledDown, surplus, hdelete] at hvm
    have hmade : Op.deleteVM vm.name ∈ changesMade l₁ :=
      hperm.mem_iff.mpr (List.mem_map_of_mem (f := fun vm => Op.deleteVM vm.name) hvm)
    refine List.mem_filterMap.mpr ⟨.deleteVM vm.name, ?_, rfl⟩
    rw [changesMade_append]
    exact List.mem_append_left _ hmade
  · have hnone : surplus rs (vms.filter isVMActive) = 0 := by
      unfold surplus
      omega
    simp [scaledDown, hnone, getVMsToDelete] at hvm

/-- What is left of the healthy VMs when a reconcile has ended. -/
theorem spared_of_path {lib : Packages} {rs : VMRS} {vms : List VM}
    (hnames : (vms.map (·.name)).Nodup) {needsSync : Bool} {l : List (Prog.Entry api)}
    {e : Ending Outcome} (h : Prog.Path (reconcileVMs lib rs needsSync (.ok vms)) l e) :
    spared ((scaledDown lib rs (vms.filter isVMActive)).map (·.name)) vms ≤
        spared (deletedNames l) vms ∧
      (rs.spec.paused = true ∨ rs.deletionTimestamp.isSome = true →
        spared [] vms ≤ spared (deletedNames l) vms) := by
  simp only [reconcileVMs] at h
  split at h
  · next hsync =>
    simp only [Bool.and_eq_true, Bool.not_eq_true', Option.isNone_iff_eq_none] at hsync
    refine ⟨spared_mono fun vm hvm hhealthy hdeleted => ?_, ?_⟩
    · have honly : (sync lib rs vms).Only (DeletesOnly
          ((scaledDown lib rs (vms.filter isVMActive) ++ finishedVMs vms).map (·.name))) :=
        sync_deletesOnly
          (fun vm hvm => List.mem_map_of_mem (List.mem_append_left _ hvm))
          (fun vm hvm => List.mem_map_of_mem (List.mem_append_right _ hvm))
      have hin := mem_of_deletesOnly honly h _ hdeleted
      rw [List.map_append] at hin
      rcases List.mem_append.mp hin with hscaled | hcleaned
      · exact hscaled
      · -- a clean-up deletes by name, and names are unique
        obtain ⟨vm', hvm', heq⟩ := List.mem_map.mp hcleaned
        exact absurd heq.symm (healthy_not_finished hnames hvm hhealthy hvm')
    · rw [hsync.1.2, hsync.2]
      rintro (hpaused | hdeleted)
      · cases hpaused
      · cases hdeleted
  · -- only the status is written
    have honly : (returning (finish rs (vms.filter isVMActive) none)).Only (DeletesOnly []) :=
      Prog.Only.bind (finish_only fun _ => trivial) fun _ => trivial
    have hnone := mem_of_deletesOnly honly h
    exact ⟨spared_mono fun vm _ _ hdeleted => absurd (hnone _ hdeleted) List.not_mem_nil,
      fun _ => spared_mono fun vm _ _ hdeleted => hnone _ hdeleted⟩

/-- A run in which the expectations are met shows what scaling down deletes. -/
theorem spared_le_of_healthySpared {lib : Packages} (hlib : lib.Lawful) {rs : VMRS}
    {listedVMs vms : List VM} (hselect : selectVMs lib rs listedVMs = .ok vms)
    (hpaused : ¬ rs.spec.paused = true) (hdeleted : ¬ rs.deletionTimestamp.isSome = true)
    (hwanted : 0 ≤ wanted rs) (h : HealthySpared lib rs listedVMs vms) :
    min (wanted rs) (vms.countP isHealthy) ≤
      spared ((scaledDown lib rs (vms.filter isVMActive)).map (·.name)) vms := by
  have hcontrolled : controlledVMs lib rs (.ok listedVMs) = .ok vms := hselect
  obtain ⟨l, e, hpath, -⟩ := exists_smooth_path (reconcileVMs lib rs true (.ok vms))
  have hleft := h true l e (path_reconcile_iff.mpr (by rw [hcontrolled]; exact hpath))
  -- neither paused nor deleted, so it does sync
  have hsync : reconcileVMs lib rs true (.ok vms) = sync lib rs vms := by
    simp [reconcileVMs, hpaused, Option.not_isSome_iff_eq_none.mp hdeleted]
  rw [hsync] at hpath
  have hle : spared (deletedNames l) vms ≤
      spared ((scaledDown lib rs (vms.filter isVMActive)).map (·.name)) vms := by
    refine spared_mono fun vm _ _ hscaled => ?_
    obtain ⟨vm', hvm', heq⟩ := List.mem_map.mp hscaled
    rw [← heq]
    exact sync_scales_down hlib hwanted hpath vm' hvm'
  omega

/-- **Healthy replicas are spared**, whichever way VMs of the same age are sorted,
    exactly if there are enough of them beside the newest active VMs, where
    Unknown ones count as active. -/
theorem healthy_spared_iff {lib : Packages} {rs : VMRS} {listedVMs vms : List VM}
    (hselect : selectVMs lib rs listedVMs = .ok vms) (hnames : (vms.map (·.name)).Nodup) :
    (∀ sort, ({ lib with sortSlice := sort } : Packages).Sorts →
      HealthySpared { lib with sortSlice := sort } rs listedVMs vms) ↔ SparesEnough rs vms := by
  have hactive : ∀ vm ∈ vms.filter isVMActive, isVMActive vm = true :=
    fun vm hvm => (List.mem_filter.mp hvm).2
  have hbound : mayLose (vms.filter isVMActive) (surplus rs (vms.filter isVMActive)) ≤
      vms.countP isHealthy := by
    refine Nat.le_trans (Nat.min_le_left _ _) (Nat.le_trans
      (List.Sublist.countP_le List.filter_sublist) (List.countP_mono_left fun vm _ h => ?_))
    exact (Bool.and_eq_true_iff.mp h).1
  constructor
  · intro hspared
    by_contra hnot
    simp only [SparesEnough, not_or] at hnot
    obtain ⟨hpaused, hdeleted, hmeets, hfew⟩ := hnot
    have hwanted : 0 ≤ wanted rs := by omega
    -- the worst sort: healthy VMs before others of the same age
    have hsorts := sortFirst_sorts lib isHealthy
    obtain ⟨kept, hperm, hlength, hfirst⟩ := scaledDown_split hsorts.lawful
      (fun vms => sortFirst_pairwise isHealthy (by simp) (by simp; omega) (by simp; omega) vms)
      hwanted (vms.filter isVMActive)
    have hleft := spared_le_of_healthySpared hsorts.lawful hselect hpaused hdeleted hwanted
      (hspared _ hsorts)
    have hsplit := spared_of_split hperm hnames
    have hlost := mayLose_le_healthy hperm hactive (fun a ha b hb => by
      simpa using (hfirst a ha b hb).2)
    rw [hlength] at hlost
    omega
  · intro henough sort hsorts needsSync l e hpath
    have hrest := path_reconcile_iff.mp hpath
    have hcontrolled : controlledVMs { lib with sortSlice := sort } rs (.ok listedVMs) = .ok vms :=
      hselect
    rw [hcontrolled] at hrest
    obtain ⟨hscaled, hquiet⟩ := spared_of_path hnames hrest
    have hnil : spared [] vms = vms.countP isHealthy := by simp [spared]
    by_cases hwanted : 0 ≤ wanted rs
    · obtain ⟨kept, hperm, hlength, hnewest⟩ := scaledDown_split hsorts.lawful
        (R := fun b a => a.creationTimestamp ≤ b.creationTimestamp)
        (fun vms => (hsorts.sorted _ (by simp) (by simp; omega) (by simp; omega) vms).imp
          (by simp)) hwanted (vms.filter isVMActive)
      have hsplit := spared_of_split hperm hnames
      have hlost := healthy_le_mayLose hperm hactive hnewest
      rw [hlength] at hlost
      rcases henough with hpaused | hdeleted | hmeets | henough
      · have hall := hquiet (.inl hpaused)
        omega
      · have hall := hquiet (.inr hdeleted)
        omega
      · omega
      · omega
    · omega

/-- A VM whose node does not answer any more. -/
def Sample.lostReplica : VM := { Sample.oldReplica with status := { phase := .unknown } }

/-- Two VMs of which the newer one is not healthy. -/
theorem healthy_spared_newest_lost :
    [{ Sample.lostReplica with creationTimestamp := 3 }, Sample.newReplica].countP isHealthy = 1 ∧
    ∀ sort, ({ Sample.packages with sortSlice := sort } : Packages).Sorts →
      HealthySpared { Sample.packages with sortSlice := sort } (Sample.web [("app", "web")])
        [{ Sample.lostReplica with creationTimestamp := 3 }, Sample.newReplica]
        [{ Sample.lostReplica with creationTimestamp := 3 }, Sample.newReplica] := by
  have hselect : selectVMs Sample.packages (Sample.web [("app", "web")])
      [{ Sample.lostReplica with creationTimestamp := 3 }, Sample.newReplica] =
      .ok [{ Sample.lostReplica with creationTimestamp := 3 }, Sample.newReplica] := rfl
  refine ⟨by decide, ?_⟩
  exact (healthy_spared_iff hselect (by decide)).mpr (.inr (.inr (.inl (by decide))))

/-- One VM is wanted. Of an Unknown VM and a newer healthy one the healthy one is
    deleted since there are two active ones, the other one in the clean-up. -/
theorem healthy_replica_sacrificed :
    [Sample.lostReplica, Sample.newReplica].countP isHealthy = 1 ∧
    (∃ l e, Prog.Path (reconcile Sample.sortingPackages (Sample.web [("app", "web")]))
      (⟨.satisfiedExpectations "web", true⟩ ::
        ⟨.listVMs "web-uid", .ok [Sample.lostReplica, Sample.newReplica]⟩ :: l) e ∧
      spared (deletedNames l) [Sample.lostReplica, Sample.newReplica] = 0) ∧
    ¬ HealthySpared Sample.sortingPackages (Sample.web [("app", "web")])
      [Sample.lostReplica, Sample.newReplica] [Sample.lostReplica, Sample.newReplica] := by
  have hscaled : scaledDown Sample.sortingPackages (Sample.web [("app", "web")])
      ([Sample.lostReplica, Sample.newReplica].filter isVMActive) = [Sample.newReplica] := by
    have hpair : getVMsToDelete Sample.sortingPackages [Sample.lostReplica, Sample.newReplica] 1 =
        some [Sample.newReplica] := Sample.getVMsToDelete_pair (by decide)
    simp only [scaledDown]
    exact congrArg (Option.getD · []) hpair
  obtain ⟨l, e, hpath, -⟩ := exists_smooth_path
    (sync Sample.sortingPackages (Sample.web [("app", "web")])
      [Sample.lostReplica, Sample.newReplica])
  have hdeleted := sync_scales_down Sample.sortingPackages_sorts.lawful (by decide) hpath
  rw [hscaled] at hdeleted
  have hnone : spared (deletedNames l) [Sample.lostReplica, Sample.newReplica] = 0 := by
    have hlost : isHealthy Sample.lostReplica = false := by decide
    have hname : Sample.newReplica.name ∈ deletedNames l := hdeleted Sample.newReplica (by simp)
    simp [spared, hlost, hname]
  have hrun : Prog.Path (reconcile Sample.sortingPackages (Sample.web [("app", "web")]))
      (⟨.satisfiedExpectations "web", true⟩ ::
        ⟨.listVMs "web-uid", .ok [Sample.lostReplica, Sample.newReplica]⟩ :: l) e :=
    path_reconcile_iff.mpr hpath
  refine ⟨by decide, ⟨l, e, hrun, hnone⟩, fun hspared => ?_⟩
  have hleft := hspared true l e hrun
  rw [hnone] at hleft
  exact absurd hleft (by decide)

end VMRSController

end Virtink
