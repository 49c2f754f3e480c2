import Virtink.Framework.PoolCalls
import Virtink.Framework.Run
import Virtink.Retries

/-! # How Far a Replica Set Is Scaled

    `scaleVMs` creates as many VMs as are missing, or deletes as many as there
    are too many of, but `BurstReplicas` at most. The VMs to delete are the
    first ones after sorting, the newest first; they are not sorted if all of
    them are to be deleted.
-/

namespace Virtink

open Calls

namespace VMRSController

/-! ### Sorting -/

/-- What is known of `sort.Slice`: it keeps the elements, and with a comparison
    that is a strict weak order no element comes before a lesser one. -/
structure Packages.Sorts (lib : Packages) : Prop where
  lawful : lib.Lawful
  sorted : ∀ less : VM → VM → Bool, (∀ a, less a a = false) →
    (∀ a b c, less a b = true → less b c = true → less a c = true) →
    (∀ a b c, less a c = true → less a b = true ∨ less b c = true) →
    ∀ l, (lib.sortSlice less l).Pairwise (fun a b => less b a = false)

/-- A sort that puts the VMs with `first` before others of the same rank. -/
def sortFirst (first : VM → Bool) (less : VM → VM → Bool) (l : List VM) : List VM :=
  l.mergeSort (fun a b => !less b a && (less a b || first a || !first b))

/-- It is sorted, with these VMs before the others, for a strict weak order. -/
theorem sortFirst_pairwise (first : VM → Bool) {less : VM → VM → Bool}
    (hirrefl : ∀ a, less a a = false)
    (htrans : ∀ a b c, less a b = true → less b c = true → less a c = true)
    (hweak : ∀ a b c, less a c = true → less a b = true ∨ less b c = true) (l : List VM) :
    (sortFirst first less l).Pairwise (fun a b =>
      less b a = false ∧ (less a b = true ∨ first a = true ∨ first b = false)) := by
  refine (List.pairwise_mergeSort ?_ ?_ l).imp (by simp [or_assoc])
  · grind
  · intro a b
    have hself := htrans a b a
    rw [hirrefl] at hself
    cases hab : less a b <;> cases hba : less b a <;> cases first a <;> simp_all

theorem sortFirst_sorts (lib : Packages) (first : VM → Bool) :
    ({ lib with sortSlice := sortFirst first } : Packages).Sorts where
  lawful := ⟨fun _ _ => List.mergeSort_perm _ _⟩
  sorted _ hirrefl htrans hweak l :=
    (sortFirst_pairwise first hirrefl htrans hweak l).imp fun h => h.1

/-- The slice is in range, and what is to be deleted comes before what is left. -/
theorem getVMsToDelete_split {lib : Packages} (hlib : lib.Lawful) {R : VM → VM → Prop}
    (hsorted : ∀ vms, (lib.sortSlice
      (fun a b => decide (b.creationTimestamp < a.creationTimestamp)) vms).Pairwise R)
    {vms : List VM} {diff : Nat} (h : diff ≤ vms.length) :
    ∃ deleted kept, getVMsToDelete lib vms diff = some deleted ∧ deleted.length = diff ∧
      (deleted ++ kept).Perm vms ∧ ∀ a ∈ kept, ∀ b ∈ deleted, R b a := by
  by_cases hall : diff < vms.length
  · set sorted := lib.sortSlice
      (fun a b => decide (b.creationTimestamp < a.creationTimestamp)) vms with hdef
    have hperm : sorted.Perm vms := hlib.sort_perm _ vms
    have hlength : diff ≤ sorted.length := by rw [hperm.length_eq]; exact h
    refine ⟨sorted.take diff, sorted.drop diff, ?_, ?_, ?_, ?_⟩
    · simp only [getVMsToDelete, if_pos hall, ← hdef, if_pos hlength]
    · simp [hlength]
    · rw [List.take_append_drop]
      exact hperm
    · have hpair : sorted.Pairwise R := hsorted vms
      rw [← List.take_append_drop diff sorted, List.pairwise_append] at hpair
      exact fun a ha b hb => hpair.2.2 b hb a ha
  · -- all of them, in the order of the list
    have heq : diff = vms.length := by omega
    refine ⟨vms, [], ?_, heq.symm, by simp, by simp⟩
    simp [getVMsToDelete, heq]

/-- **Newest first**: no VM that is left was created after one that is to be
    deleted. -/
theorem getVMsToDelete_newest {lib : Packages} (hlib : lib.Sorts) {vms : List VM} {diff : Nat}
    (h : diff ≤ vms.length) :
    ∃ deleted kept, getVMsToDelete lib vms diff = some deleted ∧ deleted.length = diff ∧
      (deleted ++ kept).Perm vms ∧
      ∀ a ∈ kept, ∀ b ∈ deleted, a.creationTimestamp ≤ b.creationTimestamp := by
  refine getVMsToDelete_split hlib.lawful (fun vms => (hlib.sorted _ ?_ ?_ ?_ vms).imp ?_) h <;>
    simp only [decide_eq_true_eq, decide_eq_false_iff_not] <;> omega

/-! ### Calls -/

/-- The calls that create or delete a VM. -/
def changes : Op → Bool
  | .createVM _ | .deleteVM _ => true
  | _ => false

/-- The VMs that a run has created and deleted. -/
def changesMade (l : List (Prog.Entry api)) : List Op := made changes l

theorem changesMade_append (l l' : List (Prog.Entry api)) :
    changesMade (l ++ l') = changesMade l ++ changesMade l' := by
  unfold changesMade
  exact made_append _ l l'

theorem createVM_makes (rs : VMRS) (t : VMTemplate) :
    Makes changes (createVM rs t) ([Op.createVM (newVM rs t)] : List Op) := by
  refine ⟨[], rfl, fun x => ?_⟩
  cases x with
  | ok _ => rfl
  | error e => exact fun _ => rfl

theorem deleteVM_makes (rs : VMRS) (vm : VM) :
    Makes changes (DeleteVM rs vm) ([Op.deleteVM vm.name] : List Op) := by
  refine ⟨[], rfl, fun x => ?_⟩
  cases x with
  | ok _ => rfl
  | error e =>
    cases e with
    | notFound => rfl
    | conflict | alreadyExists | other => exact fun _ => rfl

theorem createVMs_make (rs : VMRS) (t : VMTemplate) (n : Nat) :
    List.Forall₂ (Makes changes) (List.replicate n (createVM rs t))
      (List.replicate n [Op.createVM (newVM rs t)] : List (List Op)) := by
  induction n with
  | zero => exact .nil
  | succ n ih => exact .cons (createVM_makes rs t) ih

theorem deleteVMs_make (rs : VMRS) (vms : List VM) :
    List.Forall₂ (Makes changes) (vms.map (DeleteVM rs))
      (vms.map (fun vm => [Op.deleteVM vm.name]) : List (List Op)) := by
  induction vms with
  | nil => exact .nil
  | cons vm vms ih => exact .cons (deleteVM_makes rs vm) ih

theorem deletes_flatten (vms : List VM) :
    (vms.map (fun vm => [Op.deleteVM vm.name])).flatten =
      vms.map (fun vm => Op.deleteVM vm.name) := by
  rw [← List.flatMap_def]
  exact List.flatMap_pure_eq_map _ _

theorem pick_changes (n : Nat) : (pick n).Only (fun o => changes o = false) :=
  ⟨rfl, fun _ => trivial⟩

theorem pure_changes (e : Option String) :
    (Prog.pure e : Call (Option String)).Only (fun o => changes o = false) := trivial

/-- Routines that are all waited for make all their calls, and the main program
    returns. -/
theorem spawn_makes {α : Type} {routines : List (Call (Option String))} {calls : List (List Op)}
    {total : List Op} {k : Option String → Call α} (hr : ∀ r ∈ routines, SyncRoutine r)
    (hcalls : List.Forall₂ (Makes changes) routines calls) (htotal : calls.flatten = total)
    (hk : ∀ e, (k e).Only (fun o => changes o = false))
    (hturns : ∀ e, Pool.GoingTurns 2 (k e)) {l : List (Prog.Entry api)} {e : Ending α}
    (h : Prog.Path (spawn routines routines.length k) l e) :
    ∃ a, e = .returned a ∧ (changesMade l).Perm total :=
  Pool.run_counted pick_changes (Pool.counted_of_makes hcalls htotal hk)
    (spawn_not_hung hr hturns (Nat.le_refl _) h) h

/-- Every call can be answered without a failure. -/
theorem exists_answer (o : Op) : ∃ x : o.Ans, failing ⟨o, x⟩ = false := by
  cases o with
  | getVMRS => exact ⟨.error .notFound, rfl⟩
  | listVMs => exact ⟨.ok [], rfl⟩
  | createVM | deleteVM | updateStatus => exact ⟨.ok (), rfl⟩
  | satisfiedExpectations => exact ⟨true, rfl⟩
  | expectCreations | expectDeletions | creationObserved | deletionObserved | deleteExpectations =>
    exact ⟨(), rfl⟩
  | pick n => exact ⟨0, rfl⟩

theorem exists_smooth_path {α : Type} (p : Call α) :
    ∃ l a, Prog.Path p l a ∧ ∀ x ∈ l, failing x = false :=
  Prog.exists_path (fun x => failing x = false) exists_answer p

/-! ### Scaling -/

/-- A run that creates what is missing. -/
theorem scaleVMs_creates {lib : Packages} {rs : VMRS} {t : VMTemplate}
    (htemplate : rs.spec.template = some t) {vms : List VM} (hfew : (vms.length : Int) < wanted rs)
    {l : List (Prog.Entry api)} {e : Ending (Option String)}
    (h : Prog.Path (scaleVMs lib rs vms) l e) :
    (∃ err, e = .returned err) ∧
      changesMade l = List.replicate (min (wanted rs - vms.length).toNat BurstReplicas)
        (Op.createVM (newVM rs t)) := by
  have hcount : ((vms.length : Int) - wanted rs).natAbs = (wanted rs - vms.length).toNat := by omega
  simp only [scaleVMs, if_neg (show (vms.length : Int) - wanted rs ≠ 0 by omega),
    if_pos (show (vms.length : Int) - wanted rs < 0 by omega), htemplate, hcount] at h
  obtain ⟨x, l', rfl, hrest⟩ := Prog.Path.of_call h
  set n := min (wanted rs - vms.length).toNat BurstReplicas
  have hr : ∀ r ∈ List.replicate n (createVM rs t), SyncRoutine r := by
    intro r hr
    rw [List.eq_of_mem_replicate hr]
    exact createVM_syncRoutine rs t
  have hspawn : Prog.Path (spawn (List.replicate n (createVM rs t))
      (List.replicate n (createVM rs t)).length Prog.pure) l' e := by
    rw [List.length_replicate]
    exact hrest
  have htotal : (List.replicate n [Op.createVM (newVM rs t)]).flatten =
      List.replicate n (Op.createVM (newVM rs t)) := by simp
  obtain ⟨err, rfl, hperm⟩ :=
    spawn_makes hr (createVMs_make rs t n) htotal pure_changes pure_turns hspawn
  exact ⟨⟨err, rfl⟩, List.perm_replicate.mp hperm⟩

/-- A run that deletes what is too many. -/
theorem scaleVMs_deletes {lib : Packages} {rs : VMRS} {vms vmToDelete : List VM}
    (hmany : wanted rs < vms.length)
    (hdelete : getVMsToDelete lib vms (min (vms.length - wanted rs).toNat BurstReplicas) =
      some vmToDelete)
    (hlength : vmToDelete.length = min (vms.length - wanted rs).toNat BurstReplicas)
    {l : List (Prog.Entry api)} {e : Ending (Option String)}
    (h : Prog.Path (scaleVMs lib rs vms) l e) :
    (∃ err, e = .returned err) ∧
      (changesMade l).Perm (vmToDelete.map (fun vm => Op.deleteVM vm.name)) := by
  have hcount : ((vms.length : Int) - wanted rs).natAbs = (vms.length - wanted rs).toNat := by omega
  simp only [scaleVMs, if_neg (show (vms.length : Int) - wanted rs ≠ 0 by omega),
    if_neg (show ¬ (vms.length : Int) - wanted rs < 0 by omega), hcount, hdelete] at h
  obtain ⟨x, l', rfl, hrest⟩ := Prog.Path.of_call h
  have hspawn : Prog.Path (spawn (vmToDelete.map (DeleteVM rs))
      (vmToDelete.map (DeleteVM rs)).length Prog.pure) l' e := by
    rw [List.length_map, hlength]
    exact hrest
  obtain ⟨err, rfl, hperm⟩ :=
    spawn_makes (deleteVMs_syncRoutine rs vmToDelete) (deleteVMs_make rs vmToDelete)
      (deletes_flatten vmToDelete) pure_changes pure_turns hspawn
  exact ⟨⟨err, rfl⟩, hperm⟩

/-- **Scaling** moves by the right amount and removes the newest VMs, in every run:
    for every list of VMs and every number of replicas that is not negative. -/
theorem scale_exact {lib : Packages} (hlib : lib.Sorts) {rs : VMRS} {t : VMTemplate}
    (htemplate : rs.spec.template = some t) (hreplicas : 0 ≤ wanted rs) {vms : List VM}
    {l : List (Prog.Entry api)} {e : Ending (Option String)}
    (h : Prog.Path (scaleVMs lib rs vms) l e) :
    (∃ err, e = .returned err) ∧
    ((vms.length : Int) < wanted rs →
      changesMade l = List.replicate (min (wanted rs - vms.length).toNat BurstReplicas)
        (Op.createVM (newVM rs t))) ∧
    (wanted rs < vms.length →
      ∃ deleted kept, getVMsToDelete lib vms (min (vms.length - wanted rs).toNat BurstReplicas) =
          some deleted ∧
        deleted.length = min (vms.length - wanted rs).toNat BurstReplicas ∧
        (deleted ++ kept).Perm vms ∧
        ((vms.map (·.name)).Nodup → (deleted.map (·.name)).Nodup) ∧
        (changesMade l).Perm (deleted.map (fun vm => Op.deleteVM vm.name)) ∧
        ∀ a ∈ kept, ∀ b ∈ deleted, a.creationTimestamp ≤ b.creationTimestamp) ∧
    (wanted rs = vms.length → l = []) := by
  rcases Int.lt_trichotomy (vms.length : Int) (wanted rs) with hfew | hequal | hmany
  · obtain ⟨hreturned, hcreates⟩ := scaleVMs_creates htemplate hfew h
    exact ⟨hreturned, fun _ => hcreates, fun hlt => by omega, fun heq => by omega⟩
  · simp only [scaleVMs, if_pos (show (vms.length : Int) - wanted rs = 0 by omega)] at h
    cases h
    exact ⟨⟨none, rfl⟩, fun hlt => by omega, fun hlt => by omega, fun _ => rfl⟩
  · -- what is too many is not more than there is
    have hrange : min (vms.length - wanted rs).toNat BurstReplicas ≤ vms.length := by omega
    obtain ⟨deleted, kept, hdelete, hlength, hperm, hnewest⟩ := getVMsToDelete_newest hlib hrange
    obtain ⟨hreturned, hdeletes⟩ := scaleVMs_deletes hmany hdelete hlength h
    refine ⟨hreturned, fun hlt => by omega,
      fun _ => ⟨deleted, kept, hdelete, hlength, hperm, ?_, hdeletes, hnewest⟩,
      fun heq => by omega⟩
    intro hnodup
    have hnames := (hperm.map (·.name)).nodup_iff.mpr hnodup
    rw [List.map_append] at hnames
    exact (List.nodup_append.mp hnames).1

namespace Sample

/-- Packages with a sort that is one. -/
def sortingPackages : Packages := { packages with sortSlice := sortFirst fun _ => true }

theorem sortingPackages_sorts : sortingPackages.Sorts := sortFirst_sorts packages _

/-- A VM that was created later. -/
def newReplica : VM := { oldReplica with name := "web-2", uid := "uid-2", creationTimestamp := 2 }

theorem getVMsToDelete_pair {a b : VM} (h : a.creationTimestamp < b.creationTimestamp) :
    getVMsToDelete sortingPackages [a, b] 1 = some [b] := by
  simp [getVMsToDelete, sortingPackages, sortFirst, List.mergeSort, h]

end Sample

/-- Of two VMs the newer one is deleted. -/
theorem scale_exact_sample :
    ∃ l e, Prog.Path (scaleVMs Sample.sortingPackages (Sample.web [("app", "web")])
        [Sample.oldReplica, Sample.newReplica]) l e ∧
      changesMade l = [Op.deleteVM "web-2"] := by
  obtain ⟨l, e, hpath, -⟩ := exists_smooth_path
    (scaleVMs Sample.sortingPackages (Sample.web [("app", "web")])
      [Sample.oldReplica, Sample.newReplica])
  obtain ⟨-, -, hdeletes, -⟩ :=
    scale_exact Sample.sortingPackages_sorts rfl (by decide) hpath
  obtain ⟨deleted, kept, hdelete, -, -, -, hmade, -⟩ := hdeletes (by decide)
  have hpair : some deleted = some [Sample.newReplica] :=
    hdelete.symm.trans (Sample.getVMsToDelete_pair (by decide))
  cases hpair
  exact ⟨l, e, hpath, List.perm_singleton.mp hmade⟩

end VMRSController

end Virtink
