import Virtink.Framework.PoolRuns
import Virtink.Selection

/-! # Retries of the Replica Set Controller

    `Reconcile` compares the old status with the new one before it looks at its
    error, and the error of a sync is kept only in a condition that is added
    once. So whether a failed call leads to another sync depends on what else
    has changed in the status. The runs of `Reconcile` are its paths: every
    call may be answered in any way, and the scheduler picks any turn.
-/

namespace Virtink

open Calls

namespace VMRSController

/-! ### Failures and Retries -/

/-- A call of the sync that has failed. That a VM to delete is not found is no
    failure. -/
def failing : Prog.Entry api → Bool
  | ⟨.listVMs _, .error _⟩ => true
  | ⟨.createVM _, .error _⟩ => true
  | ⟨.deleteVM _, .error e⟩ => e != .notFound
  | _ => false

/-- A status that was written; it is written only when it has changed. -/
def written : Prog.Entry api → Bool
  | ⟨.updateStatus _ _, .ok _⟩ => true
  | _ => false

/-- The work queue will call `Reconcile` again. -/
def requeues : Outcome → Bool
  | .error _ => true
  | .ok r => r.requeue || r.requeueAfter != 0

/-- There will be another call of `Reconcile`, by the work queue or because of
    the event of the status write. -/
def Noticed (l : List (Prog.Entry api)) (o : Outcome) : Prop :=
  (∃ x ∈ l, written x = true) ∨ requeues o = true

/-- The same of a run that may also have brought the process down, which begins
    anew with every set. -/
def Retried (l : List (Prog.Entry api)) : Ending Outcome → Prop
  | .returned o => Noticed l o
  | .panicked => True
  | .hung => False

theorem noticed_grows : Pool.Grows Noticed := by
  rintro l l' o (⟨x, hx, hwritten⟩ | hrequeue) hsub
  · exact .inl ⟨x, hsub x hx, hwritten⟩
  · exact .inr hrequeue

/-- However the calls of a sync go that begins with these answers: if one of
    them fails, there is a retry. -/
def AlwaysRetried (lib : Packages) (req : String) (rs : VMRS) (needsSync : Bool)
    (answer : Except ApiError (List VM)) : Prop :=
  ∀ l r, Prog.Path (Reconcile lib req)
      (⟨.getVMRS req, .ok rs⟩ :: ⟨.satisfiedExpectations rs.name, needsSync⟩ ::
        ⟨.listVMs rs.uid, answer⟩ :: l) r →
    (∃ x ∈ (⟨.listVMs rs.uid, answer⟩ : Prog.Entry api) :: l, failing x = true) → Retried l r

/-! ### When a Retry Is Sure -/

/-- The set is to be synced. -/
def syncs (rs : VMRS) (needsSync : Bool) : Bool :=
  needsSync && !rs.spec.paused && rs.deletionTimestamp.isNone

/-- Apart from the failure condition the status is what the active VMs make of
    it, and nothing is left of a pause. -/
def statusCurrent (rs : VMRS) (t : VMTemplate) (active : List VM) : Bool :=
  let labelled := active.filter (fun vm => includesLabels (t.labels.getD []) (vm.labels.getD []))
  rs.status.replicas == Int32.ofNat active.length &&
  rs.status.readyReplicas == Int32.ofNat (labelled.countP isVMReady) &&
  rs.status.availableReplicas == Int32.ofNat (labelled.countP isVMAvailable) &&
  rs.status.observedGeneration == rs.generation &&
  !hasCondition rs.status.conditions .replicaPaused

/-- The VMs to delete are a slice of the active ones. With a negative number of
    replicas they need not be: then `scaleVMs` panics before it calls anything. -/
def inRange (rs : VMRS) (active : List VM) : Bool :=
  decide ((active.length : Int) < wanted rs) ||
    decide (min ((active.length : Int) - wanted rs).natAbs BurstReplicas ≤ active.length)

/-- The list has arrived, and if the sync has VMs to create or to delete, then
    the status has fallen behind anyway, or this is the first failure and every
    clean-up is waited for. -/
def RetrySure (lib : Packages) (rs : VMRS) (needsSync : Bool) :
    Except ApiError (List VM) → Prop
  | .error _ => False
  | .ok vms => ∀ controlled t, selectVMs lib rs vms = .ok controlled →
      syncs rs needsSync = true → rs.spec.template = some t →
      inRange rs (controlled.filter isVMActive) = true →
      wanted rs ≠ (controlled.filter isVMActive).length ∨ finishedVMs controlled ≠ [] →
      statusCurrent rs t (controlled.filter isVMActive) = false ∨
        (finishedVMs controlled).length ≤ BurstReplicas ∧
          hasCondition rs.status.conditions .replicaFailure = false

/-! ### Status -/

@[simp] theorem hasCondition_filterOut_self (l : List VMRSCondition) (type : VMRSConditionType) :
    hasCondition (filterOutCondition l type) type = false := by
  simp [hasCondition, filterOutCondition]

theorem hasCondition_filterOut_ne {l : List VMRSCondition} {type type' : VMRSConditionType}
    (hne : type' ≠ type) :
    hasCondition (filterOutCondition l type) type' = hasCondition l type' := by
  induction l with
  | nil => rfl
  | cons c l ih =>
    simp only [hasCondition, filterOutCondition, List.filter_cons, List.any_cons] at ih ⊢
    by_cases hc : c.type = type
    · have hother : (c.type == type') = false := by simp [hc, hne.symm]
      simp only [hc, bne_self_eq_false, Bool.false_eq_true, if_false, ih]
      simp [hne.symm]
    · simp [hc, ih]

/-- A set that is not paused has no condition that says so. -/
@[simp] theorem hasCondition_pausedConditions (l : List VMRSCondition) :
    hasCondition (pausedConditions false l) .replicaPaused = false := by
  cases h : hasCondition l .replicaPaused with
  | false => simp [pausedConditions, h]
  | true => simp [pausedConditions, h]

/-- Pausing does not touch the failure condition. -/
theorem hasCondition_pausedConditions_failure (l : List VMRSCondition) :
    hasCondition (pausedConditions false l) .replicaFailure = hasCondition l .replicaFailure := by
  cases h : hasCondition l .replicaPaused with
  | false => simp [pausedConditions, h]
  | true =>
    simp only [pausedConditions, h]
    exact hasCondition_filterOut_ne (by simp)

section status
variable {rs : VMRS} {t : VMTemplate} {active : List VM} (hpaused : rs.spec.paused = false)
  (ht : rs.spec.template = some t)
include hpaused

/-- A status that has fallen behind changes. -/
theorem status_ne_of_behind {e : Option String} {status : VMRSStatus}
    (ht : rs.spec.template = some t) (hstatus : calculateStatus rs active e = some status)
    (hbehind : statusCurrent rs t active = false) : rs.status ≠ status := by
  intro heq
  simp only [calculateStatus, ht] at hstatus
  split at hstatus
  · next t' conditions ht' _ =>
    cases ht'
    simp only [Option.some.injEq] at hstatus
    have hcurrent : statusCurrent rs t active = true := by
      rw [← heq] at hstatus
      simp [statusCurrent, ← hstatus, hpaused]
    rw [hcurrent] at hbehind
    cases hbehind
  · cases hstatus

/-- The first failure changes the status. -/
theorem status_ne_of_failure {e : String} {status : VMRSStatus}
    (hstatus : calculateStatus rs active (some e) = some status)
    (hfirst : hasCondition rs.status.conditions .replicaFailure = false) : rs.status ≠ status := by
  intro heq
  simp only [calculateStatus] at hstatus
  split at hstatus
  · next t conditions _ hconditions =>
    simp only [failureConditions, hfirst, Option.map_eq_some_iff] at hconditions
    obtain ⟨replicas, -, rfl⟩ := hconditions
    simp only [Option.some.injEq] at hstatus
    have hnow : hasCondition status.conditions .replicaFailure = true := by
      rw [← hstatus, hpaused, hasCondition_pausedConditions_failure]
      simp [hasCondition]
    rw [← heq, hfirst] at hnow
    cases hnow
  · cases hstatus

include ht

/-- Otherwise the status stays as it is. -/
theorem status_unchanged {e : Option String} (hcurrent : statusCurrent rs t active = true)
    (he : e.isSome = hasCondition rs.status.conditions .replicaFailure) :
    calculateStatus rs active e = some rs.status := by
  simp only [statusCurrent, Bool.and_eq_true, beq_iff_eq, Bool.not_eq_true'] at hcurrent
  obtain ⟨⟨⟨⟨hreplicas, hready⟩, havailable⟩, hgeneration⟩, hpause⟩ := hcurrent
  have hconditions : failureConditions rs active e = some rs.status.conditions := by
    cases e with
    | none => simp [failureConditions, ← he]
    | some e => simp [failureConditions, ← he]
  have hkept : pausedConditions rs.spec.paused rs.status.conditions = rs.status.conditions := by
    simp [pausedConditions, hpaused, hpause]
  simp only [calculateStatus, ht, hconditions, hkept, ← hreplicas, ← hready, ← havailable,
    ← hgeneration]

end status

/-! ### Routines and the End of a Sync -/

/-- The calls of the controller that cannot fail a sync. -/
abbrev SafeCall : Op → Prop := Pool.Safe failing

theorem pick_safe (n : Nat) : (pick n).Only SafeCall := ⟨fun _ => rfl, fun _ => trivial⟩

theorem finish_safe (rs : VMRS) (active : List VM) (e : Option String) :
    (finish rs active e).Only SafeCall :=
  finish_only fun _ _ => rfl

/-- A path without failing calls. -/
theorem not_failing_of_safe {α : Type} {p : Call α} (hp : p.Only SafeCall)
    {l : List (Prog.Entry api)} {a : α} (h : Prog.Path p l a) :
    ¬ ∃ x ∈ l, failing x = true := by
  rintro ⟨x, hx, hfail⟩
  rw [hp.path h x hx x.2] at hfail
  cases hfail

/-- A changed status is written, or the failed write is reported. -/
theorem writeStatus_noticed {rs : VMRS} {status : VMRSStatus} (hne : rs.status ≠ status) :
    Pool.GoingWell Noticed [] (writeStatus rs status none) := by
  intro l o hpath
  simp only [writeStatus, hne, if_false] at hpath
  obtain ⟨l₁, l₂, x, rfl, hcall, hend⟩ := Prog.Path.of_bind hpath
  cases hcall with
  | call hpure =>
    cases hpure
    cases x with
    | ok u =>
      refine .inl ⟨⟨.updateStatus rs.name status, .ok u⟩, ?_, rfl⟩
      simp
    | error e =>
      cases hend
      refine .inr ?_
      cases e <;> rfl

/-- The sync ends with a retry whatever error it has seen. -/
theorem finish_noticed {rs : VMRS} {active : List VM} (hpaused : rs.spec.paused = false)
    (hbehind : ∀ t, rs.spec.template = some t → statusCurrent rs t active = false)
    (e : Option String) : Pool.GoingWell Noticed [] (finish rs active e) := by
  intro l o hpath
  simp only [finish] at hpath
  split at hpath
  · cases hpath
    exact .inr rfl
  · next status hstatus =>
    cases ht : rs.spec.template with
    | none => simp [calculateStatus, ht] at hstatus
    | some t =>
      exact writeStatus_noticed (status_ne_of_behind hpaused ht hstatus (hbehind t ht)) l o hpath

/-- The sync ends with a retry if it has seen the first error. -/
theorem finish_noticed_first {rs : VMRS} {active : List VM} (hpaused : rs.spec.paused = false)
    (hfirst : hasCondition rs.status.conditions .replicaFailure = false) (e : String) :
    Pool.GoingWell Noticed [] (finish rs active (some e)) := by
  intro l o hpath
  simp only [finish] at hpath
  split at hpath
  · cases hpath
    exact .inr rfl
  · next status hstatus =>
    exact writeStatus_noticed (status_ne_of_failure hpaused hstatus hfirst) l o hpath

theorem finish_turns (rs : VMRS) (active : List VM) (e : Option String) :
    Pool.GoingTurns 2 (finish rs active e) := by
  simp only [finish]
  split
  · exact Nat.le_succ 1
  · simp only [writeStatus]
    split
    · exact Nat.le_succ 1
    · intro x
      cases x with
      | ok _ => exact Nat.le_refl 1
      | error _ => exact Nat.le_refl 1

theorem pure_turns (e : Option String) : Pool.GoingTurns 2 (Prog.pure e : Call (Option String)) :=
  Nat.le_succ 1

/-- What the routines of a sync have in common: they report a failing call,
    they can succeed, and they can fail. -/
structure SyncRoutine (r : Call (Option String)) : Prop where
  reports : Pool.Reports failing false r
  turns   : Pool.RoutineTurns 4 r
  succeed : ∃ l, Prog.Path r l none ∧ ∀ x ∈ l, written x = false
  fail    : ∃ o x k l e, r = .call o k ∧ failing ⟨o, x⟩ = true ∧ Prog.Path (k x) l (some e) ∧
    ∀ y ∈ l, written y = false

theorem createVM_syncRoutine (rs : VMRS) (t : VMTemplate) : SyncRoutine (createVM rs t) where
  reports x := by
    match x with
    | .ok _ => exact fun h => by cases h
    | .error _ => exact fun _ _ => rfl
  turns x := by
    match x with
    | .ok _ => exact Nat.le_add_left 1 2
    | .error _ => exact fun _ => Nat.le_refl 2
  succeed := ⟨[⟨.createVM (newVM rs t), .ok ()⟩], .call (.pure _), by simp [written]⟩
  fail := ⟨.createVM (newVM rs t), .error (.other "refused"), _, [⟨.creationObserved rs.name, ()⟩],
    "refused", rfl, rfl, .call (.pure _), by simp [written]⟩

theorem deleteVM_syncRoutine (rs : VMRS) (vm : VM) : SyncRoutine (DeleteVM rs vm) where
  reports x := by
    match x with
    | .ok _ => exact fun h => by cases h
    | .error .notFound => exact fun h => by cases h
    | .error .conflict | .error .alreadyExists | .error (.other _) => exact fun _ _ => rfl
  turns x := by
    match x with
    | .ok _ => exact Nat.le_add_left 1 2
    | .error .notFound => exact Nat.le_add_left 1 2
    | .error .conflict | .error .alreadyExists | .error (.other _) => exact fun _ => Nat.le_refl 2
  succeed := ⟨[⟨.deleteVM vm.name, .ok ()⟩], .call (.pure _), by simp [written]⟩
  fail := ⟨.deleteVM vm.name, .error (.other "refused"), _, [⟨.deletionObserved rs.name vm.name, ()⟩],
    "refused", rfl, rfl, .call (.pure _), by simp [written]⟩

theorem deleteVMs_syncRoutine (rs : VMRS) (vms : List VM) :
    ∀ r ∈ vms.map (DeleteVM rs), SyncRoutine r := by
  intro r hr
  obtain ⟨vm, -, rfl⟩ := List.mem_map.mp hr
  exact deleteVM_syncRoutine rs vm

/-! ### Every Failure Is Noticed -/

section spawned
variable {α : Type} {routines : List (Call (Option String))} {n : Nat}
  {k : Option String → Call α} (hr : ∀ r ∈ routines, SyncRoutine r)
  (hturns : ∀ e, Pool.GoingTurns 2 (k e))
include hr hturns

theorem spawn_turnsLeft : Pool.TurnsLeft (4 * routines.length + 3)
    { routines := routines, counter := n, capacity := n } (.waiting k) := by
  refine ⟨List.replicate routines.length 4, 3, ?_, ⟨2, rfl, hturns⟩, ?_⟩
  · have hall : ∀ r ∈ routines, Pool.RoutineTurns 4 r := fun r hmem => (hr r hmem).turns
    clear hr
    induction routines with
    | nil => exact .nil
    | cons r routines ih =>
      exact .cons (hall r List.mem_cons_self) (ih fun r' hr' => hall r' (List.mem_cons_of_mem _ hr'))
  · rw [List.sum_replicate_nat]
    omega

theorem spawn_not_hung (hn : n ≤ routines.length) {l : List (Prog.Entry api)} {e : Ending α}
    (h : Prog.Path (spawn routines n k) l e) : e ≠ .hung :=
  Pool.run_not_hung (spawn_turnsLeft hr hturns) ⟨hn, by simp⟩ h

/-- Routines that are all waited for: a failing call is seen by the main
    program. -/
theorem spawn_joined {good : List (Prog.Entry api) → α → Prop} (hgood : Pool.Grows good)
    (hsafe : ∀ e, (k e).Only SafeCall) (hk : ∀ e, Pool.GoingWell good [] (k (some e)))
    {l : List (Prog.Entry api)} {e : Ending α}
    (h : Prog.Path (spawn routines routines.length k) l e)
    (hfail : ∃ x ∈ l, failing x = true) : e = .panicked ∨ ∃ a, e = .returned a ∧ good l a := by
  have hreports : List.Forall₂ (Pool.Reports failing) (List.replicate routines.length false)
      routines := by
    have hall : ∀ r ∈ routines, Pool.Reports failing false r := fun r hmem => (hr r hmem).reports
    clear hr h
    induction routines with
    | nil => exact .nil
    | cons r routines ih =>
      exact .cons (hall r List.mem_cons_self) (ih fun r' hr' => hall r' (List.mem_cons_of_mem _ hr'))
  have hjoined : Pool.Joined failing good
      { routines := routines, counter := routines.length, capacity := routines.length }
      (.waiting k) [] :=
    ⟨rfl, hsafe, hk, _, hreports, by simp⟩
  exact (Pool.run_joined hgood pick_safe hjoined h hfail).resolve_left
    (spawn_not_hung hr hturns (Nat.le_refl _) h)

/-- A main program that ends well with every error. -/
theorem spawn_good {good : List (Prog.Entry api) → α → Prop} (hgood : Pool.Grows good)
    (hk : ∀ e, Pool.GoingWell good [] (k e)) (hn : n ≤ routines.length)
    {l : List (Prog.Entry api)} {e : Ending α} (h : Prog.Path (spawn routines n k) l e) :
    e = .panicked ∨ ∃ a, e = .returned a ∧ good l a := by
  have hmain : Pool.MainWell good [] (.waiting k : Main api String α) := hk
  exact (Pool.run_good hgood hmain h).resolve_left (spawn_not_hung hr hturns hn h)

end spawned

/-- The calls that tell what to expect. -/
inductive Announces : Op → Prop where
  | creations (rc : String) (adds : Nat) : Announces (.expectCreations rc adds)
  | deletions (rc : String) (keys : List String) : Announces (.expectDeletions rc keys)

theorem Announces.safe {o : Op} (h : Announces o) : SafeCall o := by
  cases h <;> exact fun _ => rfl

/-- What `scaleVMs` does: nothing, or it panics because its slice is out of
    range, or it says what to expect and starts its routines, of which the first
    dereferences a template that is nil. -/
theorem scaleVMs_cases {lib : Packages} (hlib : lib.Lawful) (rs : VMRS) (vms : List VM) :
    (wanted rs = vms.length ∧ scaleVMs lib rs vms = .pure (.returned none)) ∨
    (inRange rs vms = false ∧ scaleVMs lib rs vms = .pure .panicked) ∨
    (rs.spec.template = none ∧
      ∃ o, Announces o ∧ scaleVMs lib rs vms = (ask o).bind fun _ => .pure .panicked) ∨
    (wanted rs ≠ vms.length ∧ inRange rs vms = true ∧
      ∃ o routines, Announces o ∧ routines ≠ [] ∧ (∀ r ∈ routines, SyncRoutine r) ∧
        scaleVMs lib rs vms = (ask o).bind fun _ => spawn routines routines.length Prog.pure) := by
  by_cases hdiff : (vms.length : Int) - wanted rs = 0
  · refine .inl ⟨by omega, ?_⟩
    simp [scaleVMs, hdiff]
  have hne : wanted rs ≠ vms.length := by omega
  have hburst : 0 < BurstReplicas := by decide
  set maxDiff := min ((vms.length : Int) - wanted rs).natAbs BurstReplicas with hmax
  have hpos : maxDiff ≠ 0 := by omega
  by_cases hneg : (vms.length : Int) - wanted rs < 0
  · -- VMs are missing
    cases ht : rs.spec.template with
    | none =>
      refine .inr (.inr (.inl ⟨rfl, .expectCreations rs.name maxDiff, .creations _ _, ?_⟩))
      simp only [scaleVMs, hdiff, hneg, ht, if_true, if_false]
      rfl
    | some t =>
      have hfew : (vms.length : Int) < wanted rs := by omega
      refine .inr (.inr (.inr ⟨hne, by simp [inRange, hfew], .expectCreations rs.name maxDiff,
        List.replicate maxDiff (createVM rs t), .creations _ _, by simpa using hpos, ?_, ?_⟩))
      · intro r hr
        rw [List.eq_of_mem_replicate hr]
        exact createVM_syncRoutine rs t
      · simp only [scaleVMs, hdiff, hneg, ht, if_true, if_false, List.length_replicate, ← hmax]
        rfl
  · -- there are too many
    by_cases hle : maxDiff ≤ vms.length
    · obtain ⟨vmToDelete, hsome, hlength, -⟩ := getVMsToDelete_eq_some hlib hle
      have hrange : inRange rs vms = true := by simp only [inRange, ← hmax, hle, decide_true,
        Bool.or_true]
      refine .inr (.inr (.inr ⟨hne, hrange, .expectDeletions rs.name (vmToDelete.map (·.name)),
        vmToDelete.map (DeleteVM rs), .deletions _ _, ?_, ?_, ?_⟩))
      · intro hnil
        rw [List.map_eq_nil_iff.mp hnil] at hlength
        exact hpos hlength.symm
      · exact deleteVMs_syncRoutine rs vmToDelete
      · simp only [scaleVMs, hdiff, hneg, if_false, ← hmax, hsome, List.length_map, hlength]
        rfl
    · refine .inr (.inl ⟨?_, ?_⟩)
      · have hmany : ¬ (vms.length : Int) < wanted rs := by omega
        simp [inRange, hmany, ← hmax, Nat.lt_of_not_le hle]
      · have hlength : ¬ maxDiff < vms.length := by omega
        have hnone : getVMsToDelete lib vms maxDiff = none := by
          simp [getVMsToDelete, hlength, hle]
        simp only [scaleVMs, hdiff, hneg, if_false, ← hmax, hnone]
        rfl

/-- A path that begins with a call. -/
theorem path_of_ask {α : Type} {o : Op} {f : o.Ans → Call α} {l : List (Prog.Entry api)} {a : α}
    (h : Prog.Path ((ask o).bind f) l a) : ∃ x l', l = ⟨o, x⟩ :: l' ∧ Prog.Path (f x) l' a := by
  cases h with
  | @call _ _ x l' _ h => exact ⟨x, l', rfl, h⟩

/-- `scaleVMs` panics or returns, and it returns an error if a call of its
    routines has failed. -/
theorem scaleVMs_path {lib : Packages} (hlib : lib.Lawful) {rs : VMRS} {vms : List VM}
    {l : List (Prog.Entry api)} {a : Ending (Option String)}
    (h : Prog.Path (scaleVMs lib rs vms) l a) :
    a = .panicked ∨ ∃ e, a = .returned e ∧ inRange rs vms = true ∧
      (e.isSome = true → wanted rs ≠ vms.length) ∧
      ((∃ x ∈ l, failing x = true) → e.isSome = true) := by
  rcases scaleVMs_cases hlib rs vms with ⟨heq, hscale⟩ | ⟨-, hscale⟩ | ⟨-, o, -, hscale⟩ |
    ⟨hne, hrange, o, routines, ho, -, hroutines, hscale⟩
  · rw [hscale] at h
    cases h
    refine .inr ⟨none, rfl, ?_, by simp, by simp⟩
    simp [inRange, heq]
  · rw [hscale] at h
    cases h
    exact .inl rfl
  · rw [hscale] at h
    obtain ⟨x, l', rfl, hpanic⟩ := path_of_ask h
    cases hpanic
    exact .inl rfl
  · rw [hscale] at h
    obtain ⟨x, l', rfl, hspawn⟩ := path_of_ask h
    have hhung := spawn_not_hung hroutines pure_turns (Nat.le_refl _) hspawn
    match a with
    | .hung => exact absurd rfl hhung
    | .panicked => exact .inl rfl
    | .returned e =>
      refine .inr ⟨e, rfl, hrange, fun _ => hne, ?_⟩
      rintro ⟨y, hy, hfail⟩
      -- the announcement itself cannot fail
      have hmem : y ∈ l' := by
        rcases List.mem_cons.mp hy with rfl | hy
        · rw [ho.safe x] at hfail
          cases hfail
        · exact hy
      have hgrows : Pool.Grows
          (fun (_ : List (Prog.Entry api)) (e : Option String) => e.isSome = true) :=
        fun _ _ _ hsome _ => hsome
      have hseen := spawn_joined hroutines pure_turns hgrows (fun _ => trivial)
        (fun e l a hpath => by cases hpath; rfl) hspawn ⟨y, hmem, hfail⟩
      rcases hseen with hpanic | ⟨e', he, hsome⟩
      · cases hpanic
      · cases he
        exact hsome

theorem path_of_returning {α : Type} {p : Call α} {l : List (Prog.Entry api)} {r : Ending α}
    (h : Prog.Path (returning p) l r) : ∃ a, r = .returned a ∧ Prog.Path p l a := by
  obtain ⟨l₁, l₂, a, rfl, hp, hend⟩ := Prog.Path.of_bind h
  cases hend
  exact ⟨a, rfl, by simpa using hp⟩

/-- A sync with a failing call is retried, if the status has fallen behind or
    this is the first failure. -/
theorem sync_retried {lib : Packages} (hlib : lib.Lawful) {rs : VMRS} {vms : List VM}
    (hpaused : rs.spec.paused = false)
    (hsure : inRange rs (vms.filter isVMActive) = true →
      wanted rs ≠ (vms.filter isVMActive).length ∨ finishedVMs vms ≠ [] →
      (∀ t, rs.spec.template = some t → statusCurrent rs t (vms.filter isVMActive) = false) ∨
        (finishedVMs vms).length ≤ BurstReplicas ∧
          hasCondition rs.status.conditions .replicaFailure = false)
    {l : List (Prog.Entry api)} {r : Ending Outcome} (h : Prog.Path (sync lib rs vms) l r)
    (hfail : ∃ x ∈ l, failing x = true) : Retried l r := by
  obtain ⟨l₁, l₂, a, rfl, hscale, hrest⟩ := Prog.Path.of_bind h
  have hlater : ∀ {o}, Noticed l₂ o → Noticed (l₁ ++ l₂) o :=
    fun hnoticed => noticed_grows _ _ _ hnoticed (fun x hx => List.mem_append_right _ hx)
  rcases scaleVMs_path hlib hscale with rfl | ⟨e, rfl, hrange, hne, hseen⟩
  · cases hrest
    trivial
  cases e with
  | some e =>
    -- the scaling has failed
    obtain ⟨o, rfl, hfinish⟩ := path_of_returning hrest
    rcases hsure hrange (.inl (hne rfl)) with hbehind | ⟨-, hfirst⟩
    · exact hlater (finish_noticed hpaused hbehind _ l₂ o hfinish)
    · exact hlater (finish_noticed_first hpaused hfirst e l₂ o hfinish)
  | none =>
    have hclean : ∃ x ∈ l₂, failing x = true := by
      obtain ⟨x, hx, hx'⟩ := hfail
      rcases List.mem_append.mp hx with hx | hx
      · cases hseen ⟨x, hx, hx'⟩
      · exact ⟨x, hx, hx'⟩
    dsimp only at hrest
    split at hrest
    · -- nothing is left that could fail
      obtain ⟨o, rfl, hfinish⟩ := path_of_returning hrest
      exact absurd hclean (not_failing_of_safe (finish_safe rs _ none) hfinish)
    · next hfinished =>
      have hroutines := deleteVMs_syncRoutine rs (finishedVMs vms)
      have hended : r = .panicked ∨ ∃ o, r = .returned o ∧ Noticed l₂ o := by
        rcases hsure hrange (.inr hfinished) with hbehind | ⟨hfew, hfirst⟩
        · have hcount : min (finishedVMs vms).length BurstReplicas ≤
              ((finishedVMs vms).map (DeleteVM rs)).length := by
            rw [List.length_map]
            exact Nat.min_le_left _ _
          exact spawn_good hroutines (finish_turns rs _) noticed_grows
            (finish_noticed hpaused hbehind) hcount hrest
        · -- all clean-ups are waited for
          have hmin : min (finishedVMs vms).length BurstReplicas =
              ((finishedVMs vms).map (DeleteVM rs)).length := by
            rw [List.length_map]
            omega
          rw [cleanVMs, hmin] at hrest
          exact spawn_joined hroutines (finish_turns rs _) noticed_grows (finish_safe rs _)
            (finish_noticed_first hpaused hfirst) hrest hclean
      rcases hended with rfl | ⟨o, rfl, hnoticed⟩
      · trivial
      · exact hlater hnoticed

/-! ### Failures that Go Unnoticed -/

/-- Everything but the choices of the scheduler. -/
def real : Prog.Entry api → Bool
  | ⟨.pick _, _⟩ => false
  | _ => true

theorem real_of_failing {x : Prog.Entry api} (h : failing x = true) : real x = true := by
  obtain ⟨o, x⟩ := x
  cases o <;> first | rfl | cases h

theorem real_of_written {x : Prog.Entry api} (h : written x = true) : real x = true := by
  obtain ⟨o, x⟩ := x
  cases o <;> first | rfl | cases h

theorem pick_any (n : Nat) (i : Fin (n + 1)) :
    ∃ l, Prog.Path (pick n) l i ∧ ∀ x ∈ l, real x = false :=
  ⟨[⟨.pick n, i⟩], .call (.pure i), by simp [real]⟩

/-- The calls of a path without a status write. -/
def Unwritten (l : List (Prog.Entry api)) : Prop := ∀ x ∈ l, written x = false

section spawned
variable {α : Type} {routines : List (Call (Option String))} {n : Nat}
  {k : Option String → Call α} (hr : ∀ r ∈ routines, SyncRoutine r)
  (hturns : ∀ e, Pool.GoingTurns 2 (k e))
include hr hturns

/-- What the turns can do, `spawn` can do. -/
theorem spawn_path {l : List (Prog.Entry api)} {pool : Pool api String}
    {main : Main api String α} {a : α}
    (h : Pool.Runs { routines := routines, counter := n, capacity := n } (.waiting k) l pool main)
    (hmain : main = .going (.pure a)) (hl : Unwritten l) :
    ∃ l', Prog.Path (spawn routines n k) l' (.returned a) ∧ Unwritten l' ∧
      ((∃ x ∈ l, failing x = true) → ∃ x ∈ l', failing x = true) := by
  obtain ⟨l', hpath, hfilter⟩ := h.path pick_any (.returned hmain) (spawn_turnsLeft hr hturns)
  have hmem : ∀ x, real x = true → (x ∈ l' ↔ x ∈ l) := by
    intro x hx
    have hiff := congrArg (x ∈ ·) hfilter
    simpa [List.mem_filter, hx] using hiff
  refine ⟨l', hpath, ?_, ?_⟩
  · intro x hx
    cases hwritten : written x with
    | false => rfl
    | true =>
      have hl' := hl x ((hmem x (real_of_written hwritten)).mp hx)
      rw [hwritten] at hl'
      cases hl'
  · rintro ⟨x, hx, hfail⟩
    exact ⟨x, (hmem x (real_of_failing hfail)).mpr hx, hfail⟩

omit hturns in
/-- The first routines succeed, as many as are waited for. -/
theorem runs_succeed {rs rest : List (Call (Option String))} (hsplit : routines = rs ++ rest) :
    ∃ l, Pool.Runs { routines := routines, counter := rs.length, capacity := rs.length }
      (.waiting k) l { routines := rest, counter := 0, capacity := rs.length } (.waiting k) ∧
      Unwritten l := by
  have hrs : ∀ r ∈ rs, ∃ l, Prog.Path r l none ∧ Unwritten l := by
    intro r hmem
    exact (hr r (by simp [hsplit, hmem])).succeed
  let pool : Pool api String := { routines := routines, counter := rs.length, capacity := rs.length }
  obtain ⟨l, hruns, hl⟩ := Pool.Runs.routines hrs (show pool.routines = rs ++ rest from hsplit)
    (Nat.le_refl _) (Nat.zero_le _)
  refine ⟨l, ?_, hl⟩
  simpa [pool] using hruns

/-- A path of the main program after the routines that are waited for. -/
theorem spawn_succeeds {rs rest : List (Call (Option String))} (hsplit : routines = rs ++ rest)
    {l : List (Prog.Entry api)} {a : α} (hk : Prog.Path (k none) l a) (hl : Unwritten l) :
    ∃ l', Prog.Path (spawn routines rs.length k) l' (.returned a) ∧ Unwritten l' := by
  obtain ⟨l₁, hruns, hl₁⟩ := runs_succeed hr hsplit
  have hall := hruns.trans (.step (.resume rfl rfl) (.going hk _))
  obtain ⟨l', hpath, hl', -⟩ := spawn_path hr hturns hall rfl (by
    intro x hx
    simp only [List.mem_append, List.not_mem_nil, false_or] at hx
    exact hx.elim (hl₁ x) (hl x))
  exact ⟨l', hpath, hl'⟩

/-- The routines that are waited for succeed, one more fails, and the main
    program does not see it. -/
theorem spawn_misses {r : Call (Option String)} {rs rest : List (Call (Option String))}
    (hsplit : routines = rs ++ r :: rest) {l : List (Prog.Entry api)} {a : α}
    (hk : Prog.Path (k none) l a) (hl : Unwritten l) :
    ∃ l', Prog.Path (spawn routines rs.length k) l' (.returned a) ∧ Unwritten l' ∧
      ∃ x ∈ l', failing x = true := by
  obtain ⟨o, x, kr, lr, e, rfl, hfail, -, -⟩ := (hr r (by simp [hsplit])).fail
  obtain ⟨l₁, hruns, hl₁⟩ := runs_succeed hr hsplit
  -- the call of the next routine is answered, but the error is not yet sent
  let pool : Pool api String :=
    { routines := .call o kr :: rest, counter := 0, capacity := rs.length }
  have hcall : Pool.Goes pool (.waiting k) [⟨o, x⟩] { pool with routines := [] ++ kr x :: rest }
      (.waiting k) := .call x rfl
  have hall := hruns.trans (.step hcall (.step (.resume rfl rfl) (.going hk _)))
  obtain ⟨l', hpath, hl', hfail'⟩ := spawn_path hr hturns hall rfl (by
    intro y hy
    simp only [List.mem_append, List.mem_cons, List.not_mem_nil, or_false, false_or] at hy
    rcases hy with hy | rfl | hy
    · exact hl₁ y hy
    · cases hwritten : written ⟨o, x⟩ with
      | false => rfl
      | true => cases o <;> first | cases hwritten | cases hfail
    · exact hl y hy)
  exact ⟨l', hpath, hl', hfail' ⟨⟨o, x⟩, by simp, hfail⟩⟩

/-- The first routine fails, as many others succeed as are waited for, and the
    main program sees the error. -/
theorem spawn_fails {r : Call (Option String)} {rs rest : List (Call (Option String))}
    (hsplit : routines = r :: (rs ++ rest)) :
    ∃ e, ∀ {l a}, Prog.Path (k (some e)) l a → Unwritten l →
      ∃ l', Prog.Path (spawn routines (rs.length + 1) k) l' (.returned a) ∧ Unwritten l' ∧
        ∃ x ∈ l', failing x = true := by
  obtain ⟨o, x, kr, lr, e, rfl, hfail, hpath, hlr⟩ := (hr r (by simp [hsplit])).fail
  refine ⟨e, fun {l a} hk hl => ?_⟩
  let pool : Pool api String :=
    { routines := routines, counter := rs.length + 1, capacity := rs.length + 1 }
  let later : Pool api String :=
    { routines := rs ++ rest, counter := rs.length, capacity := rs.length + 1, channel := [e] }
  have hrun : Pool.Runs pool (.waiting k) (⟨o, x⟩ :: lr) _ (.waiting k) :=
    Pool.Runs.routine (.call hpath) (show pool.routines = [] ++ .call o kr :: (rs ++ rest) from hsplit)
      (Nat.succ_ne_zero _) (Nat.le_add_left 1 _)
  have hfirst : Pool.Runs pool (.waiting k) (⟨o, x⟩ :: lr) later (.waiting k) := hrun
  have hrs : ∀ r ∈ rs, ∃ l, Prog.Path r l none ∧ Unwritten l := by
    intro r hmem
    exact (hr r (by simp [hsplit, hmem])).succeed
  obtain ⟨l₁, hruns, hl₁⟩ := Pool.Runs.routines hrs (rfl : later.routines = rs ++ rest)
    (Nat.le_refl _) (Nat.le_add_left 1 _)
  have hzero : later.counter - rs.length = 0 := Nat.sub_self _
  have hall := hfirst.trans (hruns.trans (.step (.resume rfl hzero) (.going hk _)))
  obtain ⟨l', hpath', hl', hfail'⟩ := spawn_path hr hturns hall rfl (by
    intro y hy
    simp only [List.mem_append, List.mem_cons, List.not_mem_nil, false_or] at hy
    rcases hy with (rfl | hy) | hy | hy
    · cases hwritten : written ⟨o, x⟩ with
      | false => rfl
      | true => cases o <;> first | cases hwritten | cases hfail
    · exact hlr y hy
    · exact hl₁ y hy
    · exact hl y hy)
  exact ⟨l', hpath', hl', hfail' ⟨⟨o, x⟩, by simp, hfail⟩⟩

end spawned

theorem Announces.path {o : Op} (h : Announces o) {α : Type} {p : Call α}
    {l : List (Prog.Entry api)} {a : α} (hp : Prog.Path p l a) (hl : Unwritten l) :
    ∃ x : o.Ans, Prog.Path ((ask o).bind fun _ => p) (⟨o, x⟩ :: l) a ∧ Unwritten (⟨o, x⟩ :: l) := by
  cases h with
  | creations rc adds =>
    refine ⟨(), .call hp, ?_⟩
    intro y hy
    rcases List.mem_cons.mp hy with rfl | hy
    · rfl
    · exact hl y hy
  | deletions rc keys =>
    refine ⟨(), .call hp, ?_⟩
    intro y hy
    rcases List.mem_cons.mp hy with rfl | hy
    · rfl
    · exact hl y hy

section cleanup
variable {α : Type} {rs : VMRS} {vms : List VM} {k : Option String → Call α} {a : α}
  (hturns : ∀ e, Pool.GoingTurns 2 (k e))
include hturns

/-- The first of the clean-ups can fail. -/
theorem cleanVMs_fails (hne : vms ≠ []) (hk : ∀ e, k (some e) = .pure a) :
    ∃ l, Prog.Path (cleanVMs rs vms k) l (.returned a) ∧ Unwritten l ∧
      ∃ x ∈ l, failing x = true := by
  obtain ⟨vm, rest, rfl⟩ := List.exists_cons_of_ne_nil hne
  have hburst : 0 < BurstReplicas := by decide
  set m := min rest.length (BurstReplicas - 1) with hm
  have hsplit : (vm :: rest).map (DeleteVM rs) =
      DeleteVM rs vm :: ((rest.take m).map (DeleteVM rs) ++ (rest.drop m).map (DeleteVM rs)) := by
    rw [← List.map_append, List.take_append_drop, List.map_cons]
  have hcount : min (vm :: rest).length BurstReplicas =
      ((rest.take m).map (DeleteVM rs)).length + 1 := by
    simp only [List.length_cons, List.length_map, List.length_take]
    omega
  obtain ⟨e, hspawn⟩ := spawn_fails (deleteVMs_syncRoutine rs (vm :: rest)) hturns hsplit
  rw [cleanVMs, hcount]
  exact hspawn (by rw [hk e]; exact .pure a) (by simp [Unwritten])

/-- If there are more clean-ups than are waited for, one can fail after the
    others have succeeded. -/
theorem cleanVMs_misses (hmany : BurstReplicas < vms.length) (hk : k none = .pure a) :
    ∃ l, Prog.Path (cleanVMs rs vms k) l (.returned a) ∧ Unwritten l ∧
      ∃ x ∈ l, failing x = true := by
  have hdrop : vms.drop BurstReplicas ≠ [] := by
    intro hnil
    have hlength := congrArg List.length hnil
    simp only [List.length_drop, List.length_nil] at hlength
    omega
  obtain ⟨vm, rest, hrest⟩ := List.exists_cons_of_ne_nil hdrop
  have hsplit : vms.map (DeleteVM rs) =
      (vms.take BurstReplicas).map (DeleteVM rs) ++ DeleteVM rs vm :: rest.map (DeleteVM rs) := by
    rw [← List.map_cons, ← hrest, ← List.map_append, List.take_append_drop]
  have hcount : min vms.length BurstReplicas =
      ((vms.take BurstReplicas).map (DeleteVM rs)).length := by
    simp only [List.length_map, List.length_take]
    omega
  rw [cleanVMs, hcount]
  exact spawn_misses (deleteVMs_syncRoutine rs vms) hturns hsplit (by rw [hk]; exact .pure a)
    (by simp [Unwritten])

end cleanup

section silent
variable {lib : Packages} (hlib : lib.Lawful) {rs : VMRS} {t : VMTemplate}
  (ht : rs.spec.template = some t)
include hlib ht

/-- `scaleVMs` can fail if it has something to do. -/
theorem scaleVMs_fails {vms : List VM} (hrange : inRange rs vms = true)
    (hne : wanted rs ≠ vms.length) :
    ∃ l e, Prog.Path (scaleVMs lib rs vms) l (.returned (some e)) ∧ Unwritten l ∧
      ∃ x ∈ l, failing x = true := by
  rcases scaleVMs_cases hlib rs vms with ⟨heq, -⟩ | ⟨hout, -⟩ | ⟨hnone, -⟩ |
    ⟨-, -, o, routines, ho, hnonempty, hroutines, hscale⟩
  · exact absurd heq hne
  · rw [hrange] at hout
    cases hout
  · rw [ht] at hnone
    cases hnone
  · obtain ⟨r, rest, rfl⟩ := List.exists_cons_of_ne_nil hnonempty
    obtain ⟨e, hspawn⟩ := spawn_fails hroutines pure_turns
      (show r :: rest = r :: (rest ++ []) by simp)
    obtain ⟨l, hpath, hl, x, hx, hfail⟩ := hspawn (.pure (some e)) (by simp [Unwritten])
    obtain ⟨y, hpath', hl'⟩ := ho.path hpath hl
    exact ⟨_, e, hscale ▸ hpath', hl', x, List.mem_cons_of_mem _ hx, hfail⟩

/-- `scaleVMs` can come through without an error. -/
theorem scaleVMs_succeeds {vms : List VM} (hrange : inRange rs vms = true) :
    ∃ l, Prog.Path (scaleVMs lib rs vms) l (.returned none) ∧ Unwritten l := by
  rcases scaleVMs_cases hlib rs vms with ⟨-, hscale⟩ | ⟨hout, -⟩ | ⟨hnone, -⟩ |
    ⟨-, -, o, routines, ho, -, hroutines, hscale⟩
  · exact ⟨[], hscale ▸ .pure _, by simp [Unwritten]⟩
  · rw [hrange] at hout
    cases hout
  · rw [ht] at hnone
    cases hnone
  · obtain ⟨l, hpath, hl⟩ := spawn_succeeds hroutines pure_turns
      (show routines = routines ++ [] by simp) (.pure none) (by simp [Unwritten])
    obtain ⟨y, hpath', hl'⟩ := ho.path hpath hl
    exact ⟨_, hscale ▸ hpath', hl'⟩

omit hlib in
/-- An error that the status does not show ends the sync without a trace. -/
theorem finish_silent {active : List VM} (hpaused : rs.spec.paused = false) {e : Option String}
    (hcurrent : statusCurrent rs t active = true)
    (he : e.isSome = hasCondition rs.status.conditions .replicaFailure) :
    finish rs active e = .pure (.ok {}) := by
  simp only [finish, status_unchanged hpaused ht hcurrent he, writeStatus, if_true]
  rfl

/-- A sync can fail silently: if the failure condition is already there, or if
    it starts more clean-ups than it waits for. -/
theorem sync_silent {vms : List VM} (hpaused : rs.spec.paused = false)
    (hrange : inRange rs (vms.filter isVMActive) = true)
    (hwork : wanted rs ≠ (vms.filter isVMActive).length ∨ finishedVMs vms ≠ [])
    (hcurrent : statusCurrent rs t (vms.filter isVMActive) = true)
    (hunsure : BurstReplicas < (finishedVMs vms).length ∨
      hasCondition rs.status.conditions .replicaFailure = true) :
    ∃ l, Prog.Path (sync lib rs vms) l (.returned (.ok {})) ∧ Unwritten l ∧
      ∃ x ∈ l, failing x = true := by
  have hnothing : Unwritten ([] : List (Prog.Entry api)) := by simp [Unwritten]
  have hjoin : ∀ {l l' : List (Prog.Entry api)}, Unwritten l → Unwritten l' →
      Unwritten (l ++ l') := by
    intro l l' hl hl' x hx
    exact (List.mem_append.mp hx).elim (hl x) (hl' x)
  -- a path of the clean-up after a scaling without errors
  have hclean : finishedVMs vms ≠ [] → ∀ {l}, Prog.Path (cleanVMs rs (finishedVMs vms)
      (finish rs (vms.filter isVMActive))) l (.returned (.ok {})) → Unwritten l →
      (∃ x ∈ l, failing x = true) →
      ∃ l, Prog.Path (sync lib rs vms) l (.returned (.ok {})) ∧ Unwritten l ∧
        ∃ x ∈ l, failing x = true := by
    rintro hfinished l hpath hl ⟨x, hx, hfail⟩
    obtain ⟨l₁, hscale, hl₁⟩ := scaleVMs_succeeds hlib ht hrange
    refine ⟨l₁ ++ l, hscale.bind ?_, hjoin hl₁ hl, x, List.mem_append_right _ hx, hfail⟩
    simpa only [hfinished, if_false] using hpath
  cases hcondition : hasCondition rs.status.conditions .replicaFailure with
  | true =>
    have hsilent : ∀ e : String, finish rs (vms.filter isVMActive) (some e) = .pure (.ok {}) :=
      fun e => finish_silent ht hpaused hcurrent hcondition.symm
    by_cases hne : wanted rs ≠ (vms.filter isVMActive).length
    · -- a call of the scaling fails
      obtain ⟨l, e, hpath, hl, x, hx, hfail⟩ := scaleVMs_fails hlib ht hrange hne
      have hend : Prog.Path (returning (finish rs (vms.filter isVMActive) (some e))) []
          (.returned (.ok {})) := by
        rw [hsilent e]
        exact .pure _
      exact ⟨l ++ [], hpath.bind hend, hjoin hl hnothing, x, List.mem_append_left _ hx, hfail⟩
    · -- a clean-up fails
      have hfinished := hwork.resolve_left hne
      obtain ⟨l, hpath, hl, hfail⟩ := cleanVMs_fails (finish_turns rs _) hfinished hsilent
      exact hclean hfinished hpath hl hfail
  | false =>
    -- a clean-up that nobody waits for fails
    have hmany : BurstReplicas < (finishedVMs vms).length := by
      rcases hunsure with hmany | hfailure
      · exact hmany
      · rw [hcondition] at hfailure
        cases hfailure
    have hfinished : finishedVMs vms ≠ [] := by
      intro hnil
      rw [hnil] at hmany
      exact absurd hmany (Nat.not_lt_zero _)
    have hsilent : finish rs (vms.filter isVMActive) none = .pure (.ok {}) :=
      finish_silent ht hpaused hcurrent hcondition.symm
    obtain ⟨l, hpath, hl, hfail⟩ := cleanVMs_misses (finish_turns rs _) hmany hsilent
    exact hclean hfinished hpath hl hfail

end silent

/-! ### When Failed Syncs Are Retried -/

/-- `reconcile` after its first two calls. -/
theorem path_reconcile_iff {lib : Packages} {rs : VMRS} {needsSync : Bool}
    {answer : Except ApiError (List VM)} {l : List (Prog.Entry api)} {r : Ending Outcome} :
    Prog.Path (reconcile lib rs)
      (⟨.satisfiedExpectations rs.name, needsSync⟩ :: ⟨.listVMs rs.uid, answer⟩ :: l) r ↔
      Prog.Path (reconcileVMs lib rs needsSync (controlledVMs lib rs answer)) l r := by
  constructor
  · intro h
    cases h with
    | call h =>
      cases h with
      | call h => exact h
  · intro h
    exact .call (.call h)

/-- `Reconcile` after its first three calls. -/
theorem path_Reconcile_iff {lib : Packages} {req : String} {rs : VMRS} {needsSync : Bool}
    {answer : Except ApiError (List VM)} {l : List (Prog.Entry api)} {r : Ending Outcome} :
    Prog.Path (Reconcile lib req)
      (⟨.getVMRS req, .ok rs⟩ :: ⟨.satisfiedExpectations rs.name, needsSync⟩ ::
        ⟨.listVMs rs.uid, answer⟩ :: l) r ↔
      Prog.Path (reconcileVMs lib rs needsSync (controlledVMs lib rs answer)) l r := by
  constructor
  · intro h
    cases h with
    | call h => exact path_reconcile_iff.mp h
  · intro h
    exact .call (path_reconcile_iff.mpr h)

theorem not_noticed_silent {l : List (Prog.Entry api)} (hl : Unwritten l) :
    ¬ Retried l (.returned (.ok {})) := by
  rintro (⟨x, hx, hwritten⟩ | hrequeue)
  · rw [hl x hx] at hwritten
    cases hwritten
  · cases hrequeue

/-- For every replica set, every content of the cache and every status: a sync
    with a failing call is retried, however its calls go, iff the list arrives
    and a failure would show in the status. -/
theorem failed_syncs_retried {lib : Packages} (hlib : lib.Lawful) (req : String) (rs : VMRS)
    (needsSync : Bool) (answer : Except ApiError (List VM)) :
    AlwaysRetried lib req rs needsSync answer ↔ RetrySure lib rs needsSync answer := by
  have hpause : syncs rs needsSync = true → rs.spec.paused = false := by
    intro h
    simp only [syncs, Bool.and_eq_true, Bool.not_eq_true'] at h
    exact h.1.2
  constructor
  · intro h
    cases answer with
    | error e =>
      -- the status is unchanged, and the error is not looked at
      have hpath : Prog.Path (reconcileVMs lib rs needsSync (.error e.text)) []
          (.returned (.ok {})) := by
        simp only [reconcileVMs, writeStatus, if_true]
        exact .pure _
      exact not_noticed_silent (by simp [Unwritten])
        (h [] _ (path_Reconcile_iff.mpr hpath) ⟨_, List.mem_cons_self, rfl⟩)
    | ok vms =>
      intro controlled t hselect hsyncs ht hrange hwork
      by_cases hsure : statusCurrent rs t (controlled.filter isVMActive) = false ∨
          (finishedVMs controlled).length ≤ BurstReplicas ∧
            hasCondition rs.status.conditions .replicaFailure = false
      · exact hsure
      have hcurrent : statusCurrent rs t (controlled.filter isVMActive) = true := by
        cases hc : statusCurrent rs t (controlled.filter isVMActive) with
        | true => rfl
        | false => exact absurd (.inl hc) hsure
      have hunsure : BurstReplicas < (finishedVMs controlled).length ∨
          hasCondition rs.status.conditions .replicaFailure = true := by
        cases hc : hasCondition rs.status.conditions .replicaFailure with
        | true => exact .inr rfl
        | false =>
          refine .inl (Nat.lt_of_not_le fun hfew => hsure (.inr ⟨hfew, hc⟩))
      obtain ⟨l, hpath, hl, x, hx, hfail⟩ :=
        sync_silent hlib ht (hpause hsyncs) hrange hwork hcurrent hunsure
      have hrec : Prog.Path (reconcileVMs lib rs needsSync (controlledVMs lib rs (.ok vms))) l
          (.returned (.ok {})) := by
        have hcond := hsyncs
        simp only [syncs] at hcond
        simpa only [controlledVMs, hselect, reconcileVMs, hcond, if_true] using hpath
      exact absurd (h l _ (path_Reconcile_iff.mpr hrec) ⟨x, List.mem_cons_of_mem _ hx, hfail⟩)
        (not_noticed_silent hl)
  · intro hsure l r hpath hfail
    cases answer with
    | error e => exact hsure.elim
    | ok vms =>
      have hfail : ∃ x ∈ l, failing x = true := by
        obtain ⟨x, hx, hx'⟩ := hfail
        rcases List.mem_cons.mp hx with rfl | hx
        · cases hx'
        · exact ⟨x, hx, hx'⟩
      have hrec := path_Reconcile_iff.mp hpath
      simp only [controlledVMs] at hrec
      cases hselect : selectVMs lib rs vms with
      | error e =>
        rw [hselect] at hrec
        obtain ⟨o, rfl, hend⟩ := path_of_returning hrec
        exact absurd hfail (not_failing_of_safe (writeStatus_only fun _ => rfl) hend)
      | ok controlled =>
        simp only [hselect, reconcileVMs] at hrec
        split at hrec
        · next hsyncs =>
          refine sync_retried hlib (hpause hsyncs) ?_ hrec hfail
          intro hrange hwork
          cases ht : rs.spec.template with
          | none => exact .inl (by simp)
          | some t =>
            refine (hsure controlled t hselect hsyncs ht hrange hwork).imp_left ?_
            rintro hbehind t' ht'
            cases ht'
            exact hbehind
        · obtain ⟨o, rfl, hend⟩ := path_of_returning hrec
          exact absurd hfail (not_failing_of_safe (finish_safe rs _ none) hend)

/-- The first failure of a new replica set is retried. -/
theorem failed_syncs_retried_first :
    AlwaysRetried Sample.packages "web" (Sample.web [("app", "web")]) true (.ok []) := by
  refine (failed_syncs_retried Sample.packages_lawful _ _ _ _).mpr ?_
  intro controlled t hselect _ _ _ _
  have hnone : controlled = [] := by
    simp only [selectVMs, Sample.packages, List.filter_nil, Except.ok.injEq] at hselect
    exact hselect.symm
  subst hnone
  exact .inr ⟨by decide, by decide⟩

/-- The replica set after a first failure that was written to its status. -/
def Sample.failedWeb : VMRS :=
  { Sample.web [("app", "web")] with
    status := { conditions := [{ type := .replicaFailure, status := .true }] } }

/-- A list that fails is not retried, and neither is the second failure to
    create a VM: no VM is there, and one is wanted. -/
theorem failed_syncs_not_retried :
    ¬ AlwaysRetried Sample.packages "web" (Sample.web [("app", "web")]) true
        (.error (.other "timeout")) ∧
    ¬ AlwaysRetried Sample.packages "web" Sample.failedWeb true (.ok []) := by
  constructor
  · intro h
    have hpath : Prog.Path (reconcileVMs Sample.packages (Sample.web [("app", "web")]) true
        (.error "timeout")) [] (.returned (.ok {})) := .pure _
    exact not_noticed_silent (by simp [Unwritten])
      (h [] _ (path_Reconcile_iff.mpr hpath) ⟨_, List.mem_cons_self, rfl⟩)
  · intro h
    have ht : Sample.failedWeb.spec.template = some { labels := some [("app", "web")] } := rfl
    have hsilent : ∃ l, Prog.Path (sync Sample.packages Sample.failedWeb []) l
        (.returned (.ok {})) ∧ Unwritten l ∧ ∃ x ∈ l, failing x = true :=
      sync_silent Sample.packages_lawful ht rfl (by decide) (.inl (by decide)) (by decide)
        (.inr (by decide))
    obtain ⟨l, hpath, hl, x, hx, hfail⟩ := hsilent
    exact not_noticed_silent hl
      (h l _ (path_Reconcile_iff.mpr hpath) ⟨x, List.mem_cons_of_mem _ hx, hfail⟩)

end VMRSController

end Virtink
