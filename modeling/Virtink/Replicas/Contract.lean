import Virtink.Replicas.Cluster

/-! # What a Reconcile May Do

    The contract of the replica set controller, in terms of what its run has
    been told: it announces creates and deletes only after the expectations
    were satisfied and in numbers that fit the VMs it has listed afterwards, it
    makes only calls it has announced, and it takes back what has failed.
    Besides, `cleanVMs` deletes listed VMs that have ended.
-/

namespace Virtink

open Calls Contract Watch

namespace VMRSController

variable {setup : Setup}

/-! ### Views -/

theorem Cluster.event_run {e : Cluster.Event} {w w' : Cluster}
    (h : Cluster.event setup e w = some w') : w'.run = w.run := by
  cases e <;> simp only [Cluster.event] at h
  case sync =>
    split at h <;> cases h
    rfl
  case resync | create =>
    split at h <;> cases h
    rfl
  case deliver | update | remove =>
    split at h
    all_goals first | (split at h <;> cases h; rfl) | cases h

/-- The view of the worker. -/
def views (setup : Setup) : Views (machine setup) RunView where
  view _ w := w.run
  fresh := {}
  view_enter _ _ := rfl
  view_crash _ _ := rfl
  view_enter_ne h := absurd rfl h
  view_crash_ne h := absurd rfl h
  view_call_ne h := absurd rfl h
  view_event h := Cluster.event_run h

/-! ### The Contract -/

/-- A VM that was listed as one of the set, though it has ended. -/
def Setup.Ill (setup : Setup) (v : RunView) (name : String) : Prop :=
  ∃ vms, v.listed = some vms ∧ ∃ vm ∈ vms, ¬ setup.Fine vm ∧ vm.name = name

/-- The names of the active VMs of the set. -/
abbrev Setup.names (setup : Setup) (vms : List VM) : List String := live VM.name setup.active vms

/-- When a call may be made. -/
def guard (setup : Setup) : Op → RunView → Prop
  | .listVMs uid, _ => uid = setup.uid
  | .satisfiedExpectations rc, _ => rc = setup.name
  | .expectCreations rc adds, v => rc = setup.name ∧ v.synced = true ∧
      ∃ vms, v.listed = some vms ∧ (setup.names vms).length + adds ≤ setup.replicas
  | .expectDeletions rc keys, v => rc = setup.name ∧ v.synced = true ∧ v.failedDeletes = [] ∧
      ∃ vms, v.listed = some vms ∧ (∃ rest, (keys ++ rest).Perm (setup.names vms)) ∧
        setup.replicas + keys.length ≤ (setup.names vms).length
  | .createVM vm, v => 0 < v.creates ∧
      ∀ name uid version time, setup.active (vm.stored name uid version time) = true
  | .deleteVM name, v => name ∈ v.deletes ∨ setup.Ill v name
  | .creationObserved rc, v => rc = setup.name ∧ 0 < v.failedCreates
  | .deletionObserved rc key, v => rc = setup.name ∧ (key ∈ v.failedDeletes ∨ setup.Ill v key)
  | .deleteExpectations _, _ => False
  | .getVMRS _, _ | .updateStatus _ _, _ | .pick _, _ => True

/-- The contract; a run may stop at any point. -/
def contract (setup : Setup) : Contract (views setup) where
  guard _ := guard setup
  done _ _ := True

/-! ### What Is Seen -/

/-- An answer leaves what the run remembers of it. -/
theorem sees_iff {o : Op} {v v' : RunView} {a : o.Ans}
    (h : Sees (views setup) () o v a v') :
    v' = v.after o a ∧ ∃ reply w w', Cluster.serve setup o reply w = some (a, w') := by
  obtain ⟨w, reply, w', rfl, hans, rfl⟩ := h
  obtain ⟨⟨a', w₁⟩, hserve, heq⟩ := Option.map_eq_some_iff.mp hans
  cases heq
  exact ⟨rfl, reply, w, w₁, hserve⟩

/-- The set is found, as the webhook has accepted it. -/
theorem sees_getVMRS {name : String} {v v' : RunView} {a : Except ApiError VMRS}
    (h : Sees (views setup) () (.getVMRS name) v a v') :
    v' = v ∧ ∃ rs, a = .ok rs ∧ setup.Reads rs := by
  obtain ⟨rfl, reply, w, w', hserve⟩ := sees_iff h
  refine ⟨rfl, ?_⟩
  cases reply <;> simp only [Cluster.serve] at hserve <;> try cases hserve
  case set rs =>
    split at hserve
    · next hreads => cases hserve; exact ⟨rs, rfl, hreads.2⟩
    · cases hserve

/-- All VMs that are listed are controlled by the set. -/
theorem sees_listVMs {v v' : RunView} {vms : List VM}
    (h : Sees (views setup) () (.listVMs setup.uid) v (.ok vms) v') :
    v' = { v with listed := some vms } ∧ ∀ vm ∈ vms, setup.owns vm = true := by
  obtain ⟨rfl, reply, w, w', hserve⟩ := sees_iff h
  refine ⟨rfl, ?_⟩
  cases reply <;> simp only [Cluster.serve] at hserve <;> try cases hserve
  case list vms' =>
    split at hserve
    · next hperm =>
      cases hserve
      intro vm hvm
      have hmem := (List.isPerm_iff.mp hperm).mem_iff.mp hvm
      exact (List.mem_filter.mp hmem).2
    · cases hserve

/-- Calls that may always be made and are not remembered. -/
inductive Plain : Op → Prop where
  | updateStatus (name : String) (status : VMRSStatus) : Plain (.updateStatus name status)
  | pick (n : Nat) : Plain (.pick n)

theorem Plain.free {o : Op} (h : Plain o) : Pool.Free (contract setup) () o := by
  cases h <;> exact fun v => ⟨trivial, fun a v' hsees => (sees_iff hsees).1⟩

theorem pick_wp (n : Nat) (v : RunView) :
    (contract setup).wp () (pick n) (fun _ v' => v' = v) v :=
  (Plain.pick n).free v

/-! ### Routines -/

/-- How far a routine is. -/
inductive Stage where
  | fresh | failed | ended
  deriving DecidableEq

theorem ask_bind_congr {α : Type} {o : Op} {f g : o.Ans → Call α} (h : ∀ a, f a = g a) :
    (ask o).bind f = .call o g := by
  rw [funext h, ask_bind]

section create
variable {rs : VMRS} {t : VMTemplate} {vms : List VM}

/-- What `createVM` does with the answer. -/
def afterCreate (rs : VMRS) : Except ApiError Unit → Call (Option String)
  | .error e => .call (.creationObserved rs.name) fun _ => .pure (some e.text)
  | .ok _ => .pure none

theorem createVM_eq (rs : VMRS) (t : VMTemplate) :
    createVM rs t = .call (.createVM (newVM rs t)) (afterCreate rs) := by
  refine ask_bind_congr fun a => ?_
  cases a <;> rfl

/-- The stages of `createVM`. -/
inductive CreateAt (rs : VMRS) (t : VMTemplate) : Stage → Call (Option String) → Prop where
  | fresh : CreateAt rs t .fresh (.call (.createVM (newVM rs t)) (afterCreate rs))
  | failed (e : String) :
      CreateAt rs t .failed (.call (.creationObserved rs.name) fun _ => .pure (some e))
  | ended (e : Option String) : CreateAt rs t .ended (.pure e)

/-- The creates that are announced are those of the routines. -/
structure CreateFit (vms : List VM) (stages : List Stage) (v : RunView) : Prop where
  listed  : v.listed = some vms
  creates : v.creates = stages.count .fresh
  failed  : v.failedCreates = stages.count .failed

/-- What the set creates is one of its active VMs. -/
theorem active_newVM (hreads : setup.Reads rs) (ht : rs.spec.template = some t) (name : String)
    (uid : UID) (version time : Nat) :
    setup.active ((newVM rs t).stored name uid version time) = true := by
  obtain ⟨hname, huid, -, hselector, hvalid⟩ := hreads
  obtain ⟨⟨selects, t', labels, hparse, ht', hlabels, hmatch⟩, -⟩ :=
    selectsTemplate_of_validateVMReplicaSet hvalid
  rw [ht, Option.some.injEq] at ht'
  subst ht'
  rw [hselector] at hparse
  simp [Setup.active, Setup.member, Setup.owns, Setup.selects, hparse, NewVM.stored, newVM, vmrUID,
    huid, hlabels, hmatch, isVMActive, isVMFinal]

theorem createVM_staged (hreads : setup.Reads rs) (ht : rs.spec.template = some t) :
    Pool.Staged (contract setup) () (CreateAt rs t) (CreateFit vms) where
  call := by
    intro before after g o k v hat hfit
    have hcreates := hfit.creates
    have hfailed := hfit.failed
    cases hat with
    | fresh =>
      simp only [List.count_append, List.count_cons_self, List.count_cons_of_ne, ne_eq,
        reduceCtorEq, not_false_eq_true] at hcreates hfailed
      refine ⟨⟨by omega, active_newVM hreads ht⟩, fun a v' hsees => ?_⟩
      obtain ⟨rfl, -⟩ := sees_iff hsees
      match a with
      | .ok _ =>
        refine ⟨.ended, .ended none, hfit.listed, ?_, ?_⟩
        · simp [RunView.after, hcreates]
        · simp [RunView.after, hfailed]
      | .error e =>
        refine ⟨.failed, .failed e.text, hfit.listed, ?_, ?_⟩
        · simp [RunView.after, hcreates]
        · simp [RunView.after, hfailed]
          omega
    | failed e =>
      simp only [List.count_append, List.count_cons_self, List.count_cons_of_ne, ne_eq,
        reduceCtorEq, not_false_eq_true] at hcreates hfailed
      refine ⟨⟨hreads.1, by omega⟩, fun a v' hsees => ?_⟩
      obtain ⟨rfl, -⟩ := sees_iff hsees
      refine ⟨.ended, .ended (some e), hfit.listed, ?_, ?_⟩
      · simp [RunView.after, hcreates]
      · simp [RunView.after, hfailed]
  send := by
    intro g e hat
    cases hat
    exact .ended none
  leave := by
    intro before after g v hat hfit
    cases hat
    refine ⟨hfit.listed, ?_, ?_⟩
    · simpa using hfit.creates
    · simpa using hfit.failed

/-- The routines of a scale-up keep to what was announced. -/
theorem create_wp (hreads : setup.Reads rs) (ht : rs.spec.template = some t) {n : Nat} {v : RunView}
    (hlisted : v.listed = some vms) (hcreates : v.creates = n) (hfailed : v.failedCreates = 0) :
    (contract setup).wp () (spawn (List.replicate n (createVM rs t)) n Prog.pure)
      (fun _ v' => v'.listed = some vms) v := by
  have hat : List.Forall₂ (CreateAt rs t) (List.replicate n .fresh)
      (List.replicate n (createVM rs t)) := by
    rw [createVM_eq]
    clear hcreates
    induction n with
    | zero => exact .nil
    | succ n ih => exact .cons .fresh ih
  have hfit : CreateFit vms (List.replicate n .fresh) v :=
    ⟨hlisted, by simp [hcreates], by simp [hfailed, List.count_replicate]⟩
  refine wp_mono (Pool.wp_run_staged (createVM_staged hreads ht) pick_wp hat hfit ?_) ?_
  · exact fun _ => trivial
  · rintro _ v' ⟨stages, hfit'⟩
    exact hfit'.listed

end create

section delete
variable {rs : VMRS} {vms : List VM}

/-- What `DeleteVM` does with the answer. -/
def afterDelete (rs : VMRS) (name : String) : Except ApiError Unit → Call (Option String)
  | .error .notFound => .pure none
  | .error e => .call (.deletionObserved rs.name name) fun _ => .pure (some e.text)
  | .ok _ => .pure none

theorem DeleteVM_eq (rs : VMRS) (vm : VM) :
    DeleteVM rs vm = .call (.deleteVM vm.name) (afterDelete rs vm.name) := by
  refine ask_bind_congr fun a => ?_
  match a with
  | .ok _ => rfl
  | .error .notFound => rfl
  | .error .conflict | .error .alreadyExists | .error (.other _) => rfl

/-- The stages of `DeleteVM`, with the name of the VM. -/
inductive DeleteAt (rs : VMRS) : Stage × String → Call (Option String) → Prop where
  | fresh (name : String) : DeleteAt rs (.fresh, name) (.call (.deleteVM name) (afterDelete rs name))
  | failed (name e : String) : DeleteAt rs (.failed, name)
      (.call (.deletionObserved rs.name name) fun _ => .pure (some e))
  | ended (name : String) (e : Option String) : DeleteAt rs (.ended, name) (.pure e)

/-- A routine whose delete is answered has failed or ended. -/
theorem DeleteAt.answered (rs : VMRS) (name : String) (v : RunView) (a : Except ApiError Unit) :
    (DeleteAt rs (.ended, name) (afterDelete rs name a) ∧
      v.after (.deleteVM name) a = { v with deletes := v.deletes.erase name }) ∨
    DeleteAt rs (.failed, name) (afterDelete rs name a) ∧
      v.after (.deleteVM name) a =
        { v with deletes := v.deletes.erase name, failedDeletes := name :: v.failedDeletes } := by
  match a with
  | .ok _ => exact .inl ⟨.ended name none, rfl⟩
  | .error .notFound => exact .inl ⟨.ended name none, rfl⟩
  | .error .conflict | .error .alreadyExists | .error (.other _) =>
    exact .inr ⟨.failed name _, rfl⟩

theorem DeleteAt.sent {g : Stage × String} {e : String} (h : DeleteAt rs g (.pure (some e))) :
    DeleteAt rs g (.pure none) := by
  cases h
  exact .ended _ none

theorem deleteAt_fresh (vmToDelete : List VM) :
    List.Forall₂ (DeleteAt rs) (vmToDelete.map fun vm => (.fresh, vm.name))
      (vmToDelete.map (DeleteVM rs)) := by
  induction vmToDelete with
  | nil => exact .nil
  | cons vm l ih =>
    refine .cons ?_ ih
    rw [DeleteVM_eq]
    exact .fresh vm.name

/-- The names at one stage. -/
def namesAt (stage : Stage) (stages : List (Stage × String)) : List String :=
  (stages.filter fun s => s.1 = stage).map (·.2)

theorem namesAt_split (stage : Stage) (before after : List (Stage × String)) (g : Stage × String) :
    namesAt stage (before ++ g :: after) =
      namesAt stage before ++ (if g.1 = stage then [g.2] else []) ++ namesAt stage after := by
  by_cases h : g.1 = stage <;> simp [namesAt, List.filter_append, h]

theorem namesAt_append (stage : Stage) (before after : List (Stage × String)) :
    namesAt stage (before ++ after) = namesAt stage before ++ namesAt stage after := by
  simp [namesAt]

theorem erase_perm_of_perm {l before after : List String} {name : String}
    (h : l.Perm (before ++ [name] ++ after)) : (l.erase name).Perm (before ++ after) := by
  have hmiddle : l.Perm (name :: (before ++ after)) := by
    refine h.trans ?_
    simp
  have herase := hmiddle.erase name
  simpa using herase

/-- The deletes that are announced are those of the routines. -/
structure DeleteFit (vms : List VM) (stages : List (Stage × String)) (v : RunView) : Prop where
  listed  : v.listed = some vms
  deletes : v.deletes.Perm (namesAt .fresh stages)
  failed  : v.failedDeletes.Perm (namesAt .failed stages)

theorem DeleteVM_staged (hreads : setup.Reads rs) :
    Pool.Staged (contract setup) () (DeleteAt rs) (DeleteFit vms) where
  call := by
    intro before after g o k v hat hfit
    have hdeletes := hfit.deletes
    have hfailed := hfit.failed
    rw [namesAt_split] at hdeletes hfailed
    cases hat with
    | fresh name =>
      simp only [if_true, reduceCtorEq, if_false, List.append_nil] at hdeletes hfailed
      refine ⟨.inl (hdeletes.mem_iff.mpr (by simp)), fun a v' hsees => ?_⟩
      obtain ⟨rfl, -⟩ := sees_iff hsees
      rcases DeleteAt.answered rs name v a with ⟨hnext, hafter⟩ | ⟨hnext, hafter⟩
      · refine ⟨(.ended, name), hnext, ?_⟩
        rw [hafter]
        refine ⟨hfit.listed, ?_, ?_⟩
        · simpa [namesAt_split] using erase_perm_of_perm hdeletes
        · simpa [namesAt_split] using hfailed
      · refine ⟨(.failed, name), hnext, ?_⟩
        rw [hafter]
        refine ⟨hfit.listed, ?_, ?_⟩
        · simpa [namesAt_split] using erase_perm_of_perm hdeletes
        · have hcons := hfailed.cons name
          simpa [namesAt_split] using hcons.trans List.perm_middle.symm
    | failed name e =>
      simp only [if_true, reduceCtorEq, if_false, List.append_nil] at hdeletes hfailed
      refine ⟨⟨hreads.1, .inl (hfailed.mem_iff.mpr (by simp))⟩, fun a v' hsees => ?_⟩
      obtain ⟨rfl, -⟩ := sees_iff hsees
      refine ⟨(.ended, name), .ended name (some e), hfit.listed, ?_, ?_⟩
      · simpa [RunView.after, namesAt_split] using hdeletes
      · simpa [RunView.after, namesAt_split] using erase_perm_of_perm hfailed
  send := DeleteAt.sent
  leave := by
    intro before after g v hat hfit
    have hdeletes := hfit.deletes
    have hfailed := hfit.failed
    rw [namesAt_split] at hdeletes hfailed
    cases hat
    refine ⟨hfit.listed, ?_, ?_⟩
    · simpa [namesAt_append] using hdeletes
    · simpa [namesAt_append] using hfailed

/-- The routines of a scale-down keep to what was announced. -/
theorem delete_wp (hreads : setup.Reads rs) {vmToDelete : List VM} {n : Nat} {v : RunView}
    (hlisted : v.listed = some vms) (hdeletes : v.deletes = vmToDelete.map (·.name))
    (hfailed : v.failedDeletes = []) :
    (contract setup).wp () (spawn (vmToDelete.map (DeleteVM rs)) n Prog.pure)
      (fun _ v' => v'.listed = some vms) v := by
  have hfit : DeleteFit vms (vmToDelete.map fun vm => (.fresh, vm.name)) v := by
    refine ⟨hlisted, ?_, ?_⟩
    · simp [hdeletes, namesAt, List.filter_map, Function.comp_def]
    · simp [hfailed, namesAt, List.filter_map, Function.comp_def]
  refine wp_mono (Pool.wp_run_staged (DeleteVM_staged hreads) pick_wp (deleteAt_fresh _) hfit ?_) ?_
  · exact fun _ => trivial
  · rintro _ v' ⟨stages, hfit'⟩
    exact hfit'.listed

/-! ### Cleaning Up -/

/-- The routines are about listed VMs that have ended. -/
def CleanFit (setup : Setup) (stages : List (Stage × String)) (v : RunView) : Prop :=
  ∀ g ∈ stages, setup.Ill v g.2

theorem cleanVM_staged (hreads : setup.Reads rs) :
    Pool.Staged (contract setup) () (DeleteAt rs) (CleanFit setup) where
  call := by
    intro before after g o k v hat hfit
    have hill : setup.Ill v g.2 := hfit g (by simp)
    -- neither call changes what was listed
    have hkeep : ∀ (v' : RunView) (g' : Stage × String), v'.listed = v.listed → g'.2 = g.2 →
        CleanFit setup (before ++ g' :: after) v' := by
      intro v' g' hlisted hname x hx
      simp only [List.mem_append, List.mem_cons] at hx
      simp only [Setup.Ill, hlisted]
      rcases hx with hx | rfl | hx
      · exact hfit x (by simp [hx])
      · rw [hname]
        exact hill
      · exact hfit x (by simp [hx])
    cases hat with
    | fresh name =>
      refine ⟨.inr hill, fun a v' hsees => ?_⟩
      obtain ⟨rfl, -⟩ := sees_iff hsees
      rcases DeleteAt.answered rs name v a with ⟨hnext, hafter⟩ | ⟨hnext, hafter⟩
      · exact ⟨_, hnext, hkeep _ _ (by rw [hafter]) rfl⟩
      · exact ⟨_, hnext, hkeep _ _ (by rw [hafter]) rfl⟩
    | failed name e =>
      refine ⟨⟨hreads.1, .inr hill⟩, fun a v' hsees => ?_⟩
      obtain ⟨rfl, -⟩ := sees_iff hsees
      exact ⟨_, .ended name (some e), hkeep _ _ rfl rfl⟩
  send := DeleteAt.sent
  leave := by
    intro before after g v _ hfit x hx
    refine hfit x ?_
    simp only [List.mem_append, List.mem_cons] at hx ⊢
    exact hx.imp_right .inr

/-- `cleanVMs` deletes VMs that have ended only. -/
theorem cleanVMs_wp (hreads : setup.Reads rs) {α : Type} {vmToDelete : List VM}
    {k : Option String → Call α} (hk : ∀ e, (k e).Only Plain) {v : RunView}
    (hill : ∀ vm ∈ vmToDelete, setup.Ill v vm.name) :
    (contract setup).wp () (cleanVMs rs vmToDelete k) (fun _ _ => True) v := by
  have hfit : CleanFit setup (vmToDelete.map fun vm => (.fresh, vm.name)) v := by
    intro g hg
    obtain ⟨vm, hvm, rfl⟩ := List.mem_map.mp hg
    exact hill vm hvm
  refine wp_mono (Pool.wp_run_staged (cleanVM_staged hreads) pick_wp (deleteAt_fresh _) hfit ?_) ?_
  · exact fun e => (hk e).mono fun _ h => h.free
  · exact fun _ _ _ => trivial

end delete

/-! ### The Reconcile -/

section reconcile
variable {rs : VMRS} {vms : List VM} {v : RunView}

theorem writeStatus_plain (rs : VMRS) (status : VMRSStatus) (e : Option Err) :
    (writeStatus rs status e).Only Plain := by
  simp only [writeStatus]
  split
  · trivial
  · refine ⟨.updateStatus _ _, fun x => ?_⟩
    match x, e with
    | .ok _, none | .ok _, some _ | .error _, none | .error _, some _ => trivial

theorem finish_plain (rs : VMRS) (vms : List VM) (e : Option String) :
    (finish rs vms e).Only Plain := by
  simp only [finish]
  split
  · trivial
  · exact writeStatus_plain rs _ none

/-- What makes no call to speak of keeps the contract. -/
theorem wp_of_plain {α : Type} {p : Call α} (h : p.Only Plain) :
    (contract setup).wp () (returning p) (fun _ _ => True) v := by
  have hplain : (returning p).Only Plain := h.bind fun _ => trivial
  exact Pool.wp_of_free (hplain.mono fun _ h => h.free) fun _ => trivial

/-- **Scaling**: after a look at satisfied expectations and then at the VMs,
    the numbers fit. -/
theorem scaleVMs_wp (hlib : setup.lib.Lawful) (hreads : setup.Reads rs) (hsynced : v.synced = true)
    (hlisted : v.listed = some vms) (hcreates : v.failedCreates = 0)
    (hdeletes : v.failedDeletes = []) :
    (contract setup).wp () (scaleVMs setup.lib rs (vms.filter setup.active))
      (fun _ v' => v'.listed = some vms) v := by
  have hwanted := hreads.2.2.1
  have hnames : (setup.names vms).length = (vms.filter setup.active).length := List.length_map ..
  simp only [scaleVMs]
  split
  · exact hlisted
  split
  · -- VMs are missing
    refine ⟨⟨hreads.1, hsynced, vms, hlisted, by omega⟩, fun a v' hsees => ?_⟩
    obtain ⟨rfl, -⟩ := sees_iff hsees
    split
    · exact hlisted
    · next t ht => exact create_wp hreads ht hlisted rfl hcreates
  · -- there are too many
    split
    · exact hlisted
    · next vmToDelete hsome =>
      have hle : min ((vms.filter setup.active).length - wanted rs : Int).natAbs BurstReplicas ≤
          (vms.filter setup.active).length := by omega
      obtain ⟨vmToDelete', hsome', hlength, rest, hperm⟩ := getVMsToDelete_eq_some hlib hle
      rw [hsome, Option.some.injEq] at hsome'
      subst hsome'
      have hkeys : (vmToDelete.map (·.name) ++ rest.map (·.name)).Perm (setup.names vms) := by
        rw [← List.map_append]
        exact hperm.map _
      refine ⟨⟨hreads.1, hsynced, hdeletes, vms, hlisted, ⟨_, hkeys⟩, ?_⟩, fun a v' hsees => ?_⟩
      · rw [List.length_map, hlength]
        omega
      · obtain ⟨rfl, -⟩ := sees_iff hsees
        exact delete_wp hreads hlisted rfl hdeletes

/-- The VMs of the set that are selected of those listed, and of these the
    active ones. -/
theorem filter_active (hreads : setup.Reads rs) (hown : ∀ vm ∈ vms, setup.owns vm = true)
    {controlled : List VM} (h : selectVMs setup.lib rs vms = .ok controlled) :
    controlled.filter isVMActive = vms.filter setup.active ∧
      ∀ vm ∈ controlled, vm ∈ vms ∧ setup.member vm = true := by
  have hselector := hreads.2.2.2.1
  simp only [selectVMs, hselector] at h
  split at h
  · cases h
  · next selects hparse =>
    cases h
    have hselects : ∀ vm, setup.selects vm = selects (vm.labels.getD []) := by
      intro vm
      simp [Setup.selects, hparse]
    constructor
    · rw [List.filter_filter]
      refine List.filter_congr fun vm hvm => ?_
      rw [Setup.active, Setup.member, hown vm hvm, hselects, Bool.true_and, Bool.and_comm]
    · intro vm hvm
      obtain ⟨hmem, hsel⟩ := List.mem_filter.mp hvm
      exact ⟨hmem, by simp [Setup.member, hown vm hmem, hselects, hsel]⟩

theorem sync_wp (hlib : setup.lib.Lawful) (hreads : setup.Reads rs) (hsynced : v.synced = true)
    (hlisted : v.listed = some vms) (hcreates : v.failedCreates = 0)
    (hdeletes : v.failedDeletes = []) (hown : ∀ vm ∈ vms, setup.owns vm = true)
    {controlled : List VM} (hselect : selectVMs setup.lib rs vms = .ok controlled) :
    (contract setup).wp () (sync setup.lib rs controlled) (fun _ _ => True) v := by
  obtain ⟨hactive, hmember⟩ := filter_active hreads hown hselect
  have hscale := scaleVMs_wp hlib hreads hsynced hlisted hcreates hdeletes
  simp only [sync, hactive]
  refine wp_bind (wp_mono hscale fun r v' hlisted' => ?_)
  match r with
  | .returned (some e) => exact wp_of_plain (finish_plain rs _ _)
  | .returned none =>
    dsimp only
    split
    · exact wp_of_plain (finish_plain rs _ _)
    · refine cleanVMs_wp hreads (finish_plain rs _) fun vm hvm => ?_
      -- a finished VM or one that is `Unknown` is not fine
      have hended : vm ∈ controlled ∧ (isVMFinal vm = true ∨ isVMUnknown vm = true) := by
        simpa [finishedVMs, isVMFinished, ← and_or_left] using hvm
      obtain ⟨hmem, hm⟩ := hmember vm hended.1
      refine ⟨vms, hlisted', vm, hmem, fun hfine => ?_, rfl⟩
      have hphase := hfine hm
      rcases hended.2 with h | h
      · rw [hphase.1] at h
        cases h
      · rw [hphase.2] at h
        cases h
  | .panicked => trivial
  | .hung => trivial

theorem reconcile_wp (hlib : setup.lib.Lawful) (hreads : setup.Reads rs) :
    (contract setup).wp () (reconcile setup.lib rs) (fun _ _ => True) {} := by
  refine ⟨hreads.1, fun needsSync v hsees => ?_⟩
  obtain ⟨rfl, -⟩ := sees_iff hsees
  refine ⟨hreads.2.1, fun answer v' hsees' => ?_⟩
  match answer with
  | .error e => exact wp_of_plain (writeStatus_plain rs _ _)
  | .ok vms =>
    rw [show rs.uid = setup.uid from hreads.2.1] at hsees'
    obtain ⟨rfl, hown⟩ := sees_listVMs hsees'
    show (contract setup).wp () (reconcileVMs setup.lib rs needsSync (selectVMs setup.lib rs vms)) _ _
    cases hselect : selectVMs setup.lib rs vms with
    | error e => exact wp_of_plain (writeStatus_plain rs _ _)
    | ok controlled =>
      simp only [reconcileVMs]
      split
      · next hsync =>
        have hsynced : needsSync = true := by
          cases needsSync with
          | true => rfl
          | false => cases hsync
        exact sync_wp hlib hreads hsynced rfl rfl rfl hown hselect
      · exact wp_of_plain (finish_plain rs _ _)

end reconcile

/-- **The controller keeps the contract.** -/
theorem kept (hlib : setup.lib.Lawful) : (contract setup).Kept := by
  intro i
  refine ⟨trivial, fun answer v hsees => ?_⟩
  obtain ⟨rfl, rs, rfl, hreads⟩ := sees_getVMRS hsees
  exact reconcile_wp hlib hreads

end VMRSController

end Virtink
