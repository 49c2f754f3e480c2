import Virtink.Controller.Expectations
import Virtink.Controller.VMReplicaSet
import Virtink.Framework.Watch

/-! # The Watch of the Replica Set Controller

    `CreateFunc`, `UpdateFunc` and `DeleteFunc`, as far as they change the
    expectations. What else they do is to queue replica sets for a reconcile.
-/

namespace Virtink

open Calls Watch

namespace VMRSController

/-! ### Handlers -/

section
variable (get : String → Option UID)

/-- `resolveControllerRef`, with what `Get` finds under a name: the key of the
    replica set. -/
def resolveControllerRef (ref : ControllerRef) : Option String :=
  if ref.kind ≠ .virtualMachineReplicaSet then none
  else
    match get ref.name with
    | none => none
    | some uid => if uid ≠ ref.uid then none else some ref.name

/-- The method `deleteVM`. -/
def deleteVM (vm : VM) (e : Expectations) : Expectations :=
  match vm.controller with
  | none => e
  | some ref =>
      match resolveControllerRef get ref with
      | none => e
      | some rsKey => e.deletionObserved rsKey vm.name

/-- `equality.Semantic.DeepEqual` of labels: nil and empty are the same. -/
def sameLabels (a b : Option Labels) : Bool :=
  ((a.getD []).map (·.1) ++ (b.getD []).map (·.1)).all
    (fun key => (a.getD []).lookup key == (b.getD []).lookup key)

/-- `CreateFunc`. -/
def createFunc (vm : VM) (e : Expectations) : Expectations :=
  if vm.deletionTimestamp.isSome then deleteVM get vm e
  else
    match vm.controller with
    | some ref =>
        match resolveControllerRef get ref with
        | some rsKey => e.creationObserved rsKey
        | none => e
    | none => e

/-- `DeleteFunc`. -/
def deleteFunc (vm : VM) (e : Expectations) : Expectations := deleteVM get vm e

/-- `UpdateFunc`. -/
def updateFunc (oldVM newVM : VM) (e : Expectations) : Expectations :=
  if oldVM.resourceVersion = newVM.resourceVersion then e
  else if newVM.deletionTimestamp.isSome then
    let e := deleteVM get newVM e
    if sameLabels oldVM.labels newVM.labels then e else deleteVM get oldVM e
  else e

/-- The handler that a change is delivered to. -/
def handle : Change VM → Expectations → Expectations
  | .created vm => createFunc get vm
  | .updated old new => updateFunc get old new
  | .deleted vm => deleteFunc get vm

end

/-! ### What They Do to One Replica Set -/

variable {get : String → Option UID} {e : Expectations} {rc : String} {uid : UID}

/-- A reference that is resolved is to the replica set found under the key. -/
theorem resolveControllerRef_eq_some {ref : ControllerRef} {key : String}
    (h : resolveControllerRef get ref = some key) :
    ref.kind = .virtualMachineReplicaSet ∧ get key = some ref.uid := by
  simp only [resolveControllerRef] at h
  split at h
  · cases h
  · next hkind =>
    split at h
    · cases h
    · next uid hget =>
      split at h
      · cases h
      · next huid =>
        cases h
        have hsame : uid = ref.uid := Decidable.not_not.mp huid
        exact ⟨Decidable.not_not.mp hkind, hsame ▸ hget⟩

/-- A VM whose reference resolves to the key of the set is controlled by it. -/
theorem vmrUID_of_resolved (hget : get rc = some uid) {vm : VM} {ref : ControllerRef}
    (href : vm.controller = some ref) (hkey : resolveControllerRef get ref = some rc) :
    vmrUID vm = some uid := by
  obtain ⟨hkind, hfound⟩ := resolveControllerRef_eq_some hkey
  rw [hget, Option.some.injEq] at hfound
  simp [vmrUID, href, hkind, hfound]

/-- `deleteVM` lowers nothing of the set, or it observes the deletion of a VM
    that the set controls. -/
theorem deleteVM_cases (hget : get rc = some uid) (vm : VM) :
    e.SameAt rc (deleteVM get vm e) ∨
      vmrUID vm = some uid ∧ deleteVM get vm e = e.deletionObserved rc vm.name := by
  simp only [deleteVM]
  split
  · exact Or.inl ⟨rfl, rfl⟩
  · next ref href =>
    split
    · exact Or.inl ⟨rfl, rfl⟩
    · next key hkey =>
      by_cases hrc : rc = key
      · subst hrc
        exact Or.inr ⟨vmrUID_of_resolved hget href hkey, rfl⟩
      · exact Or.inl (Expectations.sameAt_deletionObserved hrc)

/-- `CreateFunc` for a VM that is not terminating. -/
theorem createFunc_cases (hget : get rc = some uid) {vm : VM}
    (halive : vm.deletionTimestamp = none) :
    e.SameAt rc (createFunc get vm e) ∨
      vmrUID vm = some uid ∧ createFunc get vm e = e.creationObserved rc := by
  simp only [createFunc, halive, Option.isSome_none, Bool.false_eq_true, if_false]
  split
  · next ref href =>
    split
    · next key hkey =>
      by_cases hrc : rc = key
      · subst hrc
        exact Or.inr ⟨vmrUID_of_resolved hget href hkey, rfl⟩
      · exact Or.inl (Expectations.sameAt_creationObserved hrc)
    · exact Or.inl ⟨rfl, rfl⟩
  · exact Or.inl ⟨rfl, rfl⟩

/-- The change shows a VM that is gone or terminating. -/
def Ended : Change VM → Prop
  | .created vm => vm.deletionTimestamp.isSome = true
  | .updated _ new => new.deletionTimestamp.isSome = true
  | .deleted _ => True

section
variable {P : Expectations → Prop} (hsame : ∀ e e', e.SameAt rc e' → P e → P e')
include hsame

theorem deleteVM_keeps (hget : get rc = some uid) {vm : VM} {name : String} (hname : vm.name = name)
    (hdel : ∀ e, P e → P (e.deletionObserved rc name)) (h : P e) : P (deleteVM get vm e) := by
  subst hname
  rcases deleteVM_cases hget vm with hs | ⟨-, heq⟩
  · exact hsame _ _ hs h
  · rw [heq]
    exact hdel e h

/-- **Rule for deliveries**: a property of the expectations of the set is kept
    by the handlers if it is kept when a creation is observed of a VM that is
    not terminating, and when a deletion is observed of one that is or is
    gone. -/
theorem handle_keeps (hget : get rc = some uid) {c : Change VM}
    (hnames : ∀ old new, c = .updated old new → old.name = new.name)
    (hadd : ∀ vm, c = .created vm → vm.deletionTimestamp = none → vmrUID vm = some uid →
      P (e.creationObserved rc))
    (hdel : Ended c → ∀ e, P e → P (e.deletionObserved rc c.subject.name)) (h : P e) :
    P (handle get c e) := by
  cases c with
  | created vm =>
    cases hdts : vm.deletionTimestamp with
    | none =>
      rcases createFunc_cases hget hdts with hs | ⟨hown, heq⟩
      · exact hsame _ _ hs h
      · have hobserved := hadd vm rfl hdts hown
        rw [← heq] at hobserved
        exact hobserved
    | some t =>
      have hend : Ended (.created vm) := by simp [Ended, hdts]
      have hkeep : P (deleteVM get vm e) := deleteVM_keeps hsame hget rfl (hdel hend) h
      simpa [handle, createFunc, hdts] using hkeep
  | updated old new =>
    simp only [handle, updateFunc]
    split
    · exact h
    · split
      · next hdts =>
        have hnew := deleteVM_keeps hsame hget rfl (hdel hdts) h
        split
        · exact hnew
        -- the labels have changed too: the old object is observed as well
        · exact deleteVM_keeps hsame hget (hnames old new rfl) (hdel hdts) hnew
      · exact h
  | deleted vm => exact deleteVM_keeps hsame hget rfl (hdel trivial) h

end

end VMRSController

end Virtink
