import Virtink.Admission.VMReplicaSet
import Virtink.Controller.Watch

/-! # One Replica Set and Its VMs

    The replica set controller at work on one set: the VMs in the API store,
    the cache of the controller, and the changes on their way, first to the
    cache and from there to the handlers. Reconciles, their single calls,
    deliveries and what others do to VMs are interleaved in any order.

    Of the set the number of replicas and the selector stay; everything else
    may be different at every read, as long as the webhook accepts it. Others
    may update VMs of the set, but not in a way that ends them, deletes them or
    takes them out of the set, and what they create does not belong to it.
-/

namespace Virtink

open Calls Watch

namespace VMRSController

/-! ### The Set -/

/-- What is fixed in a run. -/
structure Setup where
  lib      : Packages
  name     : String
  uid      : UID
  replicas : Nat
  selector : Option LabelSelector

namespace Setup

variable (setup : Setup)

/-- What a read of the set may return. -/
def Reads (rs : VMRS) : Prop :=
  rs.name = setup.name ∧ rs.uid = setup.uid ∧ wanted rs = setup.replicas ∧
    rs.spec.selector = setup.selector ∧ validateVMReplicaSet setup.lib rs none = some []

instance (rs : VMRS) : Decidable (setup.Reads rs) := inferInstanceAs (Decidable (_ ∧ _))

/-- The selector selects the labels of the VM. -/
def selects (vm : VM) : Bool :=
  match setup.lib.labelSelectorAsSelector setup.selector with
  | .ok selects => selects (vm.labels.getD [])
  | .error _ => false

/-- The set controls the VM. -/
def owns (vm : VM) : Bool := vmrUID vm == some setup.uid

/-- The VM is one of the set: controlled by it and selected. -/
def member (vm : VM) : Bool := setup.owns vm && setup.selects vm

/-- The VM is an active one of the set. -/
def active (vm : VM) : Bool := setup.member vm && isVMActive vm

/-- The phase of the VM is neither final nor `Unknown`, if it is of the set. -/
def Fine (vm : VM) : Prop := setup.member vm = true → isVMFinal vm = false ∧ isVMUnknown vm = false

instance (vm : VM) : Decidable (setup.Fine vm) := inferInstanceAs (Decidable (_ → _))

/-- Somebody else may write `new` in place of `old`. -/
def MayUpdate (old new : VM) : Prop :=
  new.name = old.name ∧ setup.member new = setup.member old ∧ setup.Fine new ∧
    (setup.member old = true → new.deletionTimestamp = old.deletionTimestamp)

instance (old new : VM) : Decidable (setup.MayUpdate old new) :=
  inferInstanceAs (Decidable (_ ∧ _))

/-- The change brings an active VM into the set, or the handlers take it for
    one that does. -/
def brings (c : Change VM) : Bool :=
  raises setup.active c ||
    match c with
    | .created vm => setup.owns vm && vm.deletionTimestamp.isNone
    | _ => false

end Setup

/-! ### State -/

/-- What a run of `Reconcile` has been told and what it has announced. No
    program reads it. -/
structure RunView where
  /-- The expectations were satisfied, and it has not announced anything. -/
  synced        : Bool := false
  /-- The VMs that were listed. -/
  listed        : Option (List VM) := none
  /-- Creates that were announced and not yet made. -/
  creates       : Nat := 0
  /-- Creates that have failed and are still counted as announced. -/
  failedCreates : Nat := 0
  /-- Deletes that were announced and not yet made. -/
  deletes       : List String := []
  /-- Deletes that have failed and are still counted as announced. -/
  failedDeletes : List String := []
  deriving DecidableEq

/-- What a call and its answer add to it. -/
def RunView.after (v : RunView) : (o : Op) → o.Ans → RunView
  | .satisfiedExpectations _, satisfied => { v with synced := satisfied, listed := none }
  | .listVMs _, .ok vms => { v with listed := some vms }
  | .expectCreations _ adds, _ => { v with synced := false, creates := adds }
  | .expectDeletions _ keys, _ => { v with synced := false, deletes := keys }
  | .createVM _, .ok _ => { v with creates := v.creates - 1 }
  | .createVM _, .error _ =>
      { v with creates := v.creates - 1, failedCreates := v.failedCreates + 1 }
  | .deleteVM name, .ok _ => { v with deletes := v.deletes.erase name }
  | .deleteVM name, .error .notFound => { v with deletes := v.deletes.erase name }
  | .deleteVM name, .error _ =>
      { v with deletes := v.deletes.erase name, failedDeletes := name :: v.failedDeletes }
  | .creationObserved _, _ => { v with failedCreates := v.failedCreates - 1 }
  | .deletionObserved _ key, _ => { v with failedDeletes := v.failedDeletes.erase key }
  | _, _ => v

/-- The VMs, the cache of them, and the changes on their way. -/
structure Cluster where
  store        : List VM := []
  cache        : List VM := []
  toCache      : List (Change VM) := []
  toHandlers   : List (Change VM) := []
  expectations : Expectations := {}
  version      : Nat := 1
  run          : RunView := {}

namespace Cluster

/-- The changes that have not reached the handlers. -/
def changes (w : Cluster) : List (Change VM) := w.toHandlers ++ w.toCache

/-! ### The API Server -/

/-- The API server stores a change and sends it. -/
def write (w : Cluster) (c : Change VM) : Cluster :=
  { w with store := apply VM.name w.store c, toCache := w.toCache ++ [c], version := w.version + 1 }

/-- The VM of this name. -/
def find (w : Cluster) (name : String) : Option VM := w.store.find? (fun vm => vm.name == name)

/-- `Delete`: a VM with finalizers begins to terminate, one without is gone. -/
def delete (w : Cluster) (name : String) (time : Nat) : Except ApiError Unit × Cluster :=
  match w.find name with
  | none => (.error .notFound, w)
  | some vm =>
      if vm.deletionTimestamp.isSome then (.ok (), w)
      else if vm.finalizers = [] then (.ok (), w.write (.deleted vm))
      else
        (.ok (), w.write (.updated vm
          { vm with deletionTimestamp := some time, resourceVersion := w.version }))

/-- How a call is answered. -/
inductive Reply where
  | ok
  | fail (e : ApiError)
  | set (rs : VMRS)
  | list (vms : List VM)
  | created (name : String) (uid : UID) (time : Nat)
  | deleted (time : Nat)
  | turn (i : Nat)

/-- The answer of a call and what it changes. A call that fails changes
    nothing, and a delete does not fail because of a VM that is not found
    unless there is none. -/
def serve (setup : Setup) : (o : Op) → Reply → Cluster → Option (o.Ans × Cluster)
  | .getVMRS name, .set rs, w =>
      if name = setup.name ∧ setup.Reads rs then some (.ok rs, w) else none
  | .listVMs uid, .list vms, w =>
      if vms.isPerm (VMRSController.listed uid w.cache) then some (.ok vms, w) else none
  | .listVMs _, .fail e, w => some (.error e, w)
  | .createVM vm, .created name uid time, w =>
      if w.find name = none then
        some (.ok (), w.write (.created (vm.stored name uid w.version time)))
      else none
  | .createVM _, .fail e, w => some (.error e, w)
  | .deleteVM name, .deleted time, w => some (w.delete name time)
  | .deleteVM _, .fail e, w => if e = .notFound then none else some (.error e, w)
  | .updateStatus _ _, .ok, w => some (.ok (), w)
  | .updateStatus _ _, .fail e, w => some (.error e, w)
  | .satisfiedExpectations rc, .ok, w => some (w.expectations.satisfied rc, w)
  | .expectCreations rc adds, .ok, w =>
      some ((), { w with expectations := w.expectations.expectCreations rc adds })
  | .expectDeletions rc keys, .ok, w =>
      some ((), { w with expectations := w.expectations.expectDeletions rc keys })
  | .creationObserved rc, .ok, w =>
      some ((), { w with expectations := w.expectations.creationObserved rc })
  | .deletionObserved rc key, .ok, w =>
      some ((), { w with expectations := w.expectations.deletionObserved rc key })
  | .deleteExpectations rc, .ok, w =>
      some ((), { w with expectations := w.expectations.delete rc })
  | .pick n, .turn i, w => if h : i < n + 1 then some (⟨i, h⟩, w) else none
  | _, _, _ => none

/-- The answer, with what the run remembers of it. -/
def answer (setup : Setup) (o : Op) (reply : Reply) (w : Cluster) : Option (o.Ans × Cluster) :=
  (serve setup o reply w).map fun x => (x.1, { x.2 with run := w.run.after o x.1 })

/-! ### Events -/

/-- What happens besides the calls of the controller. -/
inductive Event where
  /-- The next change reaches the cache. -/
  | sync
  /-- The next change reaches the handlers; `get` finds replica sets by name. -/
  | deliver (get : String → Option UID)
  /-- The handlers are told of a cached VM once more. -/
  | resync (vm : VM)
  /-- Somebody else writes a VM. -/
  | update (vm : VM)
  /-- Somebody else creates a VM. -/
  | create (vm : VM)
  /-- A VM that has terminated is gone, or one that is not of the set. -/
  | remove (name : String)

/-- What an event changes. -/
def event (setup : Setup) : Event → Cluster → Option Cluster
  | .sync, w =>
      match w.toCache with
      | [] => none
      | c :: toCache =>
          some { w with
            cache := apply VM.name w.cache c
            toCache := toCache
            toHandlers := w.toHandlers ++ [c] }
  | .deliver get, w =>
      match w.toHandlers with
      | [] => none
      | c :: toHandlers =>
          if get setup.name = some setup.uid then
            some { w with
              toHandlers := toHandlers
              expectations := handle get c w.expectations }
          else none
  | .resync vm, w =>
      if vm ∈ w.cache then some { w with toHandlers := w.toHandlers ++ [.updated vm vm] } else none
  | .update vm, w =>
      match w.find vm.name with
      | some old => if setup.MayUpdate old vm then some (w.write (.updated old vm)) else none
      | none => none
  | .create vm, w =>
      if w.find vm.name = none ∧ setup.owns vm = false then some (w.write (.created vm)) else none
  | .remove name, w =>
      match w.find name with
      | some vm =>
          if setup.member vm = true → vm.deletionTimestamp.isSome = true then
            some (w.write (.deleted vm))
          else none
      | none => none

/-- The controller is started again: its expectations are gone, and the
    handlers will be told of every VM. -/
def restarted (w : Cluster) : Cluster where
  store := w.store
  cache := w.store
  toHandlers := w.store.map .created
  version := w.version

end Cluster

/-! ### The Machine -/

/-- The controller has one worker. -/
def machine (setup : Setup) :
    Machine api Cluster Unit Cluster.Reply Cluster.Event (Ending Outcome) where
  main _ := Reconcile setup.lib setup.name
  answer _ := Cluster.answer setup
  event := Cluster.event setup
  enter _ w := { w with run := {} }
  crash _ := Cluster.restarted

/-- The controller is not restarted. -/
def noRestart : Cluster → Act api Unit Cluster.Reply Cluster.Event → Prop
  | _, .crash _ => False
  | _, _ => True

instance (w : Cluster) (a : Act api Unit Cluster.Reply Cluster.Event) : Decidable (noRestart w a) :=
  match a with
  | .crash _ => .isFalse id
  | .start _ | .call _ _ _ | .finish _ | .event _ => .isTrue trivial

/-- How a run starts: nothing is expected, the cache is up to date, and no
    change that brings a VM into the set is on its way to the handlers. -/
structure Start (setup : Setup) (w : Cluster) : Prop where
  keyed    : Keyed VM.name w.store
  fine     : ∀ vm ∈ w.store, setup.Fine vm
  cache    : w.cache = w.store
  toCache  : w.toCache = []
  /-- The changes on their way are those of a store with what the handlers
      have seen. -/
  handlers : ∃ seen, Keyed VM.name seen ∧ FitsAll VM.name seen w.toHandlers ∧
    w.cache = replay VM.name seen w.toHandlers
  quiet    : ∀ c ∈ w.toHandlers, setup.brings c = false
  entries  : w.expectations.entries setup.name = none
  uids     : w.expectations.uids setup.name = []
  run      : w.run = {}

end VMRSController

end Virtink
