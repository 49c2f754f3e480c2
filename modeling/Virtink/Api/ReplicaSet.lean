import Virtink.Api.Types

/-! # Replica Sets

    `VirtualMachineReplicaSet` as the API server stores it. The times of its
    conditions are left out: they are written and never read.
-/

namespace Virtink

/-- `metav1.LabelSelectorOperator`. -/
inductive SelectorOperator where
  | in_ | notIn | exists_ | doesNotExist
  | other (text : String)
  deriving DecidableEq, Repr

/-- `metav1.LabelSelectorRequirement`. -/
structure SelectorRequirement where
  key      : String
  operator : SelectorOperator
  values   : List String := []
  deriving DecidableEq, Repr

/-- `metav1.LabelSelector`. -/
structure LabelSelector where
  matchLabels      : Labels := []
  matchExpressions : List SelectorRequirement := []
  deriving DecidableEq, Repr

/-- `VirtualMachineTemplateSpec`. -/
structure VMTemplate where
  labels      : Option Labels := none
  annotations : Option Labels := none
  spec        : VMSpec := {}
  deriving DecidableEq, Repr

/-- `VirtualMachineReplicaSetSpec`. -/
structure VMRSSpec where
  replicas : Option Int32 := none
  paused   : Bool := false
  selector : Option LabelSelector := none
  template : Option VMTemplate := none
  deriving DecidableEq

/-- `VirtualMachineReplicaSetConditionType`. -/
inductive VMRSConditionType where
  | replicaFailure | replicaPaused
  | other (text : String)
  deriving DecidableEq, Repr

/-- `VirtualMachineReplicaSetCondition`. -/
structure VMRSCondition where
  type    : VMRSConditionType
  status  : ConditionStatus
  reason  : String := ""
  message : String := ""
  deriving DecidableEq, Repr

/-- `VirtualMachineReplicaSetStatus`. -/
structure VMRSStatus where
  replicas           : Int32 := 0
  readyReplicas      : Int32 := 0
  availableReplicas  : Int32 := 0
  observedGeneration : Int64 := 0
  conditions         : List VMRSCondition := []
  deriving DecidableEq

/-- `VirtualMachineReplicaSet`. -/
structure VMRS where
  name              : String
  uid               : UID
  generation        : Int64 := 0
  deletionTimestamp : Option Nat := none
  spec              : VMRSSpec := {}
  status            : VMRSStatus := {}
  deriving DecidableEq

/-- A VM that the replica set controller asks the API server to create; the
    server gives it a name and a UID. -/
structure NewVM where
  generateName : String
  labels       : Labels
  annotations  : Labels
  controller   : ControllerRef
  spec         : VMSpec
  deriving DecidableEq, Repr

/-- The VM as the API server stores it. -/
def NewVM.stored (vm : NewVM) (name : String) (uid : UID) (version time : Nat) : VM :=
  { name := name
    uid := uid
    resourceVersion := version
    labels := some vm.labels
    annotations := some vm.annotations
    controller := some vm.controller
    creationTimestamp := time
    spec := vm.spec }

end Virtink
