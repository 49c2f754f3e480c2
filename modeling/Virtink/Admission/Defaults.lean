import Virtink.Admission.Updates

/-! # The Defaulting Webhook of Virtual Machines

    `MutateVM` fills in what a user leaves out: the run policy, the counts of
    CPUs, the size of the memory, the resources of a VM with dedicated CPUs or
    hugepages, and the MAC address and binding method of every interface.

    `ValidateVMSpec` runs after it and requires, for dedicated CPUs, that the
    limit of the memory equals its request. `MutateVM` sets the limit to what
    validation requires at least, not to the request of the user: the two
    agree only if the user leaves the request out or gives exactly that amount
    (`exactMemory`).
-/

namespace Virtink

/-! ### Resource Lists -/

/-- `l[name] = q`. -/
def ResourceList.set (l : ResourceList) (name : String) (q : Quantity) : ResourceList :=
  some ((name, q) :: (l.getD []).filter (·.1 != name))

/-- `q, exist := l[name]`. -/
def ResourceList.find (l : ResourceList) (name : String) : Option Quantity :=
  l.bind (·.lookup name)

theorem ResourceList.find_set_self (l : ResourceList) (name : String) (q : Quantity) :
    (l.set name q).find name = some q := by
  simp [set, find]

theorem ResourceList.find_set_ne (l : ResourceList) {name other : String} (q : Quantity)
    (h : other ≠ name) : (l.set name q).find other = l.find other := by
  have hkeep : ∀ m : List (String × Quantity),
      (m.filter (·.1 != name)).lookup other = m.lookup other := by
    intro m
    induction m with
    | nil => rfl
    | cons e m ih =>
      obtain ⟨key, value⟩ := e
      by_cases hkey : key = name
      · -- the entry that is dropped is not the one that is looked up
        have hne : (other == key) = false := by simp [hkey, h]
        rw [List.filter_cons_of_neg (by simp [hkey]), ih, List.lookup_cons, hne]
      · rw [List.filter_cons_of_pos (by simp [hkey]), List.lookup_cons, List.lookup_cons, ih]
  have hne : (other == name) = false := by simp [h]
  cases l with
  | none => simp [set, find, List.lookup_cons, hne]
  | some m => simp [set, find, List.lookup_cons, hne, hkeep]

theorem ResourceList.quantity_eq (l : ResourceList) (name : String) :
    l.quantity name = (l.find name).getD {} := rfl

/-! ### Resources -/

/-- The two maps of the resources while `MutateVM` works on them. Where the
    user gives neither, both are one map, and what is written to one is written
    to the other. -/
structure ResourceMaps where
  limits   : ResourceList
  requests : ResourceList
  shared   : Bool := false

namespace ResourceMaps

def setLimit (m : ResourceMaps) (name : String) (q : Quantity) : ResourceMaps :=
  { m with
    limits := m.limits.set name q
    requests := if m.shared then m.requests.set name q else m.requests }

def setRequest (m : ResourceMaps) (name : String) (q : Quantity) : ResourceMaps :=
  { m with
    requests := m.requests.set name q
    limits := if m.shared then m.limits.set name q else m.limits }

end ResourceMaps

/-- The counts of CPUs with their defaults. -/
def defaultCPU (cpu : CPU) : CPU :=
  { cpu with
    sockets := if cpu.sockets = 0 then 1 else cpu.sockets
    coresPerSocket := if cpu.coresPerSocket = 0 then 1 else cpu.coresPerSocket }

/-- The size of the memory with its default, which is the request if there is
    one. -/
def defaultMemorySize (spec : VMSpec) : Quantity :=
  let request := spec.resources.requests.quantity "memory"
  if spec.instance_.memory.size.isZero then
    if !request.isZero then request else .units 1073741824
  else spec.instance_.memory.size

/-- The resources that a VM with dedicated CPUs needs. -/
def rsList (i : Instance) : List (String × Quantity) :=
  let memSize :=
    if !i.memory.size.isZero && i.memory.hugepages.isNone then memoryOverhead.add i.memory.size
    else memoryOverhead
  [("cpu", .units (i.cpu.coresPerSocket * i.cpu.sockets).toNat), ("memory", memSize)]

/-- The value takes the place of a zero. -/
def fillZero (name : String) (q : Quantity) (l : ResourceList) : ResourceList :=
  if (l.quantity name).isZero then l.set name q else l

/-- The resources take the place of a nil map or of its zeros. -/
def fillIn (rs : List (String × Quantity)) : ResourceList → ResourceList
  | none => some rs
  | some l =>
      fillZero "memory" (ResourceList.quantity (some rs) "memory")
        (fillZero "cpu" (ResourceList.quantity (some rs) "cpu") (some l))

/-- The part of `MutateVM` about dedicated CPUs. -/
def mutateDedicated (i : Instance) (r : ResourceRequirements) : ResourceMaps where
  limits := fillIn (rsList i) r.limits
  requests := fillIn (rsList i) r.requests
  shared := r.requests.isNone && r.limits.isNone

/-- No CPU and no memory is asked for. -/
def ResourceMaps.bare (m : ResourceMaps) : Bool :=
  (m.limits.quantity "cpu").isZero && (m.limits.quantity "memory").isZero &&
    (m.requests.quantity "cpu").isZero && (m.requests.quantity "memory").isZero

/-- The request of the hugepages, unless there is one. -/
def addRequest (name : String) (hugepagesLimit : Quantity) (m : ResourceMaps) : ResourceMaps :=
  let m := { m with requests := some (m.requests.getD []) }
  if (m.requests.find name).isNone then m.setRequest name hugepagesLimit else m

/-- The limit of the hugepages, which is the size of the memory unless there is
    one, and their request. -/
def addHugepages (name : String) (size : Quantity) (m : ResourceMaps) : ResourceMaps :=
  let m := { m with limits := some (m.limits.getD []) }
  match m.limits.find name with
  | some hugepagesLimit => addRequest name hugepagesLimit m
  | none => addRequest name size (m.setLimit name size)

/-- The part of `MutateVM` about hugepages. -/
def mutateHugepages (size : Quantity) (hugepages : Hugepages) (m : ResourceMaps) : ResourceMaps :=
  let m := addHugepages ("hugepages-" ++ hugepages.pageSize.text) size m
  if m.bare then m.setRequest "memory" memoryOverhead else m

/-- The resources of an instance that has its other defaults. -/
def mutateResources (i : Instance) (r : ResourceRequirements) : ResourceRequirements :=
  let m : ResourceMaps :=
    if i.cpu.dedicatedCPUPlacement then mutateDedicated i r
    else { limits := r.limits, requests := r.requests }
  let m :=
    match i.memory.hugepages with
    | none => m
    | some hugepages => mutateHugepages i.memory.size hugepages m
  { limits := m.limits, requests := m.requests }

/-! ### Interfaces -/

/-- A byte as `HardwareAddr.String` writes it. -/
def byteText (b : UInt8) : String :=
  String.ofList [Nat.digitChar (b.toNat / 16), Nat.digitChar (b.toNat % 16)]

/-- `generateMAC` with the three random bytes it reads, as the text of the
    address. -/
def generateMAC (rand : Except String (UInt8 × UInt8 × UInt8)) : Except String String :=
  match rand with
  | .error e => .error ("rand: " ++ e)
  | .ok (a, b, c) =>
      .ok (":".intercalate ([0x52, 0x54, 0x00, a, b, c].map byteText))

/-- The binding method and its defaults. -/
def mutateBinding (iface : Interface) : Interface :=
  let iface :=
    if !iface.bridge && iface.masquerade.isNone && !iface.sriov && iface.vdpa.isNone &&
        !iface.vhostUser then
      { iface with bridge := true }
    else iface
  { iface with masquerade := iface.masquerade.map fun m =>
      if m.cidr = "" then { m with cidr := "10.0.2.0/30" } else m }

/-- The address of an interface: its own, that of the interface of its name in
    the old VM, or a new one. -/
def mutateMAC (rand : Except String (UInt8 × UInt8 × UInt8)) (oldVM : Option VM)
    (iface : Interface) : Except String String :=
  if iface.mac = "" then
    let macStr := ((oldVM.bind fun vm =>
      vm.spec.instance_.interfaces.find? (·.name == iface.name)).map (·.mac)).getD ""
    if macStr = "" then
      match generateMAC rand with
      | .error e => .error ("generate MAC: " ++ e)
      | .ok mac => .ok mac
    else .ok macStr
  else .ok iface.mac

/-- The loop over the interfaces; `rand i` is what is read for the `i`-th. -/
def mutateInterfaces (rand : Nat → Except String (UInt8 × UInt8 × UInt8)) (oldVM : Option VM) :
    Nat → List Interface → Except String (List Interface)
  | _, [] => .ok []
  | i, iface :: rest =>
      match mutateMAC (rand i) oldVM iface with
      | .error e => .error e
      | .ok mac =>
          match mutateInterfaces rand oldVM (i + 1) rest with
          | .error e => .error e
          | .ok done => .ok (mutateBinding { iface with mac := mac } :: done)

/-! ### The Webhook -/

/-- The instance with the defaults of its CPUs and its memory. -/
def mutateInstance (spec : VMSpec) : Instance :=
  { spec.instance_ with
    cpu := defaultCPU spec.instance_.cpu
    memory := { spec.instance_.memory with size := defaultMemorySize spec } }

/-- `MutateVM`. -/
def mutateVM (rand : Nat → Except String (UInt8 × UInt8 × UInt8)) (vm : VM) (oldVM : Option VM) :
    Except String VM :=
  let i := mutateInstance vm.spec
  match mutateInterfaces rand oldVM 0 vm.spec.instance_.interfaces with
  | .error e => .error e
  | .ok interfaces =>
      .ok { vm with spec := { vm.spec with
        runPolicy := if vm.spec.runPolicy = .empty then .once else vm.spec.runPolicy
        resources := mutateResources i vm.spec.resources
        instance_ := { i with interfaces := interfaces } } }

/-! ### What the Resources Become -/

section resources
variable {l : ResourceList} {name other : String} {q : Quantity}

theorem find_fillZero_ne (h : other ≠ name) : (fillZero name q l).find other = l.find other := by
  unfold fillZero
  split
  · exact ResourceList.find_set_ne l q h
  · rfl

theorem quantity_fillZero_self :
    (fillZero name q l).quantity name = if (l.quantity name).isZero then q else l.quantity name := by
  unfold fillZero
  split
  · rw [ResourceList.quantity_eq, ResourceList.find_set_self]
    rfl
  · rfl

theorem quantity_fillZero_ne (h : other ≠ name) :
    (fillZero name q l).quantity other = l.quantity other := by
  rw [ResourceList.quantity_eq, find_fillZero_ne h, ← ResourceList.quantity_eq]

theorem quantity_fillIn_cpu (i : Instance) (l : ResourceList) :
    (fillIn (rsList i) l).quantity "cpu" =
      if (l.quantity "cpu").isZero then .units (i.cpu.coresPerSocket * i.cpu.sockets).toNat
      else l.quantity "cpu" := by
  cases l with
  | none => rfl
  | some l =>
    unfold fillIn
    rw [quantity_fillZero_ne (by decide), quantity_fillZero_self]
    rfl

theorem quantity_fillIn_memory (i : Instance) (l : ResourceList) :
    (fillIn (rsList i) l).quantity "memory" =
      if (l.quantity "memory").isZero then ResourceList.quantity (some (rsList i)) "memory"
      else l.quantity "memory" := by
  cases l with
  | none => rfl
  | some l =>
    unfold fillIn
    rw [quantity_fillZero_self, quantity_fillZero_ne (by decide)]

theorem find_fillIn_ne (i : Instance) (l : ResourceList) (hcpu : other ≠ "cpu")
    (hmemory : other ≠ "memory") : (fillIn (rsList i) l).find other = l.find other := by
  cases l with
  | none =>
    have hcpu : (other == "cpu") = false := by simp [hcpu]
    have hmemory : (other == "memory") = false := by simp [hmemory]
    simp [fillIn, rsList, ResourceList.find, List.lookup_cons, hcpu, hmemory]
  | some l =>
    unfold fillIn
    rw [find_fillZero_ne hmemory, find_fillZero_ne hcpu]

/-- The memory that is filled in is what validation requires. -/
theorem rsList_memory {i : Instance} (h : i.memory.size.isZero = false) :
    ResourceList.quantity (some (rsList i)) "memory" = requiredMemory i.memory := by
  unfold requiredMemory
  simp only [rsList, h, Bool.not_false, Bool.true_and, ResourceList.quantity]
  rfl

end resources

theorem hugepages_ne (hugepages : Hugepages) :
    "hugepages-" ++ hugepages.pageSize.text ≠ "cpu" ∧
      "hugepages-" ++ hugepages.pageSize.text ≠ "memory" := by
  cases hugepages.pageSize <;> decide

namespace ResourceMaps

variable {m : ResourceMaps} {name other : String} {q size : Quantity}

/-- The two maps have the same entry under a name. -/
structure SameAt (name : String) (m m' : ResourceMaps) : Prop where
  limits   : m'.limits.find name = m.limits.find name
  requests : m'.requests.find name = m.requests.find name

theorem sameAt_setLimit (h : other ≠ name) : SameAt other m (m.setLimit name q) := by
  refine ⟨ResourceList.find_set_ne m.limits q h, ?_⟩
  unfold setLimit
  dsimp only
  split
  · exact ResourceList.find_set_ne m.requests q h
  · rfl

theorem sameAt_setRequest (h : other ≠ name) : SameAt other m (m.setRequest name q) := by
  refine ⟨?_, ResourceList.find_set_ne m.requests q h⟩
  unfold setRequest
  dsimp only
  split
  · exact ResourceList.find_set_ne m.limits q h
  · rfl

/-- An empty map in place of a nil map has the same entries. -/
theorem find_getD (l : ResourceList) (name : String) :
    ResourceList.find (some (l.getD [])) name = l.find name := by
  cases l <;> rfl

theorem SameAt.trans {m₁ m₂ m₃ : ResourceMaps} (h₁ : SameAt name m₁ m₂) (h₂ : SameAt name m₂ m₃) :
    SameAt name m₁ m₃ :=
  ⟨h₂.limits.trans h₁.limits, h₂.requests.trans h₁.requests⟩

theorem sameAt_addRequest (h : other ≠ name) : SameAt other m (addRequest name q m) := by
  have hempty : SameAt other m { m with requests := some (m.requests.getD []) } :=
    ⟨rfl, find_getD m.requests other⟩
  unfold addRequest
  dsimp only
  split
  · exact hempty.trans (sameAt_setRequest h)
  · exact hempty

theorem sameAt_addHugepages (h : other ≠ name) : SameAt other m (addHugepages name size m) := by
  have hempty : SameAt other m { m with limits := some (m.limits.getD []) } :=
    ⟨find_getD m.limits other, rfl⟩
  unfold addHugepages
  dsimp only
  split
  · exact hempty.trans (sameAt_addRequest h)
  · exact hempty.trans ((sameAt_setLimit h).trans (sameAt_addRequest h))

theorem bare_congr {m' : ResourceMaps} (hcpu : SameAt "cpu" m m') (hmemory : SameAt "memory" m m') :
    m'.bare = m.bare := by
  simp only [bare, ResourceList.quantity_eq, hcpu.limits, hcpu.requests, hmemory.limits,
    hmemory.requests]

/-- Where there is no entry yet, both become the size of the memory. -/
theorem addHugepages_find (hlimits : m.limits.find name = none)
    (hrequests : m.requests.find name = none) :
    (addHugepages name size m).limits.find name = some size ∧
      (addHugepages name size m).requests.find name = some size := by
  have hlimit : ResourceList.find (some (m.limits.getD [])) name = none :=
    (find_getD m.limits name).trans hlimits
  unfold addHugepages
  dsimp only
  rw [hlimit]
  dsimp only
  unfold addRequest
  cases hshared : m.shared with
  | true =>
    -- the request is there already: it is the entry of the one map
    simp [setLimit, find_getD, ResourceList.find_set_self]
  | false =>
    simp [setLimit, setRequest, find_getD, ResourceList.find_set_self, hrequests]

end ResourceMaps

section hugepages
variable {size : Quantity} {hugepages : Hugepages} {m : ResourceMaps}

/-- Where CPU or memory is asked for, only the entry of the hugepages is
    added. -/
theorem mutateHugepages_eq (hbare : m.bare = false) :
    mutateHugepages size hugepages m =
      addHugepages ("hugepages-" ++ hugepages.pageSize.text) size m := by
  obtain ⟨hcpu, hmemory⟩ := hugepages_ne hugepages
  have hadd : (addHugepages ("hugepages-" ++ hugepages.pageSize.text) size m).bare = false := by
    rw [ResourceMaps.bare_congr (ResourceMaps.sameAt_addHugepages hcpu.symm)
      (ResourceMaps.sameAt_addHugepages hmemory.symm)]
    exact hbare
  unfold mutateHugepages
  dsimp only
  rw [hadd]
  rfl

end hugepages

/-! ### Defaulting and Validation -/

/-- The part of `ValidateVMSpec` about resources. -/
def validateResources (lib : Library) (spec : VMSpec) (path : String) : List FieldError :=
  (if spec.instance_.cpu.dedicatedCPUPlacement then validateDedicated lib spec path else []) ++
  ((spec.instance_.memory.hugepages.map (validateHugepages lib spec · path)).getD [])

/-- Its errors are those that `ValidateVMSpec` begins with. -/
theorem validateVMSpec_resources (lib : Library) (spec : VMSpec) (path : String) :
    validateResources lib spec path <+: validateVMSpec lib spec path := by
  unfold validateVMSpec validateResources
  rw [List.append_assoc _ (validateNamed ..), List.append_assoc _ (validateInstance ..)]
  exact List.prefix_append ..

theorem validatePinned_eq_nil {lib : Library} {spec : VMSpec} {path resource what detail : String}
    {bad : Quantity → Bool} :
    validatePinned lib spec path resource what bad detail = [] ↔
      (spec.resources.requests.quantity resource).isZero = false ∧
      bad (spec.resources.requests.quantity resource) = false ∧
      spec.resources.limits.quantity resource = spec.resources.requests.quantity resource := by
  unfold validatePinned
  dsimp only
  rw [List.append_eq_nil_iff]
  cases hrequest : (spec.resources.requests.quantity resource).isZero with
  | true => simp
  | false =>
    cases hlimit : (spec.resources.limits.quantity resource).isZero with
    | true =>
      -- the limit is zero and the request is not
      have hne : spec.resources.limits.quantity resource ≠
          spec.resources.requests.quantity resource := by
        intro heq
        rw [heq, hrequest] at hlimit
        cases hlimit
      simp [hne]
    | false => simp

/-- A create request for dedicated CPUs in which the user gives no limits and
    requests neither CPUs nor hugepages, and whose count of CPUs fits 32
    bits. -/
structure PlainRequest (spec : VMSpec) : Prop where
  dedicated : spec.instance_.cpu.dedicatedCPUPlacement = true
  limits    : spec.resources.limits.getD [] = []
  cpu       : spec.resources.requests.find "cpu" = none
  hugepages : ∀ h, spec.instance_.memory.hugepages = some h →
    spec.resources.requests.find ("hugepages-" ++ h.pageSize.text) = none
  count     : (defaultCPU spec.instance_.cpu).sockets.toNat *
    (defaultCPU spec.instance_.cpu).coresPerSocket.toNat < 2 ^ 32

/-- The user leaves the request of the memory out, or it is exactly what
    validation requires; where there are no hugepages, the size has to be given
    too. -/
def exactMemory (spec : VMSpec) : Bool :=
  let size := spec.instance_.memory.size
  let request := spec.resources.requests.quantity "memory"
  if spec.instance_.memory.hugepages.isSome then request.isZero || request == memoryOverhead
  else
    !(memoryOverhead.add size).isZero &&
      (request.isZero || (!size.isZero && request == memoryOverhead.add size))

section
variable {spec : VMSpec}

theorem PlainRequest.find_limits (h : PlainRequest spec) (name : String) :
    spec.resources.limits.find name = none := by
  have hlimits := h.limits
  unfold ResourceList.find
  cases hl : spec.resources.limits with
  | none => rfl
  | some l =>
    rw [hl] at hlimits
    cases hlimits
    rfl

/-- After defaulting the count of CPUs is not zero. -/
theorem PlainRequest.count_ne_zero (h : PlainRequest spec) :
    ((defaultCPU spec.instance_.cpu).sockets *
      (defaultCPU spec.instance_.cpu).coresPerSocket).toNat ≠ 0 := by
  have hpos : ∀ n : UInt32, 0 < (if n = 0 then 1 else n).toNat := by
    intro n
    split
    · decide
    · next hn => exact Nat.pos_of_ne_zero fun h => hn (UInt32.toNat_inj.mp h)
  have hsockets := hpos spec.instance_.cpu.sockets
  have hcores := hpos spec.instance_.cpu.coresPerSocket
  rw [UInt32.toNat_mul, Nat.mod_eq_of_lt h.count]
  exact Nat.mul_ne_zero (Nat.ne_of_gt hsockets) (Nat.ne_of_gt hcores)

theorem defaultMemorySize_ne_zero (spec : VMSpec) : (defaultMemorySize spec).isZero = false := by
  unfold defaultMemorySize
  dsimp only
  split
  · split
    · next h => simpa using h
    · rfl
  · next h => simpa using h

/-- What the resources of a plain request become. -/
structure PlainResult (spec : VMSpec) (m : ResourceMaps) : Prop where
  cpu_requests    : m.requests.quantity "cpu" = .units ((defaultCPU spec.instance_.cpu).sockets *
    (defaultCPU spec.instance_.cpu).coresPerSocket).toNat
  cpu_limits      : m.limits.quantity "cpu" = m.requests.quantity "cpu"
  memory_requests : m.requests.quantity "memory" =
    if (spec.resources.requests.quantity "memory").isZero then
      requiredMemory (mutateInstance spec).memory
    else spec.resources.requests.quantity "memory"
  memory_limits   : m.limits.quantity "memory" = requiredMemory (mutateInstance spec).memory

theorem PlainRequest.dedicatedResult (h : PlainRequest spec) :
    PlainResult spec (mutateDedicated (mutateInstance spec) spec.resources) := by
  have hlimits : ∀ name, spec.resources.limits.quantity name = {} := by
    intro name
    rw [ResourceList.quantity_eq, h.find_limits name]
    rfl
  have hrequest : spec.resources.requests.quantity "cpu" = {} := by
    rw [ResourceList.quantity_eq, h.cpu]
    rfl
  have hzero : (({} : Quantity).isZero = true) := rfl
  have hcpu : ∀ l : ResourceList, l.quantity "cpu" = {} →
      (fillIn (rsList (mutateInstance spec)) l).quantity "cpu" =
        .units ((defaultCPU spec.instance_.cpu).sockets *
          (defaultCPU spec.instance_.cpu).coresPerSocket).toNat := by
    intro l hl
    rw [quantity_fillIn_cpu, hl, if_pos hzero, UInt32.mul_comm]
    rfl
  have hmemory : ResourceList.quantity (some (rsList (mutateInstance spec))) "memory" =
      requiredMemory (mutateInstance spec).memory :=
    rsList_memory (defaultMemorySize_ne_zero spec)
  refine ⟨hcpu _ hrequest, (hcpu _ (hlimits _)).trans (hcpu _ hrequest).symm, ?_, ?_⟩
  · exact (quantity_fillIn_memory _ _).trans (by rw [hmemory])
  · refine (quantity_fillIn_memory _ _).trans ?_
    rw [hlimits, if_pos hzero, hmemory]

theorem PlainResult.sameAt {m m' : ResourceMaps} (h : PlainResult spec m)
    (hcpu : ResourceMaps.SameAt "cpu" m m') (hmemory : ResourceMaps.SameAt "memory" m m') :
    PlainResult spec m' := by
  have hcpu₁ : m'.requests.quantity "cpu" = m.requests.quantity "cpu" := by
    rw [ResourceList.quantity_eq, hcpu.requests, ← ResourceList.quantity_eq]
  have hcpu₂ : m'.limits.quantity "cpu" = m.limits.quantity "cpu" := by
    rw [ResourceList.quantity_eq, hcpu.limits, ← ResourceList.quantity_eq]
  have hmem₁ : m'.requests.quantity "memory" = m.requests.quantity "memory" := by
    rw [ResourceList.quantity_eq, hmemory.requests, ← ResourceList.quantity_eq]
  have hmem₂ : m'.limits.quantity "memory" = m.limits.quantity "memory" := by
    rw [ResourceList.quantity_eq, hmemory.limits, ← ResourceList.quantity_eq]
  exact ⟨hcpu₁.trans h.cpu_requests, by rw [hcpu₁, hcpu₂, h.cpu_limits],
    hmem₁.trans h.memory_requests, hmem₂.trans h.memory_limits⟩

theorem units_isZero {n : Nat} (h : n ≠ 0) : (Quantity.units n).isZero = false := by
  simp only [Quantity.units, Quantity.isZero, beq_eq_false_iff_ne]
  omega

theorem units_value (n : Nat) : (Quantity.units n).value = n := by
  simp only [Quantity.units, Quantity.value]
  omega

/-- What the condition says about the required memory. -/
theorem exactMemory_iff (spec : VMSpec) :
    exactMemory spec = true ↔
      (requiredMemory (mutateInstance spec).memory).isZero = false ∧
        ((spec.resources.requests.quantity "memory").isZero = true ∨
          spec.resources.requests.quantity "memory" =
            requiredMemory (mutateInstance spec).memory) := by
  have hover : memoryOverhead.isZero = false := rfl
  have hadd : ∀ q : Quantity, q.isZero = false → q ≠ memoryOverhead.add q := by
    intro q _ heq
    have hnano := congrArg Quantity.nano heq
    simp only [memoryOverhead, Quantity.add, Quantity.units] at hnano
    omega
  unfold exactMemory requiredMemory mutateInstance defaultMemorySize
  dsimp only
  generalize spec.resources.requests.quantity "memory" = request
  generalize spec.instance_.memory.size = size
  cases hpages : spec.instance_.memory.hugepages with
  | some h => simp [hover]
  | none =>
    cases hsize : size.isZero with
    | false => simp
    | true =>
      cases hrequest : request.isZero with
      | false => simp [hadd request hrequest]
      | true =>
        have hzero : size.nano = 0 := by simpa [Quantity.isZero] using hsize
        have hsum : (memoryOverhead.add size).isZero = false := by
          simp [memoryOverhead, Quantity.add, Quantity.units, Quantity.isZero, hzero]
        have hdefault : (memoryOverhead.add (.units 1073741824)).isZero = false := rfl
        simp [hsum, hdefault]

/-- The checks of dedicated CPUs, after defaulting. -/
theorem validateDedicated_eq_nil {lib : Library} {path : String} (h : PlainRequest spec)
    {spec' : VMSpec} (hcpu : spec'.instance_.cpu = defaultCPU spec.instance_.cpu)
    (hmemory : spec'.instance_.memory = (mutateInstance spec).memory) {m : ResourceMaps}
    (hlimits : spec'.resources.limits = m.limits) (hrequests : spec'.resources.requests = m.requests)
    (hresult : PlainResult spec m) :
    validateDedicated lib spec' path = [] ↔ exactMemory spec = true := by
  have hcount := units_isZero h.count_ne_zero
  rw [exactMemory_iff]
  unfold validateDedicated
  dsimp only
  rw [List.append_eq_nil_iff, validatePinned_eq_nil, validatePinned_eq_nil, hlimits, hrequests,
    hmemory, hcpu, hresult.cpu_limits, hresult.cpu_requests, hresult.memory_limits,
    hresult.memory_requests, units_value, hcount]
  generalize requiredMemory (mutateInstance spec).memory = required
  cases hgiven : (spec.resources.requests.quantity "memory").isZero with
  | true => simp
  | false =>
    generalize spec.resources.requests.quantity "memory" = request at hgiven
    constructor
    · rintro ⟨-, -, -, heq⟩
      rw [if_neg (by simp)] at heq
      rw [heq]
      exact ⟨hgiven, .inr rfl⟩
    · rintro ⟨-, hfalse | heq⟩
      · cases hfalse
      · rw [← heq]
        simp [hgiven]

end

section
variable {spec : VMSpec}

theorem PlainResult.not_bare {m : ResourceMaps} (hplain : PlainRequest spec)
    (h : PlainResult spec m) : m.bare = false := by
  have hcount := units_isZero hplain.count_ne_zero
  unfold ResourceMaps.bare
  rw [h.cpu_requests, hcount]
  simp

/-- The maps of a plain request with hugepages. -/
theorem PlainRequest.hugepagesResult (h : PlainRequest spec) {hugepages : Hugepages}
    (hpages : spec.instance_.memory.hugepages = some hugepages) {m : ResourceMaps}
    (hm : m = mutateHugepages (defaultMemorySize spec) hugepages
      (mutateDedicated (mutateInstance spec) spec.resources)) :
    PlainResult spec m ∧
      m.limits.find ("hugepages-" ++ hugepages.pageSize.text) = some (defaultMemorySize spec) ∧
      m.requests.find ("hugepages-" ++ hugepages.pageSize.text) = some (defaultMemorySize spec) := by
  obtain ⟨hcpu, hmemory⟩ := hugepages_ne hugepages
  have hresult := h.dedicatedResult
  rw [mutateHugepages_eq (hresult.not_bare h)] at hm
  subst hm
  refine ⟨hresult.sameAt (ResourceMaps.sameAt_addHugepages hcpu.symm)
    (ResourceMaps.sameAt_addHugepages hmemory.symm), ResourceMaps.addHugepages_find ?_ ?_⟩
  · exact (find_fillIn_ne _ _ hcpu hmemory).trans (h.find_limits _)
  · exact (find_fillIn_ne _ _ hcpu hmemory).trans (h.hugepages hugepages hpages)

/-- The checks of hugepages pass after defaulting. -/
theorem validateHugepages_eq_nil {lib : Library} {path : String} (h : PlainRequest spec)
    {spec' : VMSpec} {hugepages : Hugepages} {m : ResourceMaps} (hresult : PlainResult spec m)
    (hsize : spec'.instance_.memory.size = defaultMemorySize spec)
    (hlimits : spec'.resources.limits = m.limits) (hrequests : spec'.resources.requests = m.requests)
    (hlimit : m.limits.find ("hugepages-" ++ hugepages.pageSize.text) = some (defaultMemorySize spec))
    (hrequest : m.requests.find ("hugepages-" ++ hugepages.pageSize.text) =
      some (defaultMemorySize spec)) :
    validateHugepages lib spec' hugepages path = [] := by
  have hbare : m.bare = false := hresult.not_bare h
  unfold ResourceList.find at hlimit hrequest
  unfold ResourceMaps.bare at hbare
  unfold validateHugepages
  dsimp only
  rw [hlimits, hrequests, hlimit, hrequest, hsize, hbare]
  simp [check]

end

/-- What `MutateVM` makes of CPUs, memory and resources. -/
theorem mutateVM_ok {rand : Nat → Except String (UInt8 × UInt8 × UInt8)} {vm vm' : VM}
    {oldVM : Option VM} (h : mutateVM rand vm oldVM = .ok vm') :
    vm'.spec.instance_.cpu = defaultCPU vm.spec.instance_.cpu ∧
      vm'.spec.instance_.memory = (mutateInstance vm.spec).memory ∧
      vm'.spec.resources = mutateResources (mutateInstance vm.spec) vm.spec.resources := by
  unfold mutateVM at h
  dsimp only at h
  split at h
  · cases h
  · cases h
    exact ⟨rfl, rfl, rfl⟩

/-- **Defaulting and validation agree on resources** exactly if the request of
    the memory is left out or is the amount that validation requires. -/
theorem resources_valid_iff_exact (lib : Library) (rand : Nat → Except String (UInt8 × UInt8 × UInt8))
    {vm vm' : VM} (h : PlainRequest vm.spec) (hvm' : mutateVM rand vm none = .ok vm') (path : String) :
    validateResources lib vm'.spec path = [] ↔ exactMemory vm.spec = true := by
  obtain ⟨hcpu, hmemory, hresources⟩ := mutateVM_ok hvm'
  have hded : (defaultCPU vm.spec.instance_.cpu).dedicatedCPUPlacement = true := h.dedicated
  have hsize : vm'.spec.instance_.memory.size = defaultMemorySize vm.spec := by rw [hmemory]; rfl
  have hsame : vm'.spec.instance_.memory.hugepages = vm.spec.instance_.memory.hugepages := by
    rw [hmemory]; rfl
  have hpinned : mutateResources (mutateInstance vm.spec) vm.spec.resources =
      match vm.spec.instance_.memory.hugepages with
      | none =>
          { limits := (mutateDedicated (mutateInstance vm.spec) vm.spec.resources).limits
            requests := (mutateDedicated (mutateInstance vm.spec) vm.spec.resources).requests }
      | some hugepages =>
          let m := mutateHugepages (defaultMemorySize vm.spec) hugepages
            (mutateDedicated (mutateInstance vm.spec) vm.spec.resources)
          { limits := m.limits, requests := m.requests } := by
    simp only [mutateResources, mutateInstance, hded, if_true]
    cases vm.spec.instance_.memory.hugepages <;> rfl
  unfold validateResources
  rw [List.append_eq_nil_iff, hcpu, if_pos hded, hsame]
  rw [hpinned] at hresources
  cases hpages : vm.spec.instance_.memory.hugepages with
  | none =>
    rw [hpages] at hresources
    have hdedicated : validateDedicated lib vm'.spec path = [] ↔ exactMemory vm.spec = true :=
      validateDedicated_eq_nil h hcpu hmemory (congrArg (·.limits) hresources)
        (congrArg (·.requests) hresources) h.dedicatedResult
    exact (and_iff_left rfl).trans hdedicated
  | some hugepages =>
    rw [hpages] at hresources
    obtain ⟨hresult, hlimit, hrequest⟩ := h.hugepagesResult hpages rfl
    have hlimits := congrArg (·.limits) hresources
    have hrequests := congrArg (·.requests) hresources
    have hdedicated : validateDedicated lib vm'.spec path = [] ↔ exactMemory vm.spec = true :=
      validateDedicated_eq_nil h hcpu hmemory hlimits hrequests hresult
    have hpass : validateHugepages lib vm'.spec hugepages path = [] :=
      validateHugepages_eq_nil h hresult hsize hlimits hrequests hlimit hrequest
    exact (and_iff_left hpass).trans hdedicated

namespace Sample

/-- A VM with dedicated CPUs, with the size of its memory and what is requested
    of it. -/
def pinned (size : Quantity) (requests : ResourceList) : VM :=
  { name := "vm"
    uid := "vm-uid"
    spec := {
      resources := { requests := requests }
      instance_ := { cpu := { dedicatedCPUPlacement := true }, memory := { size := size } } } }

/-- Nothing has to be drawn for a VM without interfaces. -/
def noRandom : Nat → Except String (UInt8 × UInt8 × UInt8) := fun _ => .error ""

theorem pinned_plain (size : Quantity) {requests : ResourceList} (h : requests.find "cpu" = none) :
    PlainRequest (pinned size requests).spec where
  dedicated := rfl
  limits := rfl
  cpu := h
  hugepages := nofun
  count := by
    show (defaultCPU { dedicatedCPUPlacement := true }).sockets.toNat *
      (defaultCPU { dedicatedCPUPlacement := true }).coresPerSocket.toNat < 2 ^ 32
    decide

end Sample

/-- With the size of the memory alone, everything is filled in. -/
theorem resources_valid_iff_exact_sample :
    PlainRequest (Sample.pinned (.units 1073741824) none).spec ∧
      ∃ vm', mutateVM Sample.noRandom (Sample.pinned (.units 1073741824) none) none = .ok vm' ∧
        validateResources Sample.library vm'.spec "spec" = [] :=
  ⟨Sample.pinned_plain _ rfl, _, rfl,
    (resources_valid_iff_exact Sample.library Sample.noRandom (Sample.pinned_plain _ rfl) rfl
      "spec").mpr (by decide)⟩

/-- With the request of the memory alone, it becomes the size of the memory and
    is less than what this size requires. With a size and a request that is
    more than it requires, the limit differs from the request. -/
theorem memory_request_rejected :
    let alone := Sample.pinned {} (some [("memory", .units 1073741824)])
    let more := Sample.pinned (.units 1073741824) (some [("memory", .units 2147483648)])
    PlainRequest alone.spec ∧ PlainRequest more.spec ∧
      (requiredMemory more.spec.instance_.memory).nano ≤
        (more.spec.resources.requests.quantity "memory").nano ∧
      (∃ vm', mutateVM Sample.noRandom alone none = .ok vm' ∧
        validateResources Sample.library vm'.spec "spec" ≠ []) ∧
      ∃ vm', mutateVM Sample.noRandom more none = .ok vm' ∧
        validateResources Sample.library vm'.spec "spec" ≠ [] :=
  ⟨Sample.pinned_plain _ rfl, Sample.pinned_plain _ rfl, by decide, ⟨_, rfl, by decide⟩,
    ⟨_, rfl, by decide⟩⟩

end Virtink
