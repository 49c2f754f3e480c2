import Mathlib.Data.List.Forall2
import Virtink.Admission.Defaults

/-! # Defaulting Twice

    `MutateVM` runs on every request, so a VM that is stored has been through
    it at least once, and most have been through it many times. The later
    defaults read what the earlier ones wrote: the memory is sized from the
    requests, the requests and limits are filled in from the size, and the
    entries of the hugepages from the limits.

    A second pass finds everything settled: the counts and the size are not
    zero, a zero in the resources is the value a zero would be replaced by
    (`FilledIn`), the hugepages have their entries and something is asked for
    (`Settled`), and every interface has an address and a binding method. Each
    of these is what the first pass establishes, and each makes the second pass
    leave its part alone.

    Resource lists are maps, so they are compared by what is found in them
    (`ResourceList.Same`), not by the order in which a list gives their entries.
-/

namespace Virtink

/-! ### Maps -/

/-- The two are one map: both are nil or neither is, and under every name they
    have the same entry. -/
structure ResourceList.Same (l l' : ResourceList) : Prop where
  isNone : l'.isNone = l.isNone
  find   : ∀ name, l'.find name = l.find name

/-- The two specs are equal, their resources compared as maps. -/
structure VMSpec.Same (spec spec' : VMSpec) : Prop where
  rest     : spec' = { spec with resources := spec'.resources }
  limits   : spec.resources.limits.Same spec'.resources.limits
  requests : spec.resources.requests.Same spec'.resources.requests

namespace ResourceList

variable {l l' l'' : ResourceList} {name : String} {q : Quantity}

theorem Same.refl (l : ResourceList) : l.Same l := ⟨rfl, fun _ => rfl⟩

theorem Same.trans (h : l.Same l') (h' : l'.Same l'') : l.Same l'' :=
  ⟨h'.isNone.trans h.isNone, fun name => (h'.find name).trans (h.find name)⟩

/-- An entry that is there already may be written again. -/
theorem same_set (h : l.find name = some q) : l.Same (l.set name q) := by
  constructor
  · cases l with
    | none => cases h
    | some m => rfl
  · intro other
    by_cases hother : other = name
    · rw [hother, find_set_self, h]
    · exact find_set_ne l q hother

theorem isNone_of_find (h : (l.find name).isSome = true) : l.isNone = false := by
  cases l with
  | none => cases h
  | some m => rfl

theorem some_getD (h : l.isNone = false) : some (l.getD []) = l := by
  cases l with
  | none => cases h
  | some m => rfl

end ResourceList

/-! ### Filling In -/

/-- The entry under a name is not zero, or it is what a zero is replaced by. -/
def Filled (name : String) (q : Quantity) (l : ResourceList) : Prop :=
  (l.quantity name).isZero = true → l.find name = some q

/-- The map is not nil, and its entries for CPU and memory are filled. -/
structure FilledIn (rs : List (String × Quantity)) (l : ResourceList) : Prop where
  isNone : l.isNone = false
  cpu    : Filled "cpu" (ResourceList.quantity (some rs) "cpu") l
  memory : Filled "memory" (ResourceList.quantity (some rs) "memory") l

section filling
variable {l l' : ResourceList} {name : String} {q : Quantity} {rs : List (String × Quantity)}

theorem Filled.congr (h : Filled name q l) (hfind : l'.find name = l.find name) :
    Filled name q l' := by
  intro hzero
  rw [ResourceList.quantity_eq, hfind] at hzero
  rw [hfind]
  exact h hzero

theorem filled_fillZero : Filled name q (fillZero name q l) := by
  intro hzero
  unfold fillZero at hzero ⊢
  split at hzero
  · next h => rw [if_pos h, ResourceList.find_set_self]
  · next h => exact absurd hzero h

/-- Filling in what is filled changes nothing. -/
theorem Filled.same_fillZero (h : Filled name q l) : l.Same (fillZero name q l) := by
  unfold fillZero
  split
  · next hzero => exact ResourceList.same_set (h hzero)
  · exact ResourceList.Same.refl l

theorem isNone_fillZero (h : l.isNone = false) : (fillZero name q l).isNone = false := by
  unfold fillZero
  split
  · rfl
  · exact h

theorem filledIn_fillIn (i : Instance) (l : ResourceList) :
    FilledIn (rsList i) (fillIn (rsList i) l) := by
  cases l with
  | none => exact ⟨rfl, fun _ => rfl, fun _ => rfl⟩
  | some m =>
    have hcpu : Filled "cpu" (ResourceList.quantity (some (rsList i)) "cpu")
        (fillIn (rsList i) (some m)) := by
      unfold fillIn
      exact filled_fillZero.congr (find_fillZero_ne (by decide))
    refine ⟨?_, hcpu, ?_⟩
    · exact isNone_fillZero (isNone_fillZero rfl)
    · unfold fillIn
      exact filled_fillZero

theorem FilledIn.same_fillIn (h : FilledIn rs l) : l.Same (fillIn rs l) := by
  cases l with
  | none => cases h.isNone
  | some m =>
    have hcpu := h.cpu.same_fillZero
    have hmemory : Filled "memory" (ResourceList.quantity (some rs) "memory")
        (fillZero "cpu" (ResourceList.quantity (some rs) "cpu") (some m)) :=
      h.memory.congr (hcpu.find "memory")
    exact hcpu.trans hmemory.same_fillZero

theorem FilledIn.congr (h : FilledIn rs l) (hsome : l'.isNone = false)
    (hcpu : l'.find "cpu" = l.find "cpu") (hmemory : l'.find "memory" = l.find "memory") :
    FilledIn rs l' :=
  ⟨hsome, h.cpu.congr hcpu, h.memory.congr hmemory⟩

/-- The overhead is not zero, so nothing has to be filled in for it. -/
theorem FilledIn.set_overhead (h : FilledIn rs l) :
    FilledIn rs (l.set "memory" memoryOverhead) := by
  refine ⟨rfl, h.cpu.congr (ResourceList.find_set_ne l _ (by decide)), ?_⟩
  intro hzero
  rw [ResourceList.quantity_eq, ResourceList.find_set_self] at hzero
  cases hzero

end filling

/-! ### Hugepages -/

namespace ResourceMaps

variable {m m' : ResourceMaps} {name : String} {q size : Quantity}

/-- Both maps have an entry under the name. -/
structure Has (name : String) (m : ResourceMaps) : Prop where
  limits   : (m.limits.find name).isSome = true
  requests : (m.requests.find name).isSome = true

theorem Has.congr (h : Has name m) (hsame : SameAt name m m') : Has name m' :=
  ⟨by rw [hsame.limits]; exact h.limits, by rw [hsame.requests]; exact h.requests⟩

theorem has_addRequest (h : (m.limits.find name).isSome = true) : Has name (addRequest name q m) := by
  unfold addRequest
  dsimp only
  split
  · refine ⟨?_, ?_⟩
    · -- the limits are written to only where both maps are one
      unfold setRequest
      dsimp only
      split
      · rw [ResourceList.find_set_self]
        rfl
      · exact h
    · show (ResourceList.find (ResourceList.set _ name q) name).isSome = true
      rw [ResourceList.find_set_self]
      rfl
  · next hfound => exact ⟨h, by simpa [Option.isSome_iff_ne_none] using hfound⟩

theorem has_addHugepages : Has name (addHugepages name size m) := by
  unfold addHugepages
  dsimp only
  split
  · next found hfound =>
    apply has_addRequest
    rw [hfound]
    rfl
  · apply has_addRequest
    show (ResourceList.find (ResourceList.set _ name size) name).isSome = true
    rw [ResourceList.find_set_self]
    rfl

theorem Has.addRequest_eq (h : Has name m) : addRequest name q m = m := by
  have hrequests := h.requests
  unfold addRequest
  dsimp only
  rw [ResourceList.some_getD (ResourceList.isNone_of_find hrequests)]
  obtain ⟨request, hrequest⟩ := Option.isSome_iff_exists.mp hrequests
  rw [hrequest]
  rfl

/-- Where both entries are there, none is added. -/
theorem Has.addHugepages_eq (h : Has name m) : addHugepages name size m = m := by
  obtain ⟨limit, hlimit⟩ := Option.isSome_iff_exists.mp h.limits
  unfold addHugepages
  dsimp only
  rw [ResourceList.some_getD (ResourceList.isNone_of_find h.limits), hlimit]
  exact h.addRequest_eq

theorem bare_setRequest : (m.setRequest "memory" memoryOverhead).bare = false := by
  have hmemory : (m.setRequest "memory" memoryOverhead).requests.quantity "memory" =
      memoryOverhead := by
    show (ResourceList.set m.requests "memory" memoryOverhead).quantity "memory" = memoryOverhead
    rw [ResourceList.quantity_eq, ResourceList.find_set_self]
    rfl
  have hover : memoryOverhead.isZero = false := rfl
  unfold bare
  rw [hmemory, hover, Bool.and_false]

end ResourceMaps

section hugepages
variable {size : Quantity} {hugepages : Hugepages} {m : ResourceMaps}

theorem has_mutateHugepages :
    ResourceMaps.Has ("hugepages-" ++ hugepages.pageSize.text) (mutateHugepages size hugepages m) := by
  unfold mutateHugepages
  dsimp only
  split
  · exact ResourceMaps.has_addHugepages.congr
      (ResourceMaps.sameAt_setRequest (hugepages_ne hugepages).2)
  · exact ResourceMaps.has_addHugepages

theorem bare_mutateHugepages : (mutateHugepages size hugepages m).bare = false := by
  unfold mutateHugepages
  dsimp only
  split
  · exact ResourceMaps.bare_setRequest
  · next h => simpa using h

/-- What the hugepages add leaves the other entries filled. -/
theorem FilledIn.mutateHugepages {rs : List (String × Quantity)}
    (hlimits : FilledIn rs m.limits) (hrequests : FilledIn rs m.requests) :
    FilledIn rs (mutateHugepages size hugepages m).limits ∧
      FilledIn rs (mutateHugepages size hugepages m).requests := by
  obtain ⟨hcpu, hmemory⟩ := hugepages_ne hugepages
  have hhas : ResourceMaps.Has ("hugepages-" ++ hugepages.pageSize.text)
      (addHugepages ("hugepages-" ++ hugepages.pageSize.text) size m) :=
    ResourceMaps.has_addHugepages
  have hcpu : ResourceMaps.SameAt "cpu" m
      (addHugepages ("hugepages-" ++ hugepages.pageSize.text) size m) :=
    ResourceMaps.sameAt_addHugepages hcpu.symm
  have hmemory : ResourceMaps.SameAt "memory" m
      (addHugepages ("hugepages-" ++ hugepages.pageSize.text) size m) :=
    ResourceMaps.sameAt_addHugepages hmemory.symm
  have hlimits := hlimits.congr (ResourceList.isNone_of_find hhas.limits) hcpu.limits hmemory.limits
  have hrequests := hrequests.congr (ResourceList.isNone_of_find hhas.requests) hcpu.requests
    hmemory.requests
  unfold Virtink.mutateHugepages
  dsimp only
  split
  · refine ⟨?_, hrequests.set_overhead⟩
    unfold ResourceMaps.setRequest
    dsimp only
    split
    · exact hlimits.set_overhead
    · exact hlimits
  · exact ⟨hlimits, hrequests⟩

theorem ResourceMaps.Has.mutateHugepages_eq
    (h : m.Has ("hugepages-" ++ hugepages.pageSize.text)) (hbare : m.bare = false) :
    mutateHugepages size hugepages m = m := by
  unfold mutateHugepages
  dsimp only
  rw [h.addHugepages_eq, if_neg (by simp [hbare])]

end hugepages

/-! ### Resources -/

/-- What `MutateVM` establishes of the resources of an instance. -/
structure Settled (i : Instance) (r : ResourceRequirements) : Prop where
  dedicated : i.cpu.dedicatedCPUPlacement = true →
    FilledIn (rsList i) r.limits ∧ FilledIn (rsList i) r.requests
  hugepages : ∀ h, i.memory.hugepages = some h →
    ResourceMaps.Has ("hugepages-" ++ h.pageSize.text)
        { limits := r.limits, requests := r.requests } ∧
      ResourceMaps.bare { limits := r.limits, requests := r.requests } = false

section
variable {i : Instance} {r : ResourceRequirements}

theorem settled_mutateResources (i : Instance) (r : ResourceRequirements) :
    Settled i (mutateResources i r) := by
  unfold mutateResources
  dsimp only
  cases hpages : i.memory.hugepages with
  | none =>
    constructor
    · intro hdedicated
      rw [if_pos hdedicated]
      exact ⟨filledIn_fillIn i r.limits, filledIn_fillIn i r.requests⟩
    · intro h hh
      rw [hpages] at hh
      cases hh
  | some hugepages =>
    constructor
    · intro hdedicated
      rw [if_pos hdedicated]
      exact (filledIn_fillIn i r.limits).mutateHugepages (filledIn_fillIn i r.requests)
    · intro h hh
      rw [hpages] at hh
      cases hh
      exact ⟨⟨has_mutateHugepages.limits, has_mutateHugepages.requests⟩, bare_mutateHugepages⟩

/-- Settled resources are left as they are. -/
theorem Settled.same (h : Settled i r) :
    r.limits.Same (mutateResources i r).limits ∧
      r.requests.Same (mutateResources i r).requests := by
  -- the maps between the two parts of the pass
  let m : ResourceMaps :=
    if i.cpu.dedicatedCPUPlacement then mutateDedicated i r
    else { limits := r.limits, requests := r.requests }
  have hm : r.limits.Same m.limits ∧ r.requests.Same m.requests := by
    show r.limits.Same (ite _ _ _ : ResourceMaps).limits ∧
      r.requests.Same (ite _ _ _ : ResourceMaps).requests
    split
    · next hdedicated =>
      obtain ⟨hlimits, hrequests⟩ := h.dedicated hdedicated
      exact ⟨hlimits.same_fillIn, hrequests.same_fillIn⟩
    · exact ⟨ResourceList.Same.refl _, ResourceList.Same.refl _⟩
  unfold mutateResources
  cases hpages : i.memory.hugepages with
  | none => exact hm
  | some hugepages =>
    obtain ⟨hhas, hbare⟩ := h.hugepages hugepages hpages
    have hat : ∀ name, ResourceMaps.SameAt name { limits := r.limits, requests := r.requests } m :=
      fun name => ⟨hm.1.find name, hm.2.find name⟩
    have heq : mutateHugepages i.memory.size hugepages m = m := by
      apply (hhas.congr (hat _)).mutateHugepages_eq
      rw [ResourceMaps.bare_congr (hat "cpu") (hat "memory")]
      exact hbare
    show r.limits.Same (mutateHugepages i.memory.size hugepages m).limits ∧
      r.requests.Same (mutateHugepages i.memory.size hugepages m).requests
    rw [heq]
    exact hm

end

/-! ### Interfaces -/

/-- An address that is generated is not the empty text. -/
theorem generateMAC_ne_empty {rand : Except String (UInt8 × UInt8 × UInt8)} {mac : String}
    (h : generateMAC rand = .ok mac) : mac ≠ "" := by
  unfold generateMAC at h
  split at h
  · cases h
  · cases h
    intro hempty
    have hlist := congrArg String.toList hempty
    simp at hlist

/-- The address is not empty, and it is the one of the interface if that has
    one. -/
theorem mutateMAC_ok {rand : Except String (UInt8 × UInt8 × UInt8)} {oldVM : Option VM}
    {iface : Interface} {mac : String} (h : mutateMAC rand oldVM iface = .ok mac) :
    mac ≠ "" ∧ (iface.mac ≠ "" → mac = iface.mac) := by
  unfold mutateMAC at h
  dsimp only at h
  split at h
  · next hempty =>
    refine ⟨?_, fun hne => absurd hempty hne⟩
    split at h
    · split at h
      · cases h
      · next hgenerate =>
        cases h
        exact generateMAC_ne_empty hgenerate
    · next hold =>
      cases h
      exact hold
  · next hne =>
    cases h
    exact ⟨hne, fun _ => rfl⟩

theorem mutateBinding_name (iface : Interface) : (mutateBinding iface).name = iface.name := by
  unfold mutateBinding
  dsimp only
  split <;> rfl

theorem mutateBinding_mac (iface : Interface) : (mutateBinding iface).mac = iface.mac := by
  unfold mutateBinding
  dsimp only
  split <;> rfl

theorem mutateBinding_mutateBinding (iface : Interface) :
    mutateBinding (mutateBinding iface) = mutateBinding iface := by
  obtain ⟨name, mac, bridge, masquerade, sriov, vdpa, vhostUser⟩ := iface
  cases masquerade with
  | none => cases bridge <;> cases sriov <;> cases vdpa <;> cases vhostUser <;> rfl
  | some m =>
    -- the network is written once: it is not empty the second time
    by_cases hcidr : m.cidr = ""
    · simp [mutateBinding, hcidr]
    · simp [mutateBinding, hcidr]

/-- An interface of a VM that was defaulted: what it was with an address that
    is its own or a new one, and a binding method. -/
def Defaulted (iface done : Interface) : Prop :=
  ∃ mac, mac ≠ "" ∧ (iface.mac ≠ "" → mac = iface.mac) ∧
    done = mutateBinding { iface with mac := mac }

section
variable {rand rand' : Nat → Except String (UInt8 × UInt8 × UInt8)} {oldVM : Option VM}
  {l done : List Interface}

theorem Defaulted.name {iface done : Interface} (h : Defaulted iface done) :
    done.name = iface.name := by
  obtain ⟨mac, -, -, rfl⟩ := h
  exact mutateBinding_name _

/-- An interface that was defaulted is one a pass leaves alone. -/
theorem Defaulted.settled {iface done : Interface} (h : Defaulted iface done) :
    done.mac ≠ "" ∧ mutateBinding done = done := by
  obtain ⟨mac, hmac, -, rfl⟩ := h
  exact ⟨by rw [mutateBinding_mac]; exact hmac, mutateBinding_mutateBinding _⟩

theorem mutateInterfaces_ok {i : Nat} (h : mutateInterfaces rand oldVM i l = .ok done) :
    List.Forall₂ Defaulted l done := by
  induction l generalizing i done with
  | nil =>
    cases h
    exact .nil
  | cons iface l ih =>
    unfold mutateInterfaces at h
    split at h
    · cases h
    · next mac hmac =>
      split at h
      · cases h
      · next rest hrest =>
        cases h
        obtain ⟨hne, hown⟩ := mutateMAC_ok hmac
        exact .cons ⟨mac, hne, hown, rfl⟩ (ih hrest)

/-- A pass over interfaces that each have an address and a binding method. -/
theorem mutateInterfaces_done {i : Nat}
    (h : ∀ iface ∈ l, iface.mac ≠ "" ∧ mutateBinding iface = iface) :
    mutateInterfaces rand oldVM i l = .ok l := by
  induction l generalizing i with
  | nil => rfl
  | cons iface l ih =>
    obtain ⟨hmac, hbinding⟩ := h iface List.mem_cons_self
    have hrest := ih (i := i + 1) fun x hx => h x (List.mem_cons_of_mem iface hx)
    have hown : mutateMAC (rand i) oldVM iface = .ok iface.mac := by
      unfold mutateMAC
      rw [if_neg hmac]
    simp only [mutateInterfaces, hown, hrest, hbinding]

/-- A pass over the interfaces of the manifest, where the old VM has each of
    them under its name as the first pass left it. -/
theorem mutateInterfaces_again {i : Nat} {s : VM}
    (h : List.Forall₂ Defaulted l done)
    (hold : ∀ d ∈ done, s.spec.instance_.interfaces.find? (·.name == d.name) = some d) :
    mutateInterfaces rand (some s) i l = .ok done := by
  induction h generalizing i with
  | nil => rfl
  | @cons iface d l done hd _ ih =>
    have hrest := ih (i := i + 1) fun x hx => hold x (List.mem_cons_of_mem d hx)
    have hfind := hold d List.mem_cons_self
    rw [hd.name] at hfind
    obtain ⟨mac, hmac, hown, rfl⟩ := hd
    have hagain : mutateMAC (rand i) (some s) iface = .ok mac := by
      unfold mutateMAC
      by_cases hempty : iface.mac = ""
      · -- the address is found again by the name
        rw [if_pos hempty]
        simp [hfind, mutateBinding_mac, hmac]
      · rw [if_neg hempty, hown hempty]
    simp only [mutateInterfaces, hagain, hrest]

theorem names_of_forall₂ (h : List.Forall₂ Defaulted l done) :
    done.map (·.name) = l.map (·.name) := by
  induction h with
  | nil => rfl
  | cons hd _ ih => rw [List.map_cons, List.map_cons, hd.name, ih]

theorem done_of_forall₂ (h : List.Forall₂ Defaulted l done) :
    ∀ iface ∈ done, iface.mac ≠ "" ∧ mutateBinding iface = iface := by
  induction h with
  | nil =>
    intro iface hiface
    cases hiface
  | cons hd _ ih =>
    intro iface hiface
    rcases List.mem_cons.mp hiface with rfl | hiface
    · exact hd.settled
    · exact ih iface hiface

end

/-! ### The Webhook -/

/-- A VM that was defaulted is its manifest with the defaults filled in. -/
theorem mutateVM_eq_ok {rand : Nat → Except String (UInt8 × UInt8 × UInt8)} {vm s : VM}
    {oldVM : Option VM} :
    mutateVM rand vm oldVM = .ok s ↔
      ∃ interfaces, mutateInterfaces rand oldVM 0 vm.spec.instance_.interfaces = .ok interfaces ∧
        s = { vm with spec := { vm.spec with
          runPolicy := if vm.spec.runPolicy = .empty then .once else vm.spec.runPolicy
          resources := mutateResources (mutateInstance vm.spec) vm.spec.resources
          instance_ := { mutateInstance vm.spec with interfaces := interfaces } } } := by
  unfold mutateVM
  dsimp only
  constructor
  · intro h
    split at h
    · cases h
    · next interfaces hinterfaces =>
      cases h
      exact ⟨interfaces, hinterfaces, rfl⟩
  · intro h
    obtain ⟨interfaces, hinterfaces, rfl⟩ := h
    rw [hinterfaces]

theorem defaultCPU_defaultCPU (cpu : CPU) : defaultCPU (defaultCPU cpu) = defaultCPU cpu := by
  have hpos : ∀ n : UInt32, (if n = 0 then 1 else n) ≠ 0 := by
    intro n
    by_cases hn : n = 0
    · rw [if_pos hn]
      decide
    · rw [if_neg hn]
      exact hn
  unfold defaultCPU
  dsimp only
  rw [if_neg (hpos cpu.sockets), if_neg (hpos cpu.coresPerSocket)]

/-- An instance that was defaulted is left as it is. -/
theorem mutateInstance_mutateInstance {spec spec' : VMSpec} {interfaces : List Interface}
    (h : spec'.instance_ = { mutateInstance spec with interfaces := interfaces }) :
    mutateInstance spec' = spec'.instance_ := by
  have hsize : defaultMemorySize spec' = spec'.instance_.memory.size := by
    have hne : spec'.instance_.memory.size.isZero = false := by
      rw [h]
      exact defaultMemorySize_ne_zero spec
    unfold defaultMemorySize
    dsimp only
    rw [if_neg (by simp [hne])]
  have hcpu : defaultCPU spec'.instance_.cpu = spec'.instance_.cpu := by
    rw [h]
    exact defaultCPU_defaultCPU spec.instance_.cpu
  unfold mutateInstance
  rw [hsize, hcpu]

/-- The run policy that is filled in is not empty. -/
theorem runPolicy_ite (p : RunPolicy) :
    (if (if p = .empty then RunPolicy.once else p) = .empty then RunPolicy.once
      else if p = .empty then .once else p) = if p = .empty then .once else p := by
  cases p <;> rfl

/-- **Defaulting is stable.** Of a VM that was defaulted, `MutateVM` leaves the
    spec as it is, whatever the old VM; and the manifest it came from, submitted
    again as an update of it, yields the VM itself. Each call has random bytes
    of its own, or none. -/
theorem mutateVM_stable {rand : Nat → Except String (UInt8 × UInt8 × UInt8)} {vm s : VM}
    (hnames : (vm.spec.instance_.interfaces.map (·.name)).Nodup)
    (hs : mutateVM rand vm none = .ok s) :
    (∀ rand' oldVM, ∃ s', mutateVM rand' s oldVM = .ok s' ∧ s.spec.Same s'.spec) ∧
      ∀ rand', mutateVM rand' vm (some s) = .ok s := by
  obtain ⟨interfaces, hinterfaces, hspec⟩ := mutateVM_eq_ok.mp hs
  have hdefaulted := mutateInterfaces_ok hinterfaces
  have hown : s.spec.instance_.interfaces = interfaces := by rw [hspec]
  constructor
  · intro rand' oldVM
    have hagain : mutateInterfaces rand' oldVM 0 s.spec.instance_.interfaces =
        .ok s.spec.instance_.interfaces := by
      rw [hown]
      exact mutateInterfaces_done (done_of_forall₂ hdefaulted)
    refine ⟨_, mutateVM_eq_ok.mpr ⟨_, hagain, rfl⟩, ?_⟩
    have hinstance : mutateInstance s.spec = s.spec.instance_ :=
      mutateInstance_mutateInstance (congrArg (·.spec.instance_) hspec)
    have hpolicy : (if s.spec.runPolicy = .empty then .once else s.spec.runPolicy) =
        s.spec.runPolicy := by
      rw [hspec]
      exact runPolicy_ite vm.spec.runPolicy
    -- the resources of `s` are settled for the instance of `s`, whose CPUs and
    -- memory are those the first pass filled them in for
    have hsettled : Settled s.spec.instance_ s.spec.resources := by
      rw [hspec]
      obtain ⟨hdedicated, hhugepages⟩ :=
        settled_mutateResources (mutateInstance vm.spec) vm.spec.resources
      exact ⟨hdedicated, hhugepages⟩
    dsimp only
    rw [hinstance, hpolicy]
    exact ⟨rfl, hsettled.same.1, hsettled.same.2⟩
  · intro rand'
    have hnames' : (interfaces.map (·.name)).Nodup := by
      rw [names_of_forall₂ hdefaulted]
      exact hnames
    have hagain : mutateInterfaces rand' (some s) 0 vm.spec.instance_.interfaces =
        .ok interfaces := by
      apply mutateInterfaces_again hdefaulted
      intro d hd
      rw [hown]
      exact find?_name_of_mem hnames' hd
    exact mutateVM_eq_ok.mpr ⟨interfaces, hagain, hspec⟩

namespace Sample

/-- A VM with dedicated CPUs on hugepages and two interfaces, of which one has
    an address. -/
def manifest : VM :=
  { name := "vm"
    uid := "vm-uid"
    spec := {
      instance_ := {
        cpu := { dedicatedCPUPlacement := true }
        memory := { hugepages := some { pageSize := .oneGi } }
        interfaces := [{ name := "pod", masquerade := some {} }, { name := "net", mac := "mac" }] } } }

def bytes (n : UInt8) : Nat → Except String (UInt8 × UInt8 × UInt8) := fun _ => .ok (n, n, n)

end Sample

/-- The address that was drawn is kept although other bytes, or none, are to be
    had later. -/
theorem mutateVM_stable_sample :
    ∃ s, mutateVM (Sample.bytes 1) Sample.manifest none = .ok s ∧
      (∃ s', mutateVM (Sample.bytes 2) s none = .ok s' ∧ s.spec.Same s'.spec) ∧
      mutateVM Sample.noRandom Sample.manifest (some s) = .ok s := by
  have hs : mutateVM (Sample.bytes 1) Sample.manifest none = .ok _ := rfl
  obtain ⟨htwice, hagain⟩ := mutateVM_stable (by decide) hs
  exact ⟨_, hs, htwice _ none, hagain _⟩

end Virtink
