import Virtink.Admission.Runs
import Virtink.Pods
import Virtink.VolumeStatus.Update

/-! # The Claims in the Volume Pod That Is Kept

    `isPodMatchVMHotplugVolumes` counts the volumes of a pod and compares their
    names, not their claims. A volume that is taken out of the spec and put
    back under the same name with another claim therefore leaves the old
    volume pod in place. `claimsStay` is the condition on the steps under which
    the pod that is kept has the claims of all ready volumes: as long as some
    volume pod has a volume of a name, a volume of that name in the spec has
    the same claim.
-/

namespace Virtink

open Calls

/-! ### Matching Pods -/

/-- A pod controls the pod. -/
def Pod.isVolumePod (p : Pod) : Bool := p.controller.any (·.kind == .pod)

/-- Where a claim has the name of a hotpluggable volume of the spec, it is the
    claim of that volume. -/
def claimsAgree (spec : VMSpec) (volumes : List PodVolume) : Bool :=
  volumes.all fun x => x.claim.all fun claim =>
    spec.volumes.all fun v => !(v.isHotpluggable && v.name == x.name) || v.pvcName == claim

theorem claimsAgree_iff {spec : VMSpec} {volumes : List PodVolume} :
    claimsAgree spec volumes = true ↔ ∀ x ∈ volumes, ∀ claim, x.claim = some claim →
      ∀ v ∈ spec.volumes, v.isHotpluggable = true → v.name = x.name → v.pvcName = claim := by
  unfold claimsAgree
  simp only [List.all_eq_true, Option.all_eq_true, Bool.or_eq_true, Bool.not_eq_true',
    Bool.and_eq_false_imp, beq_iff_eq, beq_eq_false_iff_ne]
  grind

/-- What the volumes of a volume pod are: the directory, the claims of volumes
    with distinct names, and one more that the server adds. -/
def VolumePodShape (p : Pod) : Prop :=
  ∃ (volumes : List Volume) (token : PodVolume), (volumes.map (·.name)).Nodup ∧
    token.claim = none ∧
    p.volumes = { name := "hotplug" } :: volumes.map Volume.asClaim ++ [token]

section
variable {p : Pod} {ready : List Volume}

/-- A matching pod of this shape has a claim under the name of every ready
    volume. -/
theorem claim_of_match (hshape : VolumePodShape p)
    (hmatch : isPodMatchVMHotplugVolumes p ready = true) :
    ∀ v ∈ ready, ∃ u : Volume, u.name = v.name ∧ u.asClaim ∈ p.volumes := by
  obtain ⟨volumes, token, hnodup, htoken, hvolumes⟩ := hshape
  have hperm := names_perm_of_match hnodup hvolumes hmatch
  intro v hv
  obtain ⟨u, hu, hname⟩ := List.mem_map.mp (hperm.mem_iff.mpr (List.mem_map_of_mem hv))
  refine ⟨u, hname, ?_⟩
  rw [hvolumes]
  simp only [List.cons_append, List.mem_cons, List.mem_append, List.mem_map]
  exact .inr (.inl ⟨u, hu, rfl⟩)

/-- If its claims agree with the spec, it holds the ready volumes. -/
theorem holds_of_match {spec : VMSpec} (hshape : VolumePodShape p)
    (hagree : claimsAgree spec p.volumes = true)
    (hready : ∀ v ∈ ready, v ∈ spec.volumes ∧ v.isHotpluggable = true)
    (hmatch : isPodMatchVMHotplugVolumes p ready = true) : ∀ v ∈ ready, p.holds v = true := by
  intro v hv
  obtain ⟨u, hname, hu⟩ := claim_of_match hshape hmatch v hv
  obtain ⟨hmem, hplug⟩ := hready v hv
  have hclaim : v.pvcName = u.pvcName :=
    claimsAgree_iff.mp hagree u.asClaim hu u.pvcName rfl v hmem hplug hname.symm
  have heq : u.asClaim = { name := v.name, claim := some v.pvcName } := by
    unfold Volume.asClaim
    rw [hname, hclaim]
  unfold Pod.holds
  rw [List.contains_iff_mem, ← heq]
  exact hu

end

/-! ### What a Step Does to Volumes and Specs -/

/-- The pod `q` is the pod `p` at another time. -/
structure Pod.Same (p q : Pod) : Prop where
  controller : q.controller = p.controller
  volumes    : q.volumes = p.volumes

theorem Pod.Same.refl (p : Pod) : p.Same p := ⟨rfl, rfl⟩

theorem Pod.Same.isVolumePod {p q : Pod} (h : p.Same q) : q.isVolumePod = p.isVolumePod := by
  unfold Pod.isVolumePod
  rw [h.controller]

/-- Every pod was there before. -/
def OldPods (w w' : World) : Prop := ∀ q ∈ w'.pods, ∃ p ∈ w.pods, p.Same q

theorem OldPods.of_eq {w w' : World} (h : w'.pods = w.pods) : OldPods w w' := by
  intro q hq
  rw [h] at hq
  exact ⟨q, hq, .refl q⟩

theorem OldPods.of_map {w w' : World} {f : Pod → Pod} (h : w'.pods = w.pods.map f)
    (hf : ∀ p : Pod, p.Same (f p)) : OldPods w w' := by
  intro q hq
  rw [h] at hq
  obtain ⟨p, hp, rfl⟩ := List.mem_map.mp hq
  exact ⟨p, hp, hf p⟩

theorem oldPods_removePod (w : World) (name : String) : OldPods w (w.removePod name) :=
  fun q hq => ⟨q, (List.mem_filter.mp hq).1, .refl q⟩

section
variable {w w' : World}

theorem same_markedAt (now : Nat) (name : String) (p : Pod) :
    p.Same (World.markedAt now name p) := by
  unfold World.markedAt
  split
  · exact ⟨rfl, rfl⟩
  · exact .refl p

/-- A call that creates a pod adds it, or nothing happens. -/
theorem createPod_cases {t : PodTemplate} {ch : Choice} {a : Except ApiError Unit}
    (h : w.createPod t ch = some (a, w')) : w' = w ∨ ∃ uid suffix extra lost,
      ch = .create uid suffix extra lost ∧ w' = w.addPod (w.podOf t uid suffix extra) := by
  unfold World.createPod at h
  split at h
  · cases h; exact .inl rfl
  · next uid suffix extra lost =>
    dsimp only at h
    split at h
    · cases h
    · split at h
      · cases h; exact .inl rfl
      · split at h
        · cases h; exact .inr ⟨uid, suffix, extra, _, rfl, rfl⟩
        · cases h; exact .inr ⟨uid, suffix, extra, _, rfl, rfl⟩
  · cases h

/-- Every other call leaves the pods that were there, and every call the spec. -/
theorem Effect.oldPods {i : Proc} {o : Op} (h : Effect i w o w') :
    (∃ t, o = .createPod t) ∨ OldPods w w' := by
  cases h with
  | createPod _ _ => exact .inl ⟨_, rfl⟩
  | markPod => exact .inr (.of_map rfl (same_markedAt _ _))
  | removePod => exact .inr (oldPods_removePod w _)
  | _ => exact .inr (.of_eq rfl)

theorem Effect.spec {i : Proc} {o : Op} (h : Effect i w o w') {vm' : VM} (hvm' : w'.vm = some vm') :
    ∃ vm, w.vm = some vm ∧ vm'.spec = vm.spec := by
  cases h with
  | writeStatus hvm _ _ _ => cases hvm'; exact ⟨_, hvm, rfl⟩
  | writeFinalizers hvm _ _ _ => cases hvm'; exact ⟨_, hvm, rfl⟩
  | removeVM _ _ _ _ => cases hvm'
  | _ => exact ⟨vm', hvm', rfl⟩

/-- What an event does to the pods. -/
theorem event_oldPods {e : Event} (h : World.event e w = some w') :
    (∃ p, e = .createPod p ∧ w' = w.addPod p) ∨ OldPods w w' := by
  have honPod : ∀ {w₀ : World} {uid : UID} {f : Pod → Pod}, w₀.pods = w.pods →
      (∀ p : Pod, p.Same (f p)) → OldPods w (w₀.onPod uid f) := by
    intro w₀ uid f hpods hf
    refine .of_map (f := fun p => if p.uid = uid then f p else p) ?_ fun p => ?_
    · rw [← hpods]; rfl
    · split
      · exact hf p
      · exact .refl p
  cases e with
  | bindPod uid node =>
    cases h
    refine .inr (honPod rfl fun p => ?_)
    unfold Pod.bindTo
    split <;> exact ⟨rfl, rfl⟩
  | setPodPhase uid phase =>
    cases h
    refine .inr (honPod rfl fun p => ?_)
    unfold Pod.report
    split <;> exact ⟨rfl, rfl⟩
  | setPodConditions uid conditions => cases h; exact .inr (honPod rfl fun p => ⟨rfl, rfl⟩)
  | deletePod name => cases h; exact .inr (.of_map rfl (same_markedAt _ _))
  | removePod name => cases h; exact .inr (oldPods_removePod w name)
  | createPod p =>
    unfold World.event at h
    dsimp only at h
    split at h
    · cases h
    · cases h; exact .inl ⟨p, rfl, rfl⟩
  | completeSend k =>
    obtain ⟨x, -, hx⟩ := Option.bind_eq_some_iff.mp h
    split at hx
    · cases hx
      refine .inr (honPod rfl fun p => ?_)
      unfold Pod.handOver
      split <;> exact ⟨rfl, rfl⟩
    · cases hx
  | patchPowerAction action =>
    obtain ⟨cur, -, rfl⟩ := Option.map_eq_some_iff.mp h
    refine .inr (.of_eq ?_)
    unfold World.putStatus
    split <;> rfl
  | deleteVM =>
    obtain ⟨cur, -, rfl⟩ := Option.map_eq_some_iff.mp h
    refine .inr (.of_eq ?_)
    split
    · rfl
    · split <;> rfl
  | updateSpec spec =>
    obtain ⟨cur, -, rfl⟩ := Option.map_eq_some_iff.mp h
    exact .inr (.of_eq rfl)
  | touchVM =>
    obtain ⟨cur, -, rfl⟩ := Option.map_eq_some_iff.mp h
    exact .inr (.of_eq rfl)
  | createVMM uid =>
    unfold World.event at h
    dsimp only at h
    split at h
    · cases h
    · cases h; exact .inr (.of_eq rfl)
  | tick | deleteVMM _ | removeVMM _ | failSend _ => cases h; exact .inr (.of_eq rfl)

/-- Only an update changes the spec. -/
theorem event_spec {e : Event} (h : World.event e w = some w') {vm' : VM}
    (hvm' : w'.vm = some vm') :
    ∃ vm, w.vm = some vm ∧ (vm'.spec = vm.spec ∨ e = .updateSpec vm'.spec) := by
  cases e with
  | patchPowerAction action =>
    obtain ⟨cur, hcur, rfl⟩ := Option.map_eq_some_iff.mp h
    have hput : (w.putStatus cur { cur.status with powerAction := action }).vm = some vm' := hvm'
    rw [World.putStatus_vm hcur] at hput
    cases hput
    refine ⟨cur, hcur, .inl ?_⟩
    unfold World.withStatus
    split <;> rfl
  | deleteVM =>
    obtain ⟨cur, hcur, rfl⟩ := Option.map_eq_some_iff.mp h
    split at hvm'
    · cases hvm'
    · split at hvm'
      · exact ⟨vm', hvm', .inl rfl⟩
      · cases hvm'; exact ⟨cur, hcur, .inl rfl⟩
  | updateSpec spec =>
    obtain ⟨cur, hcur, rfl⟩ := Option.map_eq_some_iff.mp h
    cases hvm'
    exact ⟨cur, hcur, .inr rfl⟩
  | touchVM =>
    obtain ⟨cur, hcur, rfl⟩ := Option.map_eq_some_iff.mp h
    cases hvm'
    exact ⟨cur, hcur, .inl rfl⟩
  | createPod p =>
    unfold World.event at h
    dsimp only at h
    split at h
    · cases h
    · cases h; exact ⟨vm', hvm', .inl rfl⟩
  | createVMM uid =>
    unfold World.event at h
    dsimp only at h
    split at h
    · cases h
    · cases h; exact ⟨vm', hvm', .inl rfl⟩
  | completeSend k =>
    obtain ⟨x, -, hx⟩ := Option.bind_eq_some_iff.mp h
    split at hx
    · cases hx; exact ⟨vm', hvm', .inl rfl⟩
    · cases hx
  | bindPod _ _ | setPodPhase _ _ | setPodConditions _ _ | deletePod _ | removePod _ | tick
  | deleteVMM _ | removeVMM _ | failSend _ => cases h; exact ⟨vm', hvm', .inl rfl⟩

end

/-! ### The Condition -/

/-- The template is that of a pod which a pod controls. -/
def PodTemplate.isVolumePod (t : PodTemplate) : Bool := t.controller.any (·.kind == .pod)

/-- The condition on the steps. An update of the spec is accepted, and where a
    volume pod has a claim under the name of a hotpluggable volume of the new
    spec, it is the claim of that volume. When a volume pod is created, the
    same holds of its claims and the spec that is stored, and the server adds
    one volume to it, which is no claim. A pod that somebody else creates is
    controlled by the VM or not at all. -/
def claimsStay (lib : Library) (w : World) (a : Action) : Bool :=
  acceptedUpdate lib w a &&
  match a with
  | .event (.updateSpec spec) => w.pods.all fun p => !p.isVolumePod || claimsAgree spec p.volumes
  | .event (.createPod p) =>
      p.controller.all fun o => o.kind != .pod && some o.uid == w.vm.map (·.uid)
  | .call .controller (.createPod t) (.create _ _ extra _) =>
      !t.isVolumePod ||
        (extra.length == 1 && extra.all (·.claim.isNone) &&
          w.vm.all fun vm => claimsAgree vm.spec t.volumes)
  | _ => true

/-- The steps that meet it. -/
abbrev ClaimsStay (lib : Library) (w : World) (a : Action) : Prop := claimsStay lib w a = true

/-- The initial worlds whose VM the webhook has accepted. -/
def AcceptedInit (lib : Library) (w : World) : Prop :=
  Init w ∧ ∀ vm, w.vm = some vm → validateVM lib vm none = []

/-! ### The Invariant -/

/-- The names of the volumes are distinct, and the claims in the volume pods
    are those of the spec. -/
structure SpecFits (spec : VMSpec) (pods : List Pod) : Prop where
  names  : (spec.volumes.map (·.name)).Nodup
  claims : ∀ p ∈ pods, p.isVolumePod = true → claimsAgree spec p.volumes = true

/-- The VM is the one that is stored or the one the controller works on. -/
def InUse (w : World) (vm r : VM) : Prop := r = vm ∨ (w.views .controller).vm = some r

/-- A volume pod has its shape, and every other pod is controlled by the VM of
    that UID if it is controlled at all. -/
structure KnownPod (uid : UID) (p : Pod) : Prop where
  shape : p.isVolumePod = true → VolumePodShape p
  owner : p.isVolumePod = false → ∀ o, p.controller = some o → o.uid = uid

/-- While the VM is stored, its pods are known, and the specs that are in use
    fit them. -/
structure ClaimInv (w : World) (vm : VM) : Prop where
  known : ∀ p ∈ w.pods, KnownPod vm.uid p
  fits  : ∀ r, InUse w vm r → SpecFits r.spec w.pods

section
variable {w w' : World}

theorem SpecFits.oldPods {spec : VMSpec} (h : SpecFits spec w.pods) (hold : OldPods w w') :
    SpecFits spec w'.pods where
  names := h.names
  claims q hq hvol := by
    obtain ⟨p, hp, hsame⟩ := hold q hq
    rw [hsame.isVolumePod] at hvol
    rw [hsame.volumes]
    exact h.claims p hp hvol

theorem SpecFits.addPod {spec : VMSpec} (h : SpecFits spec w.pods) {p : Pod}
    (hp : p.isVolumePod = true → claimsAgree spec p.volumes = true) :
    SpecFits spec (w.addPod p).pods where
  names := h.names
  claims q hq hvol := by
    rcases List.mem_append.mp hq with hq | hq
    · exact h.claims q hq hvol
    · rw [List.mem_singleton] at hq
      rw [hq] at hvol ⊢
      exact hp hvol

/-- The claims a pod is built with are those of the spec it is built from. -/
theorem BuiltFrom.agrees {spec : VMSpec} {t : PodTemplate} (h : BuiltFrom spec t)
    (hnames : (spec.volumes.map (·.name)).Nodup) : claimsAgree spec t.volumes = true := by
  obtain ⟨volumes, hsub, hvolumes⟩ := h
  rw [claimsAgree_iff, hvolumes]
  intro x hx claim hclaim v hv _ hname
  rcases List.mem_cons.mp hx with rfl | hx
  · cases hclaim
  · obtain ⟨u, hu, rfl⟩ := List.mem_map.mp hx
    have hmem : u ∈ spec.volumes := List.mem_of_mem_filter (hsub.subset hu)
    have huv : v = u := List.inj_on_of_nodup_map hnames hv hmem hname
    rw [huv]
    exact Option.some.inj hclaim

/-- What a move does to the pods while `vm` is stored: it adds at most one
    pod, and a volume pod only with claims that fit the specs in use. -/
inductive PodsMove (w w' : World) (vm : VM) : Prop where
  | old (h : OldPods w w')
  | add (p : Pod) (hpods : w'.pods = w.pods ++ [p]) (hknown : KnownPod vm.uid p)
      (hagree : p.isVolumePod = true → ∀ r, InUse w vm r → claimsAgree r.spec p.volumes = true)

theorem SpecFits.podsMove {vm r : VM} (h : SpecFits r.spec w.pods) (hmove : PodsMove w w' vm)
    (hr : InUse w vm r) : SpecFits r.spec w'.pods := by
  cases hmove with
  | old hold => exact h.oldPods hold
  | add p hpods _ hagree =>
    have hadd := SpecFits.addPod (w := w) (p := p) h fun hvol => hagree hvol r hr
    rw [hpods]
    exact hadd

theorem KnownPod.same {uid : UID} {p q : Pod} (h : KnownPod uid p) (hsame : p.Same q) :
    KnownPod uid q where
  shape hvol := by
    rw [hsame.isVolumePod] at hvol
    unfold VolumePodShape
    rw [hsame.volumes]
    exact h.shape hvol
  owner hvol := by
    rw [hsame.isVolumePod] at hvol
    rw [hsame.controller]
    exact h.owner hvol

theorem PodsMove.known {vm : VM} (hmove : PodsMove w w' vm)
    (h : ∀ p ∈ w.pods, KnownPod vm.uid p) : ∀ p ∈ w'.pods, KnownPod vm.uid p := by
  intro q hq
  cases hmove with
  | old hold =>
    obtain ⟨p, hp, hsame⟩ := hold q hq
    exact (h p hp).same hsame
  | add p hpods hknown _ =>
    rw [hpods] at hq
    rcases List.mem_append.mp hq with hq | hq
    · exact h q hq
    · rw [List.mem_singleton] at hq
      rw [hq]
      exact hknown

/-- The pod that a template of a volume pod leads to. -/
theorem podOf_shape {t : PodTemplate} {spec : VMSpec} (hbuilt : BuiltFrom spec t)
    (hnames : (spec.volumes.map (·.name)).Nodup) {uid : UID} {suffix : String}
    {extra : List PodVolume} (hlength : extra.length = 1)
    (hextra : ∀ x ∈ extra, x.claim = none) : VolumePodShape (w.podOf t uid suffix extra) := by
  obtain ⟨volumes, hsub, hvolumes⟩ := hbuilt
  obtain ⟨token, rfl⟩ := List.length_eq_one_iff.mp hlength
  have hnodup : (volumes.map (·.name)).Nodup :=
    (((hsub.trans List.filter_sublist).map _).nodup hnames)
  refine ⟨volumes, token, hnodup, hextra token (List.mem_singleton_self token), ?_⟩
  show t.volumes ++ [token] = _
  rw [hvolumes]

/-- Volumes that are no claims do not matter. -/
theorem claimsAgree_append {spec : VMSpec} {volumes extra : List PodVolume}
    (h : claimsAgree spec volumes = true) (hextra : ∀ x ∈ extra, x.claim = none) :
    claimsAgree spec (volumes ++ extra) = true := by
  rw [claimsAgree_iff] at h ⊢
  intro x hx claim hclaim
  rcases List.mem_append.mp hx with hx | hx
  · exact h x hx claim hclaim
  · rw [hextra x hx] at hclaim
    cases hclaim

end

/-! ### Moves Keep the Invariant -/

section
variable {lib : Library} {nodeIP : String → String} {w w' : World} {a : Action}

/-- A pod that is to be controlled by a pod is built from the VM that was read. -/
theorem CtrlCreate.built {v : View} {r : VM} {t : PodTemplate} (h : CtrlCreate v r t)
    (hvol : t.isVolumePod = true) : BuiltFrom r.spec t := by
  cases h with
  | volumePod _ _ _ _ hbuilt _ => exact hbuilt
  | vmPod _ _ _ _ hown | target _ _ _ _ _ _ hown =>
    unfold PodTemplate.isVolumePod at hvol
    rw [hown] at hvol
    cases hvol

/-- A volume pod that the controller creates has its shape and fits. -/
theorem createPod_fits {vm : VM} (hvm : w.vm = some vm) (hinv : ClaimInv w vm) {t : PodTemplate}
    {uid : UID} {suffix : String} {extra : List PodVolume} {lost : Option String}
    (hok : ClaimsStay lib w (.call .controller (.createPod t) (.create uid suffix extra lost)))
    (hguard : guard .controller (.createPod t) (w.views .controller))
    (hvol : (w.podOf t uid suffix extra).isVolumePod = true) :
    VolumePodShape (w.podOf t uid suffix extra) ∧
      ∀ r, InUse w vm r → claimsAgree r.spec (w.podOf t uid suffix extra).volumes = true := by
  have hvol : t.isVolumePod = true := hvol
  obtain ⟨held, hheld, hcreate⟩ := hguard
  have hbuilt := hcreate.built hvol
  have hchoice : (extra.length = 1 ∧ ∀ x ∈ extra, x.claim = none) ∧
      claimsAgree vm.spec t.volumes = true := by
    simpa [ClaimsStay, claimsStay, acceptedUpdate, hvol, hvm] using hok
  obtain ⟨⟨hlength, hextra⟩, hstored⟩ := hchoice
  have hnames := (hinv.fits held (.inr hheld)).names
  refine ⟨podOf_shape hbuilt hnames hlength hextra, fun r hr => ?_⟩
  refine claimsAgree_append ?_ hextra
  rcases hr with rfl | hr
  · exact hstored
  · -- the pod is built from this very VM
    have heq : r = held := Option.some.inj (hr.symm.trans hheld)
    rw [heq]
    exact hbuilt.agrees hnames

/-- Who controls what the controller creates. -/
theorem owner_of_createPod {vm : VM} (hvm : w.vm = some vm) (hocc : Occ w) {t : PodTemplate}
    (hguard : guard .controller (.createPod t) (w.views .controller)) (hvol : t.isVolumePod = false) :
    ∀ o, t.controller = some o → o.uid = vm.uid := by
  intro o ho
  obtain ⟨r, hr, hcreate⟩ := hguard
  rcases hcreate.owner with hown | ⟨p, -, hown⟩
  · cases ho.symm.trans hown
    exact (hocc .controller r vm hr hvm).uid
  · unfold PodTemplate.isVolumePod at hvol
    rw [hown] at hvol
    cases hvol

/-- **Step lemma** for the pods. -/
theorem podsMove_of_gstep {vm : VM} (hvm : w.vm = some vm) (hocc : Occ w) (hinv : ClaimInv w vm)
    (hok : ClaimsStay lib w a) (hmoved : Moved w a w')
    (hstep : GStep (system nodeIP) (contract nodeIP).guards w a w') : PodsMove w w' vm := by
  cases hstep with
  | start _ => exact .old (.of_eq rfl)
  | finish _ => exact .old (.of_eq rfl)
  | @crash i => exact .old (.of_eq (by cases i <;> rfl))
  | @event _ e hev =>
    rcases event_oldPods hev with ⟨p, rfl, rfl⟩ | hold
    · have howner : ∀ o, p.controller = some o → o.kind ≠ .pod ∧ o.uid = vm.uid := by
        simpa [ClaimsStay, claimsStay, acceptedUpdate, hvm, Option.all_eq_true] using hok
      have hother : p.isVolumePod = false := by
        unfold Pod.isVolumePod
        rw [Option.any_eq_false]
        intro o ho
        simpa using (howner o ho).1
      exact .add p rfl ⟨by simp [hother], fun _ o ho => (howner o ho).2⟩ (by simp [hother])
    · exact .old hold
  | @call _ i o ch ans hguard hans =>
    rcases (effect_of_answer hans).oldPods with ⟨t, rfl⟩ | hold
    · match i with
      | .vmm u => exact hmoved.guard.elim
      | .daemon n => exact hmoved.guard.elim
      | .controller =>
        rcases createPod_cases hans with rfl | ⟨uid, suffix, extra, lost, rfl, rfl⟩
        · exact .old (.of_eq rfl)
        · have howner := owner_of_createPod hvm hocc hmoved.guard
          exact .add _ rfl ⟨fun hvol => (createPod_fits hvm hinv hok hguard hvol).1, howner⟩
            fun hvol => (createPod_fits hvm hinv hok hguard hvol).2
    · exact .old hold

/-- The spec that is stored after a move was in use before, or the move is an
    update to it. -/
theorem spec_of_gstep {G : Guards api World Proc} (hstep : GStep (system nodeIP) G w a w') {vm' : VM}
    (hvm' : w'.vm = some vm') :
    ∃ vm, w.vm = some vm ∧ (vm'.spec = vm.spec ∨ a = .event (.updateSpec vm'.spec)) := by
  cases hstep with
  | start _ => exact ⟨vm', hvm', .inl rfl⟩
  | finish _ => exact ⟨vm', hvm', .inl rfl⟩
  | @crash i => cases i <;> exact ⟨vm', hvm', .inl rfl⟩
  | event hev =>
    obtain ⟨vm, hvm, hspec⟩ := event_spec hev hvm'
    exact ⟨vm, hvm, hspec.imp_right (congrArg Act.event)⟩
  | call _ hans =>
    obtain ⟨vm, hvm, hspec⟩ := (effect_of_answer hans).spec hvm'
    exact ⟨vm, hvm, .inl hspec⟩

/-- The spec of an update that is let through fits the volume pods. -/
theorem specFits_of_update {vm : VM} (hvm : w.vm = some vm) {spec : VMSpec}
    (hok : ClaimsStay lib w (.event (.updateSpec spec))) : SpecFits spec w.pods := by
  have hboth : acceptedUpdate lib w (.event (.updateSpec spec)) = true ∧
      ∀ p ∈ w.pods, p.isVolumePod = true → claimsAgree spec p.volumes = true := by
    simpa [ClaimsStay, claimsStay, imp_iff_not_or] using hok
  obtain ⟨haccepted, hclaims⟩ := hboth
  have hvalid : validateVM lib { vm with spec := spec } (some vm) = [] := by
    simpa [acceptedUpdate, hvm] using haccepted
  exact ⟨(accepted_of_validateVM hvalid).volume_names, hclaims⟩

/-- **Step lemma**: the claims that are in use keep fitting. -/
theorem ClaimInv.step (hinv : ∀ vm, w.vm = some vm → ClaimInv w vm) (hocc : Occ w)
    (hok : ClaimsStay lib w a) (hmoved : Moved w a w')
    (hstep : GStep (system nodeIP) (contract nodeIP).guards w a w') :
    ∀ vm', w'.vm = some vm' → ClaimInv w' vm' := by
  intro vm' hvm'
  obtain ⟨vm, hvm, hspec⟩ := spec_of_gstep hstep hvm'
  have huid : vm'.uid = vm.uid := by
    obtain ⟨cur, hcur, huid⟩ := hmoved.vmStep.uid hvm'
    cases hvm.symm.trans hcur
    exact huid.symm
  have hpods : PodsMove w w' vm := podsMove_of_gstep hvm hocc (hinv vm hvm) hok hmoved hstep
  have hstored : SpecFits vm'.spec w'.pods := by
    rcases hspec with hspec | rfl
    · rw [hspec]
      exact ((hinv vm hvm).fits vm (.inl rfl)).podsMove hpods (.inl rfl)
    · -- the update leaves the pods as they are
      have hold : OldPods w w' := by
        cases hstep with
        | event hev =>
          rcases event_oldPods (e := .updateSpec vm'.spec) hev with ⟨p, hp, -⟩ | hold
          · cases hp
          · exact hold
      exact (specFits_of_update hvm hok).oldPods hold
  refine ⟨?_, fun r hr => ?_⟩
  · rw [huid]
    exact hpods.known (hinv vm hvm).known
  · rcases hr with rfl | hr
    · exact hstored
    · -- what the controller holds it held before, or it is what is stored
      rcases hmoved.holdsCurrent .controller r hr with hheld | hnew | ⟨-, hgone⟩
      · exact ((hinv vm hvm).fits r (.inr hheld)).podsMove hpods (.inr hheld)
      · cases hnew.symm.trans hvm'
        exact hstored
      · rw [hgone] at hvm'
        cases hvm'

/-- **Run lemma**: in every world reached under the condition, the claims that
    are in use fit the volume pods. -/
theorem claimInv_of_reach {c : Config}
    (h : Reach (system nodeIP) (ClaimsStay lib) (AcceptedInit lib) c) :
    ∀ vm, c.store.vm = some vm → ClaimInv c.store vm := by
  induction h with
  | @init w hinit =>
    obtain ⟨⟨v, -, -, rfl⟩, haccepted⟩ := hinit
    intro vm hvm
    have hnames := (accepted_of_validateVM (haccepted vm hvm)).volume_names
    refine ⟨fun p hp => (List.not_mem_nil hp).elim, fun r hr => ?_⟩
    rcases hr with rfl | hr
    · exact ⟨hnames, fun p hp => (List.not_mem_nil hp).elim⟩
    · cases hr
  | @step c c' a hreach hok hstep ih =>
    have hreach := hreach.mono (fun _ h => h.1)
    exact ClaimInv.step ih (reached_of_reach hreach).occ hok (moved_of_step hreach hstep)
      ((kept nodeIP).gstep (fun _ => init_views) hreach hstep)

end

/-! ### The Pod That Is Kept -/

/-- The calls `l` of `handleHotplugVolumes`, made for the VM and the VM pod the
    controller works on in `w`, end without an error; the pods were listed as
    they are in `w`, and of the volume pods `p` is kept. -/
structure KeepsPod (w : World) (vm : VM) (vmPod : Pod) (wait : Bool) (l : List (Prog.Entry api))
    (p : Pod) : Prop where
  stored : w.vm ≠ none
  held   : ∃ r, (w.views .controller).vm = some r ∧ vm.spec = r.spec
  pod    : (w.views .controller).pod = some vmPod
  run    : Prog.Path (handleHotplugVolumes vm vmPod wait) l none
  kept   : ∃ pods, listedPods l = some pods ∧ pods.Perm w.pods ∧
    (splitPods (foundReady l) (volumePodsOf vmPod pods)).1 = some p

/-- Only these volumes are asked about. -/
def AsksOf (volumes : List Volume) : Op → Prop
  | .isReady v => v ∈ volumes
  | _ => True

theorem handleHotplugVolumes_asksOf (vm : VM) (vmPod : Pod) (wait : Bool) :
    (handleHotplugVolumes vm vmPod wait).Only (AsksOf (getHotplugVolumes vm vmPod)) := by
  refine (readyVolumes_asks fun v hv => hv).bind fun r => ?_
  match r with
  | .error e => exact trivial
  | .ok ready =>
    dsimp only
    split
    · exact trivial
    · refine only_ask trivial fun pods => ?_
      match pods with
      | .error e => exact trivial
      | .ok pods =>
        dsimp only [pure, Prog.bind]
        split
        · refine (buildHotplugVolumePod_asks (fun _ => trivial) ..).bind fun t => ?_
          match t with
          | .error e => exact trivial
          | .ok t =>
            refine only_ask trivial fun done => ?_
            match done with
            | .error e => exact trivial
            | .ok () => exact deleteOldPods_asks (fun _ => trivial) _
        · exact deleteOldPods_asks (fun _ => trivial) _

/-- The volumes that are found ready are hotpluggable volumes of the spec. -/
theorem mem_spec_of_foundReady {vm : VM} {vmPod : Pod} {wait : Bool} {l : List (Prog.Entry api)}
    {r : Option Err} (h : Prog.Path (handleHotplugVolumes vm vmPod wait) l r) :
    ∀ v ∈ foundReady l, v ∈ vm.spec.volumes ∧ v.isHotpluggable = true := by
  intro v hv
  obtain ⟨e, he, hfound⟩ := List.mem_filterMap.mp hv
  split at hfound
  · next u =>
    cases hfound
    have hasked : v ∈ getHotplugVolumes vm vmPod := (handleHotplugVolumes_asksOf ..).path h _ he
    exact List.mem_filter.mp ((getHotplugVolumes_sublist vm vmPod).subset hasked)
  · cases hfound

/-- **The attached claim is the specified claim**, if steps keep to the
    condition. -/
theorem kept_pod_has_claims {lib : Library} {nodeIP : String → String} {c : Config}
    (h : Reach (system nodeIP) (ClaimsStay lib) (AcceptedInit lib) c) {vm : VM} {vmPod p : Pod}
    {wait : Bool} {l : List (Prog.Entry api)} (hkeeps : KeepsPod c.store vm vmPod wait l p) :
    ∀ v ∈ foundReady l, p.holds v = true := by
  obtain ⟨cur, hcur⟩ := Option.ne_none_iff_exists'.mp hkeeps.stored
  obtain ⟨r, hr, hspec⟩ := hkeeps.held
  obtain ⟨pods, -, hperm, hkept⟩ := hkeeps.kept
  have hinv : ClaimInv c.store cur := claimInv_of_reach h cur hcur
  have hstore : StoreInv c.store := (reached_of_reach (h.mono fun _ h => h.1)).storeInv
  rw [splitPods_fst] at hkept
  have hmatch : isPodMatchVMHotplugVolumes p (foundReady l) = true := by
    simpa using List.find?_some hkept
  obtain ⟨hmem, hown⟩ := mem_volumePodsOf.mp (List.mem_of_find?_eq_some hkept)
  have hp : p ∈ c.store.pods := hperm.mem_iff.mp hmem
  -- the VM pod is not the VM, so what it controls is a volume pod
  have hvol : p.isVolumePod = true := by
    rw [← Bool.not_eq_false]
    intro hother
    obtain ⟨o, ho, huid⟩ := (Option.any_eq_true ..).mp hown
    have hvm : o.uid = cur.uid := (hinv.known p hp).owner hother o ho
    exact hstore.seen_not_vm cur vmPod hcur hkeeps.pod ((beq_iff_eq.mp huid).symm.trans hvm)
  have hready : ∀ v ∈ foundReady l, v ∈ r.spec.volumes ∧ v.isHotpluggable = true :=
    hspec ▸ mem_spec_of_foundReady hkeeps.run
  exact holds_of_match ((hinv.known p hp).shape hvol) ((hinv.fits r (.inr hr)).claims p hp hvol)
    hready hmatch

/-- A pod that matches is kept in some run. -/
theorem keepsPod_of_match {w : World} {vm : VM} {vmPod p : Pod} {ready : List Volume}
    (hvm : w.vm = some vm) (hheld : (w.views .controller).vm = some vm)
    (hpod : (w.views .controller).pod = some vmPod)
    (hready : ready.Sublist (getHotplugVolumes vm vmPod))
    (hkept : (splitPods ready (volumePodsOf vmPod w.pods)).1 = some p) :
    ∃ l, KeepsPod w vm vmPod false l p ∧ foundReady l = ready := by
  have hmay : w.may (handleHotplugVolumes vm vmPod false) (fun l r _ =>
      r = none ∧ foundReady l = ready ∧ listedPods l = some w.pods) :=
    handleHotplugVolumes_may hready nofun (.refl w.pods) hkept
  obtain ⟨l, r, w', hexec, rfl, hfound, hlisted⟩ := hmay
  rw [← hfound] at hkept
  have hstored : w.vm ≠ none := by rw [hvm]; nofun
  exact ⟨l, ⟨hstored, ⟨vm, hheld, rfl⟩, hpod, hexec.path, ⟨w.pods, hlisted, .refl _, hkept⟩⟩, hfound⟩

namespace Sample

/-- The controller has read the machine and its pod. -/
def reads : Script := [.start .controller, .call .controller .ok, .call .controller .ok]

/-- The machine runs, the controller keeps a volume pod for the one volume that
    is ready, and `test` is what is asked of the two. -/
def keeps (test : Pod → Volume → Bool) (c : Config) : Bool :=
  c.store.vm.any fun vm =>
    (vm.status.phase == .running && (c.store.views .controller).vm == some vm) &&
    (c.store.views .controller).pod.any fun vmPod =>
      (getHotplugVolumes vm vmPod).any fun v =>
        getHotplugVolumes vm vmPod == [v] &&
          (splitPods [v] (volumePodsOf vmPod c.store.pods)).1.any (test · v)

theorem booting_accepted : AcceptedInit library booting := by
  refine ⟨booting_init, fun vm hvm => ?_⟩
  cases hvm
  exact machine_valid

/-- A run that leads to such a configuration. -/
theorem reachKeeps (ok : World → Action → Prop) [∀ w a, Decidable (ok w a)] (moves : Script)
    (test : Pod → Volume → Bool)
    (h : (execAll cluster ok (.idle booting) moves).any (keeps test) = true) :
    ∃ c vm vmPod l p v, Reach cluster ok (AcceptedInit library) c ∧
      vm.status.phase = .running ∧ KeepsPod c.store vm vmPod false l p ∧ v ∈ foundReady l ∧
      test p v = true := by
  obtain ⟨c, hreach, h⟩ := reach_of_execAll booting_accepted moves (keeps test) h
  obtain ⟨vm, hvm, h⟩ := (Option.any_eq_true ..).mp h
  rw [Bool.and_eq_true, Bool.and_eq_true, beq_iff_eq, beq_iff_eq] at h
  obtain ⟨⟨hphase, hheld⟩, h⟩ := h
  obtain ⟨vmPod, hpod, h⟩ := (Option.any_eq_true ..).mp h
  obtain ⟨v, -, h⟩ := List.any_eq_true.mp h
  rw [Bool.and_eq_true, beq_iff_eq] at h
  obtain ⟨hall, h⟩ := h
  obtain ⟨p, hkept, htest⟩ := (Option.any_eq_true ..).mp h
  have hready : [v].Sublist (getHotplugVolumes vm vmPod) := by rw [hall]
  obtain ⟨l, hkeeps, hfound⟩ := keepsPod_of_match hvm hheld hpod hready hkept
  have hv : v ∈ foundReady l := by
    rw [hfound]
    exact List.mem_singleton_self v
  exact ⟨c, vm, vmPod, l, p, v, hreach, hphase, hkeeps, hv, htest⟩

end Sample

/-- A disk is plugged into the running machine, and its volume pod is kept. -/
theorem kept_pod_has_claims_sample :
    ∃ c vm vmPod l p v, Reach Sample.cluster (ClaimsStay Sample.library)
      (AcceptedInit Sample.library) c ∧ vm.status.phase = .running ∧
      KeepsPod c.store vm vmPod false l p ∧ v ∈ foundReady l ∧ p.holds v = true := by
  obtain ⟨c, vm, vmPod, l, p, v, hreach, hphase, hkeeps, hv, -⟩ := Sample.reachKeeps
    (ClaimsStay Sample.library) (Sample.plugsIn ++ Sample.reads) (fun _ _ => true)
    (by decide +kernel)
  exact ⟨c, vm, vmPod, l, p, v, hreach, hphase, hkeeps, hv,
    kept_pod_has_claims hreach hkeeps v hv⟩

/-- Disk `a` is taken out of the spec and put back with another claim before
    the controller looks: both updates are accepted, and the volume pod of the
    former claim is kept. -/
theorem kept_pod_with_other_claim :
    ∃ c vm vmPod l p v, Reach Sample.cluster (Accepts Sample.library)
      (AcceptedInit Sample.library) c ∧ vm.status.phase = .running ∧
      KeepsPod c.store vm vmPod false l p ∧ v ∈ foundReady l ∧ p.holds v = false := by
  let other : Volume := { Sample.disk "b" with name := "a" }
  obtain ⟨c, vm, vmPod, l, p, v, hreach, hphase, hkeeps, hv, hlost⟩ := Sample.reachKeeps
    (Accepts Sample.library)
    (Sample.plugsIn ++ Sample.plugs [] ++ Sample.plugs [other] ++ Sample.reads)
    (fun p v => !p.holds v) (by decide +kernel)
  exact ⟨c, vm, vmPod, l, p, v, hreach, hphase, hkeeps, hv, by simpa using hlost⟩

end Virtink
