import Mathlib.Data.List.Nodup
import Virtink.VolumeStatus.Update

/-! # One Volume Pod for the Ready Volumes

    `handleHotplugVolumes` is run again and again; between two runs in which
    nothing changes it should have nothing left to do. Whether a pod is the one
    for the ready volumes is decided by a count and by names: the pod has two
    volumes more than there are ready ones, and every claim of it has the name
    of a ready volume. For the pods that `buildHotplugVolumePod` builds this
    means that the names are the same (`claimNames_perm_of_match`).

    After a run exactly one live volume pod is left, the newest that matches or
    a new one (`Chosen`), and the next run finds it again. There are two ways
    for a run to end without an error where this is not so: it is told to wait
    for volumes that are not ready, or no volume is ready and there is a volume
    pod without claims (`hotplug_pods_left_alone`).
-/

namespace Virtink

open Calls

/-! ### What Does Not Change -/

/-- Whether a volume is ready does not change, and the server adds one volume
    that is not a claim to every pod. -/
def Choice.settled (isReady : Volume → Bool) : Op → Choice → Prop
  | .isReady v, .flag b => b = isReady v
  | .createPod _, .create _ _ extra _ => ∃ x : PodVolume, extra = [x] ∧ x.claim = none
  | _, _ => True

/-- The calls of the controller while nobody else acts, in such a cluster. -/
def World.settled (isReady : Volume → Bool) : Prog.Sem api World := fun o w a w' =>
  ∃ ch : Choice, ch.settled isReady o ∧ World.answer .controller o ch w = some (a, w')

/-- The call creates or deletes a pod. -/
def Op.changesPods : Op → Bool
  | .createPod _ | .deletePod _ _ => true
  | _ => false

/-- None of the calls creates or deletes a pod. -/
def PodsKept (l : List (Prog.Entry api)) : Prop := ∀ e ∈ l, Op.changesPods e.1 = false

theorem PodsKept.append {l l' : List (Prog.Entry api)} (h : PodsKept l) (h' : PodsKept l') :
    PodsKept (l ++ l') := by
  intro e he
  rcases List.mem_append.mp he with he | he
  · exact h e he
  · exact h' e he

theorem PodsKept.nil : PodsKept [] := by
  intro e he
  cases he

/-- The pod is controlled by the VM pod. -/
def Pod.ownedBy (p vmPod : Pod) : Bool := p.controller.any (·.uid == vmPod.uid)

/-- The volume pods of the VM pod that are not on their way out. -/
def liveVolumePods (w : World) (vmPod : Pod) : List Pod :=
  w.pods.filter fun p => p.ownedBy vmPod && p.deletionTimestamp.isNone

/-- The names of the claims of a pod. -/
def Pod.claimNames (p : Pod) : List String := (p.volumes.filter (·.claim.isSome)).map (·.name)

/-- A pod that was built for volumes with distinct names; the server has added
    one volume, which is not a claim. -/
def BuiltDistinct (p : Pod) : Prop :=
  ∃ vm vmPod volumes l t, ∃ x : PodVolume,
    Prog.Path (buildHotplugVolumePod vm vmPod volumes) l (.ok t) ∧
    (volumes.map (·.name)).Nodup ∧ x.claim = none ∧ p.volumes = t.volumes ++ [x]

/-! ### Matching -/

section matching
variable {p : Pod} {ready volumes : List Volume}

theorem claimNames_of_volumes {x : PodVolume} (hx : x.claim = none)
    (h : p.volumes = { name := "hotplug" } :: volumes.map Volume.asClaim ++ [x]) :
    p.claimNames = volumes.map (·.name) := by
  have hall : (volumes.map Volume.asClaim).filter (·.claim.isSome) =
      volumes.map Volume.asClaim := by
    rw [List.filter_eq_self]
    intro y hy
    obtain ⟨v, -, rfl⟩ := List.mem_map.mp hy
    rfl
  unfold Pod.claimNames
  rw [h, List.cons_append, List.filter_cons_of_neg (by simp), List.filter_append, hall,
    List.filter_cons_of_neg (by simp [hx])]
  simp [Volume.asClaim]

/-- A pod that was built for the volumes matches them. -/
theorem match_of_volumes {x : PodVolume} (hx : x.claim = none)
    (h : p.volumes = { name := "hotplug" } :: ready.map Volume.asClaim ++ [x]) :
    isPodMatchVMHotplugVolumes p ready = true := by
  have hlength : p.volumes.length = ready.length + 2 := by
    rw [h]
    simp
  have hnames : ∀ y ∈ p.volumes.filter (·.claim.isSome), ready.any (·.name == y.name) = true := by
    intro y hy
    have hmem : y.name ∈ p.claimNames := List.mem_map_of_mem hy
    rw [claimNames_of_volumes hx h] at hmem
    obtain ⟨v, hv, hname⟩ := List.mem_map.mp hmem
    exact List.any_eq_true.mpr ⟨v, hv, by simpa using hname⟩
  unfold isPodMatchVMHotplugVolumes
  rw [Bool.and_eq_true, List.all_eq_true]
  refine ⟨?_, hnames⟩
  rw [hlength, beq_iff_eq]
  omega

/-- The claims of a pod that matches have the names of the ready volumes. -/
theorem claimNames_perm_of_match (hbuilt : BuiltDistinct p)
    (h : isPodMatchVMHotplugVolumes p ready = true) :
    p.claimNames.Perm (ready.map (·.name)) := by
  obtain ⟨vm, vmPod, volumes, l, t, x, hpath, hdistinct, hx, hvolumes⟩ := hbuilt
  rw [(buildHotplugVolumePod_volumes hpath).2] at hvolumes
  rw [claimNames_of_volumes hx hvolumes]
  exact names_perm_of_match hdistinct hvolumes h

end matching

/-! ### What a Run Does -/

/-- What becomes of each pod when the old pods are deleted. -/
structure Thins (old : List Pod) (f : Pod → Option Pod) : Prop where
  other : ∀ q, (∀ p ∈ old, p.name ≠ q.name) → f q = some q
  same  : ∀ q q', f q = some q' → q' = q ∨ ∃ t, q' = { q with deletionTimestamp := some t }
  gone  : ∀ q ∈ old, ∀ q', f q = some q' → q'.deletionTimestamp ≠ none

section thinning
variable {old : List Pod} {f g : Pod → Option Pod} {p q q' : Pod}

/-- A pod that is deleted stays deleted. -/
theorem Thins.same_of_ne_none (h : Thins old f) (hq : q.deletionTimestamp ≠ none)
    (hf : f q = some q') : q'.deletionTimestamp ≠ none := by
  rcases h.same q q' hf with rfl | ⟨t, rfl⟩
  · exact hq
  · intro hnone
    cases hnone

theorem Thins.nil : Thins [] some where
  other _ _ := rfl
  same q q' h := .inl (Option.some.inj h).symm
  gone q hq := by cases hq

theorem Thins.cons (h : Thins [p] f) (hrest : Thins old g) :
    Thins (p :: old) (fun q => (f q).bind g) where
  other q hne := by
    have hf : f q = some q := by
      apply h.other
      intro p' hp'
      rw [List.mem_singleton.mp hp']
      exact hne p List.mem_cons_self
    rw [hf]
    exact hrest.other q fun p' hp' => hne p' (List.mem_cons_of_mem p hp')
  same q q' hq := by
    obtain ⟨r, hf, hg⟩ := Option.bind_eq_some_iff.mp hq
    rcases h.same q r hf with rfl | ⟨t, rfl⟩
    · exact hrest.same r q' hg
    · rcases hrest.same _ q' hg with rfl | ⟨t', rfl⟩
      · exact .inr ⟨t, rfl⟩
      · exact .inr ⟨t', rfl⟩
  gone q hq q' hq' := by
    obtain ⟨r, hf, hg⟩ := Option.bind_eq_some_iff.mp hq'
    rcases List.mem_cons.mp hq with rfl | hq
    · exact hrest.same_of_ne_none (h.gone q List.mem_cons_self r hf) hg
    · rcases h.same q r hf with rfl | ⟨t, rfl⟩
      · exact hrest.gone r hq q' hg
      · exact hrest.same_of_ne_none (by intro hnone; cases hnone) hg

/-- A pod that is on its way out can be passed over. -/
theorem Thins.skip (hp : p.deletionTimestamp ≠ none) (h : Thins old f) : Thins (p :: old) f where
  other q hne := h.other q fun p' hp' => hne p' (List.mem_cons_of_mem p hp')
  same := h.same
  gone q hq q' hf := by
    rcases List.mem_cons.mp hq with rfl | hq
    · exact h.same_of_ne_none hp hf
    · exact h.gone q hq q' hf

theorem thins_removePod (p : Pod) :
    Thins [p] (fun q => if q.name = p.name then none else some q) where
  other q hne := if_neg fun h => hne p (List.mem_singleton_self p) h.symm
  same q q' h := by
    split at h
    · cases h
    · exact .inl (Option.some.inj h).symm
  gone q hq q' h := by
    rw [List.mem_singleton.mp hq, if_pos rfl] at h
    cases h

theorem thins_markedAt (now : Nat) (p : Pod) :
    Thins [p] (fun q => some (World.markedAt now p.name q)) where
  other q hne := by
    unfold World.markedAt
    rw [if_neg fun h => hne p (List.mem_singleton_self p) h.1.symm]
  same q q' h := by
    cases h
    unfold World.markedAt
    split
    · exact .inr ⟨now, rfl⟩
    · exact .inl rfl
  gone q hq q' h := by
    cases h
    rw [List.mem_singleton.mp hq]
    unfold World.markedAt
    split
    · intro hnone
      cases hnone
    · next hmarked => exact fun hnone => hmarked ⟨rfl, hnone⟩

end thinning

section runs
variable {w : World} {isReady : Volume → Bool}

/-- Every run in such a cluster meets `Q`. -/
abbrev World.settledMust {α : Type} (isReady : Volume → Bool) (w : World) (p : Call α)
    (Q : List (Prog.Entry api) → α → World → Prop) : Prop :=
  Prog.Must (World.settled isReady) p w Q

theorem settled_ask {α : Type} {o : Op} {f : o.Ans → Call α}
    {Q : List (Prog.Entry api) → α → World → Prop}
    (h : ∀ (ch : Choice) a w', ch.settled isReady o →
      World.answer .controller o ch w = some (a, w') →
      w'.settledMust isReady (f a) (fun l b w'' => Q (⟨o, a⟩ :: l) b w'')) :
    w.settledMust isReady (ask o >>= f) Q := by
  refine .call fun a w' hans => ?_
  obtain ⟨ch, hsettled, hans⟩ := hans
  exact h ch a w' hsettled hans

theorem deletePod_thins {p : Pod} {ch : Choice} {w' : World}
    (h : World.answer .controller (.deletePod p.name .outdated) ch w = some (.ok (), w')) :
    ∃ f, Thins [p] f ∧ w'.pods = w.pods.filterMap f := by
  have h : w.deletePod p.name ch = (.ok (), w') := Option.some.inj h
  unfold World.deletePod at h
  split at h
  · cases h
  · have hmark : ∃ f, Thins [p] f ∧
        (w.mapPods (World.markedAt w.now p.name)).pods = w.pods.filterMap f :=
      ⟨_, thins_markedAt w.now p, congrFun List.filterMap_eq_map.symm _⟩
    split at h
    · cases h
    · cases h
    · cases h
      refine ⟨_, thins_removePod p, ?_⟩
      show w.pods.filter (·.name != p.name) = _
      rw [← List.filterMap_eq_filter]
      congr 1
      funext q
      by_cases hq : q.name = p.name
      · simp [hq, Option.guard]
      · simp [hq, Option.guard]
    · cases h
      exact hmark

/-- The third loop of `handleHotplugVolumes`. -/
theorem deleteOldPods_thins (old : List Pod) :
    w.settledMust isReady (deleteOldPods old) (fun l r w' =>
      (r = none → ∃ f, Thins old f ∧ w'.pods = w.pods.filterMap f) ∧
      ((∀ p ∈ old, p.deletionTimestamp ≠ none) → PodsKept l)) := by
  induction old generalizing w with
  | nil =>
    exact .pure ⟨fun _ => ⟨some, .nil, (List.filterMap_some).symm⟩, fun _ => .nil⟩
  | cons p rest ih =>
    unfold deleteOldPods
    split
    · next hgone =>
      have hp : p.deletionTimestamp ≠ none := Option.isSome_iff_ne_none.mp hgone
      refine ih.mono fun l r w' h => ⟨fun hr => ?_, fun hall => ?_⟩
      · obtain ⟨f, hf, hpods⟩ := h.1 hr
        exact ⟨f, .skip hp hf, hpods⟩
      · exact h.2 fun q hq => hall q (List.mem_cons_of_mem p hq)
    · next hlive =>
      -- a live pod is deleted
      have hnot : ¬ ∀ q ∈ p :: rest, q.deletionTimestamp ≠ none := by
        intro hall
        exact hlive (Option.isSome_iff_ne_none.mpr (hall p List.mem_cons_self))
      refine settled_ask fun ch a w₁ _ hans => ?_
      cases a with
      | error e =>
        exact .pure ⟨fun hr => (by cases hr), fun hall => absurd hall hnot⟩
      | ok u =>
        refine ih.mono fun l r w' h => ⟨fun hr => ?_, fun hall => absurd hall hnot⟩
        obtain ⟨g, hg, hpods⟩ := h.1 hr
        obtain ⟨f, hf, hpods₁⟩ := deletePod_thins hans
        refine ⟨_, hf.cons hg, ?_⟩
        rw [hpods, hpods₁, List.filterMap_filterMap]

/-- Whether the volumes are ready is found out without a change. -/
theorem readyVolumes_settled (volumes : List Volume) :
    w.settledMust isReady (readyVolumes volumes) (fun _ r w' =>
      w' = w ∧ ∀ ready, r = .ok ready → ready = volumes.filter isReady) := by
  induction volumes with
  | nil =>
    refine .pure ⟨rfl, fun ready h => ?_⟩
    cases h
    rfl
  | cons volume rest ih =>
    refine settled_ask fun ch a w₁ hsettled hans => ?_
    obtain rfl := eq_of_askFlag hans
    cases a with
    | error e => exact .pure ⟨rfl, fun ready h => (by cases h)⟩
    | ok b =>
      have hb : b = isReady volume := by
        cases ch <;> cases hans
        exact hsettled
      refine .bind (ih.mono fun l r w₂ h => ?_)
      obtain ⟨rfl, hready⟩ := h
      cases r with
      | error e => exact .pure ⟨rfl, fun ready h => (by cases h)⟩
      | ok found =>
        refine .pure ⟨rfl, fun ready h => ?_⟩
        cases h
        rw [hready found rfl, List.filter_cons, hb]

theorem askPods_perm {ch : Choice} {l pods : List Pod} (h : ch.askPods l = some (.ok pods)) :
    pods.Perm l := by
  unfold Choice.askPods at h
  split at h
  · split at h
    · next hperm =>
      cases h
      exact List.isPerm_iff.mp hperm
    · cases h
  · cases h
  · cases h
    exact .refl _

/-- What happens in such a cluster happens while nobody else acts. -/
theorem Exec.alone {α : Type} {p : Call α} {w' : World} {l : List (Prog.Entry api)} {a : α}
    (h : Prog.Exec (World.settled isReady) p w l a w') :
    Prog.Exec (World.alone .controller) p w l a w' := by
  induction h with
  | pure a w => exact .pure a w
  | call hans _ ih =>
    obtain ⟨ch, -, hans⟩ := hans
    exact .call ⟨ch, hans⟩ ih

/-- The pod that a run creates. -/
structure Created (vmPod : Pod) (ready : List Volume) (w : World) (p : Pod) : Prop where
  live    : p.deletionTimestamp = none
  owned   : p.controller = some ⟨.pod, vmPod.uid⟩
  volumes : ∃ x : PodVolume, x.claim = none ∧
    p.volumes = { name := "hotplug" } :: ready.map Volume.asClaim ++ [x]
  newest  : p.creationTimestamp = w.now
  fresh   : ∀ q ∈ w.pods, q.name ≠ p.name

theorem createPod_created {vmPod : Pod} {ready : List Volume} {t : PodTemplate} {ch : Choice}
    {w' : World} (hsettled : ch.settled isReady (.createPod t))
    (hown : t.controller = some ⟨.pod, vmPod.uid⟩)
    (hvolumes : t.volumes = { name := "hotplug" } :: ready.map Volume.asClaim)
    (h : World.answer .controller (.createPod t) ch w = some (.ok (), w')) :
    ∃ p, Created vmPod ready w p ∧ w' = w.addPod p := by
  have h : w.createPod t ch = some (.ok (), w') := h
  unfold World.createPod at h
  split at h
  · cases h
  · next uid suffix extra lost _ =>
    obtain ⟨x, rfl, hx⟩ : ∃ x : PodVolume, extra = [x] ∧ x.claim = none := hsettled
    dsimp only at h
    split at h
    · cases h
    · split at h
      · cases h
      · next hfree =>
        split at h
        · cases h
        · cases h
          refine ⟨_, ⟨rfl, hown, ⟨x, hx, ?_⟩, rfl, ?_⟩, rfl⟩
          · show t.volumes ++ [x] = _
            rw [hvolumes]
          · intro q hq heq
            apply hfree
            exact List.find?_isSome.mpr ⟨q, hq, by simpa using heq⟩
  · cases h

/-- The volume pods that a run chooses from, and the world in which it then
    deletes the old ones. -/
inductive Prepares (vmPod : Pod) (ready : List Volume) (pods : List Pod) (w : World) :
    World → Prop where
  | kept (h : ready = [] ∨ (splitPods ready pods).1 ≠ none) : Prepares vmPod ready pods w w
  | created (p : Pod) (hne : ready ≠ []) (hnone : (splitPods ready pods).1 = none)
      (h : Created vmPod ready w p) : Prepares vmPod ready pods w (w.addPod p)

/-- One run of `handleHotplugVolumes`: unless it waits, it chooses the current
    pod and deletes the others. Where the current pod is there and no other is
    live, it neither creates nor deletes a pod. -/
theorem handleHotplugVolumes_settled (vm : VM) (vmPod : Pod) (wait : Bool) :
    w.settledMust isReady (handleHotplugVolumes vm vmPod wait) (fun l r w' =>
      let ready := (getHotplugVolumes vm vmPod).filter isReady
      (r = none → (wait = true → ready = getHotplugVolumes vm vmPod) →
        ∃ pods w₁ f, pods.Perm w.pods ∧ Prepares vmPod ready (volumePodsOf vmPod pods) w w₁ ∧
          Thins (splitPods ready (volumePodsOf vmPod pods)).2 f ∧
          w'.pods = w₁.pods.filterMap f) ∧
      ((∀ pods, pods.Perm w.pods →
        (ready = [] ∨ (splitPods ready (volumePodsOf vmPod pods)).1 ≠ none) ∧
        ∀ p ∈ (splitPods ready (volumePodsOf vmPod pods)).2, p.deletionTimestamp ≠ none) →
        PodsKept l)) := by
  dsimp only
  refine .bind fun l₁ r w₁ hexec => ?_
  have hasks : (readyVolumes (getHotplugVolumes vm vmPod)).Only (Op.changesPods · = false) :=
    readyVolumes_asks fun _ _ => rfl
  have hkeeps : PodsKept l₁ := hasks.path hexec.path
  obtain ⟨rfl, hready⟩ := readyVolumes_settled _ l₁ r w₁ hexec
  cases r with
  | error e => exact .pure ⟨fun hr => (by cases hr), fun _ => hkeeps.append .nil⟩
  | ok ready =>
    obtain rfl := hready ready rfl
    dsimp only
    split
    · next hwaits =>
      refine .pure ⟨fun _ hwait => ?_, fun _ => hkeeps.append .nil⟩
      obtain ⟨hwaits, hlt⟩ := hwaits
      rw [hwait hwaits] at hlt
      exact absurd hlt (Nat.lt_irrefl _)
    · refine .bind (settled_ask fun ch a w₂ _ hans => ?_)
      obtain ⟨b, hb, heq⟩ := Option.map_eq_some_iff.mp hans
      obtain rfl : b = a := congrArg Prod.fst heq
      obtain rfl : w₁ = w₂ := congrArg Prod.snd heq
      cases b with
      | error e =>
        refine .pure (.pure ⟨fun hr => (by cases hr), fun _ => hkeeps.append (.append ?_ .nil)⟩)
        intro e he
        rw [List.mem_singleton.mp he]
        rfl
      | ok pods =>
        have hpods : pods.Perm w₁.pods := askPods_perm hb
        have hlisted : PodsKept [⟨.listPods, .ok pods⟩] := by
          intro e he
          rw [List.mem_singleton.mp he]
          rfl
        refine .pure ?_
        dsimp only
        split
        · next hcreate =>
          obtain ⟨hnone, hpos⟩ := hcreate
          have hnone := Option.isNone_iff_eq_none.mp hnone
          -- a pod is created where there is none to choose
          have hnot : ¬ ∀ pods, pods.Perm w₁.pods →
              ((getHotplugVolumes vm vmPod).filter isReady = [] ∨
                (splitPods ((getHotplugVolumes vm vmPod).filter isReady)
                  (volumePodsOf vmPod pods)).1 ≠ none) ∧
              ∀ p ∈ (splitPods ((getHotplugVolumes vm vmPod).filter isReady)
                (volumePodsOf vmPod pods)).2, p.deletionTimestamp ≠ none := by
            intro hall
            rcases (hall pods hpods).1 with hempty | hsome
            · rw [hempty] at hpos
              exact absurd hpos (Nat.lt_irrefl 0)
            · exact hsome hnone
          refine .bind fun l₂ r w₂ hbuild => ?_
          obtain ⟨rfl, -, -⟩ := buildHotplugVolumePod_must vm vmPod _ l₂ r w₂ (Exec.alone hbuild)
          cases r with
          | error e => exact .pure ⟨fun hr => (by cases hr), fun hall => absurd hall hnot⟩
          | ok t =>
            obtain ⟨hown, hvolumes⟩ := buildHotplugVolumePod_volumes hbuild.path
            refine settled_ask fun ch a w₃ hsettled hans => ?_
            cases a with
            | error e => exact .pure ⟨fun hr => (by cases hr), fun hall => absurd hall hnot⟩
            | ok u =>
              obtain ⟨p, hp, rfl⟩ := createPod_created hsettled hown hvolumes hans
              refine (deleteOldPods_thins _).mono fun l r w' h => ?_
              refine ⟨fun hr _ => ?_, fun hall => absurd hall hnot⟩
              obtain ⟨f, hf, hpods'⟩ := h.1 hr
              exact ⟨pods, _, f, hpods, .created p (List.ne_nil_of_length_pos hpos) hnone hp, hf,
                hpods'⟩
        · next hkeep =>
          have hkept : (getHotplugVolumes vm vmPod).filter isReady = [] ∨
              (splitPods ((getHotplugVolumes vm vmPod).filter isReady)
                (volumePodsOf vmPod pods)).1 ≠ none := by
            by_cases hempty : (getHotplugVolumes vm vmPod).filter isReady = []
            · exact .inl hempty
            · refine .inr fun hnone => hkeep ⟨by rw [hnone]; rfl, ?_⟩
              exact List.length_pos_iff.mpr hempty
          refine (deleteOldPods_thins _).mono fun l r w' h => ?_
          refine ⟨fun hr _ => ?_, fun hall => ?_⟩
          · obtain ⟨f, hf, hpods'⟩ := h.1 hr
            exact ⟨pods, _, f, hpods, .kept hkept, hf, hpods'⟩
          · exact hkeeps.append (hlisted.append (h.2 (hall pods hpods).2))

end runs

/-! ### The Pod That is Chosen -/

/-- The volume pods of a VM pod as the runs before have left them. -/
structure Orderly (vmPod : Pod) (w : World) : Prop where
  names : (w.pods.map (·.name)).Nodup
  live  : ∀ p ∈ w.pods, p.ownedBy vmPod = true → p.deletionTimestamp = none
  built : ∀ p ∈ w.pods, p.ownedBy vmPod = true → BuiltDistinct p
  times : ((w.pods.filter (·.ownedBy vmPod)).map (·.creationTimestamp)).Nodup
  past  : ∀ p ∈ w.pods, p.ownedBy vmPod = true → p.creationTimestamp < w.now

/-- All volume pods among `pods` but `cur` are old, and `cur` is the newest of
    those that match. -/
structure Chosen (vmPod : Pod) (ready : List Volume) (old pods : List Pod) (cur : Option Pod) :
    Prop where
  split : ∀ q ∈ pods, q.ownedBy vmPod = true → cur = some q ∨ q ∈ old
  mem   : ∀ p, cur = some p → p ∈ pods ∧ p.ownedBy vmPod = true ∧ p.deletionTimestamp = none
  hit   : ∀ p, cur = some p → isPodMatchVMHotplugVolumes p ready = true
  other : ∀ p, cur = some p → ∀ q ∈ old, q.name ≠ p.name
  first : ∀ p, cur = some p → ∀ q ∈ pods, q.ownedBy vmPod = true →
    isPodMatchVMHotplugVolumes q ready = true → q = p ∨ q.creationTimestamp < p.creationTimestamp

section choice
variable {w w₁ : World} {vmPod : Pod} {ready : List Volume} {pods : List Pod}

theorem mem_volumePodsOf_iff {q : Pod} :
    q ∈ volumePodsOf vmPod pods ↔ q ∈ pods ∧ q.ownedBy vmPod = true := mem_volumePodsOf

/-- A pod that is there is chosen. -/
theorem chosen_of_kept (h : Orderly vmPod w) (hpods : pods.Perm w.pods) :
    Chosen vmPod ready (splitPods ready (volumePodsOf vmPod pods)).2 w.pods
      (splitPods ready (volumePodsOf vmPod pods)).1 := by
  have hmem : ∀ q, q ∈ volumePodsOf vmPod pods ↔ q ∈ w.pods ∧ q.ownedBy vmPod = true := by
    intro q
    rw [mem_volumePodsOf_iff, hpods.mem_iff]
  have hfound : ∀ p, (splitPods ready (volumePodsOf vmPod pods)).1 = some p →
      (volumePodsOf vmPod pods).find? (isPodMatchVMHotplugVolumes · ready) = some p := by
    intro p hp
    rw [← splitPods_fst]
    exact hp
  refine ⟨?_, ?_, ?_, ?_, ?_⟩
  · intro q hq hown
    have hq := (splitPods_perm ready (volumePodsOf vmPod pods)).mem_iff.mpr ((hmem q).mpr ⟨hq, hown⟩)
    rcases List.mem_append.mp hq with hcur | hold
    · exact .inl (Option.mem_toList.mp hcur)
    · exact .inr hold
  · intro p hp
    obtain ⟨hin, hown⟩ := (hmem p).mp (List.mem_of_find?_eq_some (hfound p hp))
    exact ⟨hin, hown, h.live p hin hown⟩
  · intro p hp
    simpa using List.find?_some (hfound p hp)
  · intro p hp q hq
    exact name_ne_of_old (nodup_volumePodsOf h.names hpods vmPod) hp hq
  · intro p hp q hq hown hmatch
    have hle := le_of_find? (sortNewestFirst_sorted _) (hfound p hp)
      ((hmem q).mpr ⟨hq, hown⟩) hmatch
    obtain ⟨hin, hown'⟩ := (hmem p).mp (List.mem_of_find?_eq_some (hfound p hp))
    -- no two of the pods are equally old
    by_cases heq : q.creationTimestamp = p.creationTimestamp
    · exact .inl (List.inj_on_of_nodup_map h.times (List.mem_filter.mpr ⟨hq, hown⟩)
        (List.mem_filter.mpr ⟨hin, hown'⟩) heq)
    · exact .inr (Nat.lt_of_le_of_ne hle heq)

/-- A pod that is created is chosen. -/
theorem chosen_of_created (hpods : pods.Perm w.pods)
    (hnone : (splitPods ready (volumePodsOf vmPod pods)).1 = none) {p : Pod}
    (hp : Created vmPod ready w p) :
    Chosen vmPod ready (splitPods ready (volumePodsOf vmPod pods)).2 (w.addPod p).pods (some p) := by
  have hown : p.ownedBy vmPod = true := by
    unfold Pod.ownedBy
    rw [hp.owned]
    simp
  have hold : ∀ q ∈ w.pods, q.ownedBy vmPod = true →
      q ∈ (splitPods ready (volumePodsOf vmPod pods)).2 := by
    intro q hq howned
    have hq := (splitPods_perm ready (volumePodsOf vmPod pods)).mem_iff.mpr
      (mem_volumePodsOf_iff.mpr ⟨hpods.mem_iff.mpr hq, howned⟩)
    rw [hnone] at hq
    simpa using hq
  have hin : ∀ q, q ∈ (w.addPod p).pods → q ∈ w.pods ∨ q = p := by
    intro q hq
    rcases List.mem_append.mp hq with hq | hq
    · exact .inl hq
    · exact .inr (List.mem_singleton.mp hq)
  refine ⟨?_, ?_, ?_, ?_, ?_⟩
  · intro q hq howned
    rcases hin q hq with hq | rfl
    · exact .inr (hold q hq howned)
    · exact .inl rfl
  · intro p' hp'
    cases hp'
    exact ⟨List.mem_append_right _ (List.mem_singleton_self p), hown, hp.live⟩
  · intro p' hp'
    cases hp'
    obtain ⟨x, hx, hvolumes⟩ := hp.volumes
    exact match_of_volumes hx hvolumes
  · intro p' hp' q hq
    cases hp'
    exact hp.fresh q (hpods.mem_iff.mp (mem_volumePodsOf_iff.mp (mem_of_old hq)).1)
  · intro p' hp' q hq howned hmatch
    cases hp'
    rcases hin q hq with hq | rfl
    · -- a pod that matches would have been kept
      rw [splitPods_fst, List.find?_eq_none] at hnone
      have hmem := mem_volumePodsOf_iff.mpr ⟨hpods.mem_iff.mpr hq, howned⟩
      exact absurd hmatch (hnone q hmem)
    · exact .inl rfl

theorem Created.nodup {p : Pod} (hp : Created vmPod ready w p)
    (hnames : (w.pods.map (·.name)).Nodup) : ((w.addPod p).pods.map (·.name)).Nodup := by
  show ((w.pods ++ [p]).map (·.name)).Nodup
  rw [List.map_append, List.nodup_append]
  refine ⟨hnames, List.nodup_singleton _, ?_⟩
  intro name hname other hother heq
  obtain ⟨q, hq, rfl⟩ := List.mem_map.mp hname
  rw [List.map_singleton, List.mem_singleton] at hother
  exact hp.fresh q hq (heq.trans hother)

/-- Every run that goes on chooses a pod, unless no volume is ready, and its
    claims have the names of the ready volumes. -/
theorem Prepares.chosen (hprep : Prepares vmPod ready (volumePodsOf vmPod pods) w w₁)
    (h : Orderly vmPod w) (hperm : pods.Perm w.pods)
    (hclaims : ready = [] → ∀ p ∈ w.pods, p.ownedBy vmPod = true → p.claimNames ≠ []) :
    ∃ cur, Chosen vmPod ready (splitPods ready (volumePodsOf vmPod pods)).2 w₁.pods cur ∧
      (w₁.pods.map (·.name)).Nodup ∧ (cur = none ↔ ready = []) ∧
      ∀ p, cur = some p → p.claimNames.Perm (ready.map (·.name)) := by
  cases hprep with
  | kept hkept =>
    have hchosen : Chosen vmPod ready (splitPods ready (volumePodsOf vmPod pods)).2 w.pods
        (splitPods ready (volumePodsOf vmPod pods)).1 := chosen_of_kept h hperm
    have hnames : ∀ p, (splitPods ready (volumePodsOf vmPod pods)).1 = some p →
        p.claimNames.Perm (ready.map (·.name)) := by
      intro p hp
      obtain ⟨hin, hown, -⟩ := hchosen.mem p hp
      exact claimNames_perm_of_match (h.built p hin hown) (hchosen.hit p hp)
    refine ⟨_, hchosen, h.names, ⟨fun hnone => hkept.resolve_right fun h => h hnone, ?_⟩, hnames⟩
    intro hempty
    cases hcur : (splitPods ready (volumePodsOf vmPod pods)).1 with
    | none => rfl
    | some p =>
      -- a pod with claims does not match the empty list
      obtain ⟨hin, hown, -⟩ := hchosen.mem p hcur
      have hnil := hnames p hcur
      rw [hempty] at hnil
      exact absurd hnil.eq_nil (hclaims hempty p hin hown)
  | created p hne hnone hp =>
    obtain ⟨x, hx, hvolumes⟩ := hp.volumes
    refine ⟨some p, chosen_of_created hperm hnone hp, hp.nodup h.names,
      ⟨fun hnone => (by cases hnone), fun hempty => absurd hempty hne⟩, ?_⟩
    intro p' hp'
    cases hp'
    rw [claimNames_of_volumes hx hvolumes]

end choice

/-! ### Afterwards -/

section after
variable {w₁ w' : World} {vmPod : Pod} {ready : List Volume} {old : List Pod}
  {cur : Option Pod} {f : Pod → Option Pod}

theorem Thins.name (h : Thins old f) {q q' : Pod} (hf : f q = some q') : q'.name = q.name := by
  rcases h.same q q' hf with rfl | ⟨t, rfl⟩ <;> rfl

/-- Deleting pods leaves the names distinct. -/
theorem Thins.nodup (h : Thins old f) {pods : List Pod} (hnames : (pods.map (·.name)).Nodup) :
    ((pods.filterMap f).map (·.name)).Nodup := by
  refine hnames.sublist ?_
  clear hnames
  induction pods with
  | nil => exact List.Sublist.slnil
  | cons q pods ih =>
    cases hq : f q with
    | none =>
      rw [List.filterMap_cons_none hq]
      exact ih.cons _
    | some q' =>
      rw [List.filterMap_cons_some hq, List.map_cons, List.map_cons, h.name hq]
      exact ih.cons_cons _

/-- The chosen pod is the one that is left. -/
theorem Chosen.mem_live (h : Chosen vmPod ready old w₁.pods cur) (hthins : Thins old f)
    (hpods : w'.pods = w₁.pods.filterMap f) (q : Pod) :
    q ∈ liveVolumePods w' vmPod ↔ cur = some q := by
  unfold liveVolumePods
  rw [List.mem_filter, hpods, List.mem_filterMap, Bool.and_eq_true]
  constructor
  · intro hq
    obtain ⟨⟨q₀, hq₀, hf⟩, hown, hlive⟩ := hq
    have hlive := Option.isNone_iff_eq_none.mp hlive
    rcases hthins.same q₀ q hf with rfl | ⟨t, rfl⟩
    · rcases h.split q hq₀ hown with hcur | hold
      · exact hcur
      · exact absurd hlive (hthins.gone q hold q hf)
    · cases hlive
  · intro hcur
    obtain ⟨hmem, hown, hlive⟩ := h.mem q hcur
    exact ⟨⟨q, hmem, hthins.other q (h.other q hcur)⟩, hown, by rw [hlive]; rfl⟩

theorem Chosen.liveVolumePods_eq (h : Chosen vmPod ready old w₁.pods cur) (hthins : Thins old f)
    (hnames : (w₁.pods.map (·.name)).Nodup) (hpods : w'.pods = w₁.pods.filterMap f) :
    liveVolumePods w' vmPod = cur.toList := by
  have hmem := h.mem_live hthins hpods
  have hnodup : (liveVolumePods w' vmPod).Nodup := by
    have hnames' := hthins.nodup hnames
    rw [← hpods] at hnames'
    exact (List.Nodup.of_map _ hnames').sublist List.filter_sublist
  cases cur with
  | none =>
    apply List.eq_nil_iff_forall_not_mem.mpr
    intro q hq
    cases (hmem q).mp hq
  | some p =>
    apply List.perm_singleton.mp
    rw [List.perm_ext_iff_of_nodup hnodup (List.nodup_singleton p)]
    intro q
    rw [hmem q, List.mem_singleton, Option.some.injEq, eq_comm]

/-- The next run finds the chosen pod, and no other that is live. -/
theorem Chosen.again (h : Chosen vmPod ready old w₁.pods cur) (hthins : Thins old f)
    (hnames : (w₁.pods.map (·.name)).Nodup) (hpods : w'.pods = w₁.pods.filterMap f)
    (hcur : cur = none → ready = []) {pods : List Pod} (hperm : pods.Perm w'.pods) :
    (ready = [] ∨ (splitPods ready (volumePodsOf vmPod pods)).1 ≠ none) ∧
      ∀ p ∈ (splitPods ready (volumePodsOf vmPod pods)).2, p.deletionTimestamp ≠ none := by
  have hnames' : (w'.pods.map (·.name)).Nodup := by
    rw [hpods]
    exact hthins.nodup hnames
  have hmem : ∀ q, q ∈ volumePodsOf vmPod pods ↔ q ∈ w'.pods ∧ q.ownedBy vmPod = true := by
    intro q
    rw [mem_volumePodsOf_iff, hperm.mem_iff]
  -- the chosen pod is there and is found first
  have hfirst : ∀ p, cur = some p → (splitPods ready (volumePodsOf vmPod pods)).1 = some p := by
    intro p hp
    have hlive := (h.mem_live hthins hpods p).mpr hp
    obtain ⟨hin, hown⟩ := List.mem_filter.mp hlive
    rw [Bool.and_eq_true] at hown
    have hp' := (hmem p).mpr ⟨hin, hown.1⟩
    rw [splitPods_fst]
    cases hfind : (volumePodsOf vmPod pods).find? (isPodMatchVMHotplugVolumes · ready) with
    | none => exact absurd (h.hit p hp) (List.find?_eq_none.mp hfind p hp')
    | some q =>
      have hle := le_of_find? (sortNewestFirst_sorted _) hfind hp' (h.hit p hp)
      have hmatch : isPodMatchVMHotplugVolumes q ready = true := by
        simpa using List.find?_some hfind
      obtain ⟨hq, hqown⟩ := (hmem q).mp (List.mem_of_find?_eq_some hfind)
      rw [hpods, List.mem_filterMap] at hq
      obtain ⟨q₀, hq₀, hf⟩ := hq
      -- whatever is found was there before the old pods were deleted
      have hsame : q₀ = p ∨ q₀.creationTimestamp < p.creationTimestamp := by
        rcases hthins.same q₀ q hf with rfl | ⟨t, rfl⟩
        · exact h.first p hp q hq₀ hqown hmatch
        · exact h.first p hp q₀ hq₀ hqown hmatch
      have htime : q.creationTimestamp = q₀.creationTimestamp := by
        rcases hthins.same q₀ q hf with rfl | ⟨t, rfl⟩ <;> rfl
      rcases hsame with rfl | hlt
      · rw [hthins.other q₀ (h.other q₀ hp)] at hf
        exact hf.symm
      · omega
  constructor
  · cases hc : cur with
    | none => exact .inl (hcur hc)
    | some p =>
      refine .inr ?_
      rw [hfirst p hc]
      exact Option.some_ne_none p
  · intro q hq hlive
    obtain ⟨hin, hown⟩ := (hmem q).mp (mem_of_old hq)
    have hchosen : cur = some q := by
      apply (h.mem_live hthins hpods q).mp
      refine List.mem_filter.mpr ⟨hin, ?_⟩
      rw [hown, hlive]
      rfl
    exact name_ne_of_old (nodup_volumePodsOf hnames' hperm vmPod) (hfirst q hchosen) hq rfl

end after

/-- **One volume pod for the ready volumes.** The volume pods of the VM pod were
    built for volumes with distinct names, none is on its way out, no two are
    equally old, and the server adds one volume that is not a claim to each. The
    ready volumes have distinct names. If all volumes are waited for, all are
    ready; and if no volume is ready, every volume pod has a claim. Then a run
    without an error leaves exactly one live volume pod, whose claims have the
    names of the ready volumes, or none if no volume is ready; and a second run
    neither creates nor deletes a pod. -/
theorem hotplug_pods_converge {isReady : Volume → Bool} {w w' : World} {vm : VM} {vmPod : Pod}
    {wait : Bool} {ready : List Volume} {l : List (Prog.Entry api)}
    (hready : ready = (getHotplugVolumes vm vmPod).filter isReady)
    (hdistinct : (ready.map (·.name)).Nodup) (horderly : Orderly vmPod w)
    (hwait : wait = true → ready = getHotplugVolumes vm vmPod)
    (hclaims : ready = [] → ∀ p ∈ w.pods, p.ownedBy vmPod = true → p.claimNames ≠ [])
    (hrun : Prog.Exec (World.settled isReady) (handleHotplugVolumes vm vmPod wait) w l none w') :
    (ready ≠ [] → ∃ p, liveVolumePods w' vmPod = [p] ∧
      p.claimNames.Perm (ready.map (·.name)) ∧ p.claimNames.Nodup) ∧
    (ready = [] → liveVolumePods w' vmPod = []) ∧
    ∀ l₂ r w₂, Prog.Exec (World.settled isReady) (handleHotplugVolumes vm vmPod wait) w' l₂ r w₂ →
      PodsKept l₂ := by
  subst hready
  generalize hr : (getHotplugVolumes vm vmPod).filter isReady = ready at hdistinct hwait hclaims ⊢
  obtain ⟨hfirst, -⟩ := handleHotplugVolumes_settled vm vmPod wait l none w' hrun
  rw [hr] at hfirst
  obtain ⟨pods, w₁, f, hperm, hprep, hthins, hpods⟩ := hfirst rfl hwait
  obtain ⟨cur, hchosen, hnames, hcur, hclaimNames⟩ := hprep.chosen horderly hperm hclaims
  have hlive := hchosen.liveVolumePods_eq hthins hnames hpods
  refine ⟨?_, ?_, ?_⟩
  · intro hne
    cases hc : cur with
    | none => exact absurd (hcur.mp hc) hne
    | some p =>
      rw [hc] at hlive
      exact ⟨p, hlive, hclaimNames p hc, (hclaimNames p hc).nodup_iff.mpr hdistinct⟩
  · intro hempty
    rw [hcur.mpr hempty] at hlive
    exact hlive
  · intro l₂ r w₂ hrun₂
    obtain ⟨-, hkeeps⟩ := handleHotplugVolumes_settled vm vmPod wait l₂ r w₂ hrun₂
    rw [hr] at hkeeps
    exact hkeeps fun pods₂ hperm₂ => hchosen.again hthins hnames hpods hcur.mp hperm₂

namespace Sample

/-- Every volume is ready but the one of this name. -/
def allBut (name : String) (v : Volume) : Bool := v.name != name

/-- The VM pod. -/
def host : Pod := { name := "pod-a", uid := "uid-a", bound := PodPhase.empty_unbound }

/-- The sample VM with disks that can be plugged in. -/
def pluggedVM (names : List String) : VM := { Sample.vm with spec := withDisks names }

/-- A cluster with these pods. -/
def clusterOf (pods : List Pod) : World := { vm := none, pods := pods, now := 7 }

/-- One volume pod is orderly if it was built by the controller. -/
theorem orderly_clusterOf {disks : List String}
    (h : BuiltDistinct (diskPod "v" disks)) : Orderly host (clusterOf [diskPod "v" disks]) where
  names := List.nodup_singleton _
  live p hp _ := by
    rw [List.mem_singleton.mp hp]
    rfl
  built p hp _ := by
    rw [List.mem_singleton.mp hp]
    exact h
  times := List.nodup_singleton _
  past p hp _ := by
    rw [List.mem_singleton.mp hp]
    show 0 < 7
    decide

theorem built_a : BuiltDistinct (diskPod "v" ["a"]) :=
  ⟨Sample.vm, host, [disk "a"], [⟨.isBlock (disk "a"), .ok false⟩], _, { name := "token" },
    .call (.pure _), by decide, rfl, rfl⟩

theorem built_nil : BuiltDistinct (diskPod "v" []) :=
  ⟨Sample.vm, host, [], [], _, { name := "token" }, .pure _, by decide, rfl, rfl⟩

end Sample

/-- A second disk is plugged in: the volume pod of the first is replaced by one
    for both. -/
theorem hotplug_pods_converge_sample :
    ∃ l w', Prog.Exec (World.settled fun _ => true)
        (handleHotplugVolumes (Sample.pluggedVM ["a", "b"]) Sample.host false)
        (Sample.clusterOf [Sample.diskPod "v" ["a"]]) l none w' ∧
      (∃ p, liveVolumePods w' Sample.host = [p] ∧ p.claimNames.Perm ["a", "b"]) ∧
      ∀ l₂ r w₂, Prog.Exec (World.settled fun _ => true)
        (handleHotplugVolumes (Sample.pluggedVM ["a", "b"]) Sample.host false) w' l₂ r w₂ →
        PodsKept l₂ := by
  have hrun : ∃ l w', Prog.Exec (World.settled fun _ => true)
      (handleHotplugVolumes (Sample.pluggedVM ["a", "b"]) Sample.host false)
      (Sample.clusterOf [Sample.diskPod "v" ["a"]]) l none w' :=
    ⟨_, _, .call ⟨.flag true, rfl, rfl⟩ (.call ⟨.flag true, rfl, rfl⟩ (.call ⟨.ok, trivial, rfl⟩
      (.call ⟨.flag false, trivial, rfl⟩ (.call ⟨.flag false, trivial, rfl⟩
        (.call ⟨.create "uid-w" "w" [{ name := "token" }] none, ⟨_, rfl, rfl⟩, rfl⟩
          (.call ⟨.ok, trivial, rfl⟩ (.pure _ _)))))))⟩
  obtain ⟨l, w', hrun⟩ := hrun
  have hready : [Sample.disk "a", Sample.disk "b"] =
      (getHotplugVolumes (Sample.pluggedVM ["a", "b"]) Sample.host).filter fun _ => true := by decide
  obtain ⟨hone, -, hkeeps⟩ := hotplug_pods_converge hready (by decide)
    (Sample.orderly_clusterOf Sample.built_a) (fun h => (by cases h)) (fun h => (by cases h)) hrun
  obtain ⟨p, hp, hnames, -⟩ := hone (by decide)
  exact ⟨l, w', hrun, ⟨p, hp, hnames⟩, hkeeps⟩

/-- **Runs that leave the pods alone.** A run that waits for disk `b` ends
    without an error and without a volume pod for disk `a`, which is ready. A
    volume pod that was built for no volumes is kept although no volume is
    ready. -/
theorem hotplug_pods_left_alone :
    (Orderly Sample.host (Sample.clusterOf []) ∧
      (getHotplugVolumes (Sample.pluggedVM ["a", "b"]) Sample.host).filter (Sample.allBut "b") =
        [Sample.disk "a"] ∧
      ∃ l w', Prog.Exec (World.settled (Sample.allBut "b"))
          (handleHotplugVolumes (Sample.pluggedVM ["a", "b"]) Sample.host true)
          (Sample.clusterOf []) l none w' ∧ liveVolumePods w' Sample.host = []) ∧
    Orderly Sample.host (Sample.clusterOf [Sample.diskPod "v" []]) ∧
      (getHotplugVolumes (Sample.pluggedVM []) Sample.host).filter (fun _ => true) = [] ∧
      ∃ l w', Prog.Exec (World.settled fun _ => true)
          (handleHotplugVolumes (Sample.pluggedVM []) Sample.host false)
          (Sample.clusterOf [Sample.diskPod "v" []]) l none w' ∧
        liveVolumePods w' Sample.host = [Sample.diskPod "v" []] := by
  refine ⟨⟨?_, by decide, ?_⟩, Sample.orderly_clusterOf Sample.built_nil, by decide, ?_⟩
  · exact ⟨List.nodup_nil, fun p hp => (by cases hp), fun p hp => (by cases hp), List.nodup_nil,
      fun p hp => (by cases hp)⟩
  · exact ⟨_, _, .call ⟨.flag true, rfl, rfl⟩ (.call ⟨.flag false, rfl, rfl⟩ (.pure _ _)), rfl⟩
  · exact ⟨_, _, .call ⟨.ok, trivial, rfl⟩ (.pure _ _), rfl⟩

end Virtink
