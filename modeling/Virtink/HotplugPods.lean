import Mathlib.Data.List.Perm.Basic
import Virtink.Cluster.Run
import Virtink.System

/-! # The Volume Pod That Is Kept

    `handleHotplugVolumes` takes the newest volume pod that matches the ready
    volumes as the current one and deletes all others. It does not look
    whether the pod it keeps is itself on its way out, and it compares names
    only. `keepsReady` says exactly when every ready volume is in a live
    volume pod afterwards.
-/

namespace Virtink

open Calls

/-! ### Volumes and Pods -/

/-- The volumes that were found ready in the course of the calls `l`. -/
def foundReady (l : List (Prog.Entry api)) : List Volume :=
  l.filterMap fun e =>
    match e with
    | ⟨.isReady v, .ok true⟩ => some v
    | _ => none

/-- The pods that were listed in the course of the calls `l`. -/
def listedPods (l : List (Prog.Entry api)) : Option (List Pod) :=
  l.findSome? fun e =>
    match e with
    | ⟨.listPods, .ok pods⟩ => some pods
    | _ => none

@[simp] theorem foundReady_append (l l' : List (Prog.Entry api)) :
    foundReady (l ++ l') = foundReady l ++ foundReady l' := List.filterMap_append ..

@[simp] theorem listedPods_append (l l' : List (Prog.Entry api)) :
    listedPods (l ++ l') = (listedPods l <|> listedPods l') := by
  simp [listedPods]

/-- The pod has the claim of the volume under the name of the volume. -/
def Pod.holds (p : Pod) (v : Volume) : Bool :=
  p.volumes.contains { name := v.name, claim := some v.pvcName }

/-- A live volume pod of the VM pod holds the volume. -/
def Attached (w : World) (vmPod : Pod) (v : Volume) : Prop :=
  ∃ p ∈ w.pods, p.deletionTimestamp = none ∧ p.controller.any (·.uid == vmPod.uid) = true ∧
    p.holds v = true

/-- The newest pod that matches the ready volumes, if there is one, is live and
    holds all of them. -/
def keepsReady (ready : List Volume) (pods : List Pod) : Bool :=
  ready.isEmpty ||
    match pods.find? (isPodMatchVMHotplugVolumes · ready) with
    | none => true
    | some p => p.deletionTimestamp.isNone && ready.all p.holds

section
variable {w : World}

/-- Calls that tell neither that a volume is ready nor which pods there are. -/
structure Blind (l : List (Prog.Entry api)) : Prop where
  ready : foundReady l = []
  pods : listedPods l = none

theorem Blind.nil : Blind [] := ⟨rfl, rfl⟩

theorem Blind.append {l l' : List (Prog.Entry api)} (h : Blind l) (h' : Blind l') :
    Blind (l ++ l') :=
  ⟨by rw [foundReady_append, h.ready, h'.ready, List.nil_append],
    by rw [listedPods_append, h.pods, h'.pods]; rfl⟩

/-- Asking for a flag leaves the world alone. -/
theorem eq_of_askFlag {ch : Choice} {a : Except String Bool} {w' : World}
    (h : ch.askFlag.map (·, w) = some (a, w')) : w' = w := by
  obtain ⟨b, -, hb⟩ := Option.map_eq_some_iff.mp h
  exact (congrArg Prod.snd hb).symm

theorem readyVolumes_must (volumes : List Volume) :
    w.must (readyVolumes volumes) (fun l r w' =>
      w' = w ∧ listedPods l = none ∧ ∀ ready, r = .ok ready → foundReady l = ready) := by
  induction volumes with
  | nil => exact .pure ⟨rfl, rfl, fun ready h => by cases h; rfl⟩
  | cons volume rest ih =>
    refine must_ask fun ch a w₁ hans => ?_
    obtain rfl := eq_of_askFlag hans
    match a with
    | .error e => exact .pure ⟨rfl, rfl, nofun⟩
    | .ok ready =>
      refine .bind (ih.mono ?_)
      rintro l r w₂ ⟨rfl, hpods, hready⟩
      match r with
      | .error e =>
        refine .pure ⟨rfl, ?_, nofun⟩
        rw [List.append_nil]; exact hpods
      | .ok found =>
        refine .pure ⟨rfl, ?_, fun ready' h => ?_⟩
        · rw [List.append_nil]; exact hpods
        · cases h
          rw [List.append_nil]
          cases ready with
          | true => exact congrArg (volume :: ·) (hready found rfl)
          | false => exact hready found rfl

/-- The volume pod is controlled by the VM pod and has the claims of all the
    volumes it is built for. -/
theorem buildHotplugVolumePod_must (vm : VM) (vmPod : Pod) (volumes : List Volume) :
    w.must (buildHotplugVolumePod vm vmPod volumes) (fun l r w' => w' = w ∧ Blind l ∧
      ∀ t, r = .ok t → t.controller = some ⟨.pod, vmPod.uid⟩ ∧
        ∀ v ∈ volumes, { name := v.name, claim := some v.pvcName } ∈ t.volumes) := by
  have hasks : (buildHotplugVolumePod vm vmPod volumes).Only fun o : Op => ∃ v, o = .isBlock v :=
    buildHotplugVolumePod_asks (fun v => ⟨v, rfl⟩) vm vmPod volumes
  intro l r w' hexec
  refine ⟨?_, ⟨?_, ?_⟩, fun t ht => ?_⟩
  · refine hexec.unchanged hasks ?_
    rintro _ w a w' ⟨v, rfl⟩ ⟨ch, hans⟩
    exact eq_of_askFlag hans
  · refine List.filterMap_eq_nil_iff.mpr fun e he => ?_
    obtain ⟨v, hv⟩ := hasks.path hexec.path e he
    obtain ⟨o, a⟩ := e
    cases hv
    rfl
  · refine List.findSome?_eq_none_iff.mpr fun e he => ?_
    obtain ⟨v, hv⟩ := hasks.path hexec.path e he
    obtain ⟨o, a⟩ := e
    cases hv
    rfl
  · subst ht
    obtain ⟨hown, hvolumes⟩ := buildHotplugVolumePod_volumes hexec.path
    refine ⟨hown, fun v hv => ?_⟩
    rw [hvolumes]
    exact List.mem_cons_of_mem _ (List.mem_map_of_mem hv)

/-! ### Choosing and Deleting -/

theorem insertNewest_perm (p : Pod) (l : List Pod) : (insertNewest p l).Perm (p :: l) := by
  induction l with
  | nil => exact .refl _
  | cons q l ih =>
    unfold insertNewest
    split
    · exact .refl _
    · exact (ih.cons q).trans (.swap p q l)

theorem sortNewestFirst_perm (pods : List Pod) : (sortNewestFirst pods).Perm pods := by
  -- the pods sorted so far and those still to come are all the pods
  have hfold : ∀ sorted : List Pod,
      (pods.foldl (fun sorted p => insertNewest p sorted) sorted).Perm (pods ++ sorted) := by
    induction pods with
    | nil => exact fun sorted => .refl sorted
    | cons p pods ih =>
      intro sorted
      have hnext := ih (insertNewest p sorted)
      have hins := (insertNewest_perm p sorted).append_left pods
      exact (hnext.trans hins).trans List.perm_middle
  simpa [sortNewestFirst] using hfold []

/-- The current pod and the old ones are all the volume pods. -/
theorem splitPods_perm (ready : List Volume) (pods : List Pod) :
    ((splitPods ready pods).1.toList ++ (splitPods ready pods).2).Perm pods := by
  induction pods with
  | nil => exact .refl _
  | cons p pods ih =>
    unfold splitPods
    split
    · exact .refl _
    · exact List.perm_middle.trans (ih.cons p)

theorem splitPods_fst (ready : List Volume) (pods : List Pod) :
    (splitPods ready pods).1 = pods.find? (isPodMatchVMHotplugVolumes · ready) := by
  induction pods with
  | nil => rfl
  | cons p pods ih =>
    unfold splitPods
    split
    · next hmatch => simp [hmatch]
    · next hmatch => simpa [hmatch] using ih

/-- What is left once the old pods were deleted: no live one of them, and every
    pod with another name. -/
structure Cleared (old : List Pod) (w w' : World) : Prop where
  live : ∀ q ∈ w'.pods, q.deletionTimestamp = none →
    q ∈ w.pods ∧ ∀ p ∈ old, p.deletionTimestamp = none → p.name ≠ q.name
  rest : ∀ q ∈ w.pods, (∀ p ∈ old, p.name ≠ q.name) → q ∈ w'.pods

theorem Cleared.refl (w : World) : Cleared [] w w :=
  ⟨fun q hq _ => ⟨hq, by simp⟩, fun q hq _ => hq⟩

theorem Cleared.cons {p : Pod} {old : List Pod} {w₁ w' : World} (h : Cleared [p] w w₁)
    (hrest : Cleared old w₁ w') : Cleared (p :: old) w w' where
  live q hq hlive := by
    obtain ⟨hq₁, hold⟩ := hrest.live q hq hlive
    obtain ⟨hq₀, hp⟩ := h.live q hq₁ hlive
    refine ⟨hq₀, fun p' hp' => ?_⟩
    rcases List.mem_cons.mp hp' with rfl | hp'
    · exact hp p' List.mem_cons_self
    · exact hold p' hp'
  rest q hq hne := by
    have hq₁ := h.rest q hq (by simpa using hne p List.mem_cons_self)
    exact hrest.rest q hq₁ fun p' hp' => hne p' (List.mem_cons_of_mem p hp')

/-- A pod that is on its way out can be passed over. -/
theorem Cleared.skip {p : Pod} {old : List Pod} {w' : World} (hp : p.deletionTimestamp ≠ none)
    (h : Cleared old w w') : Cleared (p :: old) w w' where
  live q hq hlive := by
    obtain ⟨hq₀, hold⟩ := h.live q hq hlive
    refine ⟨hq₀, fun p' hp' hlive' => ?_⟩
    rcases List.mem_cons.mp hp' with rfl | hp'
    · exact absurd hlive' hp
    · exact hold p' hp' hlive'
  rest q hq hne := h.rest q hq fun p' hp' => hne p' (List.mem_cons_of_mem p hp')

theorem cleared_removePod (w : World) (p : Pod) : Cleared [p] w (w.removePod p.name) where
  live q hq _ := by
    obtain ⟨hq, hne⟩ := List.mem_filter.mp hq
    refine ⟨hq, fun p' hp' _ => ?_⟩
    rw [List.mem_singleton.mp hp']
    intro heq
    simp [heq] at hne
  rest q hq hne := by
    have hne := hne p (List.mem_singleton_self p)
    exact List.mem_filter.mpr ⟨hq, by simpa using fun heq => hne heq.symm⟩

theorem cleared_markedAt (w : World) (p : Pod) :
    Cleared [p] w (w.mapPods (World.markedAt w.now p.name)) where
  live q hq hlive := by
    obtain ⟨q₀, hq₀, rfl⟩ := List.mem_map.mp hq
    -- a live pod has not been marked, so it is another one
    unfold World.markedAt at hlive ⊢
    split at hlive
    · cases hlive
    · next hother =>
      rw [if_neg hother]
      refine ⟨hq₀, fun p' hp' _ heq => hother ?_⟩
      rw [List.mem_singleton.mp hp'] at heq
      exact ⟨heq.symm, hlive⟩
  rest q hq hne := by
    have hne := hne p (List.mem_singleton_self p)
    refine List.mem_map.mpr ⟨q, hq, ?_⟩
    unfold World.markedAt
    rw [if_neg fun h => hne h.1.symm]

/-- A pod that is deleted goes or is marked. -/
theorem deletePod_cleared {p : Pod} {ch : Choice} {w' : World}
    (h : World.answer .controller (.deletePod p.name .outdated) ch w = some (.ok (), w')) :
    Cleared [p] w w' := by
  have h : w.deletePod p.name ch = (.ok (), w') := Option.some.inj h
  unfold World.deletePod at h
  split at h
  · cases h
  · split at h
    · cases h
    · cases h
    · cases h; exact cleared_removePod w p
    · cases h; exact cleared_markedAt w p

theorem deleteOldPods_must (old : List Pod) :
    w.must (deleteOldPods old) (fun l r w' => Blind l ∧ (r = none → Cleared old w w')) := by
  induction old generalizing w with
  | nil => exact .pure ⟨.nil, fun _ => .refl w⟩
  | cons p rest ih =>
    unfold deleteOldPods
    split
    · next hgone =>
      refine ih.mono fun l r w' h => ⟨h.1, fun hr => .skip ?_ (h.2 hr)⟩
      exact Option.isSome_iff_ne_none.mp hgone
    · refine must_ask fun ch a w₁ hans => ?_
      cases a with
      | error e => exact .pure ⟨⟨rfl, rfl⟩, fun h => by cases h⟩
      | ok _ =>
        refine ih.mono fun l r w' h => ⟨⟨h.1.ready, h.1.pods⟩, fun hr => ?_⟩
        exact .cons (deletePod_cleared hans) (h.2 hr)

/-! ### The Whole Function -/

/-- The world before the old pods are deleted: if no volume pod matches, a new
    one that holds the ready volumes was added. -/
inductive Prepared (vmPod : Pod) (ready : List Volume) (pods : List Pod) (w : World) :
    World → Prop where
  | kept (h : ready = [] ∨ ∃ p, (splitPods ready pods).1 = some p) : Prepared vmPod ready pods w w
  | created (p : Pod) (hnone : (splitPods ready pods).1 = none) (hlive : p.deletionTimestamp = none)
      (hown : p.controller = some ⟨.pod, vmPod.uid⟩) (hholds : ∀ v ∈ ready, p.holds v = true)
      (hname : w.findPod p.name = none) : Prepared vmPod ready pods w (w.addPod p)

theorem createPod_prepared {vmPod : Pod} {ready : List Volume} {pods : List Pod} {t : PodTemplate}
    {ch : Choice} {w' : World} (hnone : (splitPods ready pods).1 = none)
    (hown : t.controller = some ⟨.pod, vmPod.uid⟩)
    (hmem : ∀ v ∈ ready, { name := v.name, claim := some v.pvcName } ∈ t.volumes)
    (h : World.answer .controller (.createPod t) ch w = some (.ok (), w')) :
    Prepared vmPod ready pods w w' := by
  have h : w.createPod t ch = some (.ok (), w') := h
  unfold World.createPod at h
  split at h
  · cases h
  · dsimp only at h
    split at h
    · cases h
    · split at h
      · cases h
      · next hfree =>
        split at h
        · cases h
        · cases h
          refine .created _ hnone rfl hown (fun v hv => ?_) ?_
          · simp [Pod.holds, World.podOf, hmem v hv]
          · simpa using hfree
  · cases h

theorem handleHotplugVolumes_must (vm : VM) (vmPod : Pod) (wait : Bool) :
    w.must (handleHotplugVolumes vm vmPod wait) (fun l r w' =>
      r = none → ∀ pods, listedPods l = some pods → ∃ w₁,
        Prepared vmPod (foundReady l) (volumePodsOf vmPod pods) w w₁ ∧
        Cleared (splitPods (foundReady l) (volumePodsOf vmPod pods)).2 w₁ w') := by
  refine .bind ((readyVolumes_must _).mono ?_)
  rintro l₁ r w₁ ⟨rfl, hl₁, hready⟩
  match r with
  | .error e => exact .pure nofun
  | .ok ready =>
    have hready := hready ready rfl
    dsimp only
    split
    · refine .pure fun _ pods hpods => ?_
      rw [List.append_nil, hl₁] at hpods
      cases hpods
    · refine .bind (must_ask fun ch a w₂ hans => ?_)
      obtain ⟨b, -, hb⟩ := Option.map_eq_some_iff.mp hans
      obtain rfl : b = a := congrArg Prod.fst hb
      obtain rfl : w₁ = w₂ := congrArg Prod.snd hb
      match b with
      | .error e => exact .pure (.pure nofun)
      | .ok pods =>
        -- from here on no call tells of volumes or pods
        have hdone : ∀ {l : List (Prog.Entry api)}, Blind l →
            foundReady (l₁ ++ ([⟨.listPods, .ok pods⟩] ++ l)) = ready ∧
            listedPods (l₁ ++ ([⟨.listPods, .ok pods⟩] ++ l)) = some pods := by
          intro l hl
          refine ⟨?_, ?_⟩
          · rw [foundReady_append, foundReady_append, hl.ready, hready]
            exact List.append_nil ready
          · rw [listedPods_append, hl₁]; rfl
        have hend : ∀ {w₂ w' : World} {l : List (Prog.Entry api)}, Blind l →
            Prepared vmPod ready (volumePodsOf vmPod pods) w₁ w₂ →
            Cleared (splitPods ready (volumePodsOf vmPod pods)).2 w₂ w' →
            ∀ pods', listedPods (l₁ ++ ([⟨.listPods, .ok pods⟩] ++ l)) = some pods' →
            ∃ w₂, Prepared vmPod (foundReady (l₁ ++ ([⟨.listPods, .ok pods⟩] ++ l)))
                (volumePodsOf vmPod pods') w₁ w₂ ∧
              Cleared (splitPods (foundReady (l₁ ++ ([⟨.listPods, .ok pods⟩] ++ l)))
                (volumePodsOf vmPod pods')).2 w₂ w' := by
          intro w₂ w' l hl hprep hclear pods' hpods'
          rw [(hdone hl).2] at hpods'
          cases hpods'
          rw [(hdone hl).1]
          exact ⟨w₂, hprep, hclear⟩
        refine .pure ?_
        dsimp only
        split
        · next hcreate =>
          refine .bind ((buildHotplugVolumePod_must vm vmPod ready).mono ?_)
          rintro l₂ r w₂ ⟨rfl, hl₂, hres⟩
          match r with
          | .error e => exact .pure nofun
          | .ok t =>
            obtain ⟨hown, hmem⟩ := hres t rfl
            refine must_ask fun ch a w₃ hans => ?_
            match a with
            | .error e => exact .pure nofun
            | .ok () =>
              have hnone := Option.isNone_iff_eq_none.mp hcreate.1
              refine (deleteOldPods_must _).mono fun l r w' h hr => ?_
              have hblind : Blind (⟨.createPod t, .ok ()⟩ :: l) := ⟨h.1.ready, h.1.pods⟩
              exact hend (hl₂.append hblind) (createPod_prepared hnone hown hmem hans) (h.2 hr)
        · next hkeep =>
          refine (deleteOldPods_must _).mono fun l r w' h hr => ?_
          refine hend h.1 (.kept ?_) (h.2 hr)
          cases hcur : (splitPods ready (volumePodsOf vmPod pods)).1 with
          | some p => exact .inr ⟨p, rfl⟩
          | none => simpa [hcur] using hkeep

/-! ### A Run for Given Answers -/

/-- The volumes are found ready as wanted. -/
theorem readyVolumes_may {ready volumes : List Volume} (h : ready.Sublist volumes) :
    w.may (readyVolumes volumes) (fun _ r w' => r = .ok ready ∧ w' = w) := by
  induction h with
  | slnil => exact .pure ⟨rfl, rfl⟩
  | cons volume h ih =>
    refine may_ask (.flag false) rfl (.bind (ih.mono ?_))
    rintro l r w' ⟨rfl, rfl⟩
    exact .pure ⟨rfl, rfl⟩
  | cons_cons volume h ih =>
    refine may_ask (.flag true) rfl (.bind (ih.mono ?_))
    rintro l r w' ⟨rfl, rfl⟩
    exact .pure ⟨rfl, rfl⟩

theorem markedAt_name (now : Nat) (name : String) (p : Pod) :
    (World.markedAt now name p).name = p.name := by
  unfold World.markedAt
  split <;> rfl

theorem deleteOldPods_may (old : List Pod) (h : ∀ p ∈ old, ∃ q ∈ w.pods, q.name = p.name) :
    w.may (deleteOldPods old) (fun _ r _ => r = none) := by
  induction old generalizing w with
  | nil => exact .pure rfl
  | cons p rest ih =>
    unfold deleteOldPods
    split
    · exact ih fun q hq => h q (List.mem_cons_of_mem p hq)
    · obtain ⟨q, hq, hname⟩ := h p List.mem_cons_self
      have hfind : (w.findPod p.name).isSome = true :=
        List.find?_isSome.mpr ⟨q, hq, by simpa using hname⟩
      obtain ⟨q', hq'⟩ := Option.isSome_iff_exists.mp hfind
      have hans : World.answer .controller (.deletePod p.name .outdated) .ok w =
          some (.ok (), w.mapPods (World.markedAt w.now p.name)) := by
        simp only [World.answer, World.deletePod, hq']
        rfl
      refine may_ask .ok hans (ih fun p' hp' => ?_)
      -- marking a pod leaves all names as they are
      obtain ⟨q, hq, hname⟩ := h p' (List.mem_cons_of_mem p hp')
      exact ⟨_, List.mem_map_of_mem hq, (markedAt_name ..).trans hname⟩

/-- The volume pods of the VM pod among the listed pods. -/
theorem mem_volumePodsOf {vmPod q : Pod} {pods : List Pod} :
    q ∈ volumePodsOf vmPod pods ↔ q ∈ pods ∧ q.controller.any (·.uid == vmPod.uid) = true := by
  unfold volumePodsOf
  rw [(sortNewestFirst_perm _).mem_iff, List.mem_filter]

theorem mem_of_old {ready : List Volume} {pods : List Pod} {q : Pod}
    (hq : q ∈ (splitPods ready pods).2) : q ∈ pods :=
  (splitPods_perm ready pods).mem_iff.mp (List.mem_append_right _ hq)

/-- With a matching pod there, the pods are listed as wanted and no pod is
    created. -/
theorem handleHotplugVolumes_may {vm : VM} {vmPod : Pod} {wait : Bool} {ready : List Volume}
    {pods : List Pod} (hready : ready.Sublist (getHotplugVolumes vm vmPod))
    (hwait : wait = true → ready = getHotplugVolumes vm vmPod) (hpods : pods.Perm w.pods)
    {p : Pod} (hcur : (splitPods ready (volumePodsOf vmPod pods)).1 = some p) :
    w.may (handleHotplugVolumes vm vmPod wait) (fun l r _ =>
      r = none ∧ foundReady l = ready ∧ listedPods l = some pods) := by
  have hnowait : ¬ (wait = true ∧ ready.length < (getHotplugVolumes vm vmPod).length) := by
    rintro ⟨hw, hlt⟩
    rw [hwait hw] at hlt
    exact Nat.lt_irrefl _ hlt
  have hold : ∀ q ∈ (splitPods ready (volumePodsOf vmPod pods)).2, ∃ q' ∈ w.pods, q'.name = q.name :=
    fun q hq => ⟨q, hpods.mem_iff.mp (mem_volumePodsOf.mp (mem_of_old hq)).1, rfl⟩
  have hans : World.answer .controller .listPods (.pods pods) w = some (.ok pods, w) := by
    have hperm : pods.isPerm w.pods = true := List.isPerm_iff.mpr hpods
    simp only [World.answer, Choice.askPods, hperm, if_true]
    rfl
  refine .bind (((readyVolumes_may hready).and (readyVolumes_must _)).mono ?_)
  rintro l₁ r w₁ ⟨⟨rfl, rfl⟩, -, hl₁, hfound⟩
  dsimp only
  rw [if_neg hnowait]
  refine .bind (may_ask _ hans (.pure ?_))
  dsimp only
  rw [hcur, if_neg (by simp)]
  refine ((deleteOldPods_may _ hold).and (deleteOldPods_must _)).mono ?_
  rintro l₂ r w₂ ⟨rfl, hblind, -⟩
  refine ⟨rfl, ?_, ?_⟩
  · rw [foundReady_append, foundReady_append, hblind.ready, hfound ready rfl]
    exact List.append_nil ready
  · rw [listedPods_append, hl₁]; rfl

end

/-! ### Ready Volumes -/

section
variable {w : World} {vm : VM} {vmPod : Pod} {ready : List Volume} {pods : List Pod}

theorem keepsReady_iff : keepsReady ready pods = true ↔
    ready = [] ∨ ∀ p, (splitPods ready pods).1 = some p →
      p.deletionTimestamp = none ∧ ∀ v ∈ ready, p.holds v = true := by
  unfold keepsReady
  rw [splitPods_fst, Bool.or_eq_true, List.isEmpty_iff]
  cases hcur : pods.find? (isPodMatchVMHotplugVolumes · ready) with
  | none => simp
  | some p => simp [List.all_eq_true]

/-- The pod that is kept has another name than those that are deleted. -/
theorem name_ne_of_old (hnames : (pods.map (·.name)).Nodup) {p q : Pod}
    (hcur : (splitPods ready pods).1 = some p) (hq : q ∈ (splitPods ready pods).2) :
    q.name ≠ p.name := by
  have hperm := (splitPods_perm ready pods).map (·.name)
  rw [hcur] at hperm
  have hnodup := hperm.nodup_iff.mpr hnames
  simp only [Option.toList_some, List.singleton_append, List.map_cons, List.nodup_cons] at hnodup
  intro heq
  exact hnodup.1 (List.mem_map.mpr ⟨q, hq, heq⟩)

theorem nodup_volumePodsOf {all : List Pod} (hnames : (all.map (·.name)).Nodup)
    (hpods : pods.Perm all) (vmPod : Pod) : ((volumePodsOf vmPod pods).map (·.name)).Nodup := by
  unfold volumePodsOf
  rw [((sortNewestFirst_perm _).map _).nodup_iff]
  exact ((hpods.map _).nodup_iff.mpr hnames).sublist (List.filter_sublist.map _)

/-- Where the pod that is kept is live and holds the ready volumes, they stay
    attached. -/
theorem attached_of_keepsReady (hnames : (w.pods.map (·.name)).Nodup) (hpods : pods.Perm w.pods)
    (hkeeps : keepsReady ready (volumePodsOf vmPod pods) = true) {w₁ w' : World}
    (hprep : Prepared vmPod ready (volumePodsOf vmPod pods) w w₁)
    (hclear : Cleared (splitPods ready (volumePodsOf vmPod pods)).2 w₁ w')
    {v : Volume} (hv : v ∈ ready) : Attached w' vmPod v := by
  have hne : ready ≠ [] := List.ne_nil_of_mem hv
  have hnames' := nodup_volumePodsOf hnames hpods vmPod
  cases hprep with
  | kept h =>
    obtain ⟨p, hcur⟩ := h.resolve_left hne
    obtain ⟨hlive, hholds⟩ := (keepsReady_iff.mp hkeeps).resolve_left hne p hcur
    have hmem : p ∈ volumePodsOf vmPod pods := by
      rw [splitPods_fst] at hcur
      exact List.mem_of_find?_eq_some hcur
    obtain ⟨hp, hown⟩ := mem_volumePodsOf.mp hmem
    have hkept := hclear.rest p (hpods.mem_iff.mp hp) fun q hq => name_ne_of_old hnames' hcur hq
    exact ⟨p, hkept, hlive, hown, hholds v hv⟩
  | created p hnone hlive hown hholds hname =>
    have hkept : p ∈ w'.pods := by
      refine hclear.rest p (List.mem_append_right _ (List.mem_singleton_self p)) fun q hq heq => ?_
      -- an old pod was there before, so the name of the new one was taken
      have hq := hpods.mem_iff.mp (mem_volumePodsOf.mp (mem_of_old hq)).1
      have hfree := List.find?_eq_none.mp hname q hq
      simp [heq] at hfree
    exact ⟨p, hkept, hlive, by simp [hown], hholds v hv⟩

/-- Where it is not, some volume is lost. -/
theorem lost_of_not_keepsReady (hpods : pods.Perm w.pods) {p : Pod}
    (hcur : (splitPods ready (volumePodsOf vmPod pods)).1 = some p)
    (hkeeps : keepsReady ready (volumePodsOf vmPod pods) = false) {w' : World}
    (hclear : Cleared (splitPods ready (volumePodsOf vmPod pods)).2 w w') :
    ∃ v ∈ ready, ¬ Attached w' vmPod v := by
  -- the only live volume pod that can be left is the one that is kept
  have honly : ∀ q ∈ w'.pods, q.deletionTimestamp = none →
      q.controller.any (·.uid == vmPod.uid) = true → q = p := by
    intro q hq hlive hown
    obtain ⟨hq, hold⟩ := hclear.live q hq hlive
    have hmem := mem_volumePodsOf.mpr ⟨hpods.mem_iff.mpr hq, hown⟩
    have hsplit := (splitPods_perm ready (volumePodsOf vmPod pods)).mem_iff.mpr hmem
    rw [hcur] at hsplit
    rcases List.mem_append.mp hsplit with h | h
    · simpa using h
    · exact absurd rfl (hold q h hlive)
  have hne : ready ≠ [] := by
    rintro rfl
    simp [keepsReady] at hkeeps
  obtain ⟨v₀, hv₀⟩ := List.exists_mem_of_ne_nil ready hne
  by_cases hlive : p.deletionTimestamp = none
  · have hmiss : ∃ v ∈ ready, p.holds v = false := by
      refine Decidable.not_not.mp fun hall => ?_
      have hkeeps' : keepsReady ready (volumePodsOf vmPod pods) = true := by
        refine keepsReady_iff.mpr (.inr fun p' hp' => ?_)
        obtain rfl : p = p' := Option.some.inj (hcur.symm.trans hp')
        refine ⟨hlive, fun v hv => ?_⟩
        cases hh : p.holds v with
        | true => rfl
        | false => exact absurd ⟨v, hv, hh⟩ hall
      rw [hkeeps] at hkeeps'
      cases hkeeps'
    obtain ⟨v, hv, hmiss⟩ := hmiss
    refine ⟨v, hv, ?_⟩
    rintro ⟨q, hq, hlive, hown, hholds⟩
    rw [honly q hq hlive hown, hmiss] at hholds
    cases hholds
  · refine ⟨v₀, hv₀, ?_⟩
    rintro ⟨q, hq, hlive', hown, -⟩
    rw [honly q hq hlive' hown] at hlive'
    exact hlive hlive'

/-- There is a run in which it is lost. -/
theorem volume_lost (wait : Bool) (hready : ready.Sublist (getHotplugVolumes vm vmPod))
    (hwait : wait = true → ready = getHotplugVolumes vm vmPod) (hpods : pods.Perm w.pods)
    (hkeeps : keepsReady ready (volumePodsOf vmPod pods) = false) :
    ∃ l w', Prog.Exec (World.alone .controller) (handleHotplugVolumes vm vmPod wait) w l none w' ∧
      foundReady l = ready ∧ listedPods l = some pods ∧ ∃ v ∈ ready, ¬ Attached w' vmPod v := by
  obtain ⟨p, hcur⟩ : ∃ p, (splitPods ready (volumePodsOf vmPod pods)).1 = some p := by
    rw [splitPods_fst]
    cases hcur : (volumePodsOf vmPod pods).find? (isPodMatchVMHotplugVolumes · ready) with
    | none => simp [keepsReady, hcur] at hkeeps
    | some p => exact ⟨p, rfl⟩
  obtain ⟨l, r, w', hexec, rfl, hfound, hlisted⟩ :=
    handleHotplugVolumes_may hready hwait hpods hcur
  obtain ⟨w₁, hprep, hclear⟩ := handleHotplugVolumes_must vm vmPod wait l none w' hexec rfl pods
    hlisted
  rw [hfound] at hprep hclear
  refine ⟨l, w', hexec, hfound, hlisted, ?_⟩
  cases hprep with
  | created _ hnone _ _ _ _ => rw [hcur] at hnone; cases hnone
  | kept _ => exact lost_of_not_keepsReady hpods hcur hkeeps hclear

end

/-- **When ready volumes stay attached.** The pods of the namespace have
    distinct names, `ready` are the hotplug volumes that are found ready (all
    of them, if all are waited for), and `pods` is the order in which the pods
    are listed. Then every run that returns nil leaves each ready volume in a
    live volume pod exactly if the newest matching pod, if there is one, is
    live and holds the ready volumes. -/
theorem ready_volumes_stay_attached (w : World) (hnames : (w.pods.map (·.name)).Nodup)
    (vm : VM) (vmPod : Pod) (wait : Bool) (ready : List Volume) (pods : List Pod)
    (hready : ready.Sublist (getHotplugVolumes vm vmPod))
    (hwait : wait = true → ready = getHotplugVolumes vm vmPod) (hpods : pods.Perm w.pods) :
    (∀ l w', Prog.Exec (World.alone .controller) (handleHotplugVolumes vm vmPod wait) w l none w' →
      foundReady l = ready → listedPods l = some pods → ∀ v ∈ ready, Attached w' vmPod v) ↔
    keepsReady ready (volumePodsOf vmPod pods) = true := by
  constructor
  · intro h
    cases hkeeps : keepsReady ready (volumePodsOf vmPod pods) with
    | true => rfl
    | false =>
      obtain ⟨l, w', hexec, hfound, hlisted, v, hv, hlost⟩ :=
        volume_lost wait hready hwait hpods hkeeps
      exact absurd (h l w' hexec hfound hlisted v hv) hlost
  · intro hkeeps l w' hexec hfound hlisted v hv
    obtain ⟨w₁, hprep, hclear⟩ := handleHotplugVolumes_must vm vmPod wait l none w' hexec rfl pods
      hlisted
    rw [hfound] at hprep hclear
    exact attached_of_keepsReady hnames hpods hkeeps hprep hclear hv

namespace Sample

/-- A volume that can be plugged in while the VM runs. -/
def disk (name : String) : Volume :=
  { name := name, persistentVolumeClaim := some { hotpluggable := true, claimName := name } }

/-- The sample VM with the given disks. -/
def withDisks (names : List String) : VMSpec :=
  { runPolicy := .always, volumes := names.map disk }

/-- A volume pod of the pod `uid-a`, as the server stores it. -/
def diskPod (name : String) (disks : List String) : Pod :=
  { name := name, uid := name, controller := some ⟨.pod, "uid-a"⟩
    volumes := { name := "hotplug" } ::
      disks.map (fun d => { name := d, claim := some d }) ++ [{ name := "token" }]
    bound := PodPhase.empty_unbound }

end Sample

/-- One disk, and a live volume pod that holds it. -/
theorem ready_volumes_stay_attached_sample :
    let w : World := { vm := none, pods := [Sample.diskPod "v" ["a"]] }
    let vm : VM := { Sample.vm with spec := Sample.withDisks ["a"] }
    let vmPod : Pod := { name := "pod-a", uid := "uid-a" }
    (w.pods.map (·.name)).Nodup ∧
      [Sample.disk "a"].Sublist (getHotplugVolumes vm vmPod) ∧ w.pods.Perm w.pods ∧
      ∀ l w', Prog.Exec (World.alone .controller) (handleHotplugVolumes vm vmPod true) w l none w' →
        foundReady l = [Sample.disk "a"] → listedPods l = some w.pods →
        ∀ v ∈ [Sample.disk "a"], Attached w' vmPod v :=
  ⟨by decide, by decide, .refl _, (ready_volumes_stay_attached _ (by decide) _ _ true _ _ (by decide)
    (fun _ => by decide) (.refl _)).mpr (by decide)⟩

/-- Disk `a` is plugged in, then disk `b`, and `b` is taken out again while the
    first volume pod is still on its way out: that pod matches and is kept, the
    other one is deleted. -/
theorem last_live_pod_lost :
    ∃ c vm vmPod l w', Reachable Sample.cluster Init c ∧ c.store.vm = some vm ∧
      c.store.findPod vm.status.vmPodName = some vmPod ∧
      Prog.Exec (World.alone .controller) (handleHotplugVolumes vm vmPod false) c.store l none w' ∧
      (listedPods l).isSome = true ∧ ∃ v ∈ foundReady l, ¬ Attached w' vmPod v := by
  obtain ⟨c, hreach, htest⟩ := Sample.reach anyStep
    (Sample.running ++ [.event (.updateSpec (Sample.withDisks ["a"]))] ++
      turn .controller [.ok, .ok, .flag true, .ok, .flag false,
        .create "uid-v" "v" [{ name := "token" }] none, .ok, .ok, .ok] ++
      [.event .tick, .event (.updateSpec (Sample.withDisks ["a", "b"]))] ++
      turn .controller [.ok, .ok, .flag true, .flag true, .ok, .flag false, .flag false,
        .create "uid-w" "w" [{ name := "token" }] none, .ok, .ok, .ok, .ok] ++
      [.event (.updateSpec (Sample.withDisks ["a"]))])
    (fun c => c.store.vm.any fun vm => (c.store.findPod vm.status.vmPodName).any fun vmPod =>
      getHotplugVolumes vm vmPod == [Sample.disk "a"] &&
      !keepsReady [Sample.disk "a"] (volumePodsOf vmPod c.store.pods))
    (by decide +kernel)
  obtain ⟨vm, hvm, htest⟩ := (Option.any_eq_true ..).mp htest
  obtain ⟨vmPod, hpod, htest⟩ := (Option.any_eq_true ..).mp htest
  simp only [Bool.and_eq_true, beq_iff_eq, Bool.not_eq_true'] at htest
  obtain ⟨hall, hkeeps⟩ := htest
  obtain ⟨l, w', hexec, hfound, hlisted, hlost⟩ := volume_lost false
    (by rw [hall]) nofun (.refl _) hkeeps
  rw [← hfound] at hlost
  exact ⟨c, vm, vmPod, l, w', hreach, hvm, hpod, hexec, by rw [hlisted]; rfl, hlost⟩

end Virtink
