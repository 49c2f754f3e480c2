import Virtink.Daemon.Contexts

/-! # No Relay Is Leaked

    The control block is written only at the end of the migration cases. A
    run that returns earlier loses the context it has made; and the entry of a
    VM is thrown away when the migration is over, whether or not this daemon
    has called what is in it. `no_relay_leaked_iff` says when neither happens.
-/

namespace Virtink

open Calls

namespace VMDaemon

/-! ### The Migration Cases -/

/-- The cancel functions that a run which comes to the bookkeeping drops from
    the block `b` without calling them. -/
def dropped (node : String) (vm : VM) (m : Migration) (b : ControlBlock) : List Nat :=
  match m.phase with
  -- a case that is run again overwrites the cancel function of the last time
  | .scheduled => if m.targetNodeName = node then b.receiveMigrationCancelFunc.toList else []
  | .targetReady => if vm.status.nodeName = node then b.sendMigrationCancelFunc.toList else []
  -- the migration is over for the source, or for the target: each calls its own function
  | .running => if vm.status.nodeName = node then b.receiveMigrationCancelFunc.toList else []
  | .sent =>
      if m.targetNodeName = node then b.sendMigrationCancelFunc.toList
      else if vm.status.nodeName = node then cancels b else []
  -- nothing is called here, whoever has ended the migration
  | .succeeded | .failed => cancels b
  | .empty | .pending | .scheduling => []

/-- The cancel function is called if there is one. -/
def Contexts.closeSome (s : Contexts) : Option Nat → Contexts
  | none => s
  | some ctx => s.close ctx

/-- How the cases of the migration `m` end, before the bookkeeping. -/
inductive Ended (node : String) (vm : VM) (m : Migration) (s : Contexts) :
    Bool → Flow → Contexts → Prop where
  /-- A return with nothing done. -/
  | returned (vm' : VM) (err : Option Err) : Ended node vm m s false (.return_ vm' err) s
  /-- A return after a context was made, since a call has failed. -/
  | aborted {ctx : Nat} (hfresh : s.Fresh ctx) (vm' : VM) (err : Option Err) :
      Ended node vm m s true (.return_ vm' err) (s.grant vm.uid ctx)
  /-- The case is not for this daemon. -/
  | passed (hdropped : dropped node vm m (s.entries vm.uid) =
        if migrationOver node vm then cancels (s.entries vm.uid) else []) :
      Ended node vm m s false (.next vm (s.entries vm.uid)) s
  /-- The target is ready. -/
  | received {ctx : Nat} {ch : Option Nat} {vm' : VM} (hfresh : s.Fresh ctx)
      (hover : migrationOver node vm' = false)
      (hdropped : dropped node vm m (s.entries vm.uid) =
        (s.entries vm.uid).receiveMigrationCancelFunc.toList) :
      Ended node vm m s false (.next vm' { s.entries vm.uid with
        receiveMigrationCancelFunc := some ctx, receiveMigrationErrCh := ch })
        (s.grant vm.uid ctx)
  /-- The source is sending. -/
  | sent {ctx : Nat} {ch : Option Nat} {vm' : VM} (hfresh : s.Fresh ctx)
      (hover : migrationOver node vm' = false)
      (hdropped : dropped node vm m (s.entries vm.uid) =
        (s.entries vm.uid).sendMigrationCancelFunc.toList) :
      Ended node vm m s false (.next vm' { s.entries vm.uid with
        sendMigrationCancelFunc := some ctx, sendMigrationErrCh := ch })
        (s.grant vm.uid ctx)
  /-- The source has sent the guest or has failed to. -/
  | sourceDone {vm' : VM} (hover : migrationOver node vm' = true)
      (hdropped : dropped node vm m (s.entries vm.uid) =
        (s.entries vm.uid).receiveMigrationCancelFunc.toList) :
      Ended node vm m s false (.next vm' (s.entries vm.uid))
        (Contexts.closeSome s (s.entries vm.uid).sendMigrationCancelFunc)
  /-- The guest has arrived at the target. -/
  | targetDone {vm' : VM} (hover : migrationOver node vm' = true)
      (hdropped : dropped node vm m (s.entries vm.uid) =
        (s.entries vm.uid).sendMigrationCancelFunc.toList) :
      Ended node vm m s false (.next vm' (s.entries vm.uid))
        (Contexts.closeSome s (s.entries vm.uid).receiveMigrationCancelFunc)
  /-- The migration is over. -/
  | deleted (hover : migrationOver node vm = true)
      (hdropped : dropped node vm m (s.entries vm.uid) = cancels (s.entries vm.uid)) :
      Ended node vm m s false (.next vm (s.entries vm.uid))
        (Registry.put cancels s vm.uid {})

section cases
variable {node nodeIP : String} {vm : VM} {m : Migration} {s : Contexts} {u : UID}

/-- The case goes on to the bookkeeping. -/
def Flow.goesOn : Flow → Bool
  | .return_ _ _ => false
  | .next _ _ => true

theorem receive_answers (vm : VM) (m : Migration) (b : ControlBlock) (ctx : Nat) :
    Answers (receive vm m b ctx) fun failed flow => flow.goesOn = !failed ∧
      ∀ vm' b', flow = .next vm' b' → ∃ ch, b' = { b with receiveMigrationErrCh := ch } := by
  refine ⟨trivial, fun a => ?_⟩
  cases a with
  | error e => exact ⟨rfl, fun _ _ h => (by cases h)⟩
  | ok there =>
    cases there with
    | true => exact ⟨rfl, fun _ _ h => ⟨b.receiveMigrationErrCh, by cases h; rfl⟩⟩
    | false =>
      refine ⟨trivial, fun ch => ⟨trivial, fun a => ?_⟩⟩
      cases a with
      | error e => exact ⟨rfl, fun _ _ h => (by cases h)⟩
      | ok _ => exact ⟨rfl, fun _ _ h => ⟨some ch, by cases h; rfl⟩⟩

theorem openTarget_answers (node : String) (vm : VM) (m : Migration) (b : ControlBlock)
    (ctx : Nat) :
    Answers (openTarget nodeIP vm m b ctx) fun failed flow => flow.goesOn = !failed ∧
      ∀ vm' b', flow = .next vm' b' → b' = b ∧ migrationOver node vm' = false := by
  refine ⟨trivial, fun a => ?_⟩
  cases a with
  | error e => exact ⟨rfl, fun _ _ h => (by cases h)⟩
  | ok _ =>
    refine ⟨trivial, fun a => ?_⟩
    cases a with
    | error e => exact ⟨rfl, fun _ _ h => (by cases h)⟩
    | ok port =>
      refine ⟨trivial, fun a => ?_⟩
      cases a with
      | error e => exact ⟨rfl, fun _ _ h => (by cases h)⟩
      | ok _ =>
        refine .bind ((mountVolumes_answers ..).mono fun failed r h => ?_)
        obtain ⟨vm₁, e | _⟩ := r
        · subst h
          exact ⟨rfl, fun _ _ h => (by cases h; exact ⟨rfl, rfl⟩)⟩
        · subst h
          exact ⟨rfl, fun _ _ h => (by cases h)⟩

theorem reconcileTarget_ends (hphase : m.phase = .scheduled) (hnode : m.targetNodeName = node) :
    Ends vm.uid (reconcileTarget nodeIP vm m (s.entries vm.uid)) s (Ended node vm m s) := by
  have hdropped : dropped node vm m (s.entries vm.uid) =
      (s.entries vm.uid).receiveMigrationCancelFunc.toList := by
    simp [dropped, hphase, hnode]
  refine .ask trivial fun a => ?_
  cases a with
  | error e => exact .pure (.returned _ _)
  | ok _ =>
    -- from here on every return leaves the context behind
    refine .withCancel fun ctx hfresh => .bind ((receive_answers _ _ _ _).mono fun o flow h => ?_)
    obtain ⟨hgoes, hflow⟩ := h
    cases flow with
    | return_ vm' err =>
      obtain rfl : o = true := by simpa [Flow.goesOn] using hgoes
      exact .aborted hfresh vm' err
    | next vm₁ b₁ =>
      obtain rfl : o = false := by simpa [Flow.goesOn] using hgoes
      obtain ⟨ch, rfl⟩ := hflow vm₁ b₁ rfl
      refine (openTarget_answers node _ _ _ _).mono fun o flow h => ?_
      obtain ⟨hgoes, hflow⟩ := h
      cases flow with
      | return_ vm' err =>
        obtain rfl : o = true := by simpa [Flow.goesOn] using hgoes
        exact .aborted hfresh vm' err
      | next vm' b' =>
        obtain rfl : o = false := by simpa [Flow.goesOn] using hgoes
        obtain ⟨rfl, hover⟩ := hflow vm' b' rfl
        exact .received hfresh hover hdropped

theorem reconcileSend_ends (hphase : m.phase = .targetReady) (hnode : vm.status.nodeName = node) :
    Ends vm.uid (reconcileSend vm m (s.entries vm.uid)) s (Ended node vm m s) := by
  have hdropped : dropped node vm m (s.entries vm.uid) =
      (s.entries vm.uid).sendMigrationCancelFunc.toList := by
    simp [dropped, hphase, hnode]
  refine .withCancel fun ctx hfresh => ⟨trivial, fun a => ?_⟩
  cases a with
  | error e => exact .aborted hfresh _ _
  | ok _ => exact ⟨trivial, fun ch => .sent hfresh rfl hdropped⟩

theorem cancelAndGo_ends (c : Option Nat) (vm : VM) (b : ControlBlock) :
    Ends u (cancelAndGo c vm b) s fun o flow s' =>
      o = false ∧ flow = .next vm b ∧ s' = Contexts.closeSome s c := by
  cases c with
  | none => exact .pure ⟨rfl, rfl, rfl⟩
  | some ctx => exact .cancel (.pure ⟨rfl, rfl, rfl⟩)

theorem reconcileSending_ends (hphase : m.phase = .running) (hnode : vm.status.nodeName = node)
    (vmPod : Pod) :
    Ends vm.uid (reconcileSending vm m (s.entries vm.uid) vmPod) s (Ended node vm m s) := by
  have hdropped : dropped node vm m (s.entries vm.uid) =
      (s.entries vm.uid).receiveMigrationCancelFunc.toList := by
    simp [dropped, hphase, hnode]
  have hdone : ∀ vm', migrationOver node vm' = true →
      Ends vm.uid (cancelAndGo (s.entries vm.uid).sendMigrationCancelFunc vm'
        (s.entries vm.uid)) s (Ended node vm m s) := by
    intro vm' hover
    refine (cancelAndGo_ends _ _ _).mono fun o flow s' h => ?_
    obtain ⟨rfl, rfl, rfl⟩ := h
    exact .sourceDone hover hdropped
  unfold reconcileSending
  split
  · -- the pod has ended; the volumes are released first, which can fail
    refine .outside cleanup_outside fun r => ?_
    cases r with
    | some e => exact .pure (.returned _ _)
    | none =>
      refine hdone _ ?_
      simp [migrationOver, withMigration, hnode]
  · split
    · exact hdone _ rfl
    · refine .ask trivial fun a => ?_
      cases a with
      | none => exact .pure (.returned _ _)
      | some e => exact hdone _ rfl

theorem reconcileSent_ends (hphase : m.phase = .sent) (hnode : m.targetNodeName = node) :
    Ends vm.uid (reconcileSent vm m (s.entries vm.uid)) s (Ended node vm m s) := by
  have hdropped : dropped node vm m (s.entries vm.uid) =
      (s.entries vm.uid).sendMigrationCancelFunc.toList := by
    simp [dropped, hphase, hnode]
  refine .ask trivial fun a => ?_
  cases a with
  | error e => exact .pure (.returned _ _)
  | ok info =>
    dsimp only
    split
    · refine (cancelAndGo_ends _ _ _).mono fun o flow s' h => ?_
      obtain ⟨rfl, rfl, rfl⟩ := h
      exact .targetDone rfl hdropped
    · exact .pure (.returned _ _)

/-- How the cases of the migration end, each of them. -/
theorem migrationStep_ends (hm : vm.status.migration = some m) (vmPod : Pod) :
    Ends vm.uid (migrationStep node nodeIP vm m vmPod (s.entries vm.uid)) s
      (Ended node vm m s) := by
  unfold migrationStep
  split
  · next hphase =>
    split
    · next hnode => exact reconcileTarget_ends hphase hnode
    · next hnode => exact .pure (.passed (by simp [dropped, migrationOver, hm, hphase, hnode]))
  · next hphase =>
    split
    · next hnode => exact reconcileSend_ends hphase hnode
    · next hnode => exact .pure (.passed (by simp [dropped, migrationOver, hm, hphase, hnode]))
  · next hphase =>
    split
    · next hnode => exact reconcileSending_ends hphase hnode vmPod
    · next hnode => exact .pure (.passed (by simp [dropped, migrationOver, hm, hphase, hnode]))
  · next hphase =>
    split
    · next hnode => exact reconcileSent_ends hphase hnode
    · next hnode => exact .pure (.passed (by simp [dropped, migrationOver, hm, hphase, hnode]))
  · next hphase =>
    refine .deleteControlBlock (.pure (.deleted ?_ ?_))
    · simp [migrationOver, hm, hphase]
    · simp [dropped, hphase]
  · next hphase =>
    refine .deleteControlBlock (.pure (.deleted ?_ ?_))
    · simp [migrationOver, hm, hphase]
    · simp [dropped, hphase]
  all_goals
    next hphase => exact .pure (.passed (by simp [dropped, migrationOver, hm, hphase]))

end cases

/-! ### The Bookkeeping -/

/-- What is true of the memory between two runs: what is held was made, and
    the two cancel functions of an entry are not the same. -/
structure Kept (s : Contexts) : Prop where
  sound : s.Sound cancels
  apart : ∀ u c, (s.entries u).receiveMigrationCancelFunc = some c →
    (s.entries u).sendMigrationCancelFunc ≠ some c

/-- The memory after a case of the migration has ended in `s`. -/
def after (node : String) (u : UID) : Flow → Contexts → Contexts
  | .return_ _ _, s => s
  | .next vm b, s =>
      if migrationOver node vm then Registry.put cancels (Registry.put cancels s u b) u {}
      else Registry.put cancels s u b

theorem mem_cancels {b : ControlBlock} {c : Nat} : c ∈ cancels b ↔
    b.receiveMigrationCancelFunc = some c ∨ b.sendMigrationCancelFunc = some c := by
  simp [cancels]

section bookkeeping
variable {node : String} {vm : VM} {m : Migration} {s s₁ : Contexts} {u : UID} {c : Nat}

theorem kept_initial : Kept Contexts.initial := by
  refine ⟨⟨fun k h hh => ?_, fun h hh => ?_⟩, fun u c h => ?_⟩
  · cases hh
  · cases hh
  · cases h

theorem Kept.grant (hs : Kept s) : Kept (s.grant u c) := ⟨hs.sound.grant, hs.apart⟩

theorem Kept.put (hs : Kept s) {b : ControlBlock} (hopened : ∀ c ∈ cancels b, (u, c) ∈ s.opened)
    (hapart : ∀ c, b.receiveMigrationCancelFunc = some c → b.sendMigrationCancelFunc ≠ some c) :
    Kept (Registry.put cancels s u b) := by
  refine ⟨hs.sound.put hopened, fun u' => ?_⟩
  show ∀ c, (Function.update s.entries u b u').receiveMigrationCancelFunc = some c →
    (Function.update s.entries u b u').sendMigrationCancelFunc ≠ some c
  by_cases hu : u' = u
  · rw [hu, Function.update_self]
    exact hapart
  · rw [Function.update_of_ne hu]
    exact hs.apart u'

/-- An entry can always be emptied. -/
theorem Kept.delete (hs : Kept s) : Kept (Registry.put cancels s u {}) :=
  hs.put (fun _ hc => (by cases hc)) (fun _ hc => (by cases hc))

/-- The cancel function of an entry is called. -/
theorem Kept.closeSome (hs : Kept s) {x : Option Nat}
    (hx : ∀ c, x = some c → c ∈ cancels (s.entries u)) : Kept (Contexts.closeSome s x) := by
  cases x with
  | none => exact hs
  | some c => exact ⟨hs.sound.close (hx c rfl), hs.apart⟩

theorem closeSome_entries (x : Option Nat) : (Contexts.closeSome s x).entries = s.entries := by
  cases x <;> rfl

theorem mem_closeSome {x : Option Nat} :
    c ∈ (Contexts.closeSome s x).closed ↔ x = some c ∨ c ∈ s.closed := by
  cases x with
  | none => simp [Contexts.closeSome]
  | some c' => simp [Contexts.closeSome, Registry.close, eq_comm]

theorem noLeak_closeSome (hno : s.NoLeak cancels) (x : Option Nat) :
    (Contexts.closeSome s x).NoLeak cancels := by
  cases x with
  | none => exact hno
  | some c => exact hno.close

/-- The entry is written back and, if the migration is over, thrown away. -/
theorem after_next {vm' : VM} {b : ControlBlock} (hb : b = s₁.entries u) :
    after node u (.next vm' b) s₁ =
      if migrationOver node vm' then Registry.put cancels s₁ u {} else s₁ := by
  simp only [after, hb, Registry.put_self]

/-- A new context goes into one of the two slots. -/
theorem Kept.store (hs : Kept s) {b : ControlBlock} (hfresh : s.Fresh c)
    (hmem : ∀ x ∈ cancels b, x = c ∨ x ∈ cancels (s.entries u))
    (hapart : ∀ x, b.receiveMigrationCancelFunc = some x → b.sendMigrationCancelFunc ≠ some x) :
    Kept (Registry.put cancels (s.grant u c) u b) := by
  refine hs.grant.put (fun x hx => ?_) hapart
  rcases hmem x hx with rfl | hx
  · exact List.mem_cons_self ..
  · exact List.mem_cons_of_mem _ (hs.sound.opened_of_held u x hx)

/-- Each end of the migration cases keeps the memory in order. -/
theorem Ended.kept {o : Bool} {flow : Flow} (h : Ended node vm m s o flow s₁) (hs : Kept s) :
    Kept (after node vm.uid flow s₁) := by
  have hover : ∀ {s'} (vm' : VM), Kept s' →
      Kept (if migrationOver node vm' then Registry.put cancels s' vm.uid {} else s') := by
    intro s' vm' hs'
    split
    · exact hs'.delete
    · exact hs'
  cases h with
  | returned vm' err => exact hs
  | aborted hfresh vm' err => exact hs.grant
  | passed hdropped =>
    rw [after_next rfl]
    exact hover vm hs
  | received hfresh hnot hdropped =>
    rw [after, hnot]
    refine hs.store hfresh (fun x hx => ?_) fun x hx hx' => ?_
    · rcases mem_cancels.mp hx with hx | hx
      · exact .inl (Option.some.inj hx).symm
      · exact .inr (mem_cancels.mpr (.inr hx))
    · obtain rfl := Option.some.inj hx
      exact hfresh.not_held hs.sound (mem_cancels.mpr (.inr hx'))
  | sent hfresh hnot hdropped =>
    rw [after, hnot]
    refine hs.store hfresh (fun x hx => ?_) fun x hx hx' => ?_
    · rcases mem_cancels.mp hx with hx | hx
      · exact .inr (mem_cancels.mpr (.inl hx))
      · exact .inl (Option.some.inj hx).symm
    · obtain rfl := Option.some.inj hx'
      exact hfresh.not_held hs.sound (mem_cancels.mpr (.inl hx))
  | sourceDone hdone hdropped =>
    rw [after_next (by rw [closeSome_entries])]
    exact hover _ (hs.closeSome fun c hc => mem_cancels.mpr (.inr hc))
  | targetDone hdone hdropped =>
    rw [after_next (by rw [closeSome_entries])]
    exact hover _ (hs.closeSome fun c hc => mem_cancels.mpr (.inl hc))
  | deleted hdone hdropped =>
    -- the entry is deleted, written back from the copy and deleted again
    rw [after, hdone]
    have hback : Kept (Registry.put cancels (Registry.put cancels s vm.uid {}) vm.uid
        (s.entries vm.uid)) :=
      hs.delete.put (hs.sound.opened_of_held vm.uid) (hs.apart vm.uid)
    exact hback.delete

/-- One of the two cancel functions was called; the entry may go if the other
    one was called before. -/
theorem noLeak_close_iff {x y : Option Nat} (hno : s.NoLeak cancels)
    (hmem : ∀ c, c ∈ cancels (s.entries u) ↔ x = some c ∨ y = some c)
    (hapart : ∀ c, y = some c → x ≠ some c) :
    (Registry.put cancels (Contexts.closeSome s x) u {}).NoLeak cancels ↔
      ∀ c ∈ y.toList, c ∈ s.closed := by
  rw [(noLeak_closeSome hno x).put_iff, closeSome_entries]
  constructor
  · intro hall c hc
    have hy : y = some c := by simpa using hc
    rcases hall c ((hmem c).mpr (.inr hy)) with hclosed | hheld
    · exact (mem_closeSome.mp hclosed).resolve_left (hapart c hy)
    · cases hheld
  · intro hall c hc
    refine .inl (mem_closeSome.mpr ?_)
    rcases (hmem c).mp hc with hx | hy
    · exact .inl hx
    · exact .inr (hall c (by simp [hy]))

/-- A context is made and kept in the place of another cancel function, which
    has to have been called. -/
theorem noLeak_store_iff {b : ControlBlock} {x : Option Nat} (hs : Kept s)
    (hno : s.NoLeak cancels) (hfresh : s.Fresh c) (hnew : c ∈ cancels b)
    (hkept : ∀ c' ∈ cancels (s.entries u), x = some c' ∨ c' ∈ cancels b)
    (hgone : ∀ c', x = some c' → c' ∈ cancels (s.entries u) ∧ (c' ∈ cancels b → c' = c)) :
    (Registry.put cancels (s.grant u c) u b).NoLeak cancels ↔ ∀ c ∈ x.toList, c ∈ s.closed := by
  rw [hno.grant_put_iff hnew]
  constructor
  · intro hall c' hc'
    obtain ⟨hheld, hb⟩ := hgone c' (by simpa using hc')
    refine (hall c' hheld).resolve_right fun hmem => ?_
    rw [hb hmem] at hheld
    exact hfresh.not_held hs.sound hheld
  · intro hall c' hc'
    rcases hkept c' hc' with hx | hmem
    · exact .inl (hall c' (by simp [hx]))
    · exact .inr hmem

/-- Nothing leaks in a case of the migration in which no call fails after a
    context was made, and which goes on only if what it drops was called. -/
theorem Ended.noLeak_iff {o : Bool} {flow : Flow} (h : Ended node vm m s o flow s₁)
    (hs : Kept s) (hno : s.NoLeak cancels) :
    (after node vm.uid flow s₁).NoLeak cancels ↔ o = false ∧
      (flow.goesOn = true → ∀ c ∈ dropped node vm m (s.entries vm.uid), c ∈ s.closed) := by
  cases h with
  | returned vm' err => simpa [after, Flow.goesOn] using hno
  | aborted hfresh vm' err =>
    -- both sides are false
    simpa [after, Flow.goesOn] using Registry.leak_of_grant hs.sound hfresh
  | passed hdropped =>
    rw [after_next rfl, hdropped]
    split
    · rw [hno.put_iff]
      simp [Flow.goesOn, show cancels {} = [] from rfl]
    · simpa [Flow.goesOn] using hno
  | received hfresh hnot hdropped =>
    -- the new function takes the place of the old one, which is not the one of the other slot
    rw [after, if_neg (by simp [hnot]), hdropped]
    refine (noLeak_store_iff (x := (s.entries vm.uid).receiveMigrationCancelFunc) hs hno hfresh
      (mem_cancels.mpr (.inl rfl)) (fun c' hc' => ?_) fun c' hc' => ?_).trans ?_
    · exact (mem_cancels.mp hc').imp_right fun h => mem_cancels.mpr (.inr h)
    · refine ⟨mem_cancels.mpr (.inl hc'), fun hmem => ?_⟩
      rcases mem_cancels.mp hmem with h | h
      · exact (Option.some.inj h).symm
      · exact absurd h (hs.apart vm.uid c' hc')
    · simp [Flow.goesOn]
  | sent hfresh hnot hdropped =>
    rw [after, if_neg (by simp [hnot]), hdropped]
    refine (noLeak_store_iff (x := (s.entries vm.uid).sendMigrationCancelFunc) hs hno hfresh
      (mem_cancels.mpr (.inr rfl)) (fun c' hc' => ?_) fun c' hc' => ?_).trans ?_
    · exact (mem_cancels.mp hc').symm.imp_right fun h => mem_cancels.mpr (.inl h)
    · refine ⟨mem_cancels.mpr (.inr hc'), fun hmem => ?_⟩
      rcases mem_cancels.mp hmem with h | h
      · exact absurd hc' (hs.apart vm.uid c' h)
      · exact (Option.some.inj h).symm
    · simp [Flow.goesOn]
  | sourceDone hdone hdropped =>
    rw [after_next (by rw [closeSome_entries]), if_pos hdone, hdropped]
    have hiff := noLeak_close_iff (u := vm.uid) hno (fun c => mem_cancels.trans or_comm)
      (hs.apart vm.uid)
    simpa [Flow.goesOn] using hiff
  | targetDone hdone hdropped =>
    rw [after_next (by rw [closeSome_entries]), if_pos hdone, hdropped]
    have hiff := noLeak_close_iff (u := vm.uid) hno (fun c => mem_cancels)
      (fun c hsend hreceive => hs.apart vm.uid c hreceive hsend)
    simpa [Flow.goesOn] using hiff
  | deleted hdone hdropped =>
    rw [after, if_pos hdone, hdropped, hno.put_put_put_iff rfl]
    simp [Flow.goesOn]

end bookkeeping

/-! ### A Reconcile -/

/-- A run over `vm` that started in `s` and made the calls `l` was tidy: no call
    failed after `context.WithCancel`, and if it came to the bookkeeping, what
    it dropped from the entry of the VM had been called. -/
structure Tidy (node : String) (vm : VM) (s : Contexts) (l : List (Prog.Entry api)) : Prop where
  answered : aborts l = false
  called : Booked l → ∀ m, vm.status.migration = some m →
    ∀ c ∈ dropped node vm m (s.entries vm.uid), c ∈ s.closed

section reconciles
variable {node nodeIP : String} {vm : VM} {s : Contexts}

/-- The memory stays in order, and nothing leaks if and only if the run is
    tidy. -/
def RunsTidily (node : String) (vm : VM) (p : Call (VM × Option Err)) (s : Contexts) : Prop :=
  Prog.Must (Contexts.sem vm.uid) p s fun l _ s' =>
    Kept s' ∧ (s.NoLeak cancels → (s'.NoLeak cancels ↔ Tidy node vm s l))

theorem runsTidily_ask {o : Op} {f : o.Ans → Call (VM × Option Err)} (ho : o.Outside)
    (h : ∀ a, RunsTidily node vm (f a) s) : RunsTidily node vm (ask o >>= f) s := by
  refine must_then fun a s₁ hans => ?_
  obtain rfl : s = s₁ := (Contexts.sem_outside ho hans).symm
  refine Prog.Must.mono (h a) fun l r s' h => ⟨h.1, fun hno => (h.2 hno).trans ?_⟩
  have haborts : aborts (⟨o, a⟩ :: l) = aborts l := aborts_cons_outside ho
  have hbooked : Booked (⟨o, a⟩ :: l) ↔ Booked l := booked_cons_outside ho
  constructor
  · intro ht
    exact ⟨haborts.trans ht.answered, fun h => ht.called (hbooked.mp h)⟩
  · intro ht
    exact ⟨haborts.symm.trans ht.answered, fun h => ht.called (hbooked.mpr h)⟩

theorem runsTidily_outside {p : Call (VM × Option Err)} (hp : p.Only Op.Outside) (hs : Kept s) :
    RunsTidily node vm p s := by
  induction p with
  | pure r =>
    refine Prog.Must.pure ⟨hs, fun hno => iff_of_true hno ⟨rfl, fun h => ?_⟩⟩
    exact absurd h booked_nil
  | call o k ih => exact runsTidily_ask hp.1 fun x => ih x (hp.2 x)

/-- The whole of the migration case, from reading the control block to the
    bookkeeping. -/
theorem reconcileMigration_ended {m : Migration} (hm : vm.status.migration = some m) (vmPod : Pod) :
    Prog.Must (Contexts.sem vm.uid) (reconcileMigration node nodeIP vm m vmPod) s fun l _ s' =>
      ∃ flow s₁, Ended node vm m s (aborts l) flow s₁ ∧ s' = after node vm.uid flow s₁ ∧
        (Booked l ↔ flow.goesOn = true) := by
  refine must_then fun b s₁ hans => ?_
  obtain rfl : s = s₁ := hans.2.symm
  obtain rfl : b = s.entries vm.uid := hans.1
  refine Prog.Must.bind (Prog.Must.mono (migrationStep_ends hm vmPod) fun l flow s₁ h => ?_)
  obtain ⟨hbooked, hended⟩ := h
  cases flow with
  | return_ vm' err =>
    refine Prog.Must.pure ⟨.return_ vm' err, s₁, ?_, rfl, ?_⟩
    · rwa [aborts_cons (by simp), List.append_nil]
    · simpa [Flow.goesOn] using hbooked
  | next vm' b =>
    refine must_then fun x s₂ hans => ?_
    obtain rfl : s₂ = Registry.put cancels s₁ vm.uid b := hans
    have hgoes : ∀ l', Booked (⟨.getControlBlock, s.entries vm.uid⟩ ::
        (l ++ ⟨.setControlBlock b, x⟩ :: l')) := by
      intro l'
      simp only [booked_cons, booked_append]
      exact .inr (.inr (.inl ⟨b, rfl⟩))
    by_cases hover : migrationOver node vm' = true
    · simp only [hover]
      refine must_then fun y s₃ hans => ?_
      obtain rfl : s₃ = _ := hans
      refine Prog.Must.pure ⟨.next vm' b, s₁, ?_, ?_, iff_of_true (hgoes _) rfl⟩
      · rwa [aborts_cons (by simp), aborts_append rfl rfl]
      · rw [after, if_pos hover]
    · simp only [hover]
      refine Prog.Must.pure ⟨.next vm' b, s₁, ?_, ?_, iff_of_true (hgoes _) rfl⟩
      · rwa [aborts_cons (by simp), aborts_append rfl rfl]
      · rw [after, if_neg hover]

theorem reconcileMigration_tidily {m : Migration} (hm : vm.status.migration = some m) (vmPod : Pod)
    (hs : Kept s) : RunsTidily node vm (reconcileMigration node nodeIP vm m vmPod) s := by
  refine Prog.Must.mono (reconcileMigration_ended hm vmPod) fun l r s' h => ?_
  obtain ⟨flow, s₁, hended, rfl, hbooked⟩ := h
  refine ⟨hended.kept hs, fun hno => ?_⟩
  rw [hended.noLeak_iff hs hno, ← hbooked]
  constructor
  · intro h
    refine ⟨h.1, fun hb m' hm' => ?_⟩
    obtain rfl : m = m' := Option.some.inj (hm.symm.trans hm')
    exact h.2 hb
  · intro h
    exact ⟨h.answered, fun hb => h.called hb m hm⟩

/-- One run of `reconcile`. -/
theorem reconcile_tidily (hs : Kept s) : RunsTidily node vm (reconcile node nodeIP vm) s := by
  unfold reconcile
  split
  · exact runsTidily_outside trivial hs
  · refine runsTidily_ask trivial fun a => ?_
    cases a with
    | error e => exact runsTidily_outside trivial hs
    | ok vmPod =>
      dsimp only
      split
      · split
        · exact runsTidily_outside trivial hs
        · exact runsTidily_outside (reconcileDeletingVM_outside vm vmPod) hs
      · split
        · exact runsTidily_outside (reconcileScheduled_outside vm) hs
        · split
          · exact runsTidily_outside (reconcileRunning_outside node vm) hs
          · next m hm => exact reconcileMigration_tidily hm vmPod hs
        · exact runsTidily_outside (Prog.Only.bind cleanup_outside fun _ => trivial) hs
        · exact runsTidily_outside (Prog.Only.bind cleanup_outside fun _ => trivial) hs
        all_goals exact runsTidily_outside trivial hs

end reconciles

/-! ### Sequences of Reconciles -/

/-- One run of `reconcile`: the VM as it was read, the memory before and after
    and the calls that were made. -/
structure Round where
  vm     : VM
  before : Contexts
  calls  : List (Prog.Entry api)
  after  : Contexts

/-- The runs of the daemon of a node since it has started, and its memory. -/
inductive History (node nodeIP : String) : List Round → Contexts → Prop where
  | start : History node nodeIP [] Contexts.initial
  | round {rounds : List Round} {s s' : Contexts} {vm : VM} {l : List (Prog.Entry api)}
      {r : VM × Option Err} : History node nodeIP rounds s →
      Prog.Exec (Contexts.sem vm.uid) (reconcile node nodeIP vm) s l r s' →
      History node nodeIP (rounds ++ [⟨vm, s, l, s'⟩]) s'

section histories
variable {node nodeIP : String} {rounds : List Round} {s : Contexts}

theorem History.kept (h : History node nodeIP rounds s) : Kept s := by
  induction h with
  | start => exact kept_initial
  | round _ hexec ih => exact (reconcile_tidily ih _ _ _ hexec).1

/-- If nothing leaks after any run, nothing leaks now. -/
theorem History.noLeak (h : History node nodeIP rounds s)
    (hall : ∀ r ∈ rounds, r.after.NoLeak cancels) : s.NoLeak cancels := by
  cases h with
  | start => exact ⟨fun x hx => (by cases hx), rfl⟩
  | round _ _ => exact hall _ (List.mem_append_right _ (List.mem_singleton_self _))

end histories

/-! ### Samples -/

namespace Sample

/-- The VM is moving to node `b`, and its migration is in that phase. -/
def moving (phase : MigrationPhase) : VM :=
  { name := "vm", uid := "vm-uid", spec := { runPolicy := .always }
    status := { phase := .running, nodeName := "a", vmPodName := "pod-a", vmPodUID := "uid-a"
                migration := some { uid := "u", phase, targetNodeName := "b"
                                    targetVMPodUID := "uid-b" } } }

/-- The VM pod, as any daemon finds it. -/
def vmPod : Pod := { name := "pod-a", uid := "uid-a", bound := PodPhase.empty_unbound }

/-- The calls are answered without an error, except that the CA certificate of
    the daemons may not be there. Contexts are numbered. -/
def answer (loads : Bool) (u : UID) : (o : Op) → Contexts → Option (o.Ans × Contexts)
  | .getPod _, s => some (.ok vmPod, s)
  | .getControlBlock, s => some (s.entries u, s)
  | .setControlBlock b, s => some ((), Registry.put cancels s u b)
  | .deleteControlBlock, s => some ((), Registry.put cancels s u {})
  | .withCancel, s =>
      if ∀ x ∈ s.opened, x.2 ≠ s.opened.length then
        some (s.opened.length, s.grant u s.opened.length)
      else none
  | .cancel ctx, s => some ((), s.close ctx)
  | .waitSocket _, s => some (.ok (), s)
  | .statReceiveSocket _, s => some (.ok true, s)
  | .loadCACert, s => some (if loads then .ok () else .error "no such file or directory", s)
  | .relayTCPToSocket _ _, s => some (.ok 30000, s)
  | .vmInfo _, s => some (.ok { state := .running }, s)
  | .getVMMountRecord, s => some (.ok (), s)
  | _, _ => none

theorem answer_sem {loads : Bool} {u : UID} (o : Op) (s : Contexts) (x : o.Ans × Contexts)
    (h : answer loads u o s = some x) : Contexts.sem u o s x.1 x.2 := by
  cases o with
  | getPod | setControlBlock | deleteControlBlock | cancel | waitSocket | statReceiveSocket
  | loadCACert | relayTCPToSocket | vmInfo | getVMMountRecord =>
    cases h
    rfl
  | getControlBlock =>
    cases h
    exact ⟨rfl, rfl⟩
  | withCancel =>
    simp only [answer] at h
    split at h
    · next hfresh =>
      cases h
      exact ⟨fun k hk => hfresh _ hk rfl, rfl⟩
    · cases h
  | _ => cases h

/-- The daemon of node `b` goes over these VMs, one after the other. -/
def play : List (VM × Bool) → List Round × Contexts → Option (List Round × Contexts)
  | [], h => some h
  | (vm, loads) :: rest, (rounds, s) =>
      ((reconcile "b" "10.0.0.2" vm).play (answer loads vm.uid) s).bind fun y =>
        play rest (rounds ++ [⟨vm, s, y.1, y.2.2⟩], y.2.2)

theorem history_of_play {script : List (VM × Bool)} {h h' : List Round × Contexts}
    (hstart : History "b" "10.0.0.2" h.1 h.2) (hplay : play script h = some h') :
    History "b" "10.0.0.2" h'.1 h'.2 := by
  induction script generalizing h with
  | nil =>
    obtain rfl : h = h' := Option.some.inj hplay
    exact hstart
  | cons entry rest ih =>
    obtain ⟨y, hy, hrest⟩ := Option.bind_eq_some_iff.mp hplay
    exact ih (.round hstart (Prog.exec_of_play answer_sem hy)) hrest

/-- A history with a property that can be computed. -/
theorem history (script : List (VM × Bool)) (test : List Round → Bool)
    (h : (play script ([], Contexts.initial)).any (fun h => test h.1) = true) :
    ∃ rounds s, History "b" "10.0.0.2" rounds s ∧ test rounds = true := by
  obtain ⟨h', hplay, htest⟩ := (Option.any_eq_true ..).mp h
  exact ⟨_, _, history_of_play .start hplay, htest⟩

/-- Nothing leaks in two runs, and the context that was made is cancelled. -/
def clean (rounds : List Round) : Bool :=
  rounds.length == 2 && rounds.all (fun r => decide (r.after.NoLeak cancels)) &&
    rounds.any (fun r => r.after.closed == [0])

/-- A context is leaked in that phase of the migration. -/
def leaks (phase : MigrationPhase) (rounds : List Round) : Bool :=
  rounds.any fun r => decide (r.vm = moving phase) && decide (¬ r.after.NoLeak cancels) &&
    r.after.lost == []

/-- The entry of the VM is thrown away in that phase of the migration, with a
    cancel function that was not called. -/
def loses (phase : MigrationPhase) (rounds : List Round) : Bool :=
  rounds.any fun r => decide (r.vm = moving phase) && r.after.lost != []

end Sample

section histories
variable {node nodeIP : String} {rounds : List Round} {s : Contexts}

/-- **No relay is leaked** in a sequence of reconciles, over any VMs and
    however their calls are answered, if and only if each of them is tidy. -/
theorem no_relay_leaked_iff (h : History node nodeIP rounds s) :
    (∀ r ∈ rounds, r.after.NoLeak cancels) ↔
      ∀ r ∈ rounds, Tidy node r.vm r.before r.calls := by
  -- by induction on the runs; up to the last one both sides agree by hypothesis
  induction h with
  | start => simp
  | round h hexec ih =>
    have hrun := (reconcile_tidily h.kept _ _ _ hexec).2
    rw [List.forall_mem_append, List.forall_mem_append, ← ih, List.forall_mem_singleton,
      List.forall_mem_singleton]
    exact and_congr_right fun hall => hrun (h.noLeak hall)

end histories

/-- The target gets ready, and the guest arrives: the context of the target is
    made, kept and cancelled. -/
theorem no_relay_leaked_iff_sample : ∃ rounds s, History "b" "10.0.0.2" rounds s ∧
    rounds.length = 2 ∧ (∃ r ∈ rounds, r.after.closed = [0]) ∧
    ∀ r ∈ rounds, Tidy "b" r.vm r.before r.calls := by
  obtain ⟨rounds, s, hist, htest⟩ :=
    Sample.history [(Sample.moving .scheduled, true), (Sample.moving .sent, true)] Sample.clean
      (by decide +kernel)
  simp only [Sample.clean, Bool.and_eq_true, beq_iff_eq, List.all_eq_true, List.any_eq_true,
    decide_eq_true_eq] at htest
  obtain ⟨⟨hlength, hno⟩, hclosed⟩ := htest
  exact ⟨rounds, s, hist, hlength, hclosed, (no_relay_leaked_iff hist).mp hno⟩

/-- The certificate of the daemons cannot be loaded on the target, after the
    context was made: nobody can cancel it. And the target finds the migration
    failed on the source: it forgets its context without cancelling it. -/
theorem migration_context_leaked :
    (∃ rounds s, History "b" "10.0.0.2" rounds s ∧ ∃ r ∈ rounds,
      r.vm = Sample.moving .scheduled ∧ ¬ r.after.NoLeak cancels ∧ r.after.lost = []) ∧
    (∃ rounds s, History "b" "10.0.0.2" rounds s ∧ ∃ r ∈ rounds,
      r.vm = Sample.moving .failed ∧ r.after.lost ≠ []) := by
  constructor
  · obtain ⟨rounds, s, hist, htest⟩ :=
      Sample.history [(Sample.moving .scheduled, false)] (Sample.leaks .scheduled)
        (by decide +kernel)
    simp only [Sample.leaks, List.any_eq_true, Bool.and_eq_true, decide_eq_true_eq,
      beq_iff_eq] at htest
    obtain ⟨r, hr, ⟨hvm, hleak⟩, hlost⟩ := htest
    exact ⟨rounds, s, hist, r, hr, hvm, hleak, hlost⟩
  · obtain ⟨rounds, s, hist, htest⟩ :=
      Sample.history [(Sample.moving .scheduled, true), (Sample.moving .failed, true)]
        (Sample.loses .failed) (by decide +kernel)
    simp only [Sample.loses, List.any_eq_true, Bool.and_eq_true, decide_eq_true_eq,
      bne_iff_ne] at htest
    obtain ⟨r, hr, hvm, hlost⟩ := htest
    exact ⟨rounds, s, hist, r, hr, hvm, hlost⟩

end VMDaemon

end Virtink
