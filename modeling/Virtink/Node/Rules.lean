import Virtink.Node.Knowledge

/-! # Invariants of Nodes

    A node is changed by the calls of its own daemon and by events that take
    paths away or end guests (`Node.Disturbed`); other processes do not reach
    it. What holds of a node and of what its daemon knows is therefore an
    invariant of every run if these two kinds of changes keep it
    (`NodeInvariant.holds`).
-/

namespace Virtink

open Calls

/-! ### Events -/

/-- What an event does to a node: paths vanish, or a guest comes or goes. -/
inductive Node.Disturbed (x : Node) : Node → Prop where
  | same : Disturbed x x
  | vanish (path : String) :
      Disturbed x { x.drop path with mounts := x.mounts.filter (· != path) }
  | receive (pod : UID) (disks : List String) : x.guests pod = .fresh →
      Disturbed x { x with guests := setAt x.guests pod (.created disks) }
  | exit (pod : UID) : Disturbed x { x with guests := setAt x.guests pod .ended }

/-- Events leave the record alone. -/
theorem Node.Disturbed.record {x x' : Node} (h : x.Disturbed x') : x'.record = x.record := by
  cases h <;> rfl

/-- An event disturbs each node at most so. -/
theorem Site.event_nodes {e : NodeEvent} {s s' : Site} (h : Site.event e s = some s') (n : String) :
    (s.nodes n).Disturbed (s'.nodes n) := by
  have hnode : ∀ (m : String) (f : Node → Node), (s.nodes m).Disturbed (f (s.nodes m)) →
      (s.nodes n).Disturbed ((s.onNode m f).nodes n) := by
    intro m f hf
    by_cases hn : n = m
    · subst hn
      simpa [Site.onNode] using hf
    · simpa [Site.onNode, hn] using Node.Disturbed.same
  cases e with
  | base e =>
    obtain ⟨w, -, rfl⟩ := Option.map_eq_some_iff.mp h
    exact .same
  | vanish m path => cases h; exact hnode m _ (.vanish path)
  | receive m pod disks =>
    simp only [Site.event] at h
    split at h
    · next hfresh => cases h; exact hnode m _ (.receive pod disks hfresh)
    · cases h
  | exit m pod => cases h; exact hnode m _ (.exit pod)

/-! ### Calls -/

/-- Another process leaves the node and what its daemon knows alone. -/
theorem Site.answer_elsewhere {i : Proc} {o : NodeOp} {ch : NodeChoice} {a : o.Ans} {s s' : Site}
    (h : Site.answer i o ch s = some (a, s')) {n : String} (hi : i ≠ .daemon n) :
    s'.nodes n = s.nodes n ∧ s'.known (.daemon n) = s.known (.daemon n) := by
  constructor
  · by_cases ho : ∃ b, o = .base b
    · obtain ⟨b, rfl⟩ := ho
      obtain ⟨c, -, hbase⟩ := Site.answer_base h
      rw [hbase.nodes, if_neg hi]
    · obtain ⟨m, x, rfl, -, rfl⟩ := Site.answer_node (fun b hb => ho ⟨b, hb⟩) h
      exact setAt_ne _ _ fun hm => hi (hm ▸ rfl)
  · rw [Site.answer_known h, setAt_ne _ _ (Ne.symm hi)]

/-! ### The Rule -/

/-- What the daemon of a node and events keep, of the node and of what the
    daemon knows. The calls are those that the protocol and the condition on
    the steps allow. -/
structure NodeInvariant (D : Protocol nodeApi NodeView)
    (ok : Site → Act nodeApi Proc NodeChoice NodeEvent → Prop)
    (J : NodeView → Node → Prop) : Prop where
  forget : ∀ {v x}, J v x → J {} x
  disturbed : ∀ {v x x'}, J v x → x.Disturbed x' → J v x'
  base : ∀ {s n o c a w}, J (s.known (.daemon n)) (s.nodes n) →
    ok s (.call (.daemon n) (.base o) (.base c)) → D.guard (.base o) (s.known (.daemon n)) →
    (s.nodes n).admits o c = true → World.answer (.daemon n) o c s.world = some (a, w) →
    J (NodeView.toldBase o a (s.known (.daemon n))) ((s.nodes n).afterBase o c)
  node : ∀ {s n o ch a x}, J (s.known (.daemon n)) (s.nodes n) →
    ok s (.call (.daemon n) o ch) → D.guard o (s.known (.daemon n)) →
    Node.answer o ch (s.nodes n) = some (a, x) → J (NodeView.told o a (s.known (.daemon n))) x

section
variable {R : Type} {main : Proc → NodeCall R} {D : Protocol nodeApi NodeView}
  {ok : Site → Act nodeApi Proc NodeChoice NodeEvent → Prop} {I : Site → Prop}
  {J : NodeView → Node → Prop}

/-- The calls of the daemon itself keep the invariant. -/
theorem NodeInvariant.answer (h : NodeInvariant D ok J) {n : String} {o : NodeOp} {ch : NodeChoice}
    {a : o.Ans} {s s' : Site} (hJ : J (s.known (.daemon n)) (s.nodes n))
    (hok : ok s (.call (.daemon n) o ch)) (hguard : D.guard o (s.known (.daemon n)))
    (hans : Site.answer (.daemon n) o ch s = some (a, s')) :
    J (s'.known (.daemon n)) (s'.nodes n) := by
  by_cases ho : ∃ b, o = .base b
  · obtain ⟨b, rfl⟩ := ho
    obtain ⟨c, rfl, hbase⟩ := Site.answer_base hans
    rw [hbase.known, hbase.nodes, if_pos rfl, setAt_self]
    exact h.base hJ hok hguard (hbase.admits n rfl) hbase.world
  · obtain ⟨m, x, hm, hnode, rfl⟩ := Site.answer_node (fun b hb => ho ⟨b, hb⟩) hans
    cases hm
    simp only [setAt_self]
    exact h.node hJ hok hguard hnode

/-- **Invariant rule** for nodes. -/
theorem NodeInvariant.holds (h : NodeInvariant D ok J) (hkept : (Protocol.contract main D).Kept)
    (hknown : ∀ s, I s → ∀ i, s.known i = {}) (hinit : ∀ s, I s → ∀ n, J {} (s.nodes n))
    {c : Conf nodeApi Site Proc R} (hreach : Reach (nodeMachine main) ok I c) (n : String) :
    J (c.store.known (.daemon n)) (c.store.nodes n) := by
  have hdrop : ∀ (s : Site) (i : Proc), J (s.known (.daemon n)) (s.nodes n) →
      J (setAt s.known i {} (.daemon n)) (s.nodes n) := by
    intro s i hJ
    by_cases hi : Proc.daemon n = i
    · rw [hi, setAt_self]
      exact h.forget hJ
    · rw [setAt_ne _ _ hi]
      exact hJ
  induction hreach with
  | @init s hs =>
    show J (s.known (.daemon n)) (s.nodes n)
    rw [hknown s hs]
    exact hinit s hs n
  | @step c c' act hc hok hstep ih =>
    have hmove := hkept.gstep hknown hc hstep
    generalize c'.store = s' at hmove
    cases hmove with
    | start => exact hdrop _ _ ih
    | finish => exact hdrop _ _ ih
    | crash => exact hdrop _ _ ih
    | event hev =>
      rw [Site.event_known hev]
      exact h.disturbed ih (Site.event_nodes hev n)
    | @call _ i o ch a hguard hans =>
      by_cases hi : i = .daemon n
      · subst hi
        exact h.answer ih hok (hguard n rfl) hans
      · obtain ⟨hnode, hview⟩ := Site.answer_elsewhere hans hi
        rw [hnode, hview]
        exact ih

end

end Virtink
