import Virtink.Framework.Run
import Virtink.Cluster.Semantics

/-! # One Run of the Controller

    A reconciler of the VM controller on its own, without the other processes:
    nobody else touches the world.
-/

namespace Virtink

open Calls

variable {w : World} {α : Type}

/-- The calls of process `i` while nobody else acts. -/
def World.alone (i : Proc) : Prog.Sem api World := fun o w a w' =>
  ∃ ch, World.answer i o ch w = some (a, w')

/-- Every undisturbed run of `p` meets `Q`. -/
abbrev World.must (w : World) (p : Call α) (Q : List (Prog.Entry api) → α → World → Prop) : Prop :=
  Prog.Must (World.alone .controller) p w Q

theorem must_ask {o : Op} {f : o.Ans → Call α} {Q : List (Prog.Entry api) → α → World → Prop}
    (h : ∀ ch a w', World.answer .controller o ch w = some (a, w') →
      w'.must (f a) (fun l b w'' => Q (⟨o, a⟩ :: l) b w'')) : w.must (ask o >>= f) Q := by
  refine .call fun a w' hans => ?_
  obtain ⟨ch, hans⟩ := hans
  exact h ch a w' hans

/-- Some undisturbed run of `p` meets `Q`. -/
abbrev World.may (w : World) (p : Call α) (Q : List (Prog.Entry api) → α → World → Prop) : Prop :=
  Prog.Can (World.alone .controller) p w Q

theorem may_ask {o : Op} {f : o.Ans → Call α} {Q : List (Prog.Entry api) → α → World → Prop}
    (ch : Choice) {a : o.Ans} {w' : World} (hans : World.answer .controller o ch w = some (a, w'))
    (h : w'.may (f a) (fun l b w'' => Q (⟨o, a⟩ :: l) b w'')) : w.may (ask o >>= f) Q :=
  .call ⟨ch, hans⟩ h

end Virtink
