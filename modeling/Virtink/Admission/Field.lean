import Virtink.Api.Types

/-! # Field Errors

    The error lists that the validating webhooks build, and the three shapes
    their checks have: a group of fields of which one must be set, a list of
    items with distinct names, and a condition on a single field. Each shape is
    one definition, with a lemma that says what an empty error list means.
-/

namespace Virtink

/-! ### Errors and Paths -/

/-- `field.ErrorType`, as far as the webhooks use it. -/
inductive FieldErrorType where
  | required | invalid | duplicate | forbidden
  deriving DecidableEq, Repr

/-- `field.Error`. -/
structure FieldError where
  type     : FieldErrorType
  field    : String
  badValue : String := ""
  detail   : String := ""
  deriving DecidableEq, Repr

namespace FieldPath

/-- `Child`. -/
def child (path name : String) : String := path ++ "." ++ name

/-- `Index`. -/
def index (path : String) (i : Nat) : String := path ++ "[" ++ toString i ++ "]"

/-- `Key`. -/
def key (path k : String) : String := path ++ "[" ++ k ++ "]"

end FieldPath

/-- One error if the condition holds. -/
def check (bad : Bool) (e : FieldError) : List FieldError := if bad then [e] else []

@[simp] theorem check_eq_nil {bad : Bool} {e : FieldError} : check bad e = [] ↔ bad = false := by
  cases bad <;> simp [check]

/-- A text field that may not be empty. -/
def requireText (path value : String) : List FieldError :=
  check (value == "") { type := .required, field := path }

@[simp] theorem requireText_eq_nil {path value : String} :
    requireText path value = [] ↔ value ≠ "" := by
  simp [requireText]

/-! ### Groups of Fields -/

/-- A field of a group: whether it is set, its name, and the errors of its
    contents. -/
structure FieldChoice where
  set  : Bool
  name : String
  errs : List FieldError := []

/-- The counter of a group: a second field that is set is forbidden, the first
    one is validated. -/
def atMostOne (what path : String) : Nat → List FieldChoice → List FieldError
  | _, [] => []
  | cnt, c :: l =>
      if c.set then
        (if cnt + 1 > 1 then
          [{ type := .forbidden, field := FieldPath.child path c.name,
             detail := "may not specify more than 1 " ++ what }]
        else c.errs) ++ atMostOne what path (cnt + 1) l
      else atMostOne what path cnt l

/-- A group of which exactly one field must be set. -/
def exactlyOne (what path : String) (l : List FieldChoice) : List FieldError :=
  atMostOne what path 0 l ++
    check (l.all (!·.set))
      { type := .required, field := path, detail := "at least 1 " ++ what ++ " is required" }

/-- Once a field is set, no further one is. -/
theorem none_set_of_atMostOne {what path : String} {cnt : Nat} {l : List FieldChoice} (hcnt : 0 < cnt)
    (h : atMostOne what path cnt l = []) : ∀ c ∈ l, c.set = false := by
  induction l generalizing cnt with
  | nil => simp
  | cons c l ih =>
    by_cases hset : c.set = true
    · simp [atMostOne, hset, hcnt] at h
    · simp only [atMostOne, hset] at h
      intro d hd
      rcases List.mem_cons.mp hd with rfl | hd
      · simpa using hset
      · exact ih hcnt h d hd

/-- What the counter lets through: before and after a field that is set none
    is, and its contents are valid. -/
theorem atMostOne_eq_nil {what path : String} {l : List FieldChoice}
    (h : atMostOne what path 0 l = []) :
    l.Pairwise (fun c d => c.set = true → d.set = false) ∧
      ∀ c ∈ l, c.set = true → c.errs = [] := by
  induction l with
  | nil => simp
  | cons c l ih =>
    by_cases hset : c.set = true
    · simp only [atMostOne, hset, if_true, Nat.lt_irrefl, gt_iff_lt, Nat.zero_add, if_false,
        List.append_eq_nil_iff] at h
      have hrest := none_set_of_atMostOne (Nat.one_pos) h.2
      refine ⟨List.pairwise_cons.mpr ⟨fun d hd _ => hrest d hd, ?_⟩, ?_⟩
      · -- nothing after `c` is set, so the pairs of the tail hold trivially
        refine List.pairwise_of_forall_mem_list ?_
        intro d hd e _ hdset
        rw [hrest d hd] at hdset
        cases hdset
      · intro d hd hdset
        rcases List.mem_cons.mp hd with rfl | hd
        · exact h.1
        · rw [hrest d hd] at hdset
          cases hdset
    · simp only [atMostOne, hset] at h
      have ⟨hpair, herrs⟩ := ih h
      refine ⟨List.pairwise_cons.mpr ⟨fun d _ hc => absurd hc hset, hpair⟩, ?_⟩
      intro d hd hdset
      rcases List.mem_cons.mp hd with rfl | hd
      · exact absurd hdset hset
      · exact herrs d hd hdset

/-! ### Lists with Distinct Names -/

/-- A loop over named items from index `i` on, with the names seen so far: a
    name that was seen is a duplicate, and every item is validated. -/
def validateNamed {α : Type} (name : α → String) (validate : α → String → List FieldError)
    (path : String) : List String → Nat → List α → List FieldError
  | _, _, [] => []
  | seen, i, a :: l =>
      check (seen.contains (name a))
        { type := .duplicate, field := FieldPath.child (FieldPath.index path i) "name",
          badValue := name a } ++
      validate a (FieldPath.index path i) ++
      validateNamed name validate path (name a :: seen) (i + 1) l

/-- Without errors the names are new and pairwise distinct, and every item is
    valid. -/
theorem validateNamed_eq_nil {α : Type} {name : α → String}
    {validate : α → String → List FieldError} {path : String} {seen : List String} {i : Nat}
    {l : List α} (h : validateNamed name validate path seen i l = []) :
    (l.map name).Nodup ∧ (∀ a ∈ l, name a ∉ seen) ∧ ∀ a ∈ l, ∃ p, validate a p = [] := by
  induction l generalizing seen i with
  | nil => simp
  | cons a l ih =>
    simp only [validateNamed, List.append_eq_nil_iff, check_eq_nil] at h
    obtain ⟨⟨hseen, hvalid⟩, hrest⟩ := h
    obtain ⟨hnodup, hnew, hall⟩ := ih hrest
    have hnot : name a ∉ l.map name := by
      intro hmem
      obtain ⟨b, hb, hname⟩ := List.mem_map.mp hmem
      exact hnew b hb (by simp [hname])
    refine ⟨List.nodup_cons.mpr ⟨hnot, hnodup⟩, ?_, ?_⟩
    · intro b hb
      rcases List.mem_cons.mp hb with rfl | hb
      · simpa using hseen
      · intro hmem
        exact hnew b hb (List.mem_cons_of_mem _ hmem)
    · intro b hb
      rcases List.mem_cons.mp hb with rfl | hb
      · exact ⟨_, hvalid⟩
      · exact hall b hb

end Virtink
