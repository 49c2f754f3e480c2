import Mathlib.Data.Finset.Interval
import Mathlib.Order.Interval.Finset.Basic
import Mathlib.Data.Int.ConditionallyCompleteOrder
import Mathlib.Data.Int.Interval
import Virtink.Framework.Fuel
import Virtink.Framework.Text
import Virtink.Strconv

/-! # CPU Sets

    The package `cpuset`: a list of CPUs and of ranges of CPUs is parsed into a
    set. The set is a Go map, so `ToSlice` visits its members in any order
    before it sorts them.

    The loop over a range counts in 64 bits and does not end if the range ends
    with the greatest number of 64 bits. `Parse` is exact for every text in
    which it meets no such range (`parse_exact_iff`).
-/

namespace Virtink.CPUSet

open Fuel

/-! ### The Parser -/

/-- The greatest `int`. -/
def maxInt : Int := 2 ^ 63 - 1

/-- `e++` of an `int`. -/
def increment (e : Int) : Int := if e = maxInt then -(2 ^ 63) else e + 1

/-- A turn of the loop over a range that ends with `last`: the CPU and the set. -/
def rangeStep (last : Int) : Int × Finset Int → (Int × Finset Int) ⊕ Finset Int
  | (e, b) => if e ≤ last then .inl (increment e, insert e b) else .inr b

/-- Add the CPUs of a range. -/
def addRange (start last : Int) (b : Finset Int) : Comp (Finset Int) :=
  .loop (rangeStep last) (start, b)

/-- A pass of the loop of `Parse` over the items. -/
def parseItem (b : Finset Int) (r : String) : Comp (Except String (Finset Int)) :=
  match Text.splitFirst '-' r with
  | [elemText] =>
      match atoi elemText with
      | .error e => .pure (.error e)
      | .ok elem => .pure (.ok (insert elem b))
  | [startText, lastText] =>
      match atoi startText with
      | .error e => .pure (.error e)
      | .ok start =>
          match atoi lastText with
          | .error e => .pure (.error e)
          | .ok last =>
              if last < start then
                .pure (.error ("invalid range \"" ++ r ++ "\" (" ++ toString start ++ " > " ++
                  toString last ++ ")"))
              else (addRange start last b).bind (fun b => .pure (.ok b))
  | _ => .pure (.ok b)

/-- The loop of `Parse` over the items. -/
def parseItems : List String → Finset Int → Comp (Except String (Finset Int))
  | [], b => .pure (.ok b)
  | r :: rest, b =>
      (parseItem b r).bind fun
        | .error e => .pure (.error e)
        | .ok b => parseItems rest b

/-- `Parse`. -/
def parse (s : String) : Comp (Except String (Finset Int)) :=
  if s = "" then .pure (.ok ∅) else parseItems (Text.split ',' s) ∅

/-- `ToSlice`, by the order in which the map is visited. -/
def toSlice (visited : List Int) : List Int := visited.mergeSort (fun a b => decide (a ≤ b))

/-- An order in which a map with these keys can be visited. -/
structure Visits (set : Finset Int) (visited : List Int) : Prop where
  nodup : visited.Nodup
  mem   : ∀ c, c ∈ visited ↔ c ∈ set

/-! ### The File -/

/-- `unicode.IsSpace`, by code points. -/
def isSpace (c : Char) : Bool :=
  (9 ≤ c.toNat && c.toNat ≤ 13) || (0x2000 ≤ c.toNat && c.toNat ≤ 0x200a) ||
    c.toNat ∈ [0x20, 0x85, 0xa0, 0x1680, 0x2028, 0x2029, 0x202f, 0x205f, 0x3000]

/-- `strings.TrimSpace`. -/
def trimSpace (s : String) : String :=
  String.ofList (((s.toList.dropWhile isSpace).reverse.dropWhile isSpace).reverse)

/-- `Get`, by what reading the file yields. -/
def get (file : Except String String) : Comp (Except String (Finset Int)) :=
  match file with
  | .error e => .pure (.error ("read CPU set file: " ++ e))
  | .ok b => parse (trimSpace b)

/-! ### What a Text Denotes -/

/-- The text of an item and the first and the last CPU that it denotes. -/
inductive Item : String → Int → Int → Prop where
  | single {r : String} {c : Int} (hdash : '-' ∉ r.toList) (h : atoi r = .ok c) : Item r c c
  | range {n m : String} {first last : Int} (hdash : '-' ∉ n.toList) (hfirst : atoi n = .ok first)
      (hlast : atoi m = .ok last) (hle : first ≤ last) : Item (n ++ "-" ++ m) first last

/-- The text is a list of items, separated by commas. -/
structure ListOf (s : String) (items : List String) : Prop where
  text  : s = Text.join ',' items
  items : ∀ r ∈ items, ∃ first last, Item r first last

/-- The text is empty or a list of items. -/
def WellFormed (s : String) : Prop := s = "" ∨ ∃ items, items ≠ [] ∧ ListOf s items

/-- The CPUs that a list of items denotes. -/
def Denotes (s : String) (c : Int) : Prop :=
  ∃ items, ListOf s items ∧ ∃ r ∈ items, ∃ first last, Item r first last ∧ first ≤ c ∧ c ≤ last

/-- A range that ends with the greatest `int`. -/
def Endless (r : String) : Prop :=
  ∃ n m first, '-' ∉ n.toList ∧ r = n ++ "-" ++ m ∧ atoi n = .ok first ∧ atoi m = .ok maxInt

/-- The parser meets such a range: there are only items before it. -/
def MeetsEndless (l : List String) : Prop :=
  ∃ before r after, l = before ++ r :: after ∧ (∀ x ∈ before, ∃ first last, Item x first last) ∧
    Endless r

/-! ### Ranges -/

theorem atoi_le_maxInt {s : String} {n : Int} (h : atoi s = .ok n) : n ≤ maxInt := by
  have hlt := parseInt_lt (atoi_eq_ok.mp h)
  simp only [maxInt]
  omega

theorem no_comma_of_atoi {s : String} {n : Int} (h : atoi s = .ok n) : ',' ∉ s.toList := by
  intro hmem
  have hdigit := digits_of_parseInt (atoi_eq_ok.mp h) ',' hmem
  revert hdigit
  decide

theorem increment_of_lt {e : Int} (h : e < maxInt) : increment e = e + 1 := if_neg h.ne

/-- **Loop**: a range that ends before the greatest `int` is added as a whole. The
    induction is on the number of CPUs that are left. -/
theorem addRange_returns {start last : Int} (hlast : last < maxInt) (b : Finset Int) :
    (addRange start last b).Returns (b ∪ Finset.Icc start last) := by
  induction hk : (last + 1 - start).toNat generalizing start b with
  | zero =>
    have hend : rangeStep last (start, b) = .inr b := if_neg (by omega)
    rw [Finset.Icc_eq_empty (by omega), Finset.union_empty]
    exact returns_loop_of_end hend
  | succ k ih =>
    have hnext : rangeStep last (start, b) = .inl (start + 1, insert start b) := by
      simp only [rangeStep]
      rw [if_pos (by omega), increment_of_lt (by omega)]
    have hsplit : b ∪ Finset.Icc start last =
        insert start b ∪ Finset.Icc (start + 1) last := by
      ext c
      simp only [Finset.mem_union, Finset.mem_Icc, Finset.mem_insert]
      by_cases hc : c ∈ b
      · simp only [hc, true_or, or_true]
      · simp only [hc, false_or, or_false]
        omega
    rw [addRange, returns_loop_of_next hnext, hsplit]
    exact ih (insert start b) (by omega)

/-- No CPU is beyond the greatest `int`: the loop goes on with the least one. -/
theorem addRange_endless {start : Int} (hstart : start ≤ maxInt) {b out : Finset Int} :
    ¬ (addRange start maxInt b).Returns out := by
  apply not_returns_loop (fun s => s.1 ≤ maxInt) _ hstart
  rintro ⟨e, b⟩ he
  refine ⟨(increment e, insert e b), if_pos he, ?_⟩
  show increment e ≤ maxInt
  unfold increment
  split
  · decide
  · have hlt : e < maxInt := lt_of_le_of_ne he (by assumption)
    omega

/-! ### Items -/

theorem dash_eq : "-" = String.singleton '-' := by decide

/-- What the parser finds in an item. -/
theorem Item.parts {r : String} {first last : Int} (h : Item r first last) :
    (Text.splitFirst '-' r = [r] ∧ atoi r = .ok first ∧ last = first) ∨
      ∃ n m, Text.splitFirst '-' r = [n, m] ∧ atoi n = .ok first ∧ atoi m = .ok last := by
  cases h with
  | single hdash h => exact .inl ⟨Text.splitFirst_of_not_mem hdash, h, rfl⟩
  | @range n m _ _ hdash hfirst hlast _ =>
    refine .inr ⟨n, m, ?_, hfirst, hlast⟩
    rw [dash_eq]
    exact Text.splitFirst_append hdash

/-- A text denotes one range at most. -/
theorem Item.unique {r : String} {first last first' last' : Int} (h : Item r first last)
    (h' : Item r first' last') : first = first' ∧ last = last' := by
  rcases h.parts with ⟨hsplit, hfirst, hlast⟩ | ⟨n, m, hsplit, hfirst, hlast⟩ <;>
    rcases h'.parts with ⟨hsplit', hfirst', hlast'⟩ | ⟨n', m', hsplit', hfirst', hlast'⟩ <;>
      rw [hsplit] at hsplit'
  · rw [hfirst] at hfirst'
    cases hfirst'
    exact ⟨rfl, hlast.trans hlast'.symm⟩
  · simp at hsplit'
  · simp at hsplit'
  · simp only [List.cons.injEq, and_true] at hsplit'
    obtain ⟨rfl, rfl⟩ := hsplit'
    rw [hfirst] at hfirst'
    rw [hlast] at hlast'
    cases hfirst'
    cases hlast'
    exact ⟨rfl, rfl⟩

/-- The CPUs of an item are not negative: its first number has no sign. -/
theorem Item.nonneg {r : String} {first last : Int} (h : Item r first last) : 0 ≤ first := by
  cases h with
  | single hdash h => exact parseInt_nonneg (atoi_eq_ok.mp h) hdash
  | range hdash hfirst _ _ => exact parseInt_nonneg (atoi_eq_ok.mp hfirst) hdash

/-- There is no comma in an item. -/
theorem Item.no_comma {r : String} {first last : Int} (h : Item r first last) :
    ',' ∉ r.toList := by
  cases h with
  | single _ h => exact no_comma_of_atoi h
  | range _ hfirst hlast _ =>
    simp [String.toList_append, no_comma_of_atoi hfirst, no_comma_of_atoi hlast]

/-- **Pass**: an item that does not run to the greatest `int` is added. -/
theorem parseItem_of_item {r : String} {first last : Int} (h : Item r first last)
    (hend : ¬ Endless r) (b : Finset Int) :
    (parseItem b r).Returns (.ok (b ∪ Finset.Icc first last)) := by
  cases h with
  | single hdash h =>
    simp only [parseItem, Text.splitFirst_of_not_mem hdash, h, returns_pure, Finset.Icc_self,
      Finset.union_comm b]
    rfl
  | @range n m _ _ hdash hfirst hlast hle =>
    have hlt : last < maxInt := by
      refine lt_of_le_of_ne (atoi_le_maxInt hlast) ?_
      rintro rfl
      exact hend ⟨n, m, first, hdash, rfl, hfirst, hlast⟩
    simp only [parseItem, dash_eq, Text.splitFirst_append hdash, hfirst, hlast]
    rw [if_neg (by omega), returns_bind_of (addRange_returns hlt b), returns_pure]

/-- **Pass**: a range that runs to the greatest `int` is never left. -/
theorem parseItem_of_endless {r : String} (h : Endless r) {b : Finset Int}
    {out : Except String (Finset Int)} : ¬ (parseItem b r).Returns out := by
  obtain ⟨n, m, first, hdash, rfl, hfirst, hlast⟩ := h
  have hle := atoi_le_maxInt hfirst
  simp only [parseItem, dash_eq, Text.splitFirst_append hdash, hfirst, hlast]
  rw [if_neg (by omega), returns_bind]
  rintro ⟨set, hset, -⟩
  exact addRange_endless hle hset

/-- **Pass**: everything else is an error. -/
theorem parseItem_of_not_item {r : String} (h : ¬ ∃ first last, Item r first last)
    (b : Finset Int) : ∃ e, (parseItem b r).Returns (.error e) := by
  rcases Text.not_mem_or_append '-' r with hdash | ⟨n, m, hdash, rfl⟩
  · cases hatoi : atoi r with
    | error e => exact ⟨e, by simp only [parseItem, Text.splitFirst_of_not_mem hdash, hatoi,
        returns_pure]⟩
    | ok c => exact absurd ⟨c, c, .single hdash hatoi⟩ h
  · simp only [parseItem, Text.splitFirst_append hdash]
    cases hfirst : atoi n with
    | error e => exact ⟨e, returns_pure.mpr rfl⟩
    | ok first =>
      cases hlast : atoi m with
      | error e => exact ⟨e, returns_pure.mpr rfl⟩
      | ok last =>
        by_cases hlt : last < first
        · dsimp only
          rw [if_pos hlt]
          exact ⟨_, returns_pure.mpr rfl⟩
        · exact absurd ⟨first, last, dash_eq ▸ .range hdash hfirst hlast (by omega)⟩ h

/-! ### Lists of Items -/

/-- The CPU is in one of the items. -/
def InItems (l : List String) (c : Int) : Prop :=
  ∃ r ∈ l, ∃ first last, Item r first last ∧ first ≤ c ∧ c ≤ last

theorem inItems_cons {r : String} {l : List String} {first last c : Int}
    (h : Item r first last) :
    InItems (r :: l) c ↔ (first ≤ c ∧ c ≤ last) ∨ InItems l c := by
  constructor
  · rintro ⟨x, hx, first', last', hitem, hc⟩
    rcases List.mem_cons.mp hx with rfl | hx
    · obtain ⟨rfl, rfl⟩ := h.unique hitem
      exact .inl hc
    · exact .inr ⟨x, hx, first', last', hitem, hc⟩
  · rintro (hc | ⟨x, hx, hrest⟩)
    · exact ⟨r, List.mem_cons_self, first, last, h, hc⟩
    · exact ⟨x, List.mem_cons_of_mem r hx, hrest⟩

theorem not_endless_of_not_meets {r : String} {l : List String} (h : ¬ MeetsEndless (r :: l)) :
    ¬ Endless r := by
  intro hr
  exact h ⟨[], r, l, rfl, by simp, hr⟩

theorem not_meets_of_item {r : String} {l : List String} (h : ¬ MeetsEndless (r :: l))
    (hr : ∃ first last, Item r first last) : ¬ MeetsEndless l := by
  rintro ⟨before, x, after, rfl, hbefore, hx⟩
  refine h ⟨r :: before, x, after, rfl, ?_, hx⟩
  intro y hy
  rcases List.mem_cons.mp hy with rfl | hy
  · exact hr
  · exact hbefore y hy

/-- **Loop**: items are added one after another. -/
theorem parseItems_of_items {l : List String} (hitems : ∀ r ∈ l, ∃ first last, Item r first last)
    (hmeets : ¬ MeetsEndless l) (b : Finset Int) :
    ∃ set, (parseItems l b).Returns (.ok set) ∧ ∀ c, c ∈ set ↔ c ∈ b ∨ InItems l c := by
  induction l generalizing b with
  | nil => exact ⟨b, returns_pure.mpr rfl, by simp [InItems]⟩
  | cons r l ih =>
    have hr := hitems r List.mem_cons_self
    obtain ⟨first, last, hitem⟩ := hr
    have hpass := parseItem_of_item hitem (not_endless_of_not_meets hmeets) b
    obtain ⟨set, hset, hmem⟩ := ih (fun x hx => hitems x (List.mem_cons_of_mem r hx))
      (not_meets_of_item hmeets ⟨first, last, hitem⟩) (b ∪ Finset.Icc first last)
    refine ⟨set, (returns_bind_of hpass).mpr hset, ?_⟩
    intro c
    rw [hmem, inItems_cons hitem, Finset.mem_union, Finset.mem_Icc, or_assoc]

/-- **Loop**: the first text that is no item ends the loop with an error. -/
theorem parseItems_of_not_items {l : List String}
    (hitems : ¬ ∀ r ∈ l, ∃ first last, Item r first last) (hmeets : ¬ MeetsEndless l)
    (b : Finset Int) : ∃ e, (parseItems l b).Returns (.error e) := by
  induction l generalizing b with
  | nil => simp at hitems
  | cons r l ih =>
    by_cases hr : ∃ first last, Item r first last
    · obtain ⟨first, last, hitem⟩ := hr
      have hpass := parseItem_of_item hitem (not_endless_of_not_meets hmeets) b
      have hrest : ¬ ∀ x ∈ l, ∃ first last, Item x first last := by
        intro hall
        apply hitems
        intro x hx
        rcases List.mem_cons.mp hx with rfl | hx
        · exact ⟨first, last, hitem⟩
        · exact hall x hx
      obtain ⟨e, he⟩ := ih hrest (not_meets_of_item hmeets ⟨first, last, hitem⟩) _
      exact ⟨e, (returns_bind_of hpass).mpr he⟩
    · obtain ⟨e, he⟩ := parseItem_of_not_item hr b
      exact ⟨e, (returns_bind_of he).mpr (returns_pure.mpr rfl)⟩

/-- **Loop**: a range that runs to the greatest `int` is never left. -/
theorem parseItems_of_meets {l : List String} (h : MeetsEndless l) {b : Finset Int}
    {out : Except String (Finset Int)} : ¬ (parseItems l b).Returns out := by
  obtain ⟨before, r, after, rfl, hbefore, hr⟩ := h
  induction before generalizing b with
  | nil =>
    show ¬ ((parseItem b r).bind _).Returns out
    rw [returns_bind]
    rintro ⟨set, hset, -⟩
    exact parseItem_of_endless hr hset
  | cons x before ih =>
    show ¬ ((parseItem b x).bind _).Returns out
    obtain ⟨first, last, hitem⟩ := hbefore x List.mem_cons_self
    by_cases hx : Endless x
    · rw [returns_bind]
      rintro ⟨set, hset, -⟩
      exact parseItem_of_endless hx hset
    · rw [returns_bind_of (parseItem_of_item hitem hx b)]
      exact ih (fun y hy => hbefore y (List.mem_cons_of_mem x hy))

/-! ### Slices -/

theorem mem_toSlice {set : Finset Int} {visited : List Int} (h : Visits set visited) (c : Int) :
    c ∈ toSlice visited ↔ c ∈ set :=
  (List.mergeSort_perm visited _).mem_iff.trans (h.mem c)

/-- The slice is sorted, and the keys of a map are distinct. -/
theorem toSlice_increasing {set : Finset Int} {visited : List Int} (h : Visits set visited) :
    (toSlice visited).Pairwise (· < ·) := by
  have hsorted : (toSlice visited).Pairwise (· ≤ ·) :=
    List.pairwise_mergeSort' (· ≤ ·) visited
  have hnodup : (toSlice visited).Nodup := (List.mergeSort_perm visited _).nodup_iff.mpr h.nodup
  exact hsorted.imp₂ (fun _ _ hle hne => lt_of_le_of_ne hle hne) hnodup

/-! ### The Parser Is Exact -/

/-- A text that is not empty is a list of items in one way at most. -/
theorem ListOf.eq_split {s : String} {items : List String} (h : ListOf s items)
    (hitems : items ≠ []) : items = Text.split ',' s := by
  rw [h.text]
  refine (Text.split_join ?_ hitems).symm
  intro r hr
  obtain ⟨first, last, hitem⟩ := h.items r hr
  exact hitem.no_comma

/-- The CPUs that a text denotes are those of its parts. -/
theorem denotes_iff {s : String} (hparts : ∀ r ∈ Text.split ',' s, ∃ first last, Item r first last)
    (c : Int) : Denotes s c ↔ InItems (Text.split ',' s) c := by
  constructor
  · rintro ⟨items, hlist, r, hr, hrest⟩
    rw [← hlist.eq_split (List.ne_nil_of_mem hr)]
    exact ⟨r, hr, hrest⟩
  · intro hin
    exact ⟨Text.split ',' s, ⟨(Text.join_split ',' s).symm, hparts⟩, hin⟩

theorem not_denotes_empty (c : Int) : ¬ Denotes "" c := by
  rintro ⟨items, hlist, r, hr, -⟩
  -- the only part of the empty text is empty, and no number is
  have hitems := hlist.eq_split (List.ne_nil_of_mem hr)
  obtain ⟨first, last, hitem⟩ := hlist.items r hr
  rw [hitems, Text.split_empty, List.mem_singleton] at hr
  subst hr
  rcases hitem.parts with ⟨-, hatoi, -⟩ | ⟨n, m, hsplit, -, -⟩
  · cases hatoi
  · cases hsplit

theorem parse_of_ne {s : String} (h : s ≠ "") : parse s = parseItems (Text.split ',' s) ∅ :=
  if_neg h

/-- A list of items is parsed into the CPUs that it denotes. -/
theorem parse_of_wellFormed {s : String} (h : WellFormed s)
    (hmeets : ¬ MeetsEndless (Text.split ',' s)) :
    ∃ set, (parse s).Returns (.ok set) ∧ ∀ c, c ∈ set ↔ Denotes s c := by
  by_cases hs : s = ""
  · subst hs
    exact ⟨∅, returns_pure.mpr rfl, by simp [not_denotes_empty]⟩
  · rcases h with h | ⟨items, hitems, hlist⟩
    · exact absurd h hs
    · have hparts := hlist.eq_split hitems ▸ hlist.items
      obtain ⟨set, hset, hmem⟩ := parseItems_of_items hparts hmeets ∅
      refine ⟨set, parse_of_ne hs ▸ hset, ?_⟩
      intro c
      rw [hmem, denotes_iff hparts]
      simp

/-- Every other text is an error. -/
theorem parse_of_not_wellFormed {s : String} (h : ¬ WellFormed s)
    (hmeets : ¬ MeetsEndless (Text.split ',' s)) : ∃ e, (parse s).Returns (.error e) := by
  have hs : s ≠ "" := fun heq => h (.inl heq)
  rw [parse_of_ne hs]
  refine parseItems_of_not_items ?_ hmeets ∅
  intro hparts
  exact h (.inr ⟨_, Text.split_ne_nil ',' s, (Text.join_split ',' s).symm, hparts⟩)

/-- Where the parser ends, it has met no endless range. -/
theorem not_meets_of_returns {s : String} {out : Except String (Finset Int)}
    (h : (parse s).Returns out) : ¬ MeetsEndless (Text.split ',' s) := by
  intro hmeets
  have hs : s ≠ "" := by
    rintro rfl
    obtain ⟨before, x, after, hsplit, -, n, m, -, -, hx, -⟩ := hmeets
    rw [Text.split_empty] at hsplit
    have hmem : x ∈ [""] := hsplit ▸ by simp
    rw [List.mem_singleton.mp hmem] at hx
    have hdash : '-' ∈ "".toList := hx ▸ by simp
    simp at hdash
  rw [parse_of_ne hs] at h
  exact parseItems_of_meets hmeets h

/-- What the parser accepts is a list of items, and the set is what it denotes. -/
theorem parse_ok {s : String} {set : Finset Int} (h : (parse s).Returns (.ok set)) :
    WellFormed s ∧ ∀ c, c ∈ set ↔ Denotes s c := by
  have hmeets := not_meets_of_returns h
  by_cases hs : WellFormed s
  · obtain ⟨set', hset, hmem⟩ := parse_of_wellFormed hs hmeets
    cases h.unique hset
    exact ⟨hs, hmem⟩
  · obtain ⟨e, he⟩ := parse_of_not_wellFormed hs hmeets
    cases h.unique he

theorem parse_nonneg {s : String} {set : Finset Int} (h : (parse s).Returns (.ok set)) :
    ∀ c ∈ set, 0 ≤ c := by
  intro c hc
  obtain ⟨items, -, r, -, first, last, hitem, hle, -⟩ := ((parse_ok h).2 c).mp hc
  exact hitem.nonneg.trans hle

/-- What there is to say about the parser on a text. -/
structure Exact (s : String) : Prop where
  terminates : ∃ r, (parse s).Returns r
  accepts    : (∃ set, (parse s).Returns (.ok set)) ↔ WellFormed s
  members    : ∀ set, (parse s).Returns (.ok set) → ∀ c, c ∈ set ↔ Denotes s c
  nonneg     : ∀ set, (parse s).Returns (.ok set) → ∀ c ∈ set, 0 ≤ c
  slice      : ∀ set, (parse s).Returns (.ok set) → ∀ visited, Visits set visited →
    (toSlice visited).Pairwise (· < ·) ∧ ∀ c, c ∈ toSlice visited ↔ c ∈ set

/-- **The parser is exact** for exactly the texts in which it meets no range that
    ends with the greatest `int`; on the others it does not end. -/
theorem parse_exact_iff (s : String) : Exact s ↔ ¬ MeetsEndless (Text.split ',' s) := by
  constructor
  · intro hexact
    obtain ⟨r, hr⟩ := hexact.terminates
    exact not_meets_of_returns hr
  · intro hmeets
    have hterminates : ∃ r, (parse s).Returns r := by
      by_cases hs : WellFormed s
      · obtain ⟨set, hset, -⟩ := parse_of_wellFormed hs hmeets
        exact ⟨_, hset⟩
      · obtain ⟨e, he⟩ := parse_of_not_wellFormed hs hmeets
        exact ⟨_, he⟩
    refine ⟨hterminates, ⟨?_, ?_⟩, ?_, ?_, ?_⟩
    · rintro ⟨set, hset⟩
      exact (parse_ok hset).1
    · intro hs
      obtain ⟨set, hset, -⟩ := parse_of_wellFormed hs hmeets
      exact ⟨set, hset⟩
    · intro set hset
      exact (parse_ok hset).2
    · intro set hset
      exact parse_nonneg hset
    · intro set _ visited hvisits
      exact ⟨toSlice_increasing hvisits, mem_toSlice hvisits⟩

/-- The greatest `int` in a range of its own: `e++` wraps before it is compared. -/
theorem parse_does_not_end :
    (¬ ∃ r, (parse "9223372036854775807-9223372036854775807").Returns r) ∧
      ¬ Exact "9223372036854775807-9223372036854775807" := by
  have hatoi : atoi "9223372036854775807" = .ok maxInt := by decide
  have hmeets : MeetsEndless (Text.split ',' "9223372036854775807-9223372036854775807") :=
    ⟨[], "9223372036854775807-9223372036854775807", [], by decide, by simp,
      "9223372036854775807", "9223372036854775807", maxInt, by decide, by decide, hatoi, hatoi⟩
  have hend : ¬ ∃ r, (parse "9223372036854775807-9223372036854775807").Returns r := by
    rintro ⟨r, hr⟩
    exact not_meets_of_returns hr hmeets
  exact ⟨hend, fun h => hend h.terminates⟩

end Virtink.CPUSet
