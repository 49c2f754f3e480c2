import Mathlib.Data.List.Basic
import Mathlib.Data.List.DropRight
import Mathlib.Data.List.TakeWhile

/-! # Separated Texts and Rooted Paths

    Lists of texts written into one text with a separator, and paths that
    start at the root. A path is joined from parts as POSIX tools do it: the
    parts are cut at every slash, empty parts and `.` disappear and `..` takes
    back the component before it.

    A text without the separator survives writing and reading (`split_join`),
    trimming tells texts apart up to separators at their ends
    (`trim_eq_trim_iff`), and a proper component at the end of a path is kept
    as it is (`Path.join_concat`, `Path.base_join_concat`).
-/

namespace Text

/-! ### Separators -/

/-- `join sep [a, b, …]` is the text `a sep b sep …`. -/
def join (sep : Char) (l : List String) : String :=
  String.ofList ([sep].intercalate (l.map String.toList))

/-- The parts of a text between separators; the empty text has one empty part. -/
def split (sep : Char) (s : String) : List String :=
  (s.toList.splitOn sep).map String.ofList

theorem map_ofList_toList (l : List String) : (l.map String.toList).map String.ofList = l := by
  induction l with
  | nil => rfl
  | cons s l ih => simp [ih]

/-- **Round trip**: texts without the separator are read back. -/
theorem split_join {sep : Char} {l : List String} (hsep : ∀ s ∈ l, sep ∉ s.toList) (hl : l ≠ []) :
    split sep (join sep l) = l := by
  have hparts : ∀ cs ∈ l.map String.toList, sep ∉ cs := by
    intro cs hcs
    obtain ⟨s, hs, rfl⟩ := List.mem_map.mp hcs
    exact hsep s hs
  have hne : l.map String.toList ≠ [] := by
    intro h
    exact hl (List.map_eq_nil_iff.mp h)
  simp only [split, join, String.toList_ofList, List.splitOn_intercalate sep hparts hne,
    map_ofList_toList]

/-- The parts of a text make up the text. -/
theorem join_split (sep : Char) (s : String) : join sep (split sep s) = s := by
  have hparts : ((s.toList.splitOn sep).map String.ofList).map String.toList =
      s.toList.splitOn sep := by
    rw [List.map_map]
    exact List.map_id'' (fun _ => String.toList_ofList) _
  rw [join, split, hparts, List.intercalate_splitOn, String.ofList_toList]

theorem split_ne_nil (sep : Char) (s : String) : split sep s ≠ [] := by
  rw [split, ne_eq, List.map_eq_nil_iff]
  exact List.splitOn_ne_nil sep s.toList

/-- A text without the separator is its only part. -/
theorem split_eq_singleton {sep : Char} {s : String} (h : sep ∉ s.toList) : split sep s = [s] := by
  have hjoin : join sep [s] = s := by simp [join, List.intercalate]
  have hsep : ∀ t ∈ [s], sep ∉ t.toList := by
    intro t ht
    rw [List.mem_singleton.mp ht]
    exact h
  have hsplit := split_join hsep (List.cons_ne_nil s [])
  rwa [hjoin] at hsplit

@[simp] theorem split_empty (sep : Char) : split sep "" = [""] :=
  split_eq_singleton (by simp)

/-- The parts of a text have no separator. -/
theorem not_mem_of_mem_splitOn {sep : Char} {l cs : List Char} (h : cs ∈ l.splitOn sep) :
    sep ∉ cs := by
  induction l generalizing cs with
  | nil =>
    have hnil : cs = [] := by simpa using h
    rw [hnil]
    exact List.not_mem_nil
  | cons c l ih =>
    rw [List.splitOn_cons_eq_if_modifyHead] at h
    split at h
    · -- the separator begins a new part
      rcases List.mem_cons.mp h with rfl | h
      · exact List.not_mem_nil
      · exact ih h
    · next hc =>
      cases hsplit : l.splitOn sep with
      | nil => exact absurd hsplit (List.splitOn_ne_nil sep l)
      | cons first rest =>
        rw [hsplit] at h ih
        rcases List.mem_cons.mp h with rfl | h
        · intro hmem
          rcases List.mem_cons.mp hmem with rfl | hmem
          · exact hc (beq_self_eq_true _)
          · exact ih List.mem_cons_self hmem
        · exact ih (List.mem_cons_of_mem _ h)

theorem not_mem_of_mem_split {sep : Char} {s t : String} (h : t ∈ split sep s) :
    sep ∉ t.toList := by
  obtain ⟨cs, hcs, rfl⟩ := List.mem_map.mp h
  rw [String.toList_ofList]
  exact not_mem_of_mem_splitOn hcs

/-- The parts of a text before and after the first separator, or the text alone
    if there is none. -/
def splitFirst (sep : Char) (s : String) : List String :=
  match s.toList.dropWhile (· ≠ sep) with
  | [] => [s]
  | _ :: after => [String.ofList (s.toList.takeWhile (· ≠ sep)), String.ofList after]

theorem splitFirst_of_not_mem {sep : Char} {s : String} (h : sep ∉ s.toList) :
    splitFirst sep s = [s] := by
  have hall : s.toList.dropWhile (· ≠ sep) = [] := by
    apply List.dropWhile_eq_nil_iff.mpr
    intro c hc
    exact decide_eq_true (fun heq => h (heq ▸ hc))
  simp only [splitFirst, hall]

theorem splitFirst_append {sep : Char} {s t : String} (h : sep ∉ s.toList) :
    splitFirst sep (s ++ String.singleton sep ++ t) = [s, t] := by
  have hall : ∀ c ∈ s.toList, decide (c ≠ sep) = true := by
    intro c hc
    exact decide_eq_true (fun heq => h (heq ▸ hc))
  have hlist : (s ++ String.singleton sep ++ t).toList = s.toList ++ sep :: t.toList := by
    simp [String.toList_append]
  simp only [splitFirst, hlist, List.dropWhile_append_of_pos hall,
    List.takeWhile_append_of_pos hall]
  simp

/-- A text has no separator, or a first one. -/
theorem not_mem_or_append (sep : Char) (s : String) :
    sep ∉ s.toList ∨
      ∃ before after, sep ∉ before.toList ∧ s = before ++ String.singleton sep ++ after := by
  by_cases h : sep ∈ s.toList
  · obtain ⟨l, l', hl, hnot⟩ := List.eq_append_cons_of_mem h
    refine .inr ⟨String.ofList l, String.ofList l', by simpa using hnot, ?_⟩
    apply String.toList_injective
    simp [String.toList_append, hl]
  · exact .inl h

/-- A text with one separator is split there in one way. -/
theorem eq_of_append_separator {sep : Char} {s t s' t' : String} (hs : sep ∉ s.toList)
    (ht : sep ∉ t.toList)
    (h : s' ++ String.singleton sep ++ t' = s ++ String.singleton sep ++ t) : s' = s := by
  have hsplit := congrArg (splitFirst sep) h
  rw [splitFirst_append hs] at hsplit
  rcases not_mem_or_append sep s' with hs' | ⟨before, after, hbefore, rfl⟩
  · rw [splitFirst_append hs'] at hsplit
    exact (List.cons.inj hsplit).1
  · have hassoc : before ++ String.singleton sep ++ after ++ String.singleton sep ++ t' =
        before ++ String.singleton sep ++ (after ++ String.singleton sep ++ t') := by
      simp only [String.append_assoc]
    rw [hassoc, splitFirst_append hbefore] at hsplit
    simp only [List.cons.injEq, and_true] at hsplit
    rw [← hsplit.2] at ht
    exact absurd (by simp [String.toList_append]) ht

/-! ### Trimming -/

/-- A text of separators. -/
def pad (sep : Char) (n : Nat) : String := String.ofList (List.replicate n sep)

/-- The text without the separators at its ends. -/
def trim (sep : Char) (s : String) : String :=
  String.ofList ((s.toList.dropWhile (· == sep)).rdropWhile (· == sep))

/-- Two texts that differ only in separators at their ends. -/
def SameInside (sep : Char) (s t : String) : Prop :=
  ∃ inside m n m' n', s = pad sep m ++ inside ++ pad sep n ∧ t = pad sep m' ++ inside ++ pad sep n'

section trim
variable (sep : Char)

theorem dropWhile_replicate_append (n : Nat) (l : List Char) :
    (List.replicate n sep ++ l).dropWhile (· == sep) = l.dropWhile (· == sep) := by
  apply List.dropWhile_append_of_pos
  intro c hc
  rw [List.eq_of_mem_replicate hc, beq_self_eq_true]

theorem rdropWhile_append_replicate (n : Nat) (l : List Char) :
    (l ++ List.replicate n sep).rdropWhile (· == sep) = l.rdropWhile (· == sep) := by
  rw [List.rdropWhile, List.reverse_append, List.reverse_replicate, dropWhile_replicate_append,
    List.rdropWhile]

/-- Separators around a text are trimmed with its own. -/
theorem trim_pad (m n : Nat) (s : String) :
    trim sep (pad sep m ++ s ++ pad sep n) = trim sep s := by
  have hlist : (pad sep m ++ s ++ pad sep n).toList =
      List.replicate m sep ++ (s.toList ++ List.replicate n sep) := by
    simp [pad, String.toList_append]
  rw [trim, hlist, dropWhile_replicate_append, List.dropWhile_append, trim]
  split
  · next hall =>
    -- the text has nothing but separators
    have hnone : (List.replicate n sep).dropWhile (· == sep) = [] := by
      have hpad := dropWhile_replicate_append sep n []
      rwa [List.append_nil, List.dropWhile_nil] at hpad
    rw [hnone, List.isEmpty_iff.mp hall]
  · rw [rdropWhile_append_replicate]

/-- Only separators are trimmed. -/
theorem eq_pad_trim (s : String) : ∃ m n, s = pad sep m ++ trim sep s ++ pad sep n := by
  have hpad : ∀ l : List Char, (∀ c ∈ l, (c == sep) = true) → l = List.replicate l.length sep :=
    fun l hl => List.eq_replicate_iff.mpr ⟨rfl, fun c hc => beq_iff_eq.mp (hl c hc)⟩
  set rest := s.toList.dropWhile (· == sep) with hrest
  have hleft : s.toList.takeWhile (· == sep) =
      List.replicate (s.toList.takeWhile (· == sep)).length sep :=
    hpad _ fun c hc => List.mem_takeWhile_imp (p := fun c => c == sep) hc
  have hright : rest.rtakeWhile (· == sep) =
      List.replicate (rest.rtakeWhile (· == sep)).length sep :=
    hpad _ fun c hc => List.mem_rtakeWhile_imp (p := fun c => c == sep) hc
  refine ⟨(s.toList.takeWhile (· == sep)).length, (rest.rtakeWhile (· == sep)).length,
    String.toList_injective ?_⟩
  calc s.toList
      = s.toList.takeWhile (· == sep) ++ rest := List.takeWhile_append_dropWhile.symm
    _ = s.toList.takeWhile (· == sep) ++
          (rest.rdropWhile (· == sep) ++ rest.rtakeWhile (· == sep)) := by
        rw [List.rdropWhile_append_rtakeWhile]
    _ = _ := by
        simp only [pad, trim, String.toList_append, String.toList_ofList, List.append_assoc,
          ← hleft, ← hright, ← hrest]

variable {sep}

/-- **Trimming** finds out whether two texts are the same inside. -/
theorem trim_eq_trim_iff {s t : String} : trim sep s = trim sep t ↔ SameInside sep s t := by
  constructor
  · intro h
    obtain ⟨m, n, hs⟩ := eq_pad_trim sep s
    obtain ⟨m', n', ht⟩ := eq_pad_trim sep t
    rw [← h] at ht
    exact ⟨trim sep s, m, n, m', n', hs, ht⟩
  · rintro ⟨inside, m, n, m', n', rfl, rfl⟩
    rw [trim_pad, trim_pad]

/-- A text without separators at its ends stays as it is. -/
theorem trim_eq_self {s : String} (hfirst : s.toList.head? ≠ some sep)
    (hlast : s.toList.getLast? ≠ some sep) : trim sep s = s := by
  have hleft : s.toList.dropWhile (· == sep) = s.toList := by
    rw [List.dropWhile_eq_self_iff]
    intro hpos heq
    apply hfirst
    rw [List.head?_eq_getElem?, List.getElem?_eq_getElem hpos, beq_iff_eq.mp heq]
  have hright : s.toList.rdropWhile (· == sep) = s.toList := by
    rw [List.rdropWhile_eq_self_iff]
    intro hne heq
    apply hlast
    rw [List.getLast?_eq_some_getLast hne, beq_iff_eq.mp heq]
  rw [trim, hleft, hright, String.ofList_toList]

end trim

/-! ### Distinct Texts -/

/-- Texts that differ somewhere in their first characters differ. -/
theorem ne_of_take {s t : String} (n : Nat) (h : s.toList.take n ≠ t.toList.take n) : s ≠ t := by
  rintro rfl
  exact h rfl

/-- Numbers are written differently. -/
theorem toString_injective : Function.Injective (toString : Nat → String) := by
  intro m n h
  simp only [Nat.toString_eq_ofList_toDigits] at h
  have hdigits := congrArg (fun s : String => Nat.ofDigitChars 10 s.toList 0) h
  simpa [Nat.ofDigitChars_ten_toDigits] using hdigits

/-! ### Rooted Paths -/

namespace Path

/-- A proper component of a path. -/
structure Component (c : String) : Prop where
  no_slash : '/' ∉ c.toList
  ne_empty : c ≠ ""
  ne_dot   : c ≠ "."
  ne_dots  : c ≠ ".."

/-- One part of a path that is being resolved. -/
def resolveStep (stack : List String) (c : String) : List String :=
  if c = "" ∨ c = "." then stack
  else if c = ".." then stack.dropLast
  else stack ++ [c]

/-- The components of the path that the parts denote. -/
def resolve (parts : List String) : List String :=
  (parts.flatMap (split '/')).foldl resolveStep []

/-- The path with these components. -/
def render (stack : List String) : String :=
  match stack with
  | [] => "/"
  | c :: l => l.foldl (fun s d => s ++ "/" ++ d) ("/" ++ c)

/-- The cleaned path that the parts denote. -/
def join (parts : List String) : String := render (resolve parts)

/-- The last component of a path. -/
def base (path : String) : String :=
  String.ofList (path.toList.reverse.takeWhile (· ≠ '/')).reverse

theorem resolve_concat {c : String} (hc : Component c) (parts : List String) :
    resolve (parts ++ [c]) = resolve parts ++ [c] := by
  have hkeep : ∀ stack, resolveStep stack c = stack ++ [c] := by
    intro stack
    simp [resolveStep, hc.ne_empty, hc.ne_dot, hc.ne_dots]
  simp [resolve, split_eq_singleton hc.no_slash, hkeep]

theorem render_concat {stack : List String} (hne : stack ≠ []) (c : String) :
    render (stack ++ [c]) = render stack ++ "/" ++ c := by
  match stack, hne with
  | d :: l, _ => simp [render]

/-- A component at the end of a path that is not the root stays there. -/
theorem join_concat {parts : List String} {c : String} (hparts : resolve parts ≠ [])
    (hc : Component c) : join (parts ++ [c]) = join parts ++ "/" ++ c := by
  rw [join, resolve_concat hc, render_concat hparts, join]

/-- The last component of a path that ends with a text without slashes. -/
theorem base_append_slash {c : String} (hc : '/' ∉ c.toList) (path : String) :
    base (path ++ "/" ++ c) = c := by
  have hall : ∀ x ∈ c.toList.reverse, (decide (x ≠ '/')) = true := by
    intro x hx
    have hmem := List.mem_reverse.mp hx
    exact decide_eq_true (fun h => hc (h ▸ hmem))
  have hrev : (path ++ "/" ++ c).toList.reverse =
      c.toList.reverse ++ '/' :: path.toList.reverse := by
    simp [String.toList_append]
  rw [base, hrev, List.takeWhile_append_of_pos hall]
  simp

theorem base_join_concat {parts : List String} {c : String} (hparts : resolve parts ≠ [])
    (hc : Component c) : base (join (parts ++ [c])) = c := by
  rw [join_concat hparts hc, base_append_slash hc.no_slash]

example : join ["/mnt", "a//./b", "../disk.img"] = "/mnt/a/disk.img" := by decide

end Path

end Text
