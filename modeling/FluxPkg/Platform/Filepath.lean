import FluxPkg.Platform.Strings

/-!
# path/filepath on Unix: Clean, Join and IsAbs

Go documents `filepath.Clean` by four rules: collapse repeated separators, drop `.`
elements, drop each inner `..` together with the real element before it, and drop the
`..` elements that begin a rooted path. The result ends in a slash only when it is the
root, and an empty result becomes `"."`.

This module states Clean through those rules rather than through Go's byte loop. A path
is its rootedness and its list of elements, and the elements are read left to right onto
a stack on which `..` pops a real element. `join` is the source's `join` over that Clean.
The laws at the end say when cleaning a part of a path before joining changes nothing;
`filepath.Abs` and the agreement of the two ignore checks rest on them.
-/

namespace FluxPkg.Platform.Filepath

/-- A path element: a maximal run of bytes between separators. -/
abbrev Element := List Char

/-- The Unix path separator. -/
def Separator : Char := '/'

/-- The parent-directory element `..`. -/
def parentElement : Element := ['.', '.']

/-- `filepath.IsAbs`: a Unix path is absolute when it begins with the separator. -/
def isAbs (path : String) : Bool := path.data.head? == some Separator

/-- Clean's elements of a path: the pieces between separators, without the empty pieces
that repeated separators leave and without `.`. -/
def elements (path : String) : List Element :=
  (path.data.splitOn Separator).filter fun element => !element.isEmpty && element != ['.']

/-- Clean's treatment of one element. The output is a stack with its last element on top:
`..` removes a real element, stays at the start of a relative path, and is dropped at
the root. -/
def scanElement (rooted : Bool) (out : List Element) (element : Element) : List Element :=
  if element = parentElement then
    match out with
    | top :: rest => if top = parentElement then element :: out else rest
    | [] => if rooted then [] else [element]
  else element :: out

/-- The elements that survive cleaning, in path order. -/
def cleanElements (rooted : Bool) (elems : List Element) : List Element :=
  (elems.foldl (scanElement rooted) []).reverse

/-- Write elements back as a path: behind the root, joined by separators, and `.` for an
empty relative path. -/
def render (rooted : Bool) (elems : List Element) : String :=
  if rooted then ⟨Separator :: [Separator].intercalate elems⟩
  else if elems = [] then "." else ⟨[Separator].intercalate elems⟩

/-- `filepath.Clean`. The empty path has no elements and is not rooted, so it cleans to
`"."` as Go's early return does. -/
def clean (path : String) : String :=
  render (isAbs path) (cleanElements (isAbs path) (elements path))

/-- `filepath.Join`: the elements from the first non-empty one on, joined by separators
and cleaned; the empty string when every element is empty. -/
def join (elem : List String) : String :=
  match elem.dropWhile (· == "") with
  | [] => ""
  | rest => clean (String.intercalate "/" rest)

example : clean "a//b/./../c/" = "a/c" := by decide
example : clean "/../x/.." = "/" := by decide
example : join ["", "/etc/x"] = "/etc/x" := by decide

/-! ## Support -/

@[simp] theorem data_separator : ("/" : String).data = [Separator] := rfl

/-- A proper element is what a split piece becomes once Clean has kept it. -/
def ProperElement (element : Element) : Prop :=
  element ≠ [] ∧ Separator ∉ element ∧ element ≠ ['.']

/-- Two-element `join`, the only form the package calls. -/
theorem join_pair (a b : String) :
    join [a, b] = if a = "" then (if b = "" then "" else clean b) else clean (a ++ "/" ++ b) := by
  by_cases emptyLeft : a = "" <;> by_cases emptyRight : b = "" <;>
    simp [join, emptyLeft, emptyRight, String.intercalate, String.intercalate.go]

/-- Join onto a non-empty directory is Clean of the two parts around a separator. -/
theorem join_of_ne_empty {a : String} (nonempty : a ≠ "") (b : String) :
    join [a, b] = clean (a ++ "/" ++ b) := by
  simp [join_pair, nonempty]

/-- A piece of a split never holds the separator. -/
theorem not_mem_of_mem_splitOn {data piece : List Char} {sep : Char}
    (member : piece ∈ data.splitOn sep) : sep ∉ piece := by
  induction data generalizing piece with
  | nil => simp_all
  | cons c rest inductionHypothesis =>
      obtain ⟨first, more, pieces⟩ :=
        List.exists_cons_of_ne_nil (List.splitOnP_ne_nil (· == sep) rest)
      simp only [List.splitOn] at member inductionHypothesis
      by_cases separator : c = sep
      · simp only [separator, List.splitOnP_cons, beq_self_eq_true, if_true,
          List.mem_cons] at member
        rcases member with rfl | member
        · simp
        · exact inductionHypothesis member
      · simp only [List.splitOnP_cons, beq_iff_eq, separator, if_false, pieces,
          List.modifyHead_cons, List.mem_cons] at member
        rcases member with rfl | member
        · simp only [List.mem_cons, not_or]
          exact ⟨Ne.symm separator, inductionHypothesis (by simp [pieces])⟩
        · exact inductionHypothesis (by simp [pieces, member])

/-- Clean's elements of a path are proper. -/
theorem elements_proper (path : String) : ∀ element ∈ elements path, ProperElement element := by
  intro element member
  simp only [elements, List.mem_filter, Bool.and_eq_true, Bool.not_eq_true',
    List.isEmpty_eq_false, bne_iff_ne, ne_eq] at member
  exact ⟨member.2.1, not_mem_of_mem_splitOn member.1, member.2.2⟩

@[simp] theorem elements_empty : elements "" = [] := rfl

theorem elements_append_sep (x y : String) :
    elements (x ++ "/" ++ y) = elements x ++ elements y := by
  simp only [elements, String.data_append, data_separator, List.append_assoc,
    List.singleton_append, List.splitOn,
    Strings.splitOnP_append_of_sep (· == Separator) x.data y.data
      (show ('/' == Separator) = true from rfl),
    List.filter_append]

/-- A path with a separator in it is not empty. -/
theorem append_sep_ne_empty (x y : String) : x ++ "/" ++ y ≠ "" := by
  simp [String.ext_iff]

/-- A non-empty first part decides whether a path is absolute. -/
theorem isAbs_append {x : String} (nonempty : x ≠ "") (y : String) :
    isAbs (x ++ y) = isAbs x := by
  obtain ⟨data⟩ := x
  cases data with
  | nil => exact absurd rfl nonempty
  | cons c rest => simp [isAbs, String.data_append]

/-! ## The stack of elements -/

theorem mem_scanElement {rooted : Bool} {out : List Element} {element other : Element}
    (member : other ∈ scanElement rooted out element) : other = element ∨ other ∈ out := by
  unfold scanElement at member
  split at member
  · split at member
    · split at member <;> simp_all
    · split at member <;> simp_all
  · simpa using member

/-- Clean keeps only elements it was given. -/
theorem proper_of_mem_foldl {rooted : Bool} {elems stack : List Element}
    (properElems : ∀ element ∈ elems, ProperElement element)
    (properStack : ∀ element ∈ stack, ProperElement element) :
    ∀ element ∈ elems.foldl (scanElement rooted) stack, ProperElement element := by
  induction elems generalizing stack with
  | nil => simpa using properStack
  | cons first rest inductionHypothesis =>
      refine inductionHypothesis (fun element member => properElems element (by simp [member])) ?_
      intro element member
      rcases mem_scanElement member with rfl | member
      · exact properElems _ (by simp)
      · exact properStack element member

/-- One element read onto a relative stack, replayed onto any stack, is that element read
onto the replayed stack. -/
theorem foldl_reverse_scanElement_relative (rooted : Bool) (before stack : List Element)
    (element : Element) :
    (scanElement false stack element).reverse.foldl (scanElement rooted) before =
      scanElement rooted (stack.reverse.foldl (scanElement rooted) before) element := by
  by_cases parent : element = parentElement
  · subst parent
    cases stack with
    | nil => simp [scanElement]
    | cons top rest =>
        by_cases topParent : top = parentElement
        · simp [scanElement, topParent]
        · simp [scanElement, topParent]
  · simp [scanElement, parent]

/-- Fusion: cleaning a relative list of elements first and then reading the result onto
any stack is the same as reading the list itself. -/
theorem foldl_cleanElements_relative (rooted : Bool) (before : List Element) :
    ∀ (stack elems : List Element),
      (elems.foldl (scanElement false) stack).reverse.foldl (scanElement rooted) before =
        elems.foldl (scanElement rooted) (stack.reverse.foldl (scanElement rooted) before)
  | _, [] => rfl
  | stack, element :: elems => by
      rw [List.foldl_cons, List.foldl_cons, foldl_cleanElements_relative rooted before _ elems,
        foldl_reverse_scanElement_relative]

/-- A rooted stack never holds `..`. -/
theorem parent_not_mem_foldl_rooted {elems stack : List Element}
    (clear : parentElement ∉ stack) : parentElement ∉ elems.foldl (scanElement true) stack := by
  induction elems generalizing stack with
  | nil => simpa using clear
  | cons element rest inductionHypothesis =>
      apply inductionHypothesis
      by_cases parent : element = parentElement
      · cases stack with
        | nil => simp [scanElement, parent]
        | cons top more =>
            simp only [List.mem_cons, not_or] at clear
            simp [scanElement, parent, Ne.symm clear.1, clear.2]
      · simp [scanElement, parent, Ne.symm parent, clear]

/-- Elements other than `..` are pushed one by one. -/
theorem foldl_scanElement_of_parent_not_mem (rooted : Bool) {elems : List Element}
    (clear : parentElement ∉ elems) (stack : List Element) :
    elems.foldl (scanElement rooted) stack = elems.reverse ++ stack := by
  induction elems generalizing stack with
  | nil => rfl
  | cons element rest inductionHypothesis =>
      simp only [List.mem_cons, not_or] at clear
      simp [scanElement, Ne.symm clear.1, inductionHypothesis clear.2]

/-- Reading cleaned elements again changes nothing. -/
theorem foldl_cleanElements (rooted : Bool) (elems : List Element) :
    (cleanElements rooted elems).foldl (scanElement rooted) [] =
      elems.foldl (scanElement rooted) [] := by
  cases rooted with
  | false => exact foldl_cleanElements_relative false [] [] elems
  | true =>
      have clear : parentElement ∉ cleanElements true elems := by
        have rooted : parentElement ∉ elems.foldl (scanElement true) [] :=
          parent_not_mem_foldl_rooted (List.not_mem_nil _)
        simpa [cleanElements] using rooted
      rw [foldl_scanElement_of_parent_not_mem true clear]
      simp [cleanElements]

/-- Cleaning a first part again inside a longer list changes nothing. -/
theorem cleanElements_cleanElements_append (rooted : Bool) (first second : List Element) :
    cleanElements rooted (cleanElements rooted first ++ second) =
      cleanElements rooted (first ++ second) := by
  simp only [cleanElements, List.foldl_append]
  rw [← cleanElements, foldl_cleanElements]

/-- Cleaning a relative last part before appending it changes nothing. -/
theorem cleanElements_append_cleanElements_relative (rooted : Bool) (first second : List Element) :
    cleanElements rooted (first ++ cleanElements false second) =
      cleanElements rooted (first ++ second) := by
  simp only [cleanElements, List.foldl_append]
  rw [foldl_cleanElements_relative rooted _ [] second]
  rfl

/-! ## Writing elements back -/

theorem head?_intercalate {element : Element} (nonempty : element ≠ []) (rest : List Element) :
    ([Separator].intercalate (element :: rest)).head? = element.head? := by
  obtain ⟨c, more, rfl⟩ := List.exists_cons_of_ne_nil nonempty
  cases rest <;> simp [List.intercalate]

/-- Rendering proper elements and splitting the result again gives the same elements. -/
theorem elements_render (rooted : Bool) {elems : List Element}
    (proper : ∀ element ∈ elems, ProperElement element) : elements (render rooted elems) = elems := by
  have kept : elems.filter (fun element => !element.isEmpty && element != ['.']) = elems :=
    List.filter_eq_self.2 fun element member => by
      simp [(proper element member).1, (proper element member).2.2]
  by_cases empty : elems = []
  · subst empty
    cases rooted <;> rfl
  · have pieces : ([Separator].intercalate elems).splitOn Separator = elems :=
      List.splitOn_intercalate elems Separator (fun element member => (proper element member).2.1) empty
    cases rooted
    · simp [render, elements, empty, pieces, kept]
    · simp only [render, elements, if_true]
      simp only [List.splitOn] at pieces ⊢
      simp [pieces, kept]

/-- A rendered path is absolute exactly when it was rendered rooted. -/
theorem isAbs_render (rooted : Bool) {elems : List Element}
    (proper : ∀ element ∈ elems, ProperElement element) : isAbs (render rooted elems) = rooted := by
  cases rooted with
  | true => simp [render, isAbs]
  | false =>
      cases elems with
      | nil => rfl
      | cons element rest =>
          obtain ⟨nonempty, noSeparator, -⟩ := proper element (by simp)
          obtain ⟨c, more, rfl⟩ := List.exists_cons_of_ne_nil nonempty
          have notSeparator : c ≠ Separator := fun equal => noSeparator (by simp [equal])
          simp [render, isAbs, head?_intercalate, notSeparator]

/-- A rendered path is never empty. -/
theorem render_ne_empty (rooted : Bool) {elems : List Element}
    (proper : ∀ element ∈ elems, ProperElement element) : render rooted elems ≠ "" := by
  intro empty
  cases rooted with
  | true => simp [render, String.ext_iff] at empty
  | false =>
      cases elems with
      | nil => simp [render] at empty
      | cons element rest =>
          obtain ⟨c, more, rfl⟩ := List.exists_cons_of_ne_nil (proper element (by simp)).1
          have first := head?_intercalate (List.cons_ne_nil c more) rest
          have nonempty : [Separator].intercalate ((c :: more) :: rest) ≠ [] := by
            intro nil
            simp [nil] at first
          simp [render, String.ext_iff, nonempty] at empty

/-! ## Laws of Clean -/

theorem cleanElements_proper (path : String) :
    ∀ element ∈ cleanElements (isAbs path) (elements path), ProperElement element := by
  intro element member
  exact proper_of_mem_foldl (elements_proper path) (by simp) element (List.mem_reverse.1 member)

/-- The elements of a cleaned path are the elements Clean kept. -/
theorem elements_clean (path : String) :
    elements (clean path) = cleanElements (isAbs path) (elements path) :=
  elements_render _ (cleanElements_proper path)

/-- Clean keeps a path absolute or relative. -/
theorem isAbs_clean (path : String) : isAbs (clean path) = isAbs path :=
  isAbs_render _ (cleanElements_proper path)

/-- Clean never returns the empty path. -/
theorem clean_ne_empty (path : String) : clean path ≠ "" :=
  render_ne_empty _ (cleanElements_proper path)

/-- Clean of a path with a non-empty first part depends only on that part's rootedness
and on the elements of both parts. -/
theorem clean_append_sep {x : String} (nonempty : x ≠ "") (y : String) :
    clean (x ++ "/" ++ y) = render (isAbs x) (cleanElements (isAbs x) (elements x ++ elements y)) := by
  rw [clean, elements_append_sep, String.append_assoc, isAbs_append nonempty]

/-- Clean is idempotent. -/
theorem clean_clean (path : String) : clean (clean path) = clean path := by
  have again := cleanElements_cleanElements_append (isAbs path) (elements path) []
  simp only [List.append_nil] at again
  rw [clean, isAbs_clean, elements_clean, again, clean]

/-- Cleaning the first part before joining changes nothing. -/
theorem clean_clean_append {x : String} (nonempty : x ≠ "") (y : String) :
    clean (clean x ++ "/" ++ y) = clean (x ++ "/" ++ y) := by
  rw [clean_append_sep (clean_ne_empty x), clean_append_sep nonempty, isAbs_clean,
    elements_clean, cleanElements_cleanElements_append]

/-- Cleaning a relative second part before joining changes nothing. -/
theorem clean_append_clean {x y : String} (nonempty : x ≠ "") (relative : isAbs y = false) :
    clean (x ++ "/" ++ clean y) = clean (x ++ "/" ++ y) := by
  rw [clean_append_sep nonempty, clean_append_sep nonempty, elements_clean, relative,
    cleanElements_append_cleanElements_relative]

end FluxPkg.Platform.Filepath
