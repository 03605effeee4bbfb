import Mathlib.Data.List.Basic

/-!
# strings.Split on one separator byte

Go's `strings.Split(s, sep)` cuts `s` around every occurrence of `sep` and keeps the
empty pieces, so a string with `k` separators always splits into `k + 1` pieces. Every
call in the package splits on one ASCII byte (`':'` or the path separator). An ASCII byte
occurs in UTF-8 text only as that character, so splitting the characters of a Lean
string agrees with Go's byte-level split.
-/

namespace FluxPkg.Platform.Strings

/-- `strings.Split(s, string(sep))` for a one-byte separator. -/
def split (s : String) (sep : Char) : List String :=
  (s.data.splitOn sep).map String.mk

/-- A separator closes the last piece of its left operand, so splitting a concatenation
around one separator concatenates the two splits. -/
theorem splitOnP_append_of_sep {α : Type} (p : α → Bool) (xs ys : List α) {sep : α}
    (separator : p sep = true) :
    (xs ++ sep :: ys).splitOnP p = xs.splitOnP p ++ ys.splitOnP p := by
  induction xs with
  | nil => simp [separator]
  | cons x xs inductionHypothesis =>
      obtain ⟨first, rest, pieces⟩ := List.exists_cons_of_ne_nil (List.splitOnP_ne_nil p xs)
      cases decision : p x <;> simp [decision, inductionHypothesis, pieces]

/-- Splitting `s ++ sep ++ t` splits the two sides independently. -/
theorem split_append_sep (s t : String) (sep : Char) :
    split (s ++ String.singleton sep ++ t) sep = split s sep ++ split t sep := by
  simp only [split, List.splitOn, String.data_append, String.data_singleton, List.append_assoc,
    List.singleton_append, splitOnP_append_of_sep (· == sep) _ _ (beq_self_eq_true sep), List.map_append]

/-- A string without the separator is one piece. -/
theorem split_of_not_mem {s : String} {sep : Char} (absent : sep ∉ s.data) :
    split s sep = [s] := by
  simp only [split, List.splitOn]
  rw [List.splitOnP_eq_single]
  · rfl
  · intro c member equal
    exact absent (eq_of_beq equal ▸ member)

/-- Every split has at least one piece. -/
theorem split_ne_nil (s : String) (sep : Char) : split s sep ≠ [] := by
  simpa [split, List.splitOn] using List.splitOnP_ne_nil _ s.data

/-- A split is a single piece exactly when the separator does not occur. -/
theorem length_split_eq_one_iff (s : String) (sep : Char) :
    (split s sep).length = 1 ↔ sep ∉ s.data := by
  constructor
  · intro single member
    obtain ⟨data⟩ := s
    obtain ⟨before, after, rfl⟩ := List.append_of_mem member
    have joined : (⟨before ++ sep :: after⟩ : String) = ⟨before⟩ ++ String.singleton sep ++ ⟨after⟩ :=
      String.ext (by simp)
    have beforeNonempty := List.length_pos_of_ne_nil (split_ne_nil ⟨before⟩ sep)
    have afterNonempty := List.length_pos_of_ne_nil (split_ne_nil ⟨after⟩ sep)
    rw [joined, split_append_sep, List.length_append] at single
    omega
  · intro absent
    simp [split_of_not_mem absent]

end FluxPkg.Platform.Strings
