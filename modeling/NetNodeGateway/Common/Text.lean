import Mathlib.Data.List.DropRight

/-!
# The `std::string` operations of the text handling

A `std::string` is the list of its characters (or bytes).  Three operations recur in the
sources' text handling: the trim of `find_first_not_of` and `find_last_not_of` over a set
(`trimWith`), the pieces `std::getline` reads from a stream up to a delimiter (`getlines`), and
`rfind` (`rfind`); `find` is `List.indexOf?`.

The lemmas say what each does on text of a known shape: a trim drops padding of its set on
the left (`trimWith_append_left`) and keeps text whose ends lie outside it
(`trimWith_eq_self`); `getline` returns the lines of a text whose lines each end
with the delimiter (`getlines_flatMap`); `find` and `rfind` find the first and last occurrence
(`indexOf?_append_cons`, `rfind_append_cons`).
-/

namespace NetNodeGateway

variable {α : Type}

/-- `s.substr(first, last - first + 1)` for `first = s.find_first_not_of(set)` and
`last = s.find_last_not_of(set)`, and the empty string when every character is in `set`
(given by `p`). -/
def trimWith (p : α → Bool) (s : List α) : List α :=
  ((s.dropWhile p).reverse.dropWhile p).reverse

/-! ### Trims -/

section Trim

variable {p : α → Bool}

/-- Padding on the left is trimmed away. -/
theorem trimWith_append_left {w : List α} (hw : ∀ x ∈ w, p x) (s : List α) :
    trimWith p (w ++ s) = trimWith p s := by
  rw [trimWith, List.dropWhile_append_of_pos hw, trimWith]

/-- Text whose first and last characters lie outside the set is its own trim. -/
theorem trimWith_eq_self {s : List α} (hh : ∀ x ∈ s.head?, p x = false)
    (hl : ∀ x ∈ s.getLast?, p x = false) : trimWith p s = s := by
  have hd : ∀ t : List α, (∀ x ∈ t.head?, p x = false) → t.dropWhile p = t := by
    intro t ht
    cases t with
    | nil => rfl
    | cons a t => exact List.dropWhile_cons_of_neg (by simp [ht a rfl])
  rw [trimWith, hd s hh, hd s.reverse (by simpa [List.head?_reverse] using hl),
    List.reverse_reverse]

/-- A last character outside the set is kept with everything before it but the left padding. -/
theorem trimWith_append_singleton (s : List α) {c : α} (hc : p c = false) :
    trimWith p (s ++ [c]) = s.dropWhile p ++ [c] := by
  unfold trimWith
  rw [List.dropWhile_append]
  split
  · rename_i h
    rw [List.isEmpty_iff.mp h, List.nil_append, List.dropWhile_cons_of_neg (by simp [hc])]
    simp [hc]
  · rw [List.reverse_append, List.reverse_singleton, List.singleton_append,
      List.dropWhile_cons_of_neg (by simp [hc]), List.reverse_cons, List.reverse_reverse]

theorem trimWith_dropWhile (s : List α) : trimWith p (s.dropWhile p) = trimWith p s := by
  rw [trimWith, List.dropWhile_idempotent, trimWith]

/-- The trim keeps a piece of the text. -/
theorem trimWith_sublist (s : List α) : (trimWith p s).Sublist s := by
  have h := (List.dropWhile_sublist p (l := (s.dropWhile p).reverse)).reverse
  rw [List.reverse_reverse] at h
  exact h.trans (List.dropWhile_sublist p)

end Trim

/-! ### `getline` -/

variable [DecidableEq α]

/-- The pieces that `std::getline(stream, piece, delim)` reads until it fails, `acc` being the
part of the current piece read so far: a piece ends at a delimiter, which is consumed, or at
the end of the text if it is not empty. -/
def getlinesFrom (delim : α) (acc : List α) : List α → List (List α)
  | [] => if acc = [] then [] else [acc]
  | c :: s =>
    if c = delim then acc :: getlinesFrom delim [] s else getlinesFrom delim (acc ++ [c]) s

/-- The pieces `std::getline` reads from the text `s`. -/
def getlines (delim : α) (s : List α) : List (List α) := getlinesFrom delim [] s

theorem getlinesFrom_append_cons {delim : α} {l : List α} (hl : delim ∉ l) (acc s : List α) :
    getlinesFrom delim acc (l ++ delim :: s) = (acc ++ l) :: getlines delim s := by
  induction l generalizing acc with
  | nil => simp [getlinesFrom, getlines]
  | cons c l ih =>
    rw [List.mem_cons, not_or] at hl
    rw [List.cons_append, getlinesFrom, if_neg (Ne.symm hl.1), ih hl.2]
    simp

/-- A text whose lines each end with the delimiter reads back as those lines. -/
theorem getlines_flatMap {delim : α} {ls : List (List α)} (h : ∀ l ∈ ls, delim ∉ l) :
    getlines delim (ls.flatMap (· ++ [delim])) = ls := by
  induction ls with
  | nil => rfl
  | cons l ls ih =>
    rw [List.flatMap_cons, List.append_assoc, List.singleton_append, getlines,
      getlinesFrom_append_cons (h l (List.mem_cons_self _ _)),
      ih (fun l' hl' => h l' (List.mem_cons_of_mem _ hl')), List.nil_append]

theorem getlinesFrom_of_not_mem {delim : α} {l : List α} (hl : delim ∉ l) (acc : List α) :
    getlinesFrom delim acc l = if acc ++ l = [] then [] else [acc ++ l] := by
  induction l generalizing acc with
  | nil => simp [getlinesFrom]
  | cons c l ih =>
    rw [List.mem_cons, not_or] at hl
    rw [getlinesFrom, if_neg (Ne.symm hl.1), ih hl.2]
    simp

/-! ### `find` and `rfind` -/

/-- `s.rfind(c)`: the index of the last `c` in `s`. -/
def rfind (s : List α) (c : α) : Option Nat := (s.reverse.indexOf? c).map (s.length - 1 - ·)

/-- `find` returns the first occurrence. -/
theorem indexOf?_append_cons {s w : List α} {c : α} (hs : c ∉ s) :
    (s ++ c :: w).indexOf? c = some s.length := by
  induction s with
  | nil => simp [List.indexOf?_cons]
  | cons a s ih =>
    rw [List.mem_cons, not_or] at hs
    rw [List.cons_append, List.indexOf?_cons, ih hs.2]
    simp [Ne.symm hs.1]

/-- `rfind` returns the last occurrence. -/
theorem rfind_append_cons {s w : List α} {c : α} (hw : c ∉ w) :
    rfind (s ++ c :: w) c = some s.length := by
  have hr : (s ++ c :: w).reverse = w.reverse ++ c :: s.reverse := by simp
  rw [rfind, hr, indexOf?_append_cons (by simpa using hw)]
  simp only [Option.map_some', List.length_append, List.length_cons, List.length_reverse]
  congr 1
  omega

end NetNodeGateway
