import LoadingCheck.FileTree
import LoadingCheck.Proofs.Fallible
import Mathlib.Data.List.Infix

set_option relaxedAutoImplicit false
set_option autoImplicit false

/-!
# Directories are only added

Whoever makes directories adds places to a tree and takes none away. So what led to a directory still leads to
the same one, and a directory that was made is at the place that the path leads to for which it was made. All of
this also holds of what was made before an error.

## Main definitions

* `LoadingCheck.FileTree.Leads` — a path leads to the place of a directory.
* `LoadingCheck.FileTree.Grows` — a tree becomes another one when directories are made for some paths.

## Main results

* `LoadingCheck.FileTree.grows_makeDirectory` — one directory.
* `LoadingCheck.FileTree.grows_makeDirectories` — a directory and those above it.
* `LoadingCheck.FileTree.isDirectory_makeDirectories` — without an error, the path leads to a directory.
-/

namespace LoadingCheck.FileTree

variable {t t' t'' : FileTree} {p : Path} {paths paths' : List Path}

/-- The path leads to the directory at a place. -/
def Leads (t : FileTree) (p : Path) (place : List (List UInt8)) : Prop :=
  ∃ pieces, piecesOf p = .ok pieces ∧ t.follow (t.origin p) pieces = .ok ⟨place, 0⟩

lemma Leads.isDirectory {place : List (List UInt8)} (h : t.Leads p place) : t.isDirectory p = true := by
  obtain ⟨pieces, path, found⟩ := h
  rw [FileTree.isDirectory, path]
  dsimp only
  rw [found]
  rfl

/-! ### More directories -/

lemma hasDirectory_mono (more : t.directories ⊆ t'.directories) {place : List (List UInt8)}
    (h : t.hasDirectory place = true) : t'.hasDirectory place = true := by
  rw [hasDirectory, Bool.or_eq_true, List.contains_iff_mem] at h ⊢
  exact h.imp_right fun mem => more mem

/-- What leads to a directory leads to the same one when there are more of them. -/
lemma follow_mono (more : t.directories ⊆ t'.directories) {spot last : Spot}
    {pieces : List (List UInt8)} (h : t.follow spot pieces = .ok last) : t'.follow spot pieces = .ok last := by
  induction pieces generalizing spot with
  | nil => exact h
  | cons piece rest ih =>
    rw [follow] at h ⊢
    split_ifs at h with nameless up gone long
    · rw [if_pos nameless]
      exact ih h
    · rw [if_neg nameless, if_pos up]
      exact ih h
    · rw [if_neg nameless, if_neg up, if_neg gone, if_neg long]
      dsimp only at h ⊢
      split_ifs at h with there
      rw [if_pos (hasDirectory_mono more there)]
      exact ih h

/-- Paths start where they did. -/
lemma origin_of_start (same : t'.start = t.start) (p : Path) : t'.origin p = t.origin p := by
  rw [origin, origin, same]

lemma Leads.mono (more : t.directories ⊆ t'.directories) (same : t'.start = t.start)
    {place : List (List UInt8)} (h : t.Leads p place) : t'.Leads p place := by
  obtain ⟨pieces, path, found⟩ := h
  exact ⟨pieces, path, by rw [origin_of_start same, follow_mono more found]⟩

/-- Of the first tree the second one is made by making directories for some of the paths. -/
structure Grows (paths : List Path) (t t' : FileTree) : Prop where
  files : t'.files = t.files
  start : t'.start = t.start
  kept : t.directories <+: t'.directories
  made : ∀ place ∈ t'.directories, place ∉ t.directories → ∃ p ∈ paths, t'.Leads p place

namespace Grows

lemma refl (paths : List Path) (t : FileTree) : Grows paths t t :=
  ⟨rfl, rfl, List.prefix_rfl, fun _ here new => absurd here new⟩

lemma trans (h : Grows paths t t') (h' : Grows paths t' t'') : Grows paths t t'' := by
  refine ⟨h'.files.trans h.files, h'.start.trans h.start, h.kept.trans h'.kept, fun place here new => ?_⟩
  by_cases between : place ∈ t'.directories
  · obtain ⟨p, mem, leads⟩ := h.made place between new
    exact ⟨p, mem, leads.mono h'.kept.subset h'.start⟩
  · exact h'.made place here between

lemma mono (h : Grows paths t t') (more : paths ⊆ paths') : Grows paths' t t' := by
  refine ⟨h.files, h.start, h.kept, fun place here new => ?_⟩
  obtain ⟨p, mem, leads⟩ := h.made place here new
  exact ⟨p, more mem, leads⟩

end Grows

/-! ### Making directories -/

lemma follow_append (t : FileTree) (spot : Spot) (pieces rest : List (List UInt8)) :
    t.follow spot (pieces ++ rest) = t.follow spot pieces >>= fun spot => t.follow spot rest := by
  induction pieces generalizing spot with
  | nil => rfl
  | cons piece pieces ih =>
    rw [List.cons_append, follow, follow]
    dsimp only
    split_ifs
    · exact ih spot
    · exact ih spot.up
    · rfl
    · rfl
    · exact ih ⟨spot.place ++ [piece], 0⟩
    · rfl
    · rfl

/-- The pieces of a path have no empty one at their end. -/
lemma last_ne_nil {pieces : List (List UInt8)} {name : List UInt8} (path : piecesOf p = .ok pieces)
    (last : pieces.getLast? = some name) : name ≠ [] := by
  rw [piecesOf] at path
  split_ifs at path
  cases path
  rw [List.getLast?_reverse] at last
  rintro rfl
  have full := List.head?_dropWhile_not (fun piece : List UInt8 => decide (piece = [])) p.pieces.reverse
  rw [last] at full
  cases full

/-- A directory that is made is at the place that its path leads to. -/
lemma grows_makeDirectory (h : t.makeDirectory p = .ok t') : Grows [p] t t' ∧ t'.isDirectory p = true := by
  rw [makeDirectory] at h
  obtain ⟨pieces, path, h⟩ := bind_eq_ok.mp h
  cases last : pieces.getLast? with
  | none =>
    rw [last] at h
    cases h
  | some name =>
    rw [last] at h
    obtain ⟨⟨place, gone⟩, found, h⟩ := bind_eq_ok.mp h
    dsimp only at h
    split_ifs at h with dots level long taken
    cases h
    obtain rfl : gone = 0 := of_not_not level
    obtain ⟨nameless, up⟩ : ¬ (name = [] ∨ name = Path.dot) ∧ name ≠ Path.dotDot :=
      ⟨not_or.mpr ⟨last_ne_nil path last, fun dot => dots (.inl dot)⟩, fun dotDot => dots (.inr dotDot)⟩
    have kept : t.directories <+: t.directories ++ [place ++ [name]] := List.prefix_append _ _
    have leads : Leads { t with directories := t.directories ++ [place ++ [name]] } p (place ++ [name]) := by
      refine ⟨pieces, path, ?_⟩
      have here : hasDirectory { t with directories := t.directories ++ [place ++ [name]] } (place ++ [name]) =
          true := by
        simp [hasDirectory]
      have same : origin { t with directories := t.directories ++ [place ++ [name]] } p = t.origin p := rfl
      rw [same, ← List.dropLast_append_getLast? name last, follow_append, follow_mono kept.subset found]
      change follow _ ⟨place, 0⟩ [name] = _
      rw [follow, if_neg nameless, if_neg up, if_neg level, if_neg long]
      exact if_pos here
    refine ⟨⟨rfl, rfl, kept, fun other here new => ?_⟩, leads.isDirectory⟩
    obtain rfl : other = place ++ [name] :=
      List.mem_singleton.mp ((List.mem_append.mp here).resolve_left new)
    exact ⟨p, List.mem_singleton_self p, leads⟩

/-- What there is after an attempt to make a directory for the first of some paths: a tree that has grown for these
paths, and the directory unless there is an error. The empty path is passed over. -/
structure Attempted (p : Path) (above : List Path) (t : FileTree) (r : FileTree × Option Error) : Prop where
  grows : Grows (p :: above) t r.1
  reached : r.2 = none → p.bytes ≠ [] → r.1.isDirectory p = true

/-- Whatever the error was, the directory may be there. -/
lemma Attempted.checked {above : List Path} (grows : Grows (p :: above) t t') (e : Error) :
    Attempted p above t (if t'.isDirectory p then (t', none) else (t', some e)) := by
  split_ifs with there
  · exact ⟨grows, fun _ _ => there⟩
  · exact ⟨grows, fun none => absurd none (Option.some_ne_none e)⟩

/-- If what is made for the parents is on the way, so is what is made for the path. -/
lemma attempted_cons {above : List Path} (ih : Grows above t (t.makeFirst above).1) (p : Path) :
    Attempted p above t (t.makeFirst (p :: above)) := by
  have own : [p] ⊆ p :: above := List.cons_subset_cons p (List.nil_subset above)
  have others : Grows (p :: above) t (t.makeFirst above).1 := ih.mono (List.subset_cons_self p above)
  rw [makeFirst]
  by_cases empty : p.bytes = []
  · rw [if_pos empty]
    exact ⟨.refl _ _, fun _ full => absurd empty full⟩
  · rw [if_neg empty]
    split
    · rename_i t' made
      obtain ⟨grows, there⟩ := grows_makeDirectory made
      exact ⟨grows.mono own, fun _ _ => there⟩
    · split
      · rename_i t' e failed
        rw [failed] at others
        exact ⟨others, fun none => absurd none (Option.some_ne_none e)⟩
      · rename_i t' prepared
        rw [prepared] at others
        split
        · rename_i t'' made
          obtain ⟨grows, there⟩ := grows_makeDirectory made
          exact ⟨others.trans (grows.mono own), fun _ _ => there⟩
        · rename_i e _
          exact .checked others e
    · rename_i e _ _
      exact .checked (.refl _ _) e

/-- What is made along a row of parents is on the way. -/
lemma grows_makeFirst (t : FileTree) (paths : List Path) : Grows paths t (t.makeFirst paths).1 := by
  induction paths with
  | nil => exact .refl _ _
  | cons p above ih => exact (attempted_cons ih p).grows

lemma ancestors_cons (p : Path) : ∃ above, p.ancestors = p :: above := by
  rw [Path.ancestors, Path.ancestorsUpTo]
  split
  · exact ⟨_, rfl⟩
  · exact ⟨_, rfl⟩

/-- **Directories are made on the way only.** Whether it ends with an error or not, making a directory and those above
it leaves the files and directories that were there, and every directory that it makes is at the place that the path
or one of its parents leads to. -/
theorem grows_makeDirectories (t : FileTree) (p : Path) : Grows p.ancestors t (t.makeDirectories p).1 :=
  grows_makeFirst t p.ancestors

/-- **Without an error the path leads to a directory**, unless it is empty. -/
theorem isDirectory_makeDirectories (success : (t.makeDirectories p).2 = none) (full : p.bytes ≠ []) :
    (t.makeDirectories p).1.isDirectory p = true := by
  obtain ⟨above, all⟩ := ancestors_cons p
  rw [makeDirectories, all] at success ⊢
  exact (attempted_cons (grows_makeFirst t above) p).reached success full

end LoadingCheck.FileTree
