import Mycelium.Text.Basic

/-!
# Paths

A path is kept in its normal form: without empty parts, without parts that name
the directory itself, and without a slash at its end.  Two slashes at the start
are another root than one, and more than two are one.  A part that names the
directory above stays, for it may follow a link.

`settled` is the path of a file that is found by names alone: there a part that names
the directory above cancels the part before it.  `above_not_mem_settledParts` says that
below a root none is left.
-/

namespace Mycelium.Path

/-- The slashes a path starts with. -/
def root (path : Text) : Text :=
  match path.takeWhile (· == '/') with
  | [] => []
  | ['/', '/'] => ['/', '/']
  | _ => ['/']

/-- The parts of a path. -/
def parts (path : Text) : List Text :=
  (Text.pieces ['/'] path).filter fun p => !p.isEmpty && p != ['.']

/-- The path with a root and parts. -/
def ofParts (root : Text) (parts : List Text) : Text :=
  match root ++ Text.join ['/'] parts with
  | [] => ['.']
  | path => path

/-- The normal form of a path. -/
def normal (path : Text) : Text := ofParts (root path) (parts path)

/-- The path of a name in a directory.  A name that starts at a root is a path of its
own. -/
def within (directory name : Text) : Text :=
  match root name with
  | [] => ofParts (root directory) (parts directory ++ parts name)
  | _ => normal name

/-- The name of the directory above. -/
def above : Text := ['.', '.']

/-- The parts that were settled, latest first, and one more.  Above a root is the root
itself, and above the start of a path without a root is what it says. -/
def settle (rooted : Bool) (settled : List Text) (part : Text) : List Text :=
  if part = above then
    match settled with
    | [] => if rooted then [] else [above]
    | p :: rest => if p = above then above :: p :: rest else rest
  else part :: settled

/-- The parts of a path, each part that names the directory above cancelled. -/
def settledParts (path : Text) : List Text :=
  ((parts path).foldl (settle !(root path).isEmpty) []).reverse

/-- The path that a path settles to. -/
def settled (path : Text) : Text := ofParts (root path) (settledParts path)

/-- Below a root one more part leaves no part that names the directory above. -/
theorem above_not_mem_settle {settled : List Text} (h : above ∉ settled) (part : Text) :
    above ∉ settle true settled part := by
  unfold settle
  split
  · cases settled with
    | nil => simp
    | cons p rest =>
        simp only [List.mem_cons, not_or] at h
        simp [Ne.symm h.1, h.2]
  · next hp => simp [Ne.symm hp, h]

/-- Below a root no part that names the directory above is left. -/
theorem above_not_mem_settledParts {path : Text} (h : root path ≠ []) :
    above ∉ settledParts path := by
  have hr : (!(root path).isEmpty) = true := by simpa using h
  simp only [settledParts, List.mem_reverse, hr]
  suffices hs : ∀ (ps settled : List Text), above ∉ settled →
      above ∉ ps.foldl (settle true) settled from hs _ _ (by simp)
  intro ps
  induction ps with
  | nil => exact fun _ hn => hn
  | cons p ps ih => exact fun settled hn => ih _ (above_not_mem_settle hn p)

end Mycelium.Path
