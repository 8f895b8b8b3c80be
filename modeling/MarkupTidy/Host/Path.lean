/-!
# Host/Path — paths as written and paths as found

A path as written is cut at its slashes; empty parts and `.` parts say nothing and are dropped,
while `..` is kept, so that the name and the parent of a written path are read off its text
alone (the parent of `a/..` is `a`). A written path that does not start with a slash is taken
from the working directory, and one whose first part is `~` or `~user` from a home directory
(`Host.expandHome`).
Resolving it walks its parts from there: `..` steps up, staying at the root when already there,
and any other part steps down. The result is an absolute path, the names from the root down.
-/

namespace MarkupTidy.Host

/-- An absolute path: the names from the root down. -/
structure Path where
  names : List String
  deriving DecidableEq, Repr, Inhabited

namespace Path

/-- The root directory. -/
def root : Path := ⟨[]⟩

/-- The path as text, from the root. -/
def render (p : Path) : String := "/" ++ "/".intercalate p.names

/-- The last name of a path; the root has the empty name. -/
def name (p : Path) : String := p.names.getLast?.getD ""

/-- The directory holding a path; the root holds itself. -/
def parent (p : Path) : Path := ⟨p.names.dropLast⟩

/-- A name inside a directory. -/
def child (p : Path) (n : String) : Path := ⟨p.names ++ [n]⟩

/-- The names leading from a directory to a path inside it, if it is inside. -/
def within? (p base : Path) : Option (List String) :=
  if base.names.isPrefixOf p.names then some (p.names.drop base.names.length) else none

/-- How a path is shown to someone working in a directory: from that directory when it is
inside it (`.` for the directory itself), else from the root. -/
def shownFrom (p base : Path) : String :=
  match p.within? base with
  | some [] => "."
  | some ns => "/".intercalate ns
  | none => p.render

end Path

/-- A path as written: whether it starts at the root, and its parts without empty and `.`
parts. -/
structure Written where
  absolute : Bool
  parts : List String
  deriving DecidableEq, Repr

namespace Written

/-- Reads a written path. -/
def parse (s : String) : Written :=
  ⟨s.startsWith "/",
    ((s.toList.splitOn '/').map String.ofList).filter fun p => p != "" && p != "."⟩

/-- The last part of a written path, or the empty name. -/
def name (w : Written) : String := w.parts.getLast?.getD ""

/-- The written path without its last part. -/
def parent (w : Written) : Written := { w with parts := w.parts.dropLast }

/-- The written path with one more part. -/
def child (w : Written) (n : String) : Written := { w with parts := w.parts ++ [n] }

/-- The user whose home a relative written path starts from: `some ""` for a first part `~`,
the current user, `some u` for a first part `~u`, and `none` when the first part does not start
with `~`. -/
def homeUser? (w : Written) : Option String :=
  match w.absolute, w.parts with
  | false, p :: _ => if p.startsWith "~" then some (String.ofList (p.toList.drop 1)) else none
  | _, _ => none

/-- The written path with a home directory put for its first part. -/
def fromHome (home : Path) (w : Written) : Written :=
  match w.parts with
  | _ :: rest => ⟨true, home.names ++ rest⟩
  | [] => w

/-- The absolute path a written path names from a working directory. -/
def resolve (cwd : Path) (w : Written) : Path :=
  ⟨w.parts.foldl (fun acc p => if p = ".." then acc.dropLast else acc ++ [p])
    (if w.absolute then [] else cwd.names)⟩

end Written

/-- Resolving an absolute path's own names gives it back. -/
theorem resolve_names (cwd : Path) (p : Path) (h : ∀ n ∈ p.names, n ≠ "..") :
    Written.resolve cwd ⟨true, p.names⟩ = p := by
  obtain ⟨names⟩ := p
  simp only [Written.resolve, if_true]
  congr 1
  suffices ∀ acc, names.foldl (fun acc p => if p = ".." then acc.dropLast else acc ++ [p]) acc =
      acc ++ names by simpa using this []
  induction names with
  | nil => simp
  | cons n rest ih =>
    intro acc
    have hn : n ≠ ".." := h n (by simp)
    simp only [List.foldl_cons, hn, if_false]
    rw [ih (fun m hm => h m (by simp [hm]))]
    simp

end MarkupTidy.Host
