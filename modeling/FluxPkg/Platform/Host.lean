import FluxPkg.Platform.Filepath

/-!
# The Go runtime services the package calls

Error values, `os.Lstat`'s file information, the working directory and net/url's
request-URI parser lie outside the package. `Host` gathers them: the file system as a
function from a path to its file information or an error, the working directory as
`os.Getwd` reports it, and the URL parser. The one promise taken from Go's documentation
is that Getwd returns an absolute path; `Host` carries it as a field.

`abs` is `filepath.Abs` over a host. Its law `abs_join` says when taking Abs of a joined
path and joining onto Abs of the directory give the same path: always, except for an
empty directory and an absolute entry.
-/

namespace FluxPkg.Platform

open Filepath

/-- A Go error value, identified by the text its `Error` method returns. -/
structure GoError where
  message : String
  deriving DecidableEq, Repr

/-- `os.FileInfo`; the package reads only `IsDir`. -/
structure FileInfo where
  isDir : Bool
  deriving DecidableEq, Repr

/-- `url.URL`; the package reads only the scheme. -/
structure URL where
  scheme : String
  deriving DecidableEq, Repr

/-- The Go runtime services the package calls, with Getwd's documented promise. -/
structure Host where
  /-- `os.Lstat`: file information of a path, without following a final symlink. -/
  lstat : String → Except GoError FileInfo
  /-- `os.Getwd`. -/
  getwd : Except GoError String
  /-- Getwd returns an absolute path name. -/
  getwd_isAbs : ∀ dir, getwd = .ok dir → isAbs dir = true
  /-- `url.ParseRequestURI`. -/
  parseRequestURI : String → Except GoError URL

/-- `filepath.Abs` on Unix: an absolute path is cleaned, a relative one is joined onto
the working directory. -/
def abs (host : Host) (path : String) : Except GoError String :=
  if isAbs path then .ok (clean path)
  else
    match host.getwd with
    | .error err => .error err
    | .ok wd => .ok (join [wd, path])

/-- An absolute path is not empty. -/
theorem ne_empty_of_isAbs {path : String} (absolute : isAbs path = true) : path ≠ "" := by
  rintro rfl
  exact absurd absolute (by decide)

/-- Clean of `x ++ "/" ++ y` is determined by the rootedness of `x` and the elements of
both parts. -/
theorem clean_append_congr {x x' : String} (y y' : String) (nonempty : x ≠ "")
    (nonempty' : x' ≠ "") (rooted : isAbs x = isAbs x')
    (sameElements : elements x ++ elements y = elements x' ++ elements y') :
    clean (x ++ "/" ++ y) = clean (x' ++ "/" ++ y') := by
  rw [clean_append_sep nonempty, clean_append_sep nonempty', rooted, sameElements]

/-- A relative directory that Abs resolves against the working directory. -/
theorem abs_of_relative {host : Host} {dirPath path : String} (relative : isAbs dirPath = false)
    (resolved : abs host dirPath = .ok path) :
    ∃ wd, host.getwd = .ok wd ∧ wd ≠ "" ∧ path = join [wd, dirPath] := by
  unfold abs at resolved
  rw [relative] at resolved
  cases getwd : host.getwd with
  | error err => simp [getwd] at resolved
  | ok wd =>
      simp only [getwd, Bool.false_eq_true, if_false, Except.ok.injEq] at resolved
      exact ⟨wd, rfl, ne_empty_of_isAbs (host.getwd_isAbs wd getwd), resolved.symm⟩

/-- Abs of a joined path is the join onto Abs of the directory, unless the directory is
empty and the entry absolute: then Join drops the directory while Abs of the empty
directory is the working directory. -/
theorem abs_join (host : Host) {dirPath path : String} (resolved : abs host dirPath = .ok path)
    (entry : String) (ordered : dirPath ≠ "" ∨ isAbs entry = false) :
    abs host (join [dirPath, entry]) = .ok (join [path, entry]) := by
  cases absolute : isAbs dirPath with
  | true =>
      have nonempty := ne_empty_of_isAbs absolute
      simp only [abs, absolute, if_true, Except.ok.injEq] at resolved
      subst resolved
      rw [join_of_ne_empty nonempty, join_of_ne_empty (clean_ne_empty dirPath),
        clean_clean_append nonempty, abs, isAbs_clean, String.append_assoc,
        isAbs_append nonempty, absolute, if_pos rfl, clean_clean]
  | false =>
      obtain ⟨wd, getwd, wdNonempty, rfl⟩ := abs_of_relative absolute resolved
      rw [join_of_ne_empty wdNonempty]
      by_cases emptyDir : dirPath = ""
      · subst emptyDir
        have relative : isAbs entry = false := ordered.resolve_left (by simp)
        have sameClean : clean (clean (wd ++ "/" ++ "") ++ "/" ++ entry) = clean (wd ++ "/" ++ entry) := by
          rw [clean_clean_append (append_sep_ne_empty wd "")]
          exact clean_append_congr _ _ (append_sep_ne_empty wd "") wdNonempty
            (by rw [String.append_assoc, isAbs_append wdNonempty])
            (by rw [elements_append_sep wd "", elements_empty, List.append_nil])
        by_cases emptyEntry : entry = ""
        · subst emptyEntry
          simp only [join_pair, if_true, abs, absolute, getwd, Bool.false_eq_true, if_false,
            clean_ne_empty, wdNonempty, sameClean]
        · simp only [join_pair, if_true, emptyEntry, if_false, abs, isAbs_clean, relative,
            Bool.false_eq_true, getwd, clean_ne_empty, wdNonempty, sameClean,
            clean_append_clean wdNonempty relative]
      · have relative : isAbs (dirPath ++ "/" ++ entry) = false := by
          rw [String.append_assoc, isAbs_append emptyDir, absolute]
        simp only [join_of_ne_empty emptyDir, abs, isAbs_clean, relative, Bool.false_eq_true,
          if_false, getwd, join_of_ne_empty (clean_ne_empty _), join_of_ne_empty wdNonempty]
        rw [clean_append_clean wdNonempty relative,
          clean_clean_append (append_sep_ne_empty wd dirPath)]
        simp only [String.append_assoc]

end FluxPkg.Platform
