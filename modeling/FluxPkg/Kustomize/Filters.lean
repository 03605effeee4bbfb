import FluxPkg.Platform.Host
import FluxPkg.SourceIgnore

/-!
# Ignore-file filtering of a kustomization

The model of `kustomize/filters.go`. `filterKsWithIgnoreFiles` resolves the directory
with `filepath.Abs`, builds one ignore filter, and compacts each of the three entry lists
of the kustomization in place with `filterSlice`. `shouldIgnoreFile` asks the same filter
about one file.

`filterSlice` keeps Go's in-place loop: the range reads the entry at index `i` from the
slice as it is at that iteration, a kept entry is written back at the write index
`start`, and the slice is cut to `start` entries at the end. An `Lstat` error returns at
once and leaves the slice as the loop left it. The kustomization is passed by pointer in
Go; here the functions return it with the error.
-/

namespace FluxPkg.Kustomize

open Platform Platform.Filepath Platform.Gitignore SourceIgnore

/-- The fields of `kustypes.Kustomization` that the filter reads and writes. Each slice is
a value of its own: the model assumes no two of them share a backing array. -/
structure Kustomization where
  resources : List String
  components : List String
  crds : List String
  deriving DecidableEq, Repr

/-- The field-name constants, declared in another file of the package that is not under
src/: the kustomization keys of the three lists. -/
def resourcesField : String := "resources"

/-- A field-name constant; see `resourcesField`. -/
def componentsField : String := "components"

/-- A field-name constant; see `resourcesField`. -/
def crdsField : String := "crds"

/-- `filter`: true when a file should not be included, after inspecting its path and
file information. -/
abbrev Filter := String → FileInfo → Bool

/-- `ignoreFileFilter`: the default matcher asked about the path's components. -/
def ignoreFileFilter (ps : List Pattern) (domain : List String) : Filter :=
  let matcher := newDefaultMatcher ps domain
  fun p fi => matcher.matchPath (Strings.split p Separator) fi.isDir

/-- `isUrl`: the entry parses as a request URI with a scheme. -/
def isUrl (host : Host) (s : String) : Bool :=
  match host.parseRequestURI s with
  | .ok u => u.scheme != ""
  | .error _ => false

/-- The state of `filterSlice`'s loop: the write index and the slice's contents. -/
structure Compaction where
  start : Nat
  slice : List String
  deriving DecidableEq, Repr

/-- `(*s)[start] = res; start++`. -/
def Compaction.keep (state : Compaction) (res : String) : Compaction :=
  { start := state.start + 1, slice := state.slice.set state.start res }

/-- The body of the range loop at index `i`. A URL outside crds is kept without a look
at the disk; any other entry is Lstat-ed under `path`, and the filter may drop it. -/
def filterSliceBody (host : Host) (path t : String) (filter : Filter) (i : Nat)
    (state : Compaction) : Except GoError Compaction :=
  let res := state.slice.getD i ""
  if t == crdsField || !isUrl host res then
    let f := join [path, res]
    match host.lstat f with
    | .error err => .error err
    | .ok info => if filter f info then .ok state else .ok (state.keep res)
  else .ok (state.keep res)

/-- The range loop over the indices `i`, ..., `i + remaining - 1`; an error stops it. -/
def filterSliceLoop (host : Host) (path t : String) (filter : Filter) :
    Nat → Nat → Compaction → Compaction × Option GoError
  | 0, _, state => (state, none)
  | remaining + 1, i, state =>
      match filterSliceBody host path t filter i state with
      | .error err => (state, some err)
      | .ok next => filterSliceLoop host path t filter remaining (i + 1) next

/-- `filterSlice`: the slice afterwards and the error returned. The loop ranges over the
slice's length at entry; on success the slice is cut to `start` entries. -/
def filterSlice (host : Host) (path : String) (s : List String) (t : String)
    (filter : Filter) : List String × Option GoError :=
  match filterSliceLoop host path t filter s.length 0 ⟨0, s⟩ with
  | (state, none) => (state.slice.take state.start, none)
  | (state, some err) => (state.slice, some err)

/-- `filterKsWithIgnoreFiles`: resources first, components second, crds third, each
step on the kustomization the previous one left. -/
def filterKsWithIgnoreFiles (host : Host) (ks : Kustomization) (dirPath : String)
    (ignorePatterns : List Pattern) (ignoreDomain : List String) :
    Kustomization × Option GoError :=
  match abs host dirPath with
  | .error err => (ks, some err)
  | .ok path =>
      let filterFunc := ignoreFileFilter ignorePatterns ignoreDomain
      match filterSlice host path ks.resources resourcesField filterFunc with
      | (resources, some err) => ({ ks with resources := resources }, some err)
      | (resources, none) =>
          match filterSlice host path ks.components componentsField filterFunc with
          | (components, some err) =>
              ({ ks with resources := resources, components := components }, some err)
          | (components, none) =>
              match filterSlice host path ks.crds crdsField filterFunc with
              | (crds, err) =>
                  ({ resources := resources, components := components, crds := crds }, err)

/-- `shouldIgnoreFile`: true if the file should be ignored based on the given patterns.
No pattern, a failed Abs and a failed Lstat all mean false. -/
def shouldIgnoreFile (host : Host) (filePath : String) (ignorePatterns : List Pattern)
    (ignoreDomain : List String) : Bool :=
  if ignorePatterns.length == 0 then false
  else
    match abs host filePath with
    | .error _ => false
    | .ok absFile =>
        match host.lstat absFile with
        | .error _ => false
        | .ok info => ignoreFileFilter ignorePatterns ignoreDomain absFile info

/-- A host whose working directory is `/repo`, on which every path is a regular file and
nothing parses as a URL. -/
def repoHost : Host where
  lstat _ := .ok ⟨false⟩
  getwd := .ok "/repo"
  getwd_isAbs dir found := by
    cases found
    rfl
  parseRequestURI _ := .error ⟨"invalid URI for request"⟩

end FluxPkg.Kustomize
