import FluxPkg.Kustomize.FilterSlice

/-!
# The single-file check against the list filter

`shouldIgnoreFile` and `filterKsWithIgnoreFiles` build the same filter but reach it in
different ways. The single-file check returns false at once when it is given no pattern,
and it takes Abs of the joined path where the list filter joins onto Abs of the
directory. `shouldIgnoreFile_iff_dropped` shows that neither difference matters once a
pattern is given and the directory is not empty or the entry is relative, on every call
that reaches the entry's list and filters it without an error.
`shouldIgnoreFile_disagrees` shows that both provisos are needed: with no pattern the
list filter still drops what sourceignore's default patterns match, and under an empty directory
an absolute entry is looked up at two different paths.
-/

namespace FluxPkg.Kustomize

open Platform Platform.Filepath Platform.Gitignore

variable {host : Host} {dirPath path e : String} {ps : List Pattern} {domain : List String}

/-- With a pattern, the single-file check on a joined entry applies the filter to the
path the list filter looks at. -/
theorem shouldIgnoreFile_join (patterns : ps ≠ []) (resolved : abs host dirPath = .ok path)
    (ordered : dirPath ≠ "" ∨ isAbs e = false) {info : FileInfo}
    (stat : host.lstat (join [path, e]) = .ok info) :
    shouldIgnoreFile host (join [dirPath, e]) ps domain =
      ignoreFileFilter ps domain (join [path, e]) info := by
  have nonempty : (ps.length == 0) = false := by
    simpa [List.length_eq_zero] using patterns
  simp [shouldIgnoreFile, nonempty, abs_join host resolved e ordered, stat]

/-- An inspected entry found on disk leaves a list filtered by `keeps` exactly when the
filter rejects its joined path. -/
theorem not_mem_filter_keeps_iff {t : String} {filter : Filter} {s : List String}
    (member : e ∈ s) (inspected : inspects host t e = true) {info : FileInfo}
    (stat : host.lstat (join [path, e]) = .ok info) :
    e ∉ s.filter (keeps host path t filter) ↔ filter (join [path, e]) info = true := by
  simp [keeps_eq, inspected, stat, member]

/-- The lookup behind an entry the list filter inspected. -/
theorem lstat_of_found {t : String} {s : List String} (found : AllFound host path t s)
    (member : e ∈ s) (inspected : inspects host t e = true) :
    ∃ info, host.lstat (join [path, e]) = .ok info := by
  have isOk := found e member inspected
  cases stat : host.lstat (join [path, e]) with
  | error err => simp [stat, Except.isOk, Except.toBool] at isOk
  | ok info => exact ⟨info, rfl⟩

/-- In a list whose inspected entries were all found, the single-file check ignores an
inspected entry exactly when the list filter drops it. -/
theorem not_mem_filter_iff_shouldIgnoreFile (patterns : ps ≠ [])
    (resolved : abs host dirPath = .ok path) (ordered : dirPath ≠ "" ∨ isAbs e = false)
    {t : String} {s : List String} (found : AllFound host path t s) (member : e ∈ s)
    (inspected : inspects host t e = true) :
    e ∉ s.filter (keeps host path t (ignoreFileFilter ps domain)) ↔
      shouldIgnoreFile host (join [dirPath, e]) ps domain = true := by
  obtain ⟨info, stat⟩ := lstat_of_found found member inspected
  rw [not_mem_filter_keeps_iff member inspected stat,
    shouldIgnoreFile_join patterns resolved ordered stat]

/-- With at least one pattern, and a non-empty directory or a relative entry, the
single-file check ignores an inspected entry exactly when the call drops it from its list,
on every call whose `filterSlice` on that list, and on the lists before it, returns no
error. -/
theorem shouldIgnoreFile_iff_dropped {ks : Kustomization} (patterns : ps ≠ [])
    (resolved : abs host dirPath = .ok path) (ordered : dirPath ≠ "" ∨ isAbs e = false) :
    (e ∈ ks.crds →
        (filterSlice host path ks.resources resourcesField (ignoreFileFilter ps domain)).2 = none →
        (filterSlice host path ks.components componentsField (ignoreFileFilter ps domain)).2 =
          none →
        (filterSlice host path ks.crds crdsField (ignoreFileFilter ps domain)).2 = none →
        (e ∉ (filterKsWithIgnoreFiles host ks dirPath ps domain).1.crds ↔
          shouldIgnoreFile host (join [dirPath, e]) ps domain = true)) ∧
      (e ∈ ks.resources → isUrl host e = false →
        (filterSlice host path ks.resources resourcesField (ignoreFileFilter ps domain)).2 = none →
        (e ∉ (filterKsWithIgnoreFiles host ks dirPath ps domain).1.resources ↔
          shouldIgnoreFile host (join [dirPath, e]) ps domain = true)) ∧
      (e ∈ ks.components → isUrl host e = false →
        (filterSlice host path ks.resources resourcesField (ignoreFileFilter ps domain)).2 = none →
        (filterSlice host path ks.components componentsField (ignoreFileFilter ps domain)).2 =
          none →
        (e ∉ (filterKsWithIgnoreFiles host ks dirPath ps domain).1.components ↔
          shouldIgnoreFile host (join [dirPath, e]) ps domain = true)) := by
  refine ⟨fun member resourcesOk componentsOk crdsOk => ?_,
    fun member notUrl resourcesOk => ?_, fun member notUrl resourcesOk componentsOk => ?_⟩
  · rw [crds_of_filterSlice resolved resourcesOk componentsOk crdsOk]
    exact not_mem_filter_iff_shouldIgnoreFile patterns resolved ordered
      ((filterSlice_ok_iff _).1 crdsOk) member (by simp [inspects])
  · rw [resources_of_filterSlice resolved resourcesOk]
    exact not_mem_filter_iff_shouldIgnoreFile patterns resolved ordered
      ((filterSlice_ok_iff _).1 resourcesOk) member (by simp [inspects, notUrl])
  · rw [components_of_filterSlice resolved resourcesOk componentsOk]
    exact not_mem_filter_iff_shouldIgnoreFile patterns resolved ordered
      ((filterSlice_ok_iff _).1 componentsOk) member (by simp [inspects, notUrl])

/-- The agreement under `/repo` with a pattern for `a`, at an entry `a` that is both a
resource and a crd. -/
theorem shouldIgnoreFile_iff_dropped_repo :
    let ps := [namePattern [] "a" false]
    let ks : Kustomization := ⟨["a", "b"], [], ["a"]⟩
    (ps ≠ [] ∧ abs repoHost "/repo" = .ok "/repo" ∧ ("/repo" ≠ "" ∨ isAbs "a" = false)) ∧
    ("a" ∈ ks.crds →
        (filterSlice repoHost "/repo" ks.resources resourcesField (ignoreFileFilter ps [])).2 =
          none →
        (filterSlice repoHost "/repo" ks.components componentsField (ignoreFileFilter ps [])).2 =
          none →
        (filterSlice repoHost "/repo" ks.crds crdsField (ignoreFileFilter ps [])).2 = none →
        ("a" ∉ (filterKsWithIgnoreFiles repoHost ks "/repo" ps []).1.crds ↔
          shouldIgnoreFile repoHost (join ["/repo", "a"]) ps [] = true)) ∧
      ("a" ∈ ks.resources → isUrl repoHost "a" = false →
        (filterSlice repoHost "/repo" ks.resources resourcesField (ignoreFileFilter ps [])).2 =
          none →
        ("a" ∉ (filterKsWithIgnoreFiles repoHost ks "/repo" ps []).1.resources ↔
          shouldIgnoreFile repoHost (join ["/repo", "a"]) ps [] = true)) ∧
      ("a" ∈ ks.components → isUrl repoHost "a" = false →
        (filterSlice repoHost "/repo" ks.resources resourcesField (ignoreFileFilter ps [])).2 =
          none →
        (filterSlice repoHost "/repo" ks.components componentsField (ignoreFileFilter ps [])).2 =
          none →
        ("a" ∉ (filterKsWithIgnoreFiles repoHost ks "/repo" ps []).1.components ↔
          shouldIgnoreFile repoHost (join ["/repo", "a"]) ps [] = true)) := by
  intro ps ks
  exact ⟨⟨by simp [ps], rfl, Or.inl (by decide)⟩,
    @shouldIgnoreFile_iff_dropped repoHost "/repo" "/repo" "a" ps [] ks (by simp [ps]) rfl
      (Or.inl (by decide))⟩

/-- The two checks disagree in both excluded cases. With no pattern, the crd
`.git/config` is dropped by the default patterns, but the single-file check keeps it.
Under the empty directory, the crd `/etc/x` is looked up at `/repo/etc/x` by the list
filter, which a pattern for `repo` drops, but at `/etc/x` by the single-file check. -/
theorem shouldIgnoreFile_disagrees :
    (filterKsWithIgnoreFiles repoHost ⟨[], [], [".git/config"]⟩ "/repo" [] [] =
        (⟨[], [], []⟩, none) ∧
      shouldIgnoreFile repoHost (join ["/repo", ".git/config"]) [] [] = false) ∧
    (filterKsWithIgnoreFiles repoHost ⟨[], [], ["/etc/x"]⟩ "" [namePattern [] "repo" false] [] =
        (⟨[], [], []⟩, none) ∧
      shouldIgnoreFile repoHost (join ["", "/etc/x"]) [namePattern [] "repo" false] [] = false) := by
  decide

end FluxPkg.Kustomize
