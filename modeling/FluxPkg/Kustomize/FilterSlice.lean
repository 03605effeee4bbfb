import FluxPkg.Kustomize.Filters

/-!
# filterSlice filters in place without losing, duplicating or reordering an entry

`filterSlice` writes each kept entry back at the write index `start` while it reads at
index `i`, so a prefix of the slice is overwritten while the loop still ranges over it.
`LoopInvariant` is what makes this safe: `start` never passes `i`, the slice before
`start` holds the kept entries among the first `i`, and from `start` on the slice is still
the original. One iteration keeps it (`LoopInvariant.step`), so every run that finishes
ends with the slice's first `start` entries equal to `List.filter` of the original.

`AllFound` says that every entry the loop looks at on disk has a successful `Lstat`. It
is exactly the condition for the loop to finish without an error. A run that fails stops
at the first entry whose Lstat fails and leaves the slice as the invariant describes it
there: compacted up to the write index and untouched after it, so it can hold a kept
entry twice and miss a dropped one (`filterSlice_error`). The last theorems lift these facts to the three lists
of `filterKsWithIgnoreFiles`, and show that filtering twice is filtering once.
-/

namespace FluxPkg.Kustomize

open Platform Platform.Filepath Platform.Gitignore

section Spec

variable (host : Host) (path t : String) (filter : Filter)

/-- Whether `filterSlice` looks at an entry on disk: always in crds, elsewhere only when
the entry is not a URL. -/
def inspects (res : String) : Bool := t == crdsField || !isUrl host res

/-- The entries `filterSlice` keeps: a URL outside crds, or an entry whose Lstat succeeds
and whose joined path the filter passes. -/
def keeps (res : String) : Bool :=
  (t != crdsField && isUrl host res) ||
    match host.lstat (join [path, res]) with
    | .ok info => !filter (join [path, res]) info
    | .error _ => false

/-- Every entry of `s` that `filterSlice` inspects has a successful Lstat. -/
def AllFound (s : List String) : Prop :=
  ∀ res ∈ s, inspects host t res = true → (host.lstat (join [path, res])).isOk = true

end Spec

section Loop

variable {host : Host} {path t : String} {filter : Filter}

/-- `keeps` is the negation of `inspects`, or a passing Lstat-ed entry. -/
theorem keeps_eq (res : String) :
    keeps host path t filter res =
      (!inspects host t res ||
        match host.lstat (join [path, res]) with
        | .ok info => !filter (join [path, res]) info
        | .error _ => false) := by
  simp [keeps, inspects, bne, Bool.not_or]

/-- An iteration whose entry is found on disk keeps the entry exactly when `keeps` does. -/
theorem filterSliceBody_of_found {i : Nat} {state : Compaction}
    (found : inspects host t (state.slice.getD i "") = true →
      (host.lstat (join [path, state.slice.getD i ""])).isOk = true) :
    filterSliceBody host path t filter i state =
      .ok (if keeps host path t filter (state.slice.getD i "") then
        state.keep (state.slice.getD i "") else state) := by
  simp only [filterSliceBody]
  generalize state.slice.getD i "" = res at found ⊢
  rw [show (t == crdsField || !isUrl host res) = inspects host t res from rfl, keeps_eq]
  cases lookedAt : inspects host t res with
  | false => simp
  | true =>
      cases stat : host.lstat (join [path, res]) with
      | error err => simp [lookedAt, stat, Except.isOk, Except.toBool] at found
      | ok info => cases decision : filter (join [path, res]) info <;> simp [decision]

/-- An iteration that does not fail found its entry on disk. -/
theorem found_of_filterSliceBody {i : Nat} {state next : Compaction}
    (succeeded : filterSliceBody host path t filter i state = .ok next) :
    inspects host t (state.slice.getD i "") = true →
      (host.lstat (join [path, state.slice.getD i ""])).isOk = true := by
  simp only [filterSliceBody] at succeeded
  generalize state.slice.getD i "" = res at succeeded ⊢
  intro lookedAt
  rw [show (t == crdsField || !isUrl host res) = inspects host t res from rfl, lookedAt,
    if_pos rfl] at succeeded
  cases stat : host.lstat (join [path, res]) with
  | error err => simp [stat] at succeeded
  | ok info => rfl

/-- The invariant of `filterSlice`'s loop over `orig` after `i` iterations: the write
index has not passed the read index, the slice before it holds the kept entries among the
first `i`, and from it on the slice is still the original. -/
structure LoopInvariant (keep : String → Bool) (orig : List String) (i : Nat)
    (state : Compaction) : Prop where
  start_le : state.start ≤ i
  prefix_kept : state.slice.take state.start = (orig.take i).filter keep
  untouched : state.slice.drop state.start = orig.drop state.start

/-- Before the first iteration nothing is kept and nothing is written. -/
theorem LoopInvariant.initial (keep : String → Bool) (orig : List String) :
    LoopInvariant keep orig 0 ⟨0, orig⟩ :=
  ⟨le_refl 0, by simp, rfl⟩

section Invariant

variable {keep : String → Bool} {orig : List String} {i : Nat} {state : Compaction}

/-- From the read index on, the slice is the original. -/
theorem LoopInvariant.suffix_untouched (invariant : LoopInvariant keep orig i state) :
    state.slice.drop i = orig.drop i := by
  obtain ⟨more, rfl⟩ := Nat.exists_eq_add_of_le invariant.start_le
  rw [← List.drop_drop, invariant.untouched, List.drop_drop]

/-- The loop reads the original entry at the read index. -/
theorem LoopInvariant.read (invariant : LoopInvariant keep orig i state) :
    state.slice.getD i "" = orig.getD i "" := by
  rw [List.getD_eq_getElem?_getD, List.getD_eq_getElem?_getD, ← List.head?_drop,
    ← List.head?_drop, invariant.suffix_untouched]

/-- Before the end, the slice is the kept entries read so far, then the original from the
write index on. -/
theorem LoopInvariant.slice_eq (invariant : LoopInvariant keep orig i state)
    (inRange : i < orig.length) :
    state.slice = (orig.take i).filter keep ++ orig.drop ((orig.take i).filter keep).length := by
  have lengths := congrArg List.length invariant.untouched
  simp only [List.length_drop] at lengths
  have start : ((orig.take i).filter keep).length = state.start := by
    rw [← invariant.prefix_kept, List.length_take]
    have := invariant.start_le
    omega
  rw [start, ← invariant.prefix_kept, ← invariant.untouched, List.take_append_drop]

end Invariant

/-- Dropping up to an index in range leaves the entry there in front. -/
theorem drop_eq_getD_cons {l : List String} {i : Nat} (inRange : i < l.length) :
    l.drop i = l.getD i "" :: l.drop (i + 1) := by
  rw [List.drop_eq_getElem_cons inRange, List.getD_eq_getElem?_getD,
    List.getElem?_eq_getElem inRange, Option.getD_some]

/-- Writing at the end of a prefix extends the prefix by the entry written. -/
theorem take_succ_set {l : List String} {n : Nat} (a : String) (inRange : n < l.length) :
    (l.set n a).take (n + 1) = l.take n ++ [a] := by
  simp [List.set_eq_take_append_cons_drop, inRange, List.take_append_eq_append_take,
    Nat.min_eq_left inRange.le]

/-- One iteration keeps the invariant: a kept entry is written at the write index, which
lies before the read index, and a dropped one leaves the state alone. -/
theorem LoopInvariant.step {keep : String → Bool} {orig : List String} {i : Nat}
    {state : Compaction} (invariant : LoopInvariant keep orig i state) (inRange : i < orig.length) :
    LoopInvariant keep orig (i + 1)
      (if keep (orig.getD i "") then state.keep (orig.getD i "") else state) := by
  have suffixUntouched := invariant.suffix_untouched
  obtain ⟨startLe, prefixKept, untouched⟩ := invariant
  have taken : orig.take (i + 1) = orig.take i ++ [orig.getD i ""] := by
    rw [List.take_succ, List.getD_eq_getElem?_getD, List.getElem?_eq_getElem inRange]
    rfl
  have sliceLong : i < state.slice.length := by
    have lengths := congrArg List.length suffixUntouched
    simp only [List.length_drop] at lengths
    omega
  generalize orig.getD i "" = res at taken ⊢
  by_cases kept : keep res
  · simp only [kept, if_true]
    refine ⟨Nat.succ_le_succ startLe, ?_, ?_⟩
    · simp [Compaction.keep, take_succ_set _ (Nat.lt_of_le_of_lt startLe sliceLong),
        prefixKept, taken, kept]
    · show (state.slice.set state.start res).drop (state.start + 1) = orig.drop (state.start + 1)
      rw [List.drop_set_of_lt _ _ (Nat.lt_succ_self _), ← List.drop_drop 1 _ state.slice,
        untouched, List.drop_drop]
  · simp only [kept, Bool.false_eq_true, if_false]
    exact ⟨Nat.le_succ_of_le startLe, by simp [prefixKept, taken, kept], untouched⟩

/-- A run over entries that are all found ends without an error, holding the kept
entries in order before the write index. -/
theorem filterSliceLoop_of_found {orig : List String} :
    ∀ (remaining i : Nat) (state : Compaction),
      LoopInvariant (keeps host path t filter) orig i state → i + remaining = orig.length →
      AllFound host path t (orig.drop i) →
      ∃ final, filterSliceLoop host path t filter remaining i state = (final, none) ∧
        final.slice.take final.start = orig.filter (keeps host path t filter)
  | 0, i, state, invariant, count, _ =>
      ⟨state, rfl, by rw [invariant.prefix_kept, List.take_of_length_le (by omega)]⟩
  | remaining + 1, i, state, invariant, count, found => by
      have inRange : i < orig.length := by omega
      rw [drop_eq_getD_cons inRange] at found
      have body : filterSliceBody host path t filter i state = _ :=
        filterSliceBody_of_found (by rw [invariant.read]; exact found _ (List.mem_cons_self _ _))
      rw [invariant.read] at body
      simp only [filterSliceLoop, body]
      exact filterSliceLoop_of_found remaining (i + 1) _ (invariant.step inRange) (by omega)
        (fun res member => found res (List.mem_cons_of_mem _ member))

/-- A run that ends without an error found every entry it inspected. -/
theorem found_of_filterSliceLoop {orig : List String} :
    ∀ (remaining i : Nat) (state : Compaction),
      LoopInvariant (keeps host path t filter) orig i state → i + remaining = orig.length →
      (filterSliceLoop host path t filter remaining i state).2 = none →
      AllFound host path t (orig.drop i)
  | 0, i, _, _, count, _ => by simp [AllFound, List.drop_of_length_le (show orig.length ≤ i by omega)]
  | remaining + 1, i, state, invariant, count, succeeded => by
      have inRange : i < orig.length := by omega
      cases body : filterSliceBody host path t filter i state with
      | error err => simp [filterSliceLoop, body] at succeeded
      | ok next =>
          simp only [filterSliceLoop, body] at succeeded
          have foundHere := found_of_filterSliceBody body
          rw [filterSliceBody_of_found foundHere, Except.ok.injEq] at body
          subst body
          rw [invariant.read] at foundHere succeeded
          have foundRest := found_of_filterSliceLoop remaining (i + 1) _ (invariant.step inRange)
            (by omega) succeeded
          rw [drop_eq_getD_cons inRange]
          intro res member
          rcases List.mem_cons.1 member with rfl | member
          · exact foundHere
          · exact foundRest res member

/-- An iteration that fails inspected its entry, and returns that entry's Lstat error. -/
theorem filterSliceBody_error {i : Nat} {state : Compaction} {err : GoError}
    (failed : filterSliceBody host path t filter i state = .error err) :
    inspects host t (state.slice.getD i "") = true ∧
      host.lstat (join [path, state.slice.getD i ""]) = .error err := by
  simp only [filterSliceBody] at failed
  generalize state.slice.getD i "" = res at failed ⊢
  rw [show (t == crdsField || !isUrl host res) = inspects host t res from rfl] at failed
  cases lookedAt : inspects host t res with
  | false => simp [lookedAt] at failed
  | true =>
      simp only [lookedAt, if_true] at failed
      refine ⟨rfl, ?_⟩
      cases stat : host.lstat (join [path, res]) with
      | error lstatErr => simpa [stat] using failed
      | ok info => simp only [stat] at failed; split at failed <;> cases failed

/-- A run that fails stops at an entry from the read index on whose Lstat fails, after
finding every entry it inspected before, and leaves the invariant of that entry. -/
theorem filterSliceLoop_error {orig : List String} {err : GoError} :
    ∀ (remaining i : Nat) (state : Compaction),
      LoopInvariant (keeps host path t filter) orig i state → i + remaining = orig.length →
      (filterSliceLoop host path t filter remaining i state).2 = some err →
      ∃ j, i ≤ j ∧ j < orig.length ∧
        (∀ k, i ≤ k → k < j → inspects host t (orig.getD k "") = true →
          (host.lstat (join [path, orig.getD k ""])).isOk = true) ∧
        inspects host t (orig.getD j "") = true ∧
        host.lstat (join [path, orig.getD j ""]) = .error err ∧
        LoopInvariant (keeps host path t filter) orig j
          (filterSliceLoop host path t filter remaining i state).1
  | 0, _, _, _, _, failed => by simp [filterSliceLoop] at failed
  | remaining + 1, i, state, invariant, count, failed => by
      have inRange : i < orig.length := by omega
      cases body : filterSliceBody host path t filter i state with
      | error bodyErr =>
          simp only [filterSliceLoop, body, Option.some.injEq] at failed ⊢
          subst failed
          obtain ⟨lookedAt, stat⟩ := filterSliceBody_error body
          rw [invariant.read] at lookedAt stat
          exact ⟨i, le_refl i, inRange, fun k before after => absurd after (by omega), lookedAt,
            stat, invariant⟩
      | ok next =>
          simp only [filterSliceLoop, body] at failed ⊢
          have foundHere := found_of_filterSliceBody body
          rw [filterSliceBody_of_found foundHere, Except.ok.injEq] at body
          subst body
          rw [invariant.read] at foundHere failed ⊢
          obtain ⟨j, after, jInRange, foundBetween, lookedAt, stat, atJ⟩ :=
            filterSliceLoop_error remaining (i + 1) _ (invariant.step inRange) (by omega) failed
          refine ⟨j, by omega, jInRange, fun k from_ before => ?_, lookedAt, stat, atJ⟩
          rcases Nat.eq_or_lt_of_le from_ with rfl | later
          · exact foundHere
          · exact foundBetween k later before

/-- `filterSlice` returns the error of its loop. -/
theorem filterSlice_snd (s : List String) :
    (filterSlice host path s t filter).2 =
      (filterSliceLoop host path t filter s.length 0 ⟨0, s⟩).2 := by
  unfold filterSlice
  split <;> simp_all

/-- When every inspected entry is found, `filterSlice` leaves exactly the kept entries,
in their original order. -/
theorem filterSlice_of_found {s : List String} (found : AllFound host path t s) :
    filterSlice host path s t filter = (s.filter (keeps host path t filter), none) := by
  obtain ⟨final, run, kept⟩ := @filterSliceLoop_of_found host path t filter s s.length 0 ⟨0, s⟩
    (LoopInvariant.initial _ s) (by omega) found
  simp [filterSlice, run, kept]

/-- `filterSlice` succeeds exactly when every entry it inspects is found on disk. -/
theorem filterSlice_ok_iff (s : List String) :
    (filterSlice host path s t filter).2 = none ↔ AllFound host path t s := by
  refine ⟨fun succeeded => ?_, fun found => by rw [filterSlice_of_found found]⟩
  rw [filterSlice_snd] at succeeded
  exact @found_of_filterSliceLoop host path t filter s s.length 0 ⟨0, s⟩
    (LoopInvariant.initial _ s) (by omega) succeeded

/-- A failing `filterSlice` stops at the first entry it inspects whose Lstat fails and
returns that error. It leaves the slice compacted only up to there: the kept entries
before the failing one, then the original entries from the write index on, so a kept
entry can appear twice and a dropped one is lost. -/
theorem filterSlice_error {s slice : List String} {err : GoError}
    (failed : filterSlice host path s t filter = (slice, some err)) :
    ∃ i < s.length,
      (∀ k < i, inspects host t (s.getD k "") = true →
        (host.lstat (join [path, s.getD k ""])).isOk = true) ∧
      inspects host t (s.getD i "") = true ∧ host.lstat (join [path, s.getD i ""]) = .error err ∧
      slice = (s.take i).filter (keeps host path t filter) ++
        s.drop ((s.take i).filter (keeps host path t filter)).length := by
  cases run : filterSliceLoop host path t filter s.length 0 ⟨0, s⟩ with
  | mk final loopErr =>
      cases loopErr with
      | none => simp [filterSlice, run] at failed
      | some loopErr =>
          simp only [filterSlice, run, Prod.mk.injEq, Option.some.injEq] at failed
          obtain ⟨rfl, rfl⟩ := failed
          obtain ⟨i, -, inRange, foundBefore, lookedAt, stat, atI⟩ :=
            @filterSliceLoop_error host path t filter s loopErr s.length 0 ⟨0, s⟩
              (LoopInvariant.initial _ s) (by omega) (by rw [run])
          rw [run] at atI
          exact ⟨i, inRange, fun k before => foundBefore k (Nat.zero_le k) before, lookedAt, stat,
            atI.slice_eq inRange⟩

/-- Under `/repo` where `c` is missing, with a pattern for `a`: the loop drops `a`, writes
`b` over it, and fails at `c`, leaving `b` twice. -/
theorem filterSlice_error_repo :
    let host : Host := { repoHost with
      lstat := fun p => if p = "/repo/c" then .error ⟨"lstat /repo/c: no such file or directory"⟩
        else .ok ⟨false⟩ }
    let filter := ignoreFileFilter [namePattern [] "a" false] []
    filterSlice host "/repo" ["a", "b", "c"] resourcesField filter =
        (["b", "b", "c"], some ⟨"lstat /repo/c: no such file or directory"⟩) ∧
      ∃ i < ["a", "b", "c"].length,
        (∀ k < i, inspects host resourcesField (["a", "b", "c"].getD k "") = true →
          (host.lstat (join ["/repo", ["a", "b", "c"].getD k ""])).isOk = true) ∧
        inspects host resourcesField (["a", "b", "c"].getD i "") = true ∧
        host.lstat (join ["/repo", ["a", "b", "c"].getD i ""]) =
          .error ⟨"lstat /repo/c: no such file or directory"⟩ ∧
        ["b", "b", "c"] = (["a", "b", "c"].take i).filter (keeps host "/repo" resourcesField filter) ++
          ["a", "b", "c"].drop
            ((["a", "b", "c"].take i).filter (keeps host "/repo" resourcesField filter)).length :=
  ⟨by decide, filterSlice_error (by decide)⟩

end Loop

/-! ## The three lists of a kustomization -/

/-- In crds every entry is inspected. -/
theorem allFound_crds_iff (host : Host) (path : String) (s : List String) :
    AllFound host path crdsField s ↔ ∀ e ∈ s, (host.lstat (join [path, e])).isOk = true := by
  simp [AllFound, inspects]

/-- Outside crds exactly the entries that are not URLs are inspected. -/
theorem allFound_iff_of_ne_crds (host : Host) (path t : String)
    (notCrds : (t == crdsField) = false) (s : List String) :
    AllFound host path t s ↔
      ∀ e ∈ s, isUrl host e = false → (host.lstat (join [path, e])).isOk = true := by
  simp [AllFound, inspects, notCrds]

/-- Entries that were all found stay found in any sublist the filter keeps. -/
theorem AllFound.filter {host : Host} {path t : String} {s : List String}
    (found : AllFound host path t s) (p : String → Bool) : AllFound host path t (s.filter p) :=
  fun res member => found res (List.mem_of_mem_filter member)

variable {host : Host} {ks : Kustomization} {dirPath path : String} {ps : List Pattern}
  {domain : List String}

/-- With every inspected entry found, the three lists are filtered and no error is
returned. -/
theorem filterKsWithIgnoreFiles_of_found (resolved : abs host dirPath = .ok path)
    (resourcesFound : AllFound host path resourcesField ks.resources)
    (componentsFound : AllFound host path componentsField ks.components)
    (crdsFound : AllFound host path crdsField ks.crds) :
    filterKsWithIgnoreFiles host ks dirPath ps domain =
      ({ resources := ks.resources.filter (keeps host path resourcesField (ignoreFileFilter ps domain))
         components :=
          ks.components.filter (keeps host path componentsField (ignoreFileFilter ps domain))
         crds := ks.crds.filter (keeps host path crdsField (ignoreFileFilter ps domain)) },
        none) := by
  simp [filterKsWithIgnoreFiles, resolved, filterSlice_of_found resourcesFound,
    filterSlice_of_found componentsFound, filterSlice_of_found crdsFound]

/-- Once the resources' `filterSlice` returns no error, the call leaves the kept
resources, whatever happens to the other lists. -/
theorem resources_of_filterSlice (resolved : abs host dirPath = .ok path)
    (resourcesOk :
      (filterSlice host path ks.resources resourcesField (ignoreFileFilter ps domain)).2 = none) :
    (filterKsWithIgnoreFiles host ks dirPath ps domain).1.resources =
      ks.resources.filter (keeps host path resourcesField (ignoreFileFilter ps domain)) := by
  simp only [filterKsWithIgnoreFiles, resolved,
    filterSlice_of_found ((filterSlice_ok_iff _).1 resourcesOk)]
  generalize filterSlice host path ks.components componentsField (ignoreFileFilter ps domain) =
    second
  obtain ⟨_, _ | _⟩ := second <;> rfl

/-- Once the resources' and the components' `filterSlice` return no error, the call leaves
the kept components, whatever happens to the crds. -/
theorem components_of_filterSlice (resolved : abs host dirPath = .ok path)
    (resourcesOk :
      (filterSlice host path ks.resources resourcesField (ignoreFileFilter ps domain)).2 = none)
    (componentsOk :
      (filterSlice host path ks.components componentsField (ignoreFileFilter ps domain)).2 = none) :
    (filterKsWithIgnoreFiles host ks dirPath ps domain).1.components =
      ks.components.filter (keeps host path componentsField (ignoreFileFilter ps domain)) := by
  simp only [filterKsWithIgnoreFiles, resolved,
    filterSlice_of_found ((filterSlice_ok_iff _).1 resourcesOk),
    filterSlice_of_found ((filterSlice_ok_iff _).1 componentsOk)]

/-- Once all three `filterSlice` calls return no error, the call leaves the kept crds. -/
theorem crds_of_filterSlice (resolved : abs host dirPath = .ok path)
    (resourcesOk :
      (filterSlice host path ks.resources resourcesField (ignoreFileFilter ps domain)).2 = none)
    (componentsOk :
      (filterSlice host path ks.components componentsField (ignoreFileFilter ps domain)).2 = none)
    (crdsOk : (filterSlice host path ks.crds crdsField (ignoreFileFilter ps domain)).2 = none) :
    (filterKsWithIgnoreFiles host ks dirPath ps domain).1.crds =
      ks.crds.filter (keeps host path crdsField (ignoreFileFilter ps domain)) := by
  simp only [filterKsWithIgnoreFiles, resolved,
    filterSlice_of_found ((filterSlice_ok_iff _).1 resourcesOk),
    filterSlice_of_found ((filterSlice_ok_iff _).1 componentsOk),
    filterSlice_of_found ((filterSlice_ok_iff _).1 crdsOk)]

/-- A call returns no error exactly when none of its three `filterSlice` calls does. -/
theorem filterKsWithIgnoreFiles_ok_iff (resolved : abs host dirPath = .ok path) :
    (filterKsWithIgnoreFiles host ks dirPath ps domain).2 = none ↔
      (filterSlice host path ks.resources resourcesField (ignoreFileFilter ps domain)).2 = none ∧
      (filterSlice host path ks.components componentsField (ignoreFileFilter ps domain)).2 = none ∧
      (filterSlice host path ks.crds crdsField (ignoreFileFilter ps domain)).2 = none := by
  simp only [filterKsWithIgnoreFiles, resolved]
  generalize filterSlice host path ks.resources resourcesField (ignoreFileFilter ps domain) = resources
  generalize filterSlice host path ks.components componentsField (ignoreFileFilter ps domain) =
    components
  generalize filterSlice host path ks.crds crdsField (ignoreFileFilter ps domain) = crds
  obtain ⟨_, _ | _⟩ := resources <;> obtain ⟨_, _ | _⟩ := components <;>
    obtain ⟨_, _ | _⟩ := crds <;> simp

/-- A call that returns no error found every inspected entry of the three lists. -/
theorem found_of_filterKsWithIgnoreFiles (resolved : abs host dirPath = .ok path)
    (succeeded : (filterKsWithIgnoreFiles host ks dirPath ps domain).2 = none) :
    AllFound host path resourcesField ks.resources ∧
      AllFound host path componentsField ks.components ∧ AllFound host path crdsField ks.crds := by
  simpa only [filterKsWithIgnoreFiles_ok_iff resolved, filterSlice_ok_iff] using succeeded

/-- `filterKsWithIgnoreFiles` returns no error exactly when Lstat succeeds on the joined
path of every crd and of every resource and component that is not a URL; it then leaves
in each list exactly the kept entries, in their original order. -/
theorem filterKsWithIgnoreFiles_filters (host : Host) (ks : Kustomization)
    {dirPath path : String} (resolved : abs host dirPath = .ok path) (ps : List Pattern)
    (domain : List String) :
    ((filterKsWithIgnoreFiles host ks dirPath ps domain).2 = none ↔
        (∀ e ∈ ks.resources, isUrl host e = false → (host.lstat (join [path, e])).isOk = true) ∧
        (∀ e ∈ ks.components, isUrl host e = false → (host.lstat (join [path, e])).isOk = true) ∧
        (∀ e ∈ ks.crds, (host.lstat (join [path, e])).isOk = true)) ∧
      ((filterKsWithIgnoreFiles host ks dirPath ps domain).2 = none →
        (filterKsWithIgnoreFiles host ks dirPath ps domain).1 =
          { resources := ks.resources.filter (keeps host path resourcesField (ignoreFileFilter ps domain))
            components :=
              ks.components.filter (keeps host path componentsField (ignoreFileFilter ps domain))
            crds := ks.crds.filter (keeps host path crdsField (ignoreFileFilter ps domain)) }) := by
  rw [← allFound_iff_of_ne_crds host path resourcesField (by decide),
    ← allFound_iff_of_ne_crds host path componentsField (by decide), ← allFound_crds_iff]
  constructor
  · constructor
    · exact found_of_filterKsWithIgnoreFiles resolved
    · rintro ⟨resourcesFound, componentsFound, crdsFound⟩
      rw [filterKsWithIgnoreFiles_of_found resolved resourcesFound componentsFound crdsFound]
  · intro succeeded
    obtain ⟨resourcesFound, componentsFound, crdsFound⟩ :=
      found_of_filterKsWithIgnoreFiles resolved succeeded
    rw [filterKsWithIgnoreFiles_of_found resolved resourcesFound componentsFound crdsFound]

/-- A `filterSlice` that returns no error leaves exactly the kept entries. -/
theorem eq_filter_of_filterSlice {s kept : List String} {t : String} {filter : Filter}
    (succeeded : filterSlice host path s t filter = (kept, none)) :
    kept = s.filter (keeps host path t filter) := by
  have found := (filterSlice_ok_iff s).1 (by rw [succeeded])
  rw [filterSlice_of_found found, Prod.mk.injEq] at succeeded
  exact succeeded.1.symm

/-- On an error, a call has filtered every list before the one whose `filterSlice` failed,
left that one as the failing `filterSlice` leaves it, and not touched the lists after it;
when Abs fails, it has touched none. -/
theorem filterKsWithIgnoreFiles_error {ks' : Kustomization} {err : GoError}
    (failed : filterKsWithIgnoreFiles host ks dirPath ps domain = (ks', some err)) :
    (abs host dirPath = .error err ∧ ks' = ks) ∨
    ∃ path, abs host dirPath = .ok path ∧
      ((filterSlice host path ks.resources resourcesField (ignoreFileFilter ps domain) =
            (ks'.resources, some err) ∧ ks'.components = ks.components ∧ ks'.crds = ks.crds) ∨
        (ks'.resources =
            ks.resources.filter (keeps host path resourcesField (ignoreFileFilter ps domain)) ∧
          filterSlice host path ks.components componentsField (ignoreFileFilter ps domain) =
            (ks'.components, some err) ∧ ks'.crds = ks.crds) ∨
        (ks'.resources =
            ks.resources.filter (keeps host path resourcesField (ignoreFileFilter ps domain)) ∧
          ks'.components =
            ks.components.filter (keeps host path componentsField (ignoreFileFilter ps domain)) ∧
          filterSlice host path ks.crds crdsField (ignoreFileFilter ps domain) =
            (ks'.crds, some err))) := by
  cases resolved : abs host dirPath with
  | error absErr =>
      simp only [filterKsWithIgnoreFiles, resolved] at failed
      cases failed
      exact .inl ⟨rfl, rfl⟩
  | ok path =>
      refine .inr ⟨path, rfl, ?_⟩
      simp only [filterKsWithIgnoreFiles, resolved] at failed
      generalize resources :
        filterSlice host path ks.resources resourcesField (ignoreFileFilter ps domain) = first
        at failed
      obtain ⟨keptResources, _ | resourcesErr⟩ := first
      · generalize components :
          filterSlice host path ks.components componentsField (ignoreFileFilter ps domain) = second
          at failed
        obtain ⟨keptComponents, _ | componentsErr⟩ := second
        · generalize filterSlice host path ks.crds crdsField (ignoreFileFilter ps domain) = third
            at failed
          obtain ⟨keptCrds, crdsErr⟩ := third
          cases failed
          exact .inr (.inr ⟨eq_filter_of_filterSlice resources, eq_filter_of_filterSlice components,
            rfl⟩)
        · cases failed
          exact .inr (.inl ⟨eq_filter_of_filterSlice resources, rfl, rfl⟩)
      · cases failed
        exact .inl ⟨rfl, rfl, rfl⟩

/-- Under `/repo` where `c` is missing, a call filters the resources, fails in the
components, and leaves the crds alone. -/
theorem filterKsWithIgnoreFiles_error_repo :
    let host : Host := { repoHost with
      lstat := fun p => if p = "/repo/c" then .error ⟨"lstat /repo/c: no such file or directory"⟩
        else .ok ⟨false⟩ }
    let ps := [namePattern [] "a" false]
    let ks : Kustomization := ⟨["a"], ["c"], ["b"]⟩
    let ks' : Kustomization := ⟨[], ["c"], ["b"]⟩
    let err : GoError := ⟨"lstat /repo/c: no such file or directory"⟩
    filterKsWithIgnoreFiles host ks "/repo" ps [] = (ks', some err) ∧
      ((abs host "/repo" = .error err ∧ ks' = ks) ∨
      ∃ path, abs host "/repo" = .ok path ∧
        ((filterSlice host path ks.resources resourcesField (ignoreFileFilter ps []) =
              (ks'.resources, some err) ∧ ks'.components = ks.components ∧ ks'.crds = ks.crds) ∨
          (ks'.resources = ks.resources.filter (keeps host path resourcesField (ignoreFileFilter ps [])) ∧
            filterSlice host path ks.components componentsField (ignoreFileFilter ps []) =
              (ks'.components, some err) ∧ ks'.crds = ks.crds) ∨
          (ks'.resources = ks.resources.filter (keeps host path resourcesField (ignoreFileFilter ps [])) ∧
            ks'.components =
              ks.components.filter (keeps host path componentsField (ignoreFileFilter ps [])) ∧
            filterSlice host path ks.crds crdsField (ignoreFileFilter ps []) =
              (ks'.crds, some err)))) := by
  intro host ps ks ks' err
  have failed : filterKsWithIgnoreFiles host ks "/repo" ps [] = (ks', some err) := by decide
  exact ⟨failed, filterKsWithIgnoreFiles_error failed⟩

/-- Filtering is idempotent: a call that returns no error leaves a kustomization that a
second call on the same host accepts and leaves unchanged. -/
theorem filterKsWithIgnoreFiles_idempotent {ks' : Kustomization}
    (resolved : abs host dirPath = .ok path)
    (filtered : filterKsWithIgnoreFiles host ks dirPath ps domain = (ks', none)) :
    filterKsWithIgnoreFiles host ks' dirPath ps domain = (ks', none) := by
  obtain ⟨resourcesFound, componentsFound, crdsFound⟩ :=
    found_of_filterKsWithIgnoreFiles resolved (by rw [filtered])
  rw [filterKsWithIgnoreFiles_of_found resolved resourcesFound componentsFound crdsFound,
    Prod.mk.injEq] at filtered
  obtain ⟨rfl, -⟩ := filtered
  rw [filterKsWithIgnoreFiles_of_found resolved (resourcesFound.filter _) (componentsFound.filter _)
    (crdsFound.filter _)]
  simp [List.filter_filter]

/-- A second pass over `/repo` keeps the resource a pattern for `b` left. -/
theorem filterKsWithIgnoreFiles_idempotent_repo :
    abs repoHost "/repo" = .ok "/repo" ∧
      filterKsWithIgnoreFiles repoHost ⟨["a", "b"], [], []⟩ "/repo" [namePattern [] "b" false] [] =
        (⟨["a"], [], []⟩, none) ∧
      filterKsWithIgnoreFiles repoHost ⟨["a"], [], []⟩ "/repo" [namePattern [] "b" false] [] =
        (⟨["a"], [], []⟩, none) :=
  ⟨rfl, by decide, @filterKsWithIgnoreFiles_idempotent repoHost ⟨["a", "b"], [], []⟩ "/repo" "/repo"
    [namePattern [] "b" false] [] ⟨["a"], [], []⟩ rfl (by decide)⟩

/-- An excluding pattern, appended last, only adds to what the ignore filter rejects: it
takes priority, and it never re-includes a path. -/
theorem ignoreFileFilter_append_excluding {q : Pattern}
    (excluding : ∀ path isDir, q.matchPath path isDir ≠ .include) {p : String} {fi : FileInfo}
    (rejected : ignoreFileFilter ps domain p fi = true) :
    ignoreFileFilter (ps ++ [q]) domain p fi = true := by
  unfold ignoreFileFilter at rejected ⊢
  rw [SourceIgnore.newDefaultMatcher_matchPath] at rejected ⊢
  generalize decision (Strings.split p Separator) fi.isDir
    (SourceIgnore.vcsPatterns domain ++ SourceIgnore.defaultPatterns domain).reverse = defaults
    at rejected ⊢
  rw [List.reverse_append, List.reverse_singleton, List.singleton_append]
  cases verdict : q.matchPath (Strings.split p Separator) fi.isDir
  · simpa only [decision, verdict] using rejected
  · simp only [decision, verdict]
    rfl
  · exact absurd verdict (excluding _ _)

/-- A filter that rejects more keeps fewer entries. -/
theorem keeps_of_keeps {t : String} {filter filter' : Filter}
    (more : ∀ p fi, filter p fi = true → filter' p fi = true) {res : String}
    (kept : keeps host path t filter' res = true) : keeps host path t filter res = true := by
  simp only [keeps, Bool.or_eq_true] at kept ⊢
  refine kept.imp id fun lookedUp => ?_
  cases stat : host.lstat (join [path, res]) with
  | error err => simp [stat] at lookedUp
  | ok info =>
      simp only [stat] at lookedUp ⊢
      cases passes : filter (join [path, res]) info
      · rfl
      · simp [more _ _ passes] at lookedUp

/-- Appending a pattern that never re-includes a path to a call that returns no error
gives a call that returns no error either and keeps, in each list, a sublist of what the
first call kept. -/
theorem filterKsWithIgnoreFiles_append_excluding {ks' : Kustomization} {q : Pattern}
    (excluding : ∀ path isDir, q.matchPath path isDir ≠ .include)
    (filtered : filterKsWithIgnoreFiles host ks dirPath ps domain = (ks', none)) :
    ∃ ks'', filterKsWithIgnoreFiles host ks dirPath (ps ++ [q]) domain = (ks'', none) ∧
      ks''.resources.Sublist ks'.resources ∧ ks''.components.Sublist ks'.components ∧
      ks''.crds.Sublist ks'.crds := by
  cases resolved : abs host dirPath with
  | error err => simp [filterKsWithIgnoreFiles, resolved] at filtered
  | ok path =>
      obtain ⟨resourcesFound, componentsFound, crdsFound⟩ :=
        found_of_filterKsWithIgnoreFiles resolved (by rw [filtered])
      rw [filterKsWithIgnoreFiles_of_found resolved resourcesFound componentsFound crdsFound,
        Prod.mk.injEq] at filtered
      obtain ⟨rfl, -⟩ := filtered
      have fewer : ∀ t res, keeps host path t (ignoreFileFilter (ps ++ [q]) domain) res = true →
          keeps host path t (ignoreFileFilter ps domain) res = true :=
        fun _ _ => keeps_of_keeps fun _ _ => ignoreFileFilter_append_excluding excluding
      exact ⟨_, filterKsWithIgnoreFiles_of_found resolved resourcesFound componentsFound crdsFound,
        List.monotone_filter_right _ (fewer _), List.monotone_filter_right _ (fewer _),
        List.monotone_filter_right _ (fewer _)⟩

/-- Under `/repo`, a pattern for `a` added to no pattern drops `a` and keeps `b`. -/
theorem filterKsWithIgnoreFiles_append_excluding_repo :
    (∀ path isDir, (namePattern [] "a" false).matchPath path isDir ≠ .include) ∧
      filterKsWithIgnoreFiles repoHost ⟨["a", "b"], [], []⟩ "/repo" [] [] =
        (⟨["a", "b"], [], []⟩, none) ∧
      ∃ ks'', filterKsWithIgnoreFiles repoHost ⟨["a", "b"], [], []⟩ "/repo"
          ([] ++ [namePattern [] "a" false]) [] = (ks'', none) ∧
        ks''.resources.Sublist ["a", "b"] ∧ ks''.components.Sublist [] ∧ ks''.crds.Sublist [] :=
  ⟨namePattern_ne_include [] "a" false, by decide,
    @filterKsWithIgnoreFiles_append_excluding repoHost ⟨["a", "b"], [], []⟩ "/repo" [] []
      ⟨["a", "b"], [], []⟩ _ (namePattern_ne_include [] "a" false) (by decide)⟩

/-- The law under `/repo` with a pattern for `a`: the resource `a` is dropped and `b` is
moved to the front. -/
theorem filterKsWithIgnoreFiles_filters_repo :
    ((filterKsWithIgnoreFiles repoHost ⟨["a", "b"], [], ["c"]⟩ "/repo"
          [namePattern [] "a" false] []).2 = none ↔
        (∀ e ∈ ["a", "b"], isUrl repoHost e = false →
          (repoHost.lstat (join ["/repo", e])).isOk = true) ∧
        (∀ e ∈ ([] : List String), isUrl repoHost e = false →
          (repoHost.lstat (join ["/repo", e])).isOk = true) ∧
        (∀ e ∈ ["c"], (repoHost.lstat (join ["/repo", e])).isOk = true)) ∧
      ((filterKsWithIgnoreFiles repoHost ⟨["a", "b"], [], ["c"]⟩ "/repo"
          [namePattern [] "a" false] []).2 = none →
        (filterKsWithIgnoreFiles repoHost ⟨["a", "b"], [], ["c"]⟩ "/repo"
          [namePattern [] "a" false] []).1 =
          { resources := ["a", "b"].filter
              (keeps repoHost "/repo" resourcesField (ignoreFileFilter [namePattern [] "a" false] []))
            components := [].filter
              (keeps repoHost "/repo" componentsField (ignoreFileFilter [namePattern [] "a" false] []))
            crds := ["c"].filter
              (keeps repoHost "/repo" crdsField (ignoreFileFilter [namePattern [] "a" false] [])) }) :=
  filterKsWithIgnoreFiles_filters repoHost ⟨["a", "b"], [], ["c"]⟩
    (show abs repoHost "/repo" = .ok "/repo" from rfl) [namePattern [] "a" false] []

end FluxPkg.Kustomize
