import Mathlib.Data.List.Basic

/-!
# go-git's gitignore matcher

`gitignore.Pattern` is an interface with the single method
`Match(path []string, isDir bool) MatchResult`, so a pattern is modelled as that method and
every pattern value the package can be handed is one of these functions. The matcher
that `NewMatcher` builds asks its patterns from the last to the first, and the first one
that matches decides: a later pattern takes priority over an earlier one.

`parsedPattern` is `Match` for a pattern `ParsePattern` built without a leading `!`, given
the test it applies below its domain. `namePattern`, `extensionPattern` and
`anyDepthPattern` are what `ParsePattern` builds from the three shapes of sourceignore's
default patterns: a slash-free name without glob metacharacters (with a trailing slash for
a directory), `*` followed by such a name, and `**/` followed by one.
-/

namespace FluxPkg.Platform.Gitignore

/-- The outcome of matching one pattern. -/
inductive MatchResult where
  | noMatch
  | exclude
  | include
  deriving DecidableEq, Repr

/-- `gitignore.Pattern`: a pattern is its `Match` method. -/
structure Pattern where
  /-- `Match`: the outcome for a path, given as its components, and whether it is a
  directory. -/
  matchPath : List String → Bool → MatchResult

/-- `gitignore.Matcher` as `NewMatcher` builds it: the patterns in the order given. -/
structure Matcher where
  patterns : List Pattern

/-- `gitignore.NewMatcher`. -/
def newMatcher (ps : List Pattern) : Matcher := ⟨ps⟩

/-- The verdict of the first pattern that matches, reading the list front to back:
`some true` to exclude, `some false` to include, `none` when no pattern matches. -/
def decision (path : List String) (isDir : Bool) : List Pattern → Option Bool
  | [] => none
  | pattern :: rest =>
      match pattern.matchPath path isDir with
      | .noMatch => decision path isDir rest
      | result => some (result == .exclude)

/-- `matcher.Match`: the loop from the last pattern down to the first returns at the
first pattern that matches, true when it excludes; no match at all means false. -/
def Matcher.matchPath (matcher : Matcher) (path : List String) (isDir : Bool) : Bool :=
  (decision path isDir matcher.patterns.reverse).getD false

/-- `simpleNameMatch` for a name without glob metacharacters, where `filepath.Match`
is equality: the first component equal to the name decides, and a directory-only name
does not match a last component that is a file. -/
def simpleNameMatch (name : String) (dirOnly isDir : Bool) : List String → Bool
  | [] => false
  | component :: rest =>
      if component = name then !(dirOnly && !isDir && rest.isEmpty)
      else simpleNameMatch name dirOnly isDir rest

/-- `(*pattern).Match` for a pattern that `ParsePattern` built under `domain` without a
leading `!`: it looks only below the domain, where `matchRest` is its `simpleNameMatch` or
its `globMatch`, and it excludes what that accepts. -/
def parsedPattern (domain : List String) (matchRest : List String → Bool → Bool) : Pattern where
  matchPath path isDir :=
    if path.length ≤ domain.length then .noMatch
    else if !domain.isPrefixOf path then .noMatch
    else if matchRest (path.drop domain.length) isDir then .exclude
    else .noMatch

/-- The pattern `ParsePattern` builds from `name` (with a trailing slash when `dirOnly`)
under `domain`. -/
def namePattern (domain : List String) (name : String) (dirOnly : Bool) : Pattern :=
  parsedPattern domain fun rest isDir => simpleNameMatch name dirOnly isDir rest

/-- `simpleNameMatch` for the name `*<suffix>` with no other metacharacter: `filepath.Match`
lets `*` stand for any run of characters of a component, so the first component that ends
with `suffix` decides. -/
def simpleSuffixMatch (suffix : String) : List String → Bool
  | [] => false
  | component :: rest => suffix.data.isSuffixOf component.data || simpleSuffixMatch suffix rest

/-- The pattern `ParsePattern` builds from `*<suffix>` under `domain`. -/
def extensionPattern (domain : List String) (suffix : String) : Pattern :=
  parsedPattern domain fun rest _ => simpleSuffixMatch suffix rest

/-- `globMatch` for the pattern `**/<name>`: the leading `**` lets the traversal skip
components until one equals `name`, and the pattern then ends. -/
def traverseMatch (name : String) : List String → Bool
  | [] => false
  | component :: rest => component == name || traverseMatch name rest

/-- The pattern `ParsePattern` builds from `**/<name>` under `domain`. -/
def anyDepthPattern (domain : List String) (name : String) : Pattern :=
  parsedPattern domain fun rest _ => traverseMatch name rest

/-- The verdict over a concatenation is the first part's, unless no pattern there
matches. -/
theorem decision_append (path : List String) (isDir : Bool) (first second : List Pattern) :
    decision path isDir (first ++ second) =
      (decision path isDir first).or (decision path isDir second) := by
  induction first with
  | nil => rfl
  | cons pattern rest inductionHypothesis =>
      simp only [List.cons_append, decision]
      split <;> simp [inductionHypothesis]

/-- Patterns appended later take priority: the earlier patterns are consulted only when
none of the later ones matches. -/
theorem matchPath_append (earlier later : List Pattern) (path : List String) (isDir : Bool) :
    (newMatcher (earlier ++ later)).matchPath path isDir =
      ((decision path isDir later.reverse).or (decision path isDir earlier.reverse)).getD false := by
  simp [newMatcher, Matcher.matchPath, decision_append]

/-- A pattern without a leading `!` only excludes: it never re-includes a path. -/
theorem parsedPattern_ne_include (domain : List String) (matchRest : List String → Bool → Bool)
    (path : List String) (isDir : Bool) :
    (parsedPattern domain matchRest).matchPath path isDir ≠ .include := by
  simp only [parsedPattern]
  split_ifs <;> simp

/-- So does a name pattern. -/
theorem namePattern_ne_include (domain : List String) (name : String) (dirOnly : Bool)
    (path : List String) (isDir : Bool) :
    (namePattern domain name dirOnly).matchPath path isDir ≠ .include :=
  parsedPattern_ne_include domain _ path isDir

end FluxPkg.Platform.Gitignore
