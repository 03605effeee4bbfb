import FluxPkg.Platform.Gitignore

/-!
# sourceignore's default matcher

The sourceignore package is not under src/. The kustomize filter builds its matcher with
its `NewDefaultMatcher`, which puts the default patterns before the caller's: first the
version-control patterns of `ExcludeVCS`, then `DefaultPatterns`, the patterns of
`ExcludeExt`, `ExcludeCI` and `ExcludeExtra`. Since a later pattern takes priority, a
caller's pattern that matches a path always decides it, and the default patterns decide
only the paths that no caller's pattern matches; in particular they still apply when the
caller passes no pattern.
-/

namespace FluxPkg.SourceIgnore

open Platform.Gitignore

/-- `VCSPatterns`: the patterns of `ExcludeVCS = ".git/,.gitignore,.gitmodules,.gitattributes"`
parsed under the domain. -/
def vcsPatterns (domain : List String) : List Pattern :=
  [namePattern domain ".git" true, namePattern domain ".gitignore" false,
    namePattern domain ".gitmodules" false, namePattern domain ".gitattributes" false]

/-- `DefaultPatterns`: the patterns of `ExcludeExt`, `ExcludeCI` and `ExcludeExtra`, in
this order, parsed under the domain:
`ExcludeExt = "*.jpg,*.jpeg,*.gif,*.png,*.wmv,*.flv,*.tar.gz,*.zip"`,
`ExcludeCI = ".github/,.circleci/,.travis.yml,.gitlab-ci.yml,appveyor.yml,.drone.yml,` ++
`cloudbuild.yaml,codeship-services.yml,codeship-steps.yml"` and
`ExcludeExtra = "**/.goreleaser.yml,**/.sops.yaml,**/.flux.yaml"`. -/
def defaultPatterns (domain : List String) : List Pattern :=
  [".jpg", ".jpeg", ".gif", ".png", ".wmv", ".flv", ".tar.gz", ".zip"].map
      (extensionPattern domain) ++
    [namePattern domain ".github" true, namePattern domain ".circleci" true] ++
    [".travis.yml", ".gitlab-ci.yml", "appveyor.yml", ".drone.yml", "cloudbuild.yaml",
      "codeship-services.yml", "codeship-steps.yml"].map (fun name => namePattern domain name false) ++
    [".goreleaser.yml", ".sops.yaml", ".flux.yaml"].map (anyDepthPattern domain)

/-- `NewDefaultMatcher(ps, domain)`: the VCS patterns, then the default patterns, then
`ps`. -/
def newDefaultMatcher (ps : List Pattern) (domain : List String) : Matcher :=
  let defaultPs := vcsPatterns domain ++ defaultPatterns domain
  newMatcher (defaultPs ++ ps)

/-- The default matcher asks the caller's patterns first, from the last to the first, and
the default patterns only when none of them matches. -/
theorem newDefaultMatcher_matchPath (ps : List Pattern) (domain path : List String)
    (isDir : Bool) :
    (newDefaultMatcher ps domain).matchPath path isDir =
      ((decision path isDir ps.reverse).or
        (decision path isDir (vcsPatterns domain ++ defaultPatterns domain).reverse)).getD false :=
  matchPath_append _ _ path isDir

end FluxPkg.SourceIgnore
