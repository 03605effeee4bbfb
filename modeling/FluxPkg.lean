import FluxPkg.Platform.Strings
import FluxPkg.Platform.Filepath
import FluxPkg.Platform.Host
import FluxPkg.Platform.Gitignore
import FluxPkg.SourceIgnore
import FluxPkg.Kustomize.Filters
import FluxPkg.Kustomize.FilterSlice
import FluxPkg.Kustomize.ShouldIgnore
import FluxPkg.Auth.Generic.Provider
import FluxPkg.Auth.Generic.Identity
import FluxPkg.Git.Gogit.Transport
import FluxPkg.Git.Gogit.TransportProperties
import FluxPkg.Apis.Meta.ReferenceTypes
