import BuildExplorer.Cache
import BuildExplorer.CacheKey
import BuildExplorer.Explorer.Error
import BuildExplorer.Family.Basic

/-!
# The explorer and what it accepts

An explorer builds requests under one configuration, with a cache if one is
configured.
-/

namespace BuildExplorer

/-- A configuration at work. -/
structure Explorer where
  config : Config
  cache : Option Cache := none
  /-- Where runs of tools are recorded. -/
  auditLog : Option Path := none

/-- A request whose compiler, family and language are known. -/
structure Accepted where
  info : CompilerInfo
  family : Family
  language : Language

namespace Explorer

/-- The explorer for a configuration; its cache directory is made. -/
def openWith (config : Config) (auditLog : Option Path) : Program (Except SetupError Explorer) := do
  match config.settings.cacheDir with
  | none => return .ok { config, auditLog }
  | some directory =>
      match ← Cache.openIn directory with
      | .error fault => return .error (.noCache directory fault)
      | .ok cache => return .ok { config, cache := some cache, auditLog }

/-- Check the names of extra files. -/
def checkFiles : List ExtraFile → Except SetupError Unit
  | [] => .ok ()
  | file :: rest =>
      match Guard.checkFileName file.name with
      | .error error => .error (.badFileName error)
      | .ok () => checkFiles rest

/-- A build by CMake needs the file with the targets. -/
def checkTargets (request : Request) : Except SetupError Unit :=
  if request.build = .cmake && !request.files.any (·.name == targetsFileName) then
    .error .noTargets
  else .ok ()

/-- Check a request. -/
def check (config : Config) (request : Request) : Except SetupError Accepted :=
  match config.compiler? request.compiler with
  | none => .error (.unknownCompiler request.compiler)
  | some info =>
      match Family.ofKey? info.family with
      | none => .error (.unknownFamily info.id info.family)
      | some family =>
          match Language.find? info.lang with
          | none => .error (.unknownLanguage info.id info.lang)
          | some language => do
              checkFiles request.files
              checkTargets request
              return { info, family, language }

end Explorer

end BuildExplorer
