import BuildExplorer.Explorer.Build

/-!
# From a request to its result

A request is checked, looked up in the cache, and built in a scratch directory
of its own.  The result is stored unless a tool did not come to an end of its own,
and at the end the scratch directory is removed.
-/

namespace BuildExplorer.Explorer

/-- Look up a result. -/
def lookup (explorer : Explorer) (key : String) : Program (Option Result) :=
  match explorer.cache with
  | none => return none
  | some cache => cache.get key

/-- Store a result that is worth it.  A result that is not stored is no less a
result. -/
def store (explorer : Explorer) (key : String) (result : Result) : Program Unit :=
  match explorer.cache with
  | none => return ()
  | some cache =>
      if result.hasProcessFailure then return ()
      else do
        let _ ← cache.put key result
        return ()

/-- Fill a scratch directory and build in it. -/
def buildIn (explorer : Explorer) (accepted : Accepted) (request : Request)
    (userOptions : List String) (directory : Path) : Program (Except SetupError Result) := do
  match ← explorer.prepare accepted request userOptions directory with
  | .error error => return .error error
  | .ok job => return .ok (← build explorer.config accepted.family job)

/-- Remove a scratch directory, unless it is to be kept. -/
def dispose (explorer : Explorer) (directory : Path) : Program Unit :=
  if explorer.config.settings.keepWorkdir then return ()
  else Program.removeScratch directory

/-- Build a request that is not in the cache, and store its result.  The scratch directory
is there until that is done. -/
def buildFresh (explorer : Explorer) (accepted : Accepted) (request : Request)
    (userOptions : List String) (key : String) : Program (Except SetupError Result) := do
  match ← Program.makeScratch with
  | .error fault => return .error (.noScratch fault)
  | .ok directory =>
      match ← explorer.buildIn accepted request userOptions directory with
      | .error error =>
          explorer.dispose directory
          return .error error
      | .ok result =>
          explorer.store key result
          explorer.dispose directory
          return .ok result

/-- The result of a request. -/
def compile (explorer : Explorer) (request : Request) : Program (Except SetupError Result) :=
  match check explorer.config request with
  | .error error => return .error error
  | .ok accepted => do
      let userOptions :=
        Guard.allowedOptions explorer.config.settings.forbiddenFlags request.options
      let key := cacheKey accepted.info request userOptions
      match ← explorer.lookup key with
      | some result => return .ok result
      | none => explorer.buildFresh accepted request userOptions key

end BuildExplorer.Explorer
