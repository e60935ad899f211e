import BuildExplorer.Text.Replace

/-!
# What a request may not do

Options that point the tools outside of the scratch directory are dropped, and
the names of extra files may not lead out of it.
-/

namespace BuildExplorer.Guard

/-- Flags that are forbidden unless the configuration says otherwise. -/
def defaultForbidden : List String :=
  ["-fplugin", "-B", "--sysroot", "-specs"]

/-- Is the option the flag, or the flag with a value joined to it?  The empty
flag forbids nothing. -/
def isForbidden (flag option : String) : Bool :=
  !flag.isEmpty && flag.toList.isPrefixOf option.toList

/-- The options that no forbidden flag matches. -/
def allowedOptions (forbidden options : List String) : List String :=
  options.filter fun option => !forbidden.any fun flag => isForbidden flag option

/-- Why a file name is refused. -/
inductive FileNameError where
  | empty
  | climbs (name : String)
  | notRelative (name : String)
  | holdsNull
  deriving DecidableEq, Repr

/-- The wording of an error. -/
def FileNameError.message : FileNameError → String
  | .empty => "file name must not be empty"
  | .climbs name => "file name '" ++ name ++ "' is not permitted"
  | .notRelative name => "file name '" ++ name ++ "' must be relative"
  | .holdsNull => "file name contains NUL byte"

/-- Check the name of an extra file. -/
def checkFileName (name : String) : Except FileNameError Unit :=
  let chars := name.toList
  if chars.isEmpty then .error .empty
  else if chars = ['.'] || Text.occursIn ['.', '.'] chars then .error (.climbs name)
  else if chars.head? == some '/' || chars.contains '\\' then .error (.notRelative name)
  else if chars.contains '\x00' then .error .holdsNull
  else .ok ()

end BuildExplorer.Guard
