import BuildExplorer.Config
import BuildExplorer.Json.Decode

/-!
# Configurations as JSON

The members are named as in the configuration file.  Configurations come in two
formats, each of which has its manner of reading records and words.
-/

namespace BuildExplorer

open Json (withDefault required)

def FailurePolicy.word : FailurePolicy → String
  | .proceed => "continue"
  | .abort => "abort"

def FailurePolicy.ofWord? (word : String) : Option FailurePolicy :=
  if word = "continue" then some .proceed
  else if word = "abort" then some .abort
  else none

def FailurePolicy.ofJson? (manner : Json.Manner) (json : Json) : Option FailurePolicy :=
  (json.asWord manner).bind FailurePolicy.ofWord?

def Path.ofJson? (json : Json) : Option Path :=
  json.asString.map Path.mk

def Path.toJson (path : Path) : Json :=
  .string path.text

def CompilerInfo.keys : List String :=
  ["id", "name", "exe", "family", "lang", "options", "lib_path", "libpath_flag", "include_flag",
    "timeout_ms", "objdumper", "step_failure_policy"]

def CompilerInfo.toJson (info : CompilerInfo) : Json :=
  .object [
    ("id", .string info.id),
    ("name", .string info.name),
    ("exe", info.exe.toJson),
    ("family", .string info.family),
    ("lang", .string info.lang),
    ("options", .string info.options),
    ("lib_path", .ofStrings info.libPath),
    ("libpath_flag", .ofOption .string info.libPathFlag),
    ("include_flag", .ofOption .string info.includeFlag),
    ("timeout_ms", .ofOption (fun value => .ofNat value.toNat) info.timeoutMs),
    ("objdumper", .ofOption Path.toJson info.objdumper),
    ("step_failure_policy", .ofOption (fun policy => .string policy.word) info.failurePolicy)]

def CompilerInfo.ofJson? (manner : Json.Manner) (json : Json) : Option CompilerInfo := do
  match ← json.fieldsIn manner CompilerInfo.keys with
  | [id, name, exe, family, lang, options, libPath, libPathFlag, includeFlag, timeoutMs, objdumper,
      policy] =>
      let id ← required Json.asString id
      let name ← withDefault "" Json.asString name
      let exe ← required Path.ofJson? exe
      let family ← withDefault "default" Json.asString family
      let lang ← withDefault "c++" Json.asString lang
      let options ← withDefault "" Json.asString options
      let libPath ← withDefault [] (Json.asList Json.asString) libPath
      let libPathFlag ← withDefault none (Json.asOption Json.asString) libPathFlag
      let includeFlag ← withDefault none (Json.asOption Json.asString) includeFlag
      let timeoutMs ← withDefault none (Json.asOption Json.asUInt64) timeoutMs
      let objdumper ← withDefault none (Json.asOption Path.ofJson?) objdumper
      let failurePolicy ←
        withDefault none (Json.asOption (FailurePolicy.ofJson? manner)) policy
      return { id, name, exe, family, lang, options, libPath, libPathFlag, includeFlag, timeoutMs,
               objdumper, failurePolicy }
  | _ => none

def LibraryInfo.keys : List String :=
  ["id", "version", "lib_path", "include_path"]

def LibraryInfo.toJson (info : LibraryInfo) : Json :=
  .object [
    ("id", .string info.id),
    ("version", .string info.version),
    ("lib_path", .ofStrings info.libPath),
    ("include_path", .ofStrings info.includePath)]

def LibraryInfo.ofJson? (manner : Json.Manner) (json : Json) : Option LibraryInfo := do
  match ← json.fieldsIn manner LibraryInfo.keys with
  | [id, version, libPath, includePath] =>
      let id ← required Json.asString id
      let version ← required Json.asString version
      let libPath ← withDefault [] (Json.asList Json.asString) libPath
      let includePath ← withDefault [] (Json.asList Json.asString) includePath
      return { id, version, libPath, includePath }
  | _ => none

def Settings.keys : List String :=
  ["timeout_ms", "max_output_bytes", "lib_download_path", "keep_workdir", "cmake",
    "invocation_log", "forbidden_flags", "cache_dir"]

def Settings.toJson (settings : Settings) : Json :=
  .object [
    ("timeout_ms", .ofNat settings.timeoutMs.toNat),
    ("max_output_bytes", .ofNat settings.maxOutputBytes.toNat),
    ("lib_download_path", .ofOption .string settings.libDownloadPath),
    ("keep_workdir", .bool settings.keepWorkdir),
    ("cmake", settings.cmake.toJson),
    ("invocation_log", .ofOption Path.toJson settings.invocationLog),
    ("forbidden_flags", .ofStrings settings.forbiddenFlags),
    ("cache_dir", .ofOption Path.toJson settings.cacheDir)]

def Settings.ofJson? (manner : Json.Manner) (json : Json) : Option Settings := do
  let fallback : Settings := {}
  match ← json.fieldsIn manner Settings.keys with
  | [timeoutMs, maxOutputBytes, libDownloadPath, keepWorkdir, cmake, invocationLog, forbiddenFlags,
      cacheDir] =>
      let timeoutMs ← withDefault fallback.timeoutMs Json.asUInt64 timeoutMs
      let maxOutputBytes ← withDefault fallback.maxOutputBytes Json.asUInt64 maxOutputBytes
      let libDownloadPath ← withDefault none (Json.asOption Json.asString) libDownloadPath
      let keepWorkdir ← withDefault false Json.asBool keepWorkdir
      let cmake ← withDefault fallback.cmake Path.ofJson? cmake
      let invocationLog ← withDefault none (Json.asOption Path.ofJson?) invocationLog
      let forbiddenFlags ←
        withDefault fallback.forbiddenFlags (Json.asList Json.asString) forbiddenFlags
      let cacheDir ← withDefault none (Json.asOption Path.ofJson?) cacheDir
      return { timeoutMs, maxOutputBytes, libDownloadPath, keepWorkdir, cmake, invocationLog,
               forbiddenFlags, cacheDir }
  | _ => none

def Config.keys : List String :=
  ["explorer", "compiler", "library"]

def Config.toJson (config : Config) : Json :=
  .object [
    ("explorer", config.settings.toJson),
    ("compiler", .array (config.compilers.map CompilerInfo.toJson)),
    ("library", .array (config.libraries.map LibraryInfo.toJson))]

def Config.ofJson? (manner : Json.Manner) (json : Json) : Option Config := do
  match ← json.fieldsIn manner Config.keys with
  | [settings, compilers, libraries] =>
      let settings ← withDefault {} (Settings.ofJson? manner) settings
      let compilers ← withDefault [] (Json.asList (CompilerInfo.ofJson? manner)) compilers
      let libraries ← withDefault [] (Json.asList (LibraryInfo.ofJson? manner)) libraries
      return { settings, compilers, libraries }
  | _ => none

end BuildExplorer
