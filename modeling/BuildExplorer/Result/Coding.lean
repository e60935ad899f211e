import BuildExplorer.Diagnostic.Coding
import BuildExplorer.Listing.Coding
import BuildExplorer.Remark.Coding
import BuildExplorer.Result.Basic

/-!
# Results as JSON

A result is written with its members in a fixed order.  Members without a value
are left out.  A result can be read back if it could be written; it cannot be
written if it holds a remark that cannot.
-/

namespace BuildExplorer

open Json (withDefault required)

/-- Lines of output as JSON. -/
def Diagnostic.linesToJson (lines : List Diagnostic.Line) : Json :=
  .array (lines.map Diagnostic.Line.toJson)

def Diagnostic.linesOfJson? : Json → Option (List Diagnostic.Line) :=
  Json.asList Diagnostic.Line.ofJson?

def Listing.linesToJson (lines : List Listing.Line) : Json :=
  .array (lines.map Listing.Line.toJson)

def Listing.linesOfJson? : Json → Option (List Listing.Line) :=
  Json.asList Listing.Line.ofJson?

def StepResult.keys : List String :=
  ["step", "command", "args", "code", "timedOut", "launchFailure", "supervisionFailure", "stdout",
    "stderr", "execTimeMs"]

def StepResult.toJson (step : StepResult) : Json :=
  .object ([
    ("step", .string step.step),
    ("command", .string step.command),
    ("args", .ofStrings step.args),
    ("code", .ofInt step.code.toInt),
    ("timedOut", .bool step.timedOut)] ++
    Json.optional "launchFailure" .string step.launchFailure ++
    Json.optional "supervisionFailure" .string step.supervisionFailure ++ [
    ("stdout", Diagnostic.linesToJson step.stdout),
    ("stderr", Diagnostic.linesToJson step.stderr),
    ("execTimeMs", .ofNat step.elapsedMs.toNat)])

def StepResult.ofJson? (json : Json) : Option StepResult := do
  match ← json.fields StepResult.keys with
  | [step, command, args, code, timedOut, launchFailure, supervisionFailure, stdout, stderr,
      elapsedMs] =>
      let step ← required Json.asString step
      let command ← required Json.asString command
      let args ← required (Json.asList Json.asString) args
      let code ← required Json.asInt32 code
      let timedOut ← required Json.asBool timedOut
      let launchFailure ← withDefault none (Json.asOption Json.asString) launchFailure
      let supervisionFailure ← withDefault none (Json.asOption Json.asString) supervisionFailure
      let stdout ← required Diagnostic.linesOfJson? stdout
      let stderr ← required Diagnostic.linesOfJson? stderr
      let elapsedMs ← required Json.asUInt64 elapsedMs
      return { step, command, args, code, timedOut, launchFailure, supervisionFailure, stdout,
               stderr, elapsedMs }
  | _ => none

namespace Result

/-- The listings of devices as JSON. -/
def devicesToJson (devices : DeviceBundle.PerTarget (List Listing.Line)) : Json :=
  .object (devices.map fun (target, lines) => (target, Listing.linesToJson lines))

/-- Read the listings of devices; of several for one device the last counts. -/
def devicesOfJson? : Json → Option (DeviceBundle.PerTarget (List Listing.Line))
  | .object members => do
      let devices ← members.mapM fun (target, json) =>
        (Listing.linesOfJson? json).map fun lines => (target, lines)
      return devices.foldl (fun sofar (target, lines) => DeviceBundle.insert target lines sofar) []
  | _ => none

def keys : List String :=
  ["code", "timedOut", "stdout", "stderr", "asm", "devices", "artifacts", "optPath", "optOutput",
    "macroExpansionOutput", "buildsteps", "inputFilename", "compilationOptions", "execTimeMs"]

/-- How deep the arguments of a remark may be nested when a result is read: a
text may hold 127 levels, and four of them lead to the arguments. -/
def argumentDepth : Nat := 127 - 4

def toJson (result : Result) : Except Yaml.KeyError Json := do
  let remarks ← match result.remarks with
    | none => pure none
    | some remarks => some <$> remarks.mapM Remark.toJson
  return .object ([
    ("code", .ofInt result.code.toInt),
    ("timedOut", .bool result.timedOut),
    ("stdout", Diagnostic.linesToJson result.stdout),
    ("stderr", Diagnostic.linesToJson result.stderr),
    ("asm", Listing.linesToJson result.listing)] ++
    Json.optional "devices" devicesToJson result.devices ++
    [("artifacts", .array (result.artifacts.map Artifact.toJson))] ++
    Json.optional "optPath" (fun path => .string path.text) result.remarksPath ++
    Json.optional "optOutput" .array remarks ++
    Json.optional "macroExpansionOutput" Diagnostic.linesToJson result.macroExpansion ++
    [("buildsteps", .array (result.steps.map StepResult.toJson))] ++
    Json.optional "inputFilename" .string result.inputName ++ [
    ("compilationOptions", .ofStrings result.options),
    ("execTimeMs", .ofNat result.elapsedMs.toNat)])

def ofJson? (json : Json) : Option Result := do
  match ← json.fields keys with
  | [code, timedOut, stdout, stderr, listing, devices, artifacts, remarksPath, remarks,
      macroExpansion, steps, inputName, options, elapsedMs] =>
      let code ← required Json.asInt32 code
      let timedOut ← required Json.asBool timedOut
      let stdout ← required Diagnostic.linesOfJson? stdout
      let stderr ← required Diagnostic.linesOfJson? stderr
      let listing ← required Listing.linesOfJson? listing
      let devices ← withDefault none (Json.asOption devicesOfJson?) devices
      let artifacts ← required (Json.asList Artifact.ofJson?) artifacts
      let remarksPath ← withDefault none (Json.asOption Json.asString) remarksPath
      let remarks ←
        withDefault none (Json.asOption (Json.asList (Remark.ofJson? argumentDepth))) remarks
      let macroExpansion ← withDefault none (Json.asOption Diagnostic.linesOfJson?) macroExpansion
      let steps ← required (Json.asList StepResult.ofJson?) steps
      let inputName ← withDefault none (Json.asOption Json.asString) inputName
      let options ← required (Json.asList Json.asString) options
      let elapsedMs ← required Json.asUInt64 elapsedMs
      return { code, timedOut, stdout, stderr, listing, devices, artifacts,
               remarksPath := remarksPath.map Path.mk, remarks, macroExpansion, steps, inputName,
               options, elapsedMs }
  | _ => none

end Result

end BuildExplorer
