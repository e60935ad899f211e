import BuildExplorer.Proofs.Yaml.Lasting
import BuildExplorer.Result.Coding

/-!
# Results that are written and read

Every record of a result is read back from what is written of it, but for the arguments
of remarks: they are read as what they are after they were written as JSON.  So a result
is read back as itself exactly if all arguments of its remarks last.
-/

namespace BuildExplorer

open Json (required withDefault Exact)

/-! ## Diagnostics -/

namespace Diagnostic

theorem Severity.ofJson?_toJson (severity : Severity) :
    ofJson? severity.toJson = some severity := by
  cases severity <;> rfl

/-- The fields of a tag. -/
def Tag.entries (tag : Tag) : List (String × Option Json) :=
  [("line", some (.ofNat tag.line.toNat)),
    ("column", tag.column.map fun column => .ofNat column.toNat),
    ("file", tag.file.map .string), ("text", some (.string tag.text)),
    ("severity", some tag.severity.toJson)]

theorem Tag.toJson_eq_record (tag : Tag) : tag.toJson = .record tag.entries := by
  rw [toJson, Json.optional_eq_map "column", Json.optional_eq_map "file"]
  simp [Json.record, entries]

theorem Tag.ofJson?_toJson (tag : Tag) : ofJson? tag.toJson = some tag := by
  have found : tag.toJson.fields ["line", "column", "file", "text", "severity"] =
      some (tag.entries.map Prod.snd) := by
    rw [toJson_eq_record]
    exact Json.fields_record (by simp [entries])
  have severity := Json.required_of_back (Severity.ofJson?_toJson tag.severity)
  rw [ofJson?, found, Option.bind_eq_bind, Option.bind_some]
  simp [entries, severity]

theorem Tag.exact_toJson (tag : Tag) : tag.toJson.Exact := by
  rw [toJson_eq_record]
  apply Json.exact_record
  simp [entries, Json.exact_uint32, Json.exact_string, Severity.toJson]

/-- The fields of a line of output. -/
def Line.entries (line : Line) : List (String × Option Json) :=
  [("text", some (.string line.text)), ("tag", line.tag.map Tag.toJson)]

theorem Line.toJson_eq_record (line : Line) : line.toJson = .record line.entries := by
  rw [toJson, Json.optional_eq_map "tag"]
  simp [Json.record, entries]

theorem Line.ofJson?_toJson (line : Line) : ofJson? line.toJson = some line := by
  have found : line.toJson.fields ["text", "tag"] = some (line.entries.map Prod.snd) := by
    rw [toJson_eq_record]
    exact Json.fields_record (by simp [entries])
  have tag := Json.withDefault_asOption line.tag (fun tag _ => Tag.ofJson?_toJson tag)
    fun _ => Json.noConfusion
  rw [ofJson?, found, Option.bind_eq_bind, Option.bind_some]
  simp [entries, tag]

theorem Line.exact_toJson (line : Line) : line.toJson.Exact := by
  rw [toJson_eq_record]
  apply Json.exact_record
  simp [entries, Json.exact_string, Tag.exact_toJson]

theorem linesOfJson?_linesToJson (lines : List Line) :
    linesOfJson? (linesToJson lines) = some lines :=
  Json.asList_array Line.ofJson?_toJson lines

theorem exact_linesToJson (lines : List Line) : (linesToJson lines).Exact :=
  Json.exact_array_map Line.exact_toJson lines

end Diagnostic

/-! ## Listings -/

namespace Listing

/-- The fields of a place in a source. -/
def Position.entries (position : Position) : List (String × Option Json) :=
  [("file", position.file.map .string), ("line", some (.ofNat position.line.toNat)),
    ("column", position.column.map fun column => .ofNat column.toNat)]

theorem Position.toJson_eq_record (position : Position) :
    position.toJson = .record position.entries := by
  have natural : numberToJson = fun number : UInt32 => Json.ofNat number.toNat := rfl
  rw [toJson, natural, Json.optional_eq_map "file", Json.optional_eq_map "column"]
  simp [Json.record, entries]

theorem Position.ofJson?_toJson (position : Position) :
    ofJson? position.toJson = some position := by
  have found : position.toJson.fields ["file", "line", "column"] =
      some (position.entries.map Prod.snd) := by
    rw [toJson_eq_record]
    exact Json.fields_record (by simp [entries])
  rw [ofJson?, found, Option.bind_eq_bind, Option.bind_some]
  simp [entries]

theorem Position.exact_toJson (position : Position) : position.toJson.Exact := by
  rw [toJson_eq_record]
  apply Json.exact_record
  simp [entries, Json.exact_uint32, Json.exact_string]

/-- The fields of a line of a listing. -/
def Line.entries (line : Line) : List (String × Option Json) :=
  [("text", some (.string line.text)), ("source", line.source.map Position.toJson)]

theorem Line.toJson_eq_record (line : Line) : line.toJson = .record line.entries := by
  rw [toJson, Json.optional_eq_map "source"]
  simp [Json.record, entries]

theorem Line.ofJson?_toJson (line : Line) : ofJson? line.toJson = some line := by
  have found : line.toJson.fields ["text", "source"] = some (line.entries.map Prod.snd) := by
    rw [toJson_eq_record]
    exact Json.fields_record (by simp [entries])
  have source := Json.withDefault_asOption line.source
    (fun position _ => Position.ofJson?_toJson position) fun _ => Json.noConfusion
  rw [ofJson?, found, Option.bind_eq_bind, Option.bind_some]
  simp [entries, source]

theorem Line.exact_toJson (line : Line) : line.toJson.Exact := by
  rw [toJson_eq_record]
  apply Json.exact_record
  simp [entries, Json.exact_string, Position.exact_toJson]

theorem linesOfJson?_linesToJson (lines : List Line) :
    linesOfJson? (linesToJson lines) = some lines :=
  Json.asList_array Line.ofJson?_toJson lines

theorem exact_linesToJson (lines : List Line) : (linesToJson lines).Exact :=
  Json.exact_array_map Line.exact_toJson lines

end Listing

/-! ## Listings for devices -/

namespace DeviceBundle

variable {Body : Type}

/-- Each target is there once, and the targets are in order. -/
def InOrder (bodies : PerTarget Body) : Prop :=
  bodies.Pairwise fun first second => first.1 < second.1

/-- What is set behind all others stands at the end. -/
theorem insert_of_last {target : String} (body : Body) {earlier : PerTarget Body}
    (last : ∀ entry ∈ earlier, entry.1 < target) :
    insert target body earlier = earlier ++ [(target, body)] := by
  induction earlier with
  | nil => rfl
  | cons entry earlier inductionHypothesis =>
      rcases entry with ⟨first, text⟩
      have before : first < target := last (first, text) List.mem_cons_self
      have notBehind : ¬target < first := String.lt_asymm before
      have notSame : target ≠ first := by
        rintro rfl
        exact notBehind before
      have rest := inductionHypothesis fun entry member =>
        last entry (List.mem_cons_of_mem _ member)
      rw [insert, if_neg notBehind, if_neg notSame, rest, List.cons_append]

/-- Bodies in order are set one behind the other. -/
theorem foldl_insert_of_inOrder {bodies : PerTarget Body} (earlier : PerTarget Body)
    (inOrder : InOrder (earlier ++ bodies)) :
    bodies.foldl (fun sofar (target, body) => insert target body sofar) earlier =
      earlier ++ bodies := by
  induction bodies generalizing earlier with
  | nil => rw [List.foldl_nil, List.append_nil]
  | cons entry bodies inductionHypothesis =>
      have last : ∀ other ∈ earlier, other.1 < entry.1 := fun other member =>
        (List.pairwise_append.mp inOrder).2.2 other member entry List.mem_cons_self
      have rest := inductionHypothesis (earlier ++ [entry])
        (by rwa [List.append_assoc, List.singleton_append])
      rw [List.append_assoc, List.singleton_append] at rest
      rw [List.foldl_cons, ← rest]
      exact congrArg (List.foldl _ · bodies) (insert_of_last entry.2 last)

end DeviceBundle

theorem Result.devicesOfJson?_devicesToJson {devices : DeviceBundle.PerTarget (List Listing.Line)}
    (inOrder : DeviceBundle.InOrder devices) :
    devicesOfJson? (devicesToJson devices) = some devices := by
  have read : (devices.map fun entry => (entry.1, Listing.linesToJson entry.2)).mapM
      (fun member => (Listing.linesOfJson? member.2).map fun lines => (member.1, lines)) =
        some devices := by
    apply Json.mapM_map_eq_some_self
    intro entry _
    simp [Listing.linesOfJson?_linesToJson]
  have inserted := DeviceBundle.foldl_insert_of_inOrder [] inOrder
  rw [devicesToJson, devicesOfJson?]
  exact Option.bind_eq_some_iff.mpr ⟨devices, read, congrArg some inserted⟩

theorem Result.exact_devicesToJson (devices : DeviceBundle.PerTarget (List Listing.Line)) :
    (devicesToJson devices).Exact := by
  apply Json.exact_object
  intro member isMember
  obtain ⟨⟨target, lines⟩, -, rfl⟩ := List.mem_map.mp isMember
  exact Listing.exact_linesToJson lines

/-! ## Artifacts -/

namespace Artifact

theorem Kind.ofJson?_word (kind : Kind) : ofJson? (.string kind.word) = some kind := by
  cases kind <;> rfl

/-- The fields of an artifact. -/
def entries (artifact : Artifact) : List (String × Option Json) :=
  [("type", some (.string artifact.kind.word)), ("path", some (.string artifact.path.text)),
    ("displayName", artifact.displayName.map .string),
    ("content", some (.string artifact.content))]

theorem toJson_eq_record (artifact : Artifact) : artifact.toJson = .record artifact.entries := by
  rw [toJson, Json.optional_eq_map "displayName"]
  simp [Json.record, entries]

theorem ofJson?_toJson (artifact : Artifact) : ofJson? artifact.toJson = some artifact := by
  have found : artifact.toJson.fields ["type", "path", "displayName", "content"] =
      some (artifact.entries.map Prod.snd) := by
    rw [toJson_eq_record]
    exact Json.fields_record (by simp [entries])
  have kind := Json.required_of_back (Kind.ofJson?_word artifact.kind)
  rw [ofJson?, found, Option.bind_eq_bind, Option.bind_some]
  simp [entries, kind]

theorem exact_toJson (artifact : Artifact) : artifact.toJson.Exact := by
  rw [toJson_eq_record]
  apply Json.exact_record
  simp [entries, Json.exact_string]

end Artifact

/-! ## Steps -/

namespace StepResult

/-- The fields of a step. -/
def entries (step : StepResult) : List (String × Option Json) :=
  [("step", some (.string step.step)), ("command", some (.string step.command)),
    ("args", some (.ofStrings step.args)), ("code", some (.ofInt step.code.toInt)),
    ("timedOut", some (.bool step.timedOut)),
    ("launchFailure", step.launchFailure.map .string),
    ("supervisionFailure", step.supervisionFailure.map .string),
    ("stdout", some (Diagnostic.linesToJson step.stdout)),
    ("stderr", some (Diagnostic.linesToJson step.stderr)),
    ("execTimeMs", some (.ofNat step.elapsedMs.toNat))]

theorem toJson_eq_record (step : StepResult) : step.toJson = .record step.entries := by
  rw [toJson, Json.optional_eq_map "launchFailure", Json.optional_eq_map "supervisionFailure"]
  simp [Json.record, entries]

theorem ofJson?_toJson (step : StepResult) : ofJson? step.toJson = some step := by
  have found : step.toJson.fields keys = some (step.entries.map Prod.snd) := by
    rw [toJson_eq_record]
    exact Json.fields_record (by simp [entries])
  have stdout := Json.required_of_back (Diagnostic.linesOfJson?_linesToJson step.stdout)
  have stderr := Json.required_of_back (Diagnostic.linesOfJson?_linesToJson step.stderr)
  rw [ofJson?, found, Option.bind_eq_bind, Option.bind_some]
  simp [entries, stdout, stderr]

theorem exact_toJson (step : StepResult) : step.toJson.Exact := by
  rw [toJson_eq_record]
  apply Json.exact_record
  simp [entries, Json.exact_string, Json.exact_bool, Json.exact_int32, Json.exact_uint64,
    Json.exact_ofStrings, Diagnostic.exact_linesToJson]

end StepResult

/-! ## Remarks -/

namespace Remark

/-- The fields of a place. -/
def Place.entries (place : Place) : List (String × Option Json) :=
  [("File", some (.string place.file)), ("Line", some (.ofNat place.line.toNat)),
    ("Column", some (.ofNat place.column.toNat))]

theorem Place.toJson_eq_record (place : Place) : place.toJson = .record place.entries :=
  rfl

theorem Place.ofJson?_toJson (place : Place) : ofJson? place.toJson = some place := by
  have found : place.toJson.fields ["File", "Line", "Column"] =
      some (place.entries.map Prod.snd) := by
    rw [toJson_eq_record]
    exact Json.fields_record (by simp [entries])
  rw [ofJson?, found, Option.bind_eq_bind, Option.bind_some]
  simp [entries]

theorem Place.exact_toJson (place : Place) : place.toJson.Exact := by
  rw [toJson_eq_record]
  apply Json.exact_record
  simp [entries, Json.exact_uint32, Json.exact_string]

/-- The fields of a remark whose arguments are written as some values. -/
def entries (remark : Remark) (arguments : List Json) : List (String × Option Json) :=
  [("Pass", some (.string remark.pass)), ("Name", some (.string remark.name)),
    ("DebugLoc", remark.place.map Place.toJson), ("Function", some (.string remark.function)),
    ("Args", some (.array arguments)), ("displayString", some (.string remark.message)),
    ("optType", some (.string remark.kind))]

theorem toJson_eq_ok_iff {remark : Remark} {json : Json} :
    remark.toJson = .ok json ↔ ∃ arguments,
      remark.arguments.mapM (fun record => (Yaml.entriesToJson record).map .object) =
        .ok arguments ∧ json = .record (remark.entries arguments) := by
  have written : ∀ arguments : List Json, Json.object
      ([("Pass", .string remark.pass), ("Name", .string remark.name)] ++
        Json.optional "DebugLoc" Place.toJson remark.place ++
        [("Function", .string remark.function), ("Args", .array arguments),
          ("displayString", .string remark.message), ("optType", .string remark.kind)]) =
      .record (remark.entries arguments) := by
    intro arguments
    rw [Json.optional_eq_map "DebugLoc"]
    simp [Json.record, entries]
  rw [toJson, bind_eq_ok_iff]
  simp only [written, Except.pure, pure, Except.ok.injEq, eq_comm]

/-- A remark is read from its fields as far as its arguments are. -/
theorem ofJson?_record (depth : Nat) (remark : Remark) (arguments : List Json) :
    ofJson? depth (.record (remark.entries arguments)) =
      (arguments.mapM (Yaml.mappingOfJson? depth)).map fun arguments =>
        { remark with arguments } := by
  have found : (Json.record (remark.entries arguments)).fields
      ["Pass", "Name", "DebugLoc", "Function", "Args", "displayString", "optType"] =
        some ((remark.entries arguments).map Prod.snd) :=
    Json.fields_record (by simp [entries])
  have place := Json.withDefault_asOption remark.place
    (fun place _ => Place.ofJson?_toJson place) fun _ => Json.noConfusion
  have list : required (Json.asList (Yaml.mappingOfJson? depth)) (some (.array arguments)) =
      arguments.mapM (Yaml.mappingOfJson? depth) := rfl
  rw [ofJson?, found, Option.bind_eq_bind, Option.bind_some]
  simp only [entries, List.map_cons, List.map_nil, Option.bind_eq_bind, place, list,
    Json.required_asString, Option.bind_some]
  cases arguments.mapM (Yaml.mappingOfJson? depth) <;> rfl

/-- The arguments alone are read as something else than what was written. -/
theorem reread_record (remark : Remark) (arguments : List Json) :
    (Json.record (remark.entries arguments)).reread =
      .record (remark.entries (arguments.map Json.reread)) := by
  have place : (remark.place.map Place.toJson).map Json.reread =
      remark.place.map Place.toJson := by
    cases remark.place with
    | none => rfl
    | some place => exact congrArg some place.exact_toJson
  rw [Json.reread_record]
  simp [entries, Json.reread, place, Json.rereadItems_eq_map]

/-- What a remark is when it was written and is read again. -/
def reread? (depth : Nat) (remark : Remark) : Option Remark :=
  (remark.arguments.mapM (Yaml.rereadMapping? depth)).map fun arguments =>
    { remark with arguments }

end Remark

/-- What is written item by item is read item by item. -/
theorem mapM_map_of_mapM_eq_ok {Item Read Error : Type} {write : Item → Except Error Json}
    {decode : Json → Option Read} {reread : Item → Option Read} {items : List Item}
    (each : ∀ item ∈ items, ∀ json, write item = .ok json → decode json.reread = reread item)
    {written : List Json} (isWritten : items.mapM write = .ok written) :
    (written.map Json.reread).mapM decode = items.mapM reread := by
  induction items generalizing written with
  | nil =>
      cases isWritten
      rfl
  | cons item items inductionHypothesis =>
      rw [List.mapM_cons] at isWritten
      obtain ⟨json, first, isWritten⟩ := bind_eq_ok_iff.mp isWritten
      obtain ⟨others, later, same⟩ := bind_eq_ok_iff.mp isWritten
      cases same
      have ofFirst := each item List.mem_cons_self json first
      have ofOthers := inductionHypothesis
        (fun item member => each item (List.mem_cons_of_mem _ member)) later
      rw [List.map_cons, List.mapM_cons, List.mapM_cons, ofFirst, ofOthers]

theorem Remark.ofJson?_reread {depth : Nat} {remark : Remark} {json : Json}
    (isWritten : remark.toJson = .ok json) :
    ofJson? depth json.reread = remark.reread? depth := by
  obtain ⟨arguments, areWritten, rfl⟩ := toJson_eq_ok_iff.mp isWritten
  have readArguments : (arguments.map Json.reread).mapM (Yaml.mappingOfJson? depth) =
      remark.arguments.mapM (Yaml.rereadMapping? depth) := by
    apply mapM_map_of_mapM_eq_ok _ areWritten
    intro record _ json written
    obtain ⟨members, isMembers, rfl⟩ := map_eq_ok_iff.mp written
    rw [Yaml.rereadMapping?, isMembers]
  rw [Remark.reread_record, ofJson?_record, readArguments, Remark.reread?]

/-- A remark comes back exactly if all its arguments last. -/
theorem Remark.reread?_eq_some_self_iff {depth : Nat} {remark : Remark} :
    remark.reread? depth = some remark ↔
      ∀ record ∈ remark.arguments, (Yaml.Value.mapping record).Lasts depth := by
  have each : remark.arguments.mapM (Yaml.rereadMapping? depth) = some remark.arguments ↔
      ∀ record ∈ remark.arguments, (Yaml.Value.mapping record).Lasts depth := by
    rw [Json.mapM_eq_some_iff_self]
    simp only [Yaml.rereadMapping?_eq_some_self_iff]
  rw [← each, reread?, Option.map_eq_some_iff]
  constructor
  · rintro ⟨arguments, read, same⟩
    rw [read, ← congrArg Remark.arguments same]
  · intro read
    exact ⟨remark.arguments, read, rfl⟩

/-! ## Results -/

namespace Result

/-- The fields of a result whose remarks are written as some values. -/
def entries (result : Result) (remarks : Option (List Json)) : List (String × Option Json) :=
  [("code", some (.ofInt result.code.toInt)), ("timedOut", some (.bool result.timedOut)),
    ("stdout", some (Diagnostic.linesToJson result.stdout)),
    ("stderr", some (Diagnostic.linesToJson result.stderr)),
    ("asm", some (Listing.linesToJson result.listing)),
    ("devices", result.devices.map devicesToJson),
    ("artifacts", some (.array (result.artifacts.map Artifact.toJson))),
    ("optPath", result.remarksPath.map fun path => .string path.text),
    ("optOutput", remarks.map .array),
    ("macroExpansionOutput", result.macroExpansion.map Diagnostic.linesToJson),
    ("buildsteps", some (.array (result.steps.map StepResult.toJson))),
    ("inputFilename", result.inputName.map .string),
    ("compilationOptions", some (.ofStrings result.options)),
    ("execTimeMs", some (.ofNat result.elapsedMs.toNat))]

/-- What is written of the remarks, if there are any. -/
def writtenRemarks (result : Result) : Except Yaml.KeyError (Option (List Json)) :=
  match result.remarks with
  | none => .ok none
  | some remarks => (remarks.mapM Remark.toJson).map some

theorem toJson_eq_ok_iff {result : Result} {json : Json} :
    result.toJson = .ok json ↔ ∃ remarks, result.writtenRemarks = .ok remarks ∧
      json = .record (result.entries remarks) := by
  have written : ∀ remarks : Option (List Json), Json.object ([
        ("code", .ofInt result.code.toInt),
        ("timedOut", .bool result.timedOut),
        ("stdout", Diagnostic.linesToJson result.stdout),
        ("stderr", Diagnostic.linesToJson result.stderr),
        ("asm", Listing.linesToJson result.listing)] ++
        Json.optional "devices" devicesToJson result.devices ++
        [("artifacts", .array (result.artifacts.map Artifact.toJson))] ++
        Json.optional "optPath" (fun path => .string path.text) result.remarksPath ++
        Json.optional "optOutput" .array remarks ++
        Json.optional "macroExpansionOutput" Diagnostic.linesToJson result.macroExpansion ++
        [("buildsteps", .array (result.steps.map StepResult.toJson))] ++
        Json.optional "inputFilename" .string result.inputName ++ [
        ("compilationOptions", .ofStrings result.options),
        ("execTimeMs", .ofNat result.elapsedMs.toNat)]) = .record (result.entries remarks) := by
    intro remarks
    rw [Json.optional_eq_map "devices", Json.optional_eq_map "optPath",
      Json.optional_eq_map "optOutput", Json.optional_eq_map "macroExpansionOutput",
      Json.optional_eq_map "inputFilename"]
    simp [Json.record, entries]
  have byRemarks : result.toJson = result.writtenRemarks >>= fun remarks =>
      .ok (.record (result.entries remarks)) := by
    unfold toJson writtenRemarks
    simp only [written]
    cases result.remarks with
    | none => rfl
    | some remarks => cases remarks.mapM Remark.toJson <;> rfl
  rw [byRemarks, bind_eq_ok_iff]
  simp only [Except.ok.injEq, eq_comm]

/-- A result is read from its fields as far as its remarks are. -/
theorem ofJson?_record {result : Result} (remarks : Option (List Json))
    (inOrder : ∀ devices ∈ result.devices, DeviceBundle.InOrder devices) :
    ofJson? (.record (result.entries remarks)) =
      (withDefault none (Json.asOption (Json.asList (Remark.ofJson? argumentDepth)))
        (remarks.map .array)).map fun remarks => { result with remarks } := by
  have found : (Json.record (result.entries remarks)).fields keys =
      some ((result.entries remarks).map Prod.snd) :=
    Json.fields_record (by simp [entries])
  have stdout := Json.required_of_back (Diagnostic.linesOfJson?_linesToJson result.stdout)
  have stderr := Json.required_of_back (Diagnostic.linesOfJson?_linesToJson result.stderr)
  have listing := Json.required_of_back (Listing.linesOfJson?_linesToJson result.listing)
  have devices := Json.withDefault_asOption result.devices
    (fun devices isDevices => devicesOfJson?_devicesToJson (inOrder devices isDevices))
    fun _ => Json.noConfusion
  have artifacts := Json.required_of_back
    (Json.asList_array Artifact.ofJson?_toJson result.artifacts)
  have path : withDefault none (Json.asOption Json.asString)
      (result.remarksPath.map fun path => .string path.text) =
        some (result.remarksPath.map Path.text) := by
    have same : (result.remarksPath.map fun path => Json.string path.text) =
        (result.remarksPath.map Path.text).map .string := by
      rw [Option.map_map]
      rfl
    rw [same, Json.withDefault_asString]
  have paths : (result.remarksPath.map Path.text).map Path.mk = result.remarksPath := by
    cases result.remarksPath <;> rfl
  have macroExpansion := Json.withDefault_asOption result.macroExpansion
    (fun lines _ => Diagnostic.linesOfJson?_linesToJson lines) fun _ => Json.noConfusion
  have steps := Json.required_of_back (Json.asList_array StepResult.ofJson?_toJson result.steps)
  rw [ofJson?, found, Option.bind_eq_bind, Option.bind_some]
  simp only [entries, List.map_cons, List.map_nil, Option.bind_eq_bind, stdout, stderr, listing,
    devices, artifacts, path, macroExpansion, steps, Json.required_asInt32, Json.required_asBool,
    Json.required_asStrings, Json.required_asUInt64, Json.withDefault_asString, Option.bind_some,
    paths]
  generalize withDefault none (Json.asOption (Json.asList (Remark.ofJson? argumentDepth)))
    (remarks.map .array) = readRemarks
  cases readRemarks <;> rfl

/-- The remarks alone are read as something else than what was written. -/
theorem reread_record (result : Result) (remarks : Option (List Json)) :
    (Json.record (result.entries remarks)).reread =
      .record (result.entries (remarks.map fun remarks => remarks.map Json.reread)) := by
  have code : (Json.ofInt result.code.toInt).reread = _ := Json.exact_int32 result.code
  have timedOut : (Json.bool result.timedOut).reread = _ := Json.exact_bool result.timedOut
  have stdout : (Diagnostic.linesToJson result.stdout).reread = _ :=
    Diagnostic.exact_linesToJson result.stdout
  have stderr : (Diagnostic.linesToJson result.stderr).reread = _ :=
    Diagnostic.exact_linesToJson result.stderr
  have listing : (Listing.linesToJson result.listing).reread = _ :=
    Listing.exact_linesToJson result.listing
  have artifacts : (Json.array (result.artifacts.map Artifact.toJson)).reread = _ :=
    Json.exact_array_map Artifact.exact_toJson result.artifacts
  have steps : (Json.array (result.steps.map StepResult.toJson)).reread = _ :=
    Json.exact_array_map StepResult.exact_toJson result.steps
  have options : (Json.ofStrings result.options).reread = _ := Json.exact_ofStrings result.options
  have elapsed : (Json.ofNat result.elapsedMs.toNat).reread = _ :=
    Json.exact_uint64 result.elapsedMs
  have list : (remarks.map Json.array).map Json.reread =
      (remarks.map fun remarks => remarks.map Json.reread).map .array := by
    cases remarks with
    | none => rfl
    | some remarks =>
        exact congrArg (fun items => some (Json.array items)) (Json.rereadItems_eq_map remarks)
  rw [Json.reread_record]
  simp only [entries, List.map_cons, List.map_nil, Option.map_some, code, timedOut, stdout,
    stderr, listing, artifacts, steps, options, elapsed, list,
    Json.map_reread_of_exact exact_devicesToJson,
    Json.map_reread_of_exact Json.exact_string, Json.map_reread_of_exact fun path : Path =>
      Json.exact_string path.text, Json.map_reread_of_exact Diagnostic.exact_linesToJson]

/-- What a result is when it was written and is read again. -/
def reread? (result : Result) : Option Result :=
  match result.remarks with
  | none => some result
  | some remarks => (remarks.mapM (Remark.reread? argumentDepth)).map fun remarks =>
      { result with remarks := some remarks }

/-- A result that was written is read again as what became of its remarks. -/
theorem ofJson?_reread {result : Result} {json : Json} (isWritten : result.toJson = .ok json)
    (inOrder : ∀ devices ∈ result.devices, DeviceBundle.InOrder devices) :
    ofJson? json.reread = result.reread? := by
  obtain ⟨written, areWritten, rfl⟩ := toJson_eq_ok_iff.mp isWritten
  rw [Result.reread_record, ofJson?_record _ inOrder, reread?]
  cases isRemarks : result.remarks with
  | none =>
      simp only [writtenRemarks, isRemarks] at areWritten
      cases areWritten
      cases result
      cases isRemarks
      rfl
  | some remarks =>
      simp only [writtenRemarks, isRemarks] at areWritten
      obtain ⟨jsons, each, rfl⟩ := map_eq_ok_iff.mp areWritten
      have readRemarks : (jsons.map Json.reread).mapM (Remark.ofJson? argumentDepth) =
          remarks.mapM (Remark.reread? argumentDepth) := by
        apply mapM_map_of_mapM_eq_ok _ each
        exact fun _ _ _ => Remark.ofJson?_reread
      have list : withDefault none (Json.asOption (Json.asList (Remark.ofJson? argumentDepth)))
          (some (Json.array (jsons.map Json.reread))) =
            (remarks.mapM (Remark.reread? argumentDepth)).map some :=
        congrArg (Option.map some) readRemarks
      rw [Option.map_some, Option.map_some, list, Option.map_map]
      rfl

/-- All arguments of the remarks of a result last. -/
def RemarksLast (result : Result) : Prop :=
  ∀ remarks ∈ result.remarks, ∀ remark ∈ remarks, ∀ record ∈ remark.arguments,
    (Yaml.Value.mapping record).Lasts argumentDepth

/-- A result comes back exactly if the arguments of its remarks last. -/
theorem reread?_eq_some_self_iff {result : Result} :
    result.reread? = some result ↔ result.RemarksLast := by
  unfold reread? RemarksLast
  cases isRemarks : result.remarks with
  | none => simp
  | some remarks =>
      have each : remarks.mapM (Remark.reread? argumentDepth) = some remarks ↔
          ∀ remark ∈ remarks, ∀ record ∈ remark.arguments,
            (Yaml.Value.mapping record).Lasts argumentDepth := by
        rw [Json.mapM_eq_some_iff_self]
        simp only [Remark.reread?_eq_some_self_iff]
      have whole : (remarks.mapM (Remark.reread? argumentDepth)).map
            (fun remarks => { result with remarks := some remarks }) = some result ↔
          remarks.mapM (Remark.reread? argumentDepth) = some remarks := by
        rw [Option.map_eq_some_iff]
        constructor
        · rintro ⟨found, isFound, same⟩
          have sameRemarks := congrArg Result.remarks same
          rw [isRemarks] at sameRemarks
          rw [isFound]
          exact sameRemarks
        · intro isFound
          refine ⟨remarks, isFound, ?_⟩
          rw [← isRemarks]
      simpa [each] using whole

end Result

/-! ## What can be written -/

/-- A remark can be written if its arguments can. -/
theorem Remark.exists_toJson {remark : Remark}
    (each : ∀ record ∈ remark.arguments, ∃ members, Yaml.entriesToJson record = .ok members) :
    ∃ json, remark.toJson = .ok json := by
  have written : ∃ arguments,
      remark.arguments.mapM (fun record => (Yaml.entriesToJson record).map Json.object) =
        .ok arguments := by
    apply exists_mapM_eq_ok
    intro record isRecord
    obtain ⟨members, areMembers⟩ := each record isRecord
    exact ⟨.object members, map_eq_ok_iff.mpr ⟨members, areMembers, rfl⟩⟩
  obtain ⟨arguments, areWritten⟩ := written
  exact ⟨_, Remark.toJson_eq_ok_iff.mpr ⟨arguments, areWritten, rfl⟩⟩

/-- A remark that was read can be written. -/
theorem Remark.exists_toJson_of_ofJson? {depth : Nat} {json : Json} {remark : Remark}
    (read : ofJson? depth json = some remark) : ∃ written, remark.toJson = .ok written := by
  unfold ofJson? at read
  obtain ⟨fields, -, read⟩ := Option.bind_eq_some_iff.mp read
  split at read
  · simp only [Option.bind_eq_bind, Option.bind_eq_some_iff, Option.pure_def,
      Option.some.injEq] at read
    obtain ⟨_, -, _, -, _, -, _, -, arguments, areRead, _, -, _, -, rfl⟩ := read
    apply Remark.exists_toJson
    intro record isRecord
    obtain ⟨list, isList⟩ := Json.exists_of_required areRead
    obtain ⟨part, decoded⟩ := Json.exists_of_asList isList isRecord
    exact Yaml.exists_entriesToJson_of_mappingOfJson? decoded
  · cases read

namespace Result

/-- A result can be written if its remarks can. -/
theorem exists_toJson {result : Result}
    (each : ∀ remarks ∈ result.remarks, ∀ remark ∈ remarks, ∃ json, remark.toJson = .ok json) :
    ∃ json, result.toJson = .ok json := by
  have written : ∃ remarks, result.writtenRemarks = .ok remarks := by
    unfold writtenRemarks
    cases isRemarks : result.remarks with
    | none => exact ⟨none, rfl⟩
    | some remarks =>
        obtain ⟨jsons, areWritten⟩ := exists_mapM_eq_ok (each remarks isRemarks)
        exact ⟨some jsons, map_eq_ok_iff.mpr ⟨jsons, areWritten, rfl⟩⟩
  obtain ⟨remarks, areWritten⟩ := written
  exact ⟨_, toJson_eq_ok_iff.mpr ⟨remarks, areWritten, rfl⟩⟩

/-- A result whose arguments last can be written. -/
theorem RemarksLast.exists_toJson {result : Result} (last : result.RemarksLast) :
    ∃ json, result.toJson = .ok json := by
  apply Result.exists_toJson
  intro remarks isRemarks remark member
  apply Remark.exists_toJson
  intro record isRecord
  obtain ⟨json, written⟩ := (last remarks isRemarks remark member record isRecord).exists_toJson
  obtain ⟨members, areMembers, -⟩ := map_eq_ok_iff.mp written
  exact ⟨members, areMembers⟩

/-- A result that was read can be written. -/
theorem exists_toJson_of_ofJson? {json : Json} {result : Result}
    (read : ofJson? json = some result) : ∃ written, result.toJson = .ok written := by
  unfold ofJson? at read
  obtain ⟨fields, -, read⟩ := Option.bind_eq_some_iff.mp read
  split at read
  · -- The remarks are the ninth field.
    iterate 8 obtain ⟨_, -, read⟩ := Option.bind_eq_some_iff.mp read
    obtain ⟨remarks, areRead, read⟩ := Option.bind_eq_some_iff.mp read
    iterate 5 obtain ⟨_, -, read⟩ := Option.bind_eq_some_iff.mp read
    cases read
    apply Result.exists_toJson
    rintro _ ⟨⟩ remark isRemark
    obtain ⟨list, isList⟩ := Json.exists_of_withDefault areRead
    obtain ⟨part, decoded⟩ := Json.exists_of_asList isList isRemark
    exact Remark.exists_toJson_of_ofJson? decoded
  · cases read

end Result

end BuildExplorer
