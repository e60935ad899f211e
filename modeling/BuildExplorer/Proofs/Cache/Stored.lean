import BuildExplorer.Cache
import BuildExplorer.Proofs.Explorer.Serving
import BuildExplorer.Proofs.Program.Trace
import BuildExplorer.Proofs.Result.Coding
import BuildExplorer.Proofs.Text.Utf8

/-!
# Entries of a cache

An entry holds the bytes of a result as JSON.  Reading it brings the result as what it is
after it was written.  So a result that is stored comes back as itself exactly if the
arguments of its remarks last, as they do if they are made of texts, truth values and
integers of 64 bits.
-/

namespace BuildExplorer

/-! ## What is read of an entry -/

/-- The targets of a result for several devices are in order, as a sorted map has them. -/
def Result.DevicesInOrder (result : Result) : Prop :=
  ∀ devices ∈ result.devices, DeviceBundle.InOrder devices

namespace Cache

/-- An entry is read as what its result is after it was written. -/
theorem decode?_of_encode {result : Result} (inOrder : result.DevicesInOrder)
    {contents : Host.Bytes} (encoded : encode result = .ok contents) :
    decode? contents = result.reread? := by
  obtain ⟨json, isWritten, rfl⟩ := map_eq_ok_iff.mp encoded
  rw [decode?, Text.Utf8.decode?_encode, Option.bind_eq_bind, Option.bind_some,
    Json.parse_compact_eq_reread, Option.bind_eq_bind, Option.bind_some]
  exact Result.ofJson?_reread isWritten inOrder

/-- A result comes back from its entry exactly if the arguments of its remarks last. -/
theorem comes_back_iff {result : Result} (inOrder : result.DevicesInOrder) :
    (∃ contents, encode result = .ok contents ∧ decode? contents = some result) ↔
      result.RemarksLast := by
  constructor
  · rintro ⟨contents, encoded, decoded⟩
    rw [decode?_of_encode inOrder encoded] at decoded
    exact Result.reread?_eq_some_self_iff.mp decoded
  · intro last
    obtain ⟨json, isWritten⟩ := last.exists_toJson
    have encoded : encode result = .ok (Text.Utf8.encode json.compact) := by
      rw [encode, isWritten]
      rfl
    refine ⟨_, encoded, ?_⟩
    rw [decode?_of_encode inOrder encoded]
    exact Result.reread?_eq_some_self_iff.mpr last

/-- Nothing is read of an entry that could not be written. -/
theorem exists_encode_of_decode? {contents : Host.Bytes} {result : Result}
    (decoded : decode? contents = some result) : ∃ bytes, encode result = .ok bytes := by
  obtain ⟨text, -, parsed⟩ := Option.bind_eq_some_iff.mp decoded
  obtain ⟨json, -, read⟩ := Option.bind_eq_some_iff.mp parsed
  obtain ⟨written, isWritten⟩ := Result.exists_toJson_of_ofJson? read
  exact ⟨_, map_eq_ok_iff.mpr ⟨written, isWritten, rfl⟩⟩

end Cache

/-! ## Plain arguments -/

namespace Yaml

/-- A text, a truth value, or an integer of 64 bits. -/
inductive Value.IsPlain : Value → Prop where
  | string (text : String) : IsPlain (.string text)
  | bool (value : Bool) : IsPlain (.bool value)
  | integer {value : Int} (isWord : Json.Numeral.IsWord value) :
      IsPlain (.number (.integer value))

/-- A record with texts for keys, each of them once, and plain values. -/
structure IsPlainRecord (record : Mapping) : Prop where
  keys : ∀ entry ∈ record, ∃ text, entry.1 = .string text
  distinct : (record.map Prod.fst).Nodup
  values : ∀ entry ∈ record, entry.2.IsPlain

theorem Value.IsPlain.lasts {value : Value} (plain : value.IsPlain) (depth : Nat) :
    value.Lasts depth := by
  cases plain with
  | string text => exact .string text
  | bool value => exact .bool value
  | integer isWord => exact .number (Json.Numeral.reread_integer isWord)

theorem IsPlainRecord.lasts {record : Mapping} (plain : IsPlainRecord record) (depth : Nat) :
    (Value.mapping record).Lasts (depth + 1) :=
  .mapping plain.keys plain.distinct fun entry member => (plain.values entry member).lasts depth

end Yaml

/-- The arguments of all remarks of a result are plain records. -/
def Result.RemarksPlain (result : Result) : Prop :=
  ∀ remarks ∈ result.remarks, ∀ remark ∈ remarks, ∀ record ∈ remark.arguments,
    Yaml.IsPlainRecord record

theorem Result.RemarksPlain.last {result : Result} (plain : result.RemarksPlain) :
    result.RemarksLast :=
  fun remarks isRemarks remark isRemark record isRecord =>
    (plain remarks isRemarks remark isRemark record isRecord).lasts 122

namespace Cache

/-! ## What is written into an entry -/

/-- Nothing else is ever written than the whole of what a result is encoded as. -/
theorem put_writes (cache : Cache) (key : String) (result : Result) :
    (cache.put key result).Only fun action => ∀ path contents,
      action = .writeContents path contents → encode result = .ok contents := by
  have erases : ∀ path : Path, ∀ other contents,
      Host.Action.eraseFile path = .writeContents other contents →
        encode result = .ok contents := fun _ _ _ impossible => nomatch impossible
  refine Program.Only.ask (fun _ _ impossible => nomatch impossible) fun temporary => ?_
  cases temporary with
  | error fault => exact Program.only_pure _ _
  | ok temporary =>
      dsimp only
      split
      · exact Program.Only.ask (erases temporary) fun _ => Program.only_pure _ _
      · rename_i bytes encoded
        have writes : ∀ path contents, Host.Action.writeContents temporary bytes =
            .writeContents path contents → encode result = .ok contents := by
          rintro path contents ⟨⟩
          exact encoded
        refine Program.Only.ask writes fun written => ?_
        cases written with
        | error fault => exact Program.Only.ask (erases temporary) fun _ => Program.only_pure _ _
        | ok _ =>
            refine Program.Only.ask (fun _ _ impossible => nomatch impossible) fun moved => ?_
            cases moved with
            | error fault =>
                exact Program.Only.ask (erases temporary) fun _ => Program.only_pure _ _
            | ok _ => exact Program.only_pure _ _

variable {World : Type}

/-- A result that can be encoded is written as soon as there is a file for it. -/
theorem put_mem_trace {host : Host World} {cache : Cache} {world : World} {temporary : Path}
    (made : (host (.makeTemporary cache.directory) world).1 = .ok temporary) (key : String)
    {result : Result} {contents : Host.Bytes} (encoded : encode result = .ok contents) :
    ∃ event ∈ (cache.put key result).trace host world,
      event.action = .writeContents temporary contents := by
  have isPut : cache.put key result =
      Program.makeTemporary cache.directory >>= fun made => _ := rfl
  rw [isPut, Program.trace_bind]
  have ran : ((Program.makeTemporary cache.directory).run host world).1 = .ok temporary := made
  rw [ran, encoded]
  exact ⟨⟨.writeContents temporary contents, _⟩,
    List.mem_append_right _ List.mem_cons_self, rfl⟩

theorem run_get_of_contents {host : Host World} {cache : Cache} {key : String} {world : World}
    {contents : Host.Bytes}
    (found : (host (.readContents (cache.entry key)) world).1 = .ok contents) :
    ((cache.get key).run host world).1 = decode? contents := by
  have isGet : cache.get key = Program.readContents (cache.entry key) >>= fun contents => _ := rfl
  have ran : ((Program.readContents (cache.entry key)).run host world).1 = .ok contents := found
  rw [isGet, Program.run_bind, ran]
  rfl

/-- What is written into the cache for a result brings this result back: the result can be
encoded, a file that is made for it gets all of its bytes and no file ever gets others,
and whoever finds these bytes in an entry, on whatever host, gets the result as it was. -/
theorem get_brings_back_what_put_writes (host : Host World) (cache : Cache) (key : String)
    {result : Result} (inOrder : result.DevicesInOrder) (plain : result.RemarksPlain) :
    ∃ contents, encode result = .ok contents ∧
      (∀ world temporary, (host (.makeTemporary cache.directory) world).1 = .ok temporary →
        ∃ event ∈ (cache.put key result).trace host world,
          event.action = .writeContents temporary contents) ∧
      (∀ world, ∀ event ∈ (cache.put key result).trace host world, ∀ path other,
        event.action = .writeContents path other → other = contents) ∧
      ∀ (Later : Type) (reader : Host Later) (world : Later),
        (reader (.readContents (cache.entry key)) world).1 = .ok contents →
          ((cache.get key).run reader world).1 = some result := by
  obtain ⟨contents, encoded, decoded⟩ := (comes_back_iff inOrder).mpr plain.last
  refine ⟨contents, encoded, ?writes, ?nothingElse, ?reads⟩
  case writes =>
      intro world temporary made
      exact put_mem_trace made key encoded
  case nothingElse =>
      intro world event member path other writes
      have isEncoded := (put_writes cache key result).mem_trace host world event member path other
        writes
      exact Except.ok.inj (isEncoded.symm.trans encoded)
  case reads =>
      intro Later reader world found
      rw [run_get_of_contents found, decoded]

/-- A result with listings for two devices and a remark. -/
def remarkedResult : Result where
  code := -1
  elapsedMs := 18446744073709551615
  stderr := [⟨"tab\tquote\" \u2028", some ⟨1, none, some "é.c", "", .warning⟩⟩]
  devices := some [("gpu", []), ("host", [⟨"nop", some ⟨none, 7, some 0⟩⟩])]
  remarks := some [{
    pass := "inline", name := "NoDefinition", place := none, function := "f", message := "",
    kind := "Missed",
    arguments := [[(.string "Callee", .string "g"),
      (.string "Cost", .number (.integer (-9223372036854775808)))], []] }]
  macroExpansion := some []

/-- A host whose files all hold some bytes. -/
def holdingHost (contents : Host.Bytes) : Host Unit
  | .readContents _, world => (.ok contents, world)
  | action, world => Explorer.workingHost action world

/-- The theorem at a result that has most of what a result can have. -/
theorem get_brings_back_what_put_writes_remarked :
    remarkedResult.DevicesInOrder ∧ remarkedResult.RemarksPlain ∧
      ∃ contents,
        (∃ event ∈ (put ⟨⟨"/c"⟩⟩ "key" remarkedResult).trace Explorer.workingHost (),
          event.action = .writeContents ⟨"/t"⟩ contents) ∧
        ((get ⟨⟨"/c"⟩⟩ "key").run (holdingHost contents) ()).1 = some remarkedResult := by
  have inOrder : remarkedResult.DevicesInOrder := by
    rintro _ ⟨⟩
    exact List.pairwise_pair.mpr (by decide)
  have plain : remarkedResult.RemarksPlain := by
    rintro _ ⟨⟩ remark isRemark record isRecord
    obtain rfl := List.mem_singleton.mp isRemark
    simp only [List.mem_cons, List.not_mem_nil, or_false] at isRecord
    rcases isRecord with rfl | rfl
    · constructor
      · simp
      · simp
      · simp only [List.forall_mem_cons]
        exact ⟨.string "g", .integer ⟨by decide, by decide⟩, List.forall_mem_nil _⟩
    · exact ⟨List.forall_mem_nil _, List.nodup_nil, List.forall_mem_nil _⟩
  obtain ⟨contents, -, writes, -, reads⟩ :=
    get_brings_back_what_put_writes Explorer.workingHost ⟨⟨"/c"⟩⟩ "key" inOrder plain
  exact ⟨inOrder, plain, contents, writes () ⟨"/t"⟩ rfl, reads Unit (holdingHost contents) () rfl⟩

end Cache

end BuildExplorer
