import BuildExplorer.CacheKey
import BuildExplorer.Proofs.Json.RoundTrip
import BuildExplorer.Proofs.Text.Utf8

/-!
# What a key tells

The text that is hashed determines all that went into it: it is the compact form
of a record without numbers, which is read back as the record.  So two requests
share a key only if they agree on the whole record, or if the hash has collided.
-/

namespace BuildExplorer

open Json (Textual)

/-! ## Parts of the record -/

theorem Json.textual_ofStrings (texts : List String) : (Json.ofStrings texts).Textual := by
  refine .array fun item member => ?_
  obtain ⟨text, -, rfl⟩ := List.mem_map.mp member
  exact .string text

theorem Json.ofStrings_injective : Function.Injective Json.ofStrings := by
  intro first second same
  have sameItems := Json.array.inj same
  exact (List.map_inj_right fun _ _ => Json.string.inj).mp sameItems

theorem Filters.textual_toJson (filters : Filters) : filters.toJson.Textual := by
  refine .object ?_
  simp [Textual.bool]

theorem Filters.toJson_injective : Function.Injective Filters.toJson := by
  rintro ⟨⟩ ⟨⟩ same
  simpa [Filters.toJson] using same

theorem ExtraFile.textual_toJson (file : ExtraFile) : file.toJson.Textual := by
  refine .object ?_
  simp [Textual.string]

theorem ExtraFile.toJson_injective : Function.Injective ExtraFile.toJson := by
  rintro ⟨⟩ ⟨⟩ same
  simpa [ExtraFile.toJson] using same

theorem SelectedLibrary.textual_toJson (library : SelectedLibrary) : library.toJson.Textual := by
  refine .object ?_
  simp [Textual.string]

theorem SelectedLibrary.toJson_injective : Function.Injective SelectedLibrary.toJson := by
  rintro ⟨⟩ ⟨⟩ same
  simpa [SelectedLibrary.toJson] using same

theorem BuildKind.word_injective : Function.Injective BuildKind.word := by
  intro first second same
  cases first <;> cases second <;> first | rfl | simp [BuildKind.word] at same

/-! ## The record -/

namespace KeyInput

theorem textual_toJson (input : KeyInput) : input.toJson.Textual := by
  refine .object ?_
  have files : Textual (.array (input.files.map ExtraFile.toJson)) := by
    refine .array fun item member => ?_
    obtain ⟨file, -, rfl⟩ := List.mem_map.mp member
    exact file.textual_toJson
  have libraries : Textual (.array (input.libraries.map SelectedLibrary.toJson)) := by
    refine .array fun item member => ?_
    obtain ⟨library, -, rfl⟩ := List.mem_map.mp member
    exact library.textual_toJson
  simp [Textual.string, Textual.bool, Json.textual_ofStrings, Filters.textual_toJson, files,
    libraries]

theorem toJson_injective : Function.Injective toJson := by
  rintro ⟨_, ⟨_⟩, _, _, _, _, _, _, _, _, _⟩ ⟨_, ⟨_⟩, _, _, _, _, _, _, _, _, _⟩ same
  simp only [toJson, Json.object.injEq, List.cons.injEq, Prod.mk.injEq, true_and, and_true,
    Json.string.injEq, Json.bool.injEq, Json.array.injEq, Json.ofStrings_injective.eq_iff,
    Filters.toJson_injective.eq_iff, BuildKind.word_injective.eq_iff,
    List.map_inj_right ExtraFile.toJson_injective,
    List.map_inj_right SelectedLibrary.toJson_injective] at same
  simpa using same

/-- The text that is hashed determines the whole record. -/
theorem text_injective : Function.Injective text := by
  intro first second same
  exact toJson_injective (Json.compact_injective first.textual_toJson second.textual_toJson same)

/-- Two texts are the same exactly if the compiler is the same in its identifier, its
program and its options, and the requests have the same options let through, filters,
source, extra files, libraries, kind of build, and wishes for remarks and macros. -/
theorem text_ofRequest_eq_iff (firstInfo secondInfo : CompilerInfo)
    (firstRequest secondRequest : Request) (firstOptions secondOptions : List String) :
    (ofRequest firstInfo firstRequest firstOptions).text =
        (ofRequest secondInfo secondRequest secondOptions).text ↔
      firstInfo.id = secondInfo.id ∧ firstInfo.exe = secondInfo.exe ∧
        firstInfo.options = secondInfo.options ∧ firstOptions = secondOptions ∧
        firstRequest.filters = secondRequest.filters ∧
        firstRequest.source = secondRequest.source ∧
        firstRequest.files = secondRequest.files ∧
        firstRequest.libraries = secondRequest.libraries ∧
        firstRequest.build = secondRequest.build ∧
        firstRequest.optimizationRemarks = secondRequest.optimizationRemarks ∧
        firstRequest.macroExpansion = secondRequest.macroExpansion := by
  rw [text_injective.eq_iff]
  simp only [ofRequest, KeyInput.mk.injEq]

end KeyInput

/-- Do the bytes that are hashed for two records have different hashes, unless they
are the same? -/
def KeyInput.HashesApart (first second : KeyInput) : Prop :=
  let firstBytes := Text.Utf8.encode first.text
  let secondBytes := Text.Utf8.encode second.text
  Digest.Sha256.hex firstBytes = Digest.Sha256.hex secondBytes → firstBytes = secondBytes

/-- Requests with one key agree on the whole record, unless the hash has collided. -/
theorem keyInput_eq_of_cacheKey_eq {firstInfo secondInfo : CompilerInfo}
    {firstRequest secondRequest : Request} {firstOptions secondOptions : List String}
    (apart : (KeyInput.ofRequest firstInfo firstRequest firstOptions).HashesApart
      (KeyInput.ofRequest secondInfo secondRequest secondOptions))
    (sameKey : cacheKey firstInfo firstRequest firstOptions =
      cacheKey secondInfo secondRequest secondOptions) :
    KeyInput.ofRequest firstInfo firstRequest firstOptions =
      KeyInput.ofRequest secondInfo secondRequest secondOptions :=
  KeyInput.text_injective (Text.Utf8.encode_injective (apart sameKey))

end BuildExplorer
