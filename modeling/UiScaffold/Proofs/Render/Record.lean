import UiScaffold.Proofs.Json.Record
import UiScaffold.Proofs.Render.Output

/-!
The record of a generation, read again.

A record opens one container, and each of its texts is spelled so that it is read back. A text that
was stored under a path is found under it, whatever links the path goes through, and the record is
the last file that a run stores. So what is read below the output directory after a run is the
record of this run, and not one that was there before or that came with the assets.
-/

set_option autoImplicit false
set_option relaxedAutoImplicit false

namespace UiScaffold

open Json Json.Record

private theorem Network.readsBack (network : Network) :
    ReadsBack decode? network.toJson network := by
  intro levels _
  cases network <;> cases levels <;> rfl

namespace GenerationRecord

def members (record : GenerationRecord) : Members :=
  [("idlPath", .text record.descriptorPath), ("programName", .text record.programName),
    ("programId", .text record.programId), ("template", .text record.template),
    ("network", record.network.toJson), ("generatedAt", .text record.generatedAt),
    ("version", .text record.version)]

variable (record : GenerationRecord)

private theorem toJson_eq : record.toJson = .object record.members := rfl

private theorem integral : record.toJson.Integral := by
  simp [toJson, Network.toJson, Integral, IntegralMembers]

private theorem nesting_le : record.toJson.nesting ≤ nestingLimit := by
  simp [toJson, Network.toJson, nesting, nestingMembers, nestingLimit]

private theorem readsBack : ReadsBack decode? record.toJson record := by
  intro levels room
  rw [toJson_eq] at room ⊢
  match levels with
  | levels + 1 =>
    have inside : nestingMembers record.members ≤ levels := Nat.le_of_succ_le_succ room
    have fields : fields? keys (Sketch.ofJson (.object record.members)) =
        some (sketches record.members) :=
      fields?_ofJson (by decide) (List.Sublist.refl _)
    have text (key content : String) (found : record.members.get? key = some (.text content)) :
        required? (sketches record.members) key (Record.text? levels) = some content :=
      required?_sketches found (readsBack_text content) inside
    have there : record.members.get? "network" = some record.network.toJson := rfl
    have network := required?_sketches there record.network.readsBack inside
    have path := text "idlPath" record.descriptorPath rfl
    have name := text "programName" record.programName rfl
    have id := text "programId" record.programId rfl
    have template := text "template" record.template rfl
    have time := text "generatedAt" record.generatedAt rfl
    have version := text "version" record.version rfl
    simp only [decode?, fields, path, name, id, template, network, time, version,
      Option.bind_eq_bind, Option.bind_some, Option.pure_def]

private theorem read?_write : read? record.write = some record := by
  have blank : ∀ c ∈ "\n".toList, isSpace c = true := by simp [isSpace]
  rw [read?, write, Sketch.read?_pretty_append record.integral blank, Option.bind_some,
    record.readsBack nestingLimit record.nesting_le]

end GenerationRecord

namespace Render

variable {output path : Path} {record : GenerationRecord} {before after : FileSystem}

private theorem readText_of_writeRecord (h : writeRecord output record before = .ok path after) :
    after.readText (GenerationRecord.place output) = .ok record.write := by
  obtain ⟨⟨⟩, written, stepped, done⟩ := Effect.bind_eq_ok.mp h
  cases done
  obtain ⟨⟨⟩, opened, -, stored⟩ := Effect.bind_eq_ok.mp stepped
  exact FileAction.writeText_readText (Effect.adaptExcept_eq_ok.mp stored)

private theorem load?_of_writeRecord (h : writeRecord output record before = .ok path after) :
    GenerationRecord.load? after output = some record := by
  rw [GenerationRecord.load?, readText_of_writeRecord h, Except.toOption, Option.bind_some,
    record.read?_write]

end Render

theorem generate_readText {now : Instant} {choices : GenerateOptions} {outcome : GenerateOutcome}
    {before after : Workspace} (h : generate now choices before = .ok outcome after) :
    after.files.readText (GenerationRecord.place choices.output) =
      .ok outcome.summary.record.write := by
  obtain ⟨program, plan, rendered, -, -, -, written⟩ := generate_inv h
  obtain ⟨record, paged, path, recording⟩ := Render.writeTree_writeRecord written
  rw [record]
  exact Render.readText_of_writeRecord recording

/-- What is loaded after a record was written is the record, and after a run it is the record of the
run, whatever was in the output directory and whatever came with the assets. -/
theorem record_survives_round_trip :
    (∀ (output path : Path) (record : GenerationRecord) (before after : FileSystem),
      Render.writeRecord output record before = .ok path after →
        GenerationRecord.load? after output = some record) ∧
    ∀ (source : RenderSource) (options : RenderOptions) (summary : RenderSummary)
      (before after : Workspace), render source options before = .ok summary after →
        GenerationRecord.load? after.files options.output = some summary.record := by
  refine ⟨fun _ _ _ _ _ written => Render.load?_of_writeRecord written, ?_⟩
  intro source options summary before after h
  obtain ⟨plan, prepared, -, written⟩ := Effect.bind_eq_ok.mp h
  obtain ⟨record, paged, path, recording⟩ := Render.writeTree_writeRecord written
  rw [record]
  exact Render.load?_of_writeRecord recording

/-- A record is loaded again, and so is that of a run whose template set ships a file in its place,
over the record of an earlier run. -/
theorem record_survives_shipped_record :
    let record : GenerationRecord := ⟨"a\"b\\c", "vault\n", "é\x00𝄞", "mini", .mainnet, "", "0.1.0"⟩
    let before : Workspace := ⟨sampleFiles [(["w", "out", ".castui"], .directory),
      (["w", "out", ".castui", "metadata.json"], .file record.write.toUTF8 false),
      (["w", "templates", "mini", ".castui"], .directory),
      (["w", "templates", "mini", ".castui", "metadata.json"], .file "null".toUTF8 true)], []⟩
    (∃ path after, Render.writeRecord ⟨["new"]⟩ record before.files = .ok path after ∧
      GenerationRecord.load? after ⟨["new"]⟩ = some record) ∧
    ∃ summary after, render sampleSource sampleOptions before = .ok summary after ∧
      GenerationRecord.load? after.files sampleOptions.output = some summary.record := by
  intro record before
  have written : Effect.endsWell (Render.writeRecord ⟨["new"]⟩ record before.files)
      (fun _ => true) = true := by
    decide +kernel
  have rendered : Effect.endsWell (render sampleSource sampleOptions before)
      (fun _ => true) = true := by
    decide +kernel
  obtain ⟨path, after, h, -⟩ := Effect.endsWell_iff.mp written
  obtain ⟨summary, after', h', -⟩ := Effect.endsWell_iff.mp rendered
  exact ⟨⟨path, after, h, record_survives_round_trip.1 _ _ _ _ _ h⟩,
    ⟨summary, after', h', record_survives_round_trip.2 _ _ _ _ _ h'⟩⟩

end UiScaffold
