import UiScaffold.FileSystem.Resolve
import UiScaffold.Json.Writer
import UiScaffold.Network

/-!
The record of a generation, which is kept beside the generated files.
-/

set_option autoImplicit false
set_option relaxedAutoImplicit false

namespace UiScaffold

/-- What was generated from what, and when. -/
structure GenerationRecord where
  descriptorPath : String
  programName : String
  programId : String
  template : String
  network : Network
  generatedAt : String
  version : String
deriving DecidableEq, Repr

namespace GenerationRecord

/-- The directory of the record in the output, and the place of the record. -/
def directoryName : String := ".castui"
def fileName : String := "metadata.json"
def place (output : Path) : Path := (output.child directoryName).child fileName

def toJson (record : GenerationRecord) : Json :=
  .object
    [("idlPath", .text record.descriptorPath), ("programName", .text record.programName),
      ("programId", .text record.programId), ("template", .text record.template),
      ("network", record.network.toJson), ("generatedAt", .text record.generatedAt),
      ("version", .text record.version)]

def write (record : GenerationRecord) : String := record.toJson.pretty ++ "\n"

def keys : List String :=
  ["idlPath", "programName", "programId", "template", "network", "generatedAt", "version"]

def decode? : Json.Record.Decoder GenerationRecord
  | 0, _ => none
  | levels + 1, value => do
    let fields ← Json.Record.fields? keys value
    let text (key : String) := Json.Record.required? fields key (Json.Record.text? levels)
    return {
      descriptorPath := ← text "idlPath"
      programName := ← text "programName"
      programId := ← text "programId"
      template := ← text "template"
      network := ← Json.Record.required? fields "network" (Network.decode? levels)
      generatedAt := ← text "generatedAt"
      version := ← text "version" }

def read? (text : String) : Option GenerationRecord :=
  (Json.Sketch.read? text).bind (decode? Json.nestingLimit)

/-- Reads the record below an output directory; a file that cannot be read holds none. -/
def load? (fs : FileSystem) (output : Path) : Option GenerationRecord :=
  (fs.readText (place output)).toOption.bind read?

end GenerationRecord

end UiScaffold
