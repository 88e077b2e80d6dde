import UiScaffold.Clock
import UiScaffold.Render.Page
import UiScaffold.Render.Record
import UiScaffold.Render.Step
import UiScaffold.Render.TemplateSet
import UiScaffold.Workspace

/-!
Rendering forms into an output tree.

All that can be wrong with the template set and with the names of the pages is found before anything
is written. Then the assets are copied, the app shell and the pages are written over them, and the
record comes last. A failure on the way leaves what was written before it.
-/

set_option autoImplicit false
set_option relaxedAutoImplicit false

namespace UiScaffold

/-- The program that a UI is made for, and its forms. -/
structure RenderSource where
  programName : String
  programId : String
  forms : List Form

structure RenderOptions where
  /-- The directory of the template sets. -/
  root : Path
  template : String
  output : Path
  network : Network
  /-- Takes the place of the program's own id. -/
  programId : Option String
  /-- The place of the descriptor, for the record. -/
  descriptorPath : String
  generatedAt : Instant

structure RenderSummary where
  copied : Nat
  shell : Path
  pages : List Path
  recordPath : Path
  record : GenerationRecord
deriving DecidableEq, Repr

def version : String := "0.1.0"

namespace RenderOptions

def shellPath (options : RenderOptions) : Path := options.output.append ["pages", "_app.tsx"]

def pagesPath (options : RenderOptions) : Path := options.output.append ["pages", "instruction"]

/-- The program id that goes into the output. -/
def idFor (options : RenderOptions) (source : RenderSource) : String :=
  options.programId.getD source.programId

def record (options : RenderOptions) (source : RenderSource) : GenerationRecord where
  descriptorPath := options.descriptorPath
  programName := source.programName
  programId := options.idFor source
  template := options.template
  network := options.network
  generatedAt := options.generatedAt.stamp
  version := version

def context (options : RenderOptions) (source : RenderSource) : Context :=
  .ofProgram (options.idFor source) source.programName options.network

end RenderOptions

/-- What is checked and read before anything is written. -/
structure RenderPlan where
  set : TemplateSet
  /-- The forms with the files of their pages. -/
  pages : List (Form × Path)

/-- Checks a run and reads its templates. -/
def RenderPlan.prepare (source : RenderSource) (options : RenderOptions) (fs : FileSystem) :
    Except RenderError RenderPlan := do
  let set ← TemplateSet.load fs options.root options.template
  let names ← Page.fileNames source.forms
  return { set, pages := source.forms.zip (names.map options.pagesPath.child) }

namespace Render

/-- Copies the assets of a set and counts them. -/
def copyAssets (directory output : Path) : EStateM RenderError FileSystem Nat := do
  let copied ← walk (.brokenTree directory) TemplateSet.isAsset
    (fun asset => (RenderStep.copy asset.path (output.append asset.relative)).run) directory
  return copied.length

def writePage (template : Template) (context : Context) (form : Form) (path : Path) :
    Work RenderError Unit := do
  Work.onFiles (RenderStep.write path (template.render (context.withForm form))).run
  Work.report (.renderedPage path template.path)

def writeRecord (output : Path) (record : GenerationRecord) :
    EStateM RenderError FileSystem Path := do
  let path := GenerationRecord.place output
  (RenderStep.write path record.write).run
  return path

def writeTree (source : RenderSource) (options : RenderOptions) (plan : RenderPlan) :
    Work RenderError RenderSummary := do
  let context := options.context source
  Work.onFiles (RenderStep.makeDirectory options.output).run
  let copied ← Work.onFiles (copyAssets plan.set.directory options.output)
  Work.report (.copiedAssets options.template copied)
  -- Assets come first: the files that are generated replace those of the same name.
  let shell := options.shellPath
  Work.onFiles (RenderStep.write shell (plan.set.shell.render context)).run
  Work.report (.renderedShell shell)
  Work.onFiles (RenderStep.makeDirectory options.pagesPath).run
  plan.pages.forM fun (form, path) => writePage plan.set.page context form path
  Work.report (.renderedPages plan.pages.length)
  let record := options.record source
  let recordPath ← Work.onFiles (writeRecord options.output record)
  Work.report (.wroteRecord recordPath)
  return { copied, shell, pages := plan.pages.map (·.2), recordPath, record }

end Render

/-- Renders forms into an output tree. -/
def render (source : RenderSource) (options : RenderOptions) : Work RenderError RenderSummary := do
  let plan ← Work.query (RenderPlan.prepare source options)
  Render.writeTree source options plan

end UiScaffold
