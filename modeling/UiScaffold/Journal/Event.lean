import UiScaffold.FileSystem.OsError
import UiScaffold.FileSystem.Path
import UiScaffold.Text.Reveal

/-!
What a run reports about itself while it goes on.
-/

set_option autoImplicit false
set_option relaxedAutoImplicit false

namespace UiScaffold

/-- How much an event matters. -/
inductive Level where
  | error
  | warn
  | info
  | debug
  | trace
deriving DecidableEq, Repr

namespace Level

/-- The place of a level in the order from the gravest on. -/
def rank : Level → Nat
  | error => 1
  | warn => 2
  | info => 3
  | debug => 4
  | trace => 5

def name : Level → String
  | error => "ERROR"
  | warn => "WARN"
  | info => "INFO"
  | debug => "DEBUG"
  | trace => "TRACE"

end Level

/-- Something that happened during a run. -/
inductive Event where
  | parsedDescriptor (program version : String) (instructions : Nat)
  | mappedDescriptor (program : String) (instructions : Nat)
  | copiedAssets (template : String) (copied : Nat)
  | renderedShell (path : Path)
  | renderedPage (path template : Path)
  | renderedPages (pages : Nat)
  | wroteRecord (path : Path)
  | installing (manager : String) (directory : Path)
  | fellBack
  | recordedFailure (path : Path)
  | failedToRecord (path : Path) (cause : OsError)
deriving DecidableEq, Repr

namespace Event

def level : Event → Level
  | parsedDescriptor .. => .info
  | mappedDescriptor .. => .debug
  | copiedAssets .. => .info
  | renderedShell _ => .debug
  | renderedPage .. => .debug
  | renderedPages _ => .info
  | wroteRecord _ => .debug
  | installing .. => .info
  | fellBack => .warn
  | recordedFailure _ => .info
  | failedToRecord .. => .warn

/-- The part of the program that an event comes from, by which a filter selects events. -/
def area : Event → String
  | parsedDescriptor .. => "castui_cli::generate"
  | mappedDescriptor .. => "castui_cli::mapper"
  | copiedAssets .. => "castui_cli::render"
  | renderedShell _ => "castui_cli::render"
  | renderedPage .. => "castui_cli::render"
  | renderedPages _ => "castui_cli::render"
  | wroteRecord _ => "castui_cli::render"
  | installing .. => "castui_cli::install"
  | fellBack => "castui_cli::install"
  | recordedFailure _ => "castui_cli::install"
  | failedToRecord .. => "castui_cli::install"

def message : Event → String
  | parsedDescriptor .. => "parsed descriptor"
  | mappedDescriptor .. => "mapped descriptor to UI IR"
  | copiedAssets .. => "copied static assets"
  | renderedShell _ => "rendered app shell"
  | renderedPage .. => "rendered instruction page"
  | renderedPages _ => "rendered instruction pages"
  | wroteRecord _ => "wrote generation metadata"
  | installing .. => "installing dependencies"
  | fellBack => "yarn not found, falling back to npm"
  | recordedFailure _ => "recorded install failure"
  | failedToRecord .. => "failed to record install failure"

/-- The names and the texts of the details. -/
def fields : Event → List (String × String)
  | parsedDescriptor program version instructions =>
    [("program", program), ("version", version), ("instructions", instructions.repr)]
  | mappedDescriptor program instructions =>
    [("program", program), ("instructions", instructions.repr)]
  | copiedAssets template copied => [("template", template), ("copied_assets", copied.repr)]
  | renderedShell path => [("path", path.text)]
  | renderedPage path template => [("path", path.text), ("template", template.text)]
  | renderedPages pages => [("pages", pages.repr)]
  | wroteRecord path => [("path", path.text)]
  | installing manager directory =>
    [("manager", Text.reveal manager), ("dir", directory.text)]
  | fellBack => []
  | recordedFailure path => [("path", path.text)]
  | failedToRecord path cause => [("path", path.text), ("error", cause.message)]

end Event

end UiScaffold
