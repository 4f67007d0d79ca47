import StageParity.Session

/-!
# Loading a layout

The layout of a project, from its settings file if it has a usable one.
-/

namespace StageParity

namespace Layout

def readFrom (disk : Disk) (cwd : Location) (file : Path) : Except LayoutFault (Option Layout) :=
  match disk.fileBytes cwd file with
  | .ok bytes => ofBytes bytes
  | .error fault => .error (.unreadable fault)

end Layout

namespace Run

def warnUnknown (layout : Layout) : Run Unit :=
  layout.unknownKeys?.forM (log .warning)

/-- The layout of valid settings; unknown ones give a warning. -/
def layoutOf (items : List (Yaml.Value × Yaml.Value)) : Run Layout := do
  match Layout.ofItems items with
  | .ok layout =>
    warnUnknown layout
    return layout
  | .error error => throw (.layout (.settings error))

/-- The layout of a project. Without a settings file, and after most of its faults, it
is the standard one. -/
def loadLayout (host : Host) (root : Path) : Run Layout := do
  let file := root.child Layout.fileName
  if !(← ask fun disk => disk.isPresent host.cwd file) then return Layout.standard
  match Layout.readFrom (← get).disk host.cwd file with
  | .ok none => return Layout.standard
  | .ok (some layout) =>
    warnUnknown layout
    log .info ("Loaded bootstrap layout from " ++ file.text)
    return layout
  | .error fault =>
    if fault.recoverable then
      log .warning ("Failed to load layout from " ++ file.text ++ ": " ++ fault.message)
      return Layout.standard
    else throw (.layout fault)

end Run

end StageParity
