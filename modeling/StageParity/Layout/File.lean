import StageParity.Disk.Change
import StageParity.Layout.Basic
import StageParity.Yaml.Document

/-!
# Layout files

Reading the layout of a project from its settings file. Most faults of the file make
the project fall back to the standard layout.
-/

namespace StageParity

/-- Why a settings file gives no layout. -/
inductive LayoutFault where
  | unreadable (fault : FileFault)
  /-- The bytes are not UTF-8. -/
  | encoding
  | yaml (fault : Yaml.Fault)
  | notMapping
  | settings (error : LayoutError)

namespace LayoutFault

def message : LayoutFault → Text
  | .unreadable fault => fault.message
  | .encoding => "<UnicodeError>"
  | .yaml .malformed => "<YAMLError>"
  | .yaml (.badValue text) => text
  | .yaml (.unknownBool word) => word.quoted
  | .yaml .emptyNumber => "string index out of range"
  | .yaml .notTimestamp => "'NoneType' object has no attribute 'groupdict'"
  | .yaml .hugeCode => "Python int too large to convert to C int"
  | .yaml .tooLarge => "int too large to convert to float"
  | .yaml .datelessMapping => ""
  | .yaml .endless => "maximum recursion depth exceeded"
  | .notMapping => "Layout file must contain a mapping"
  | .settings error => error.message

/-- Whether a project falls back to the standard layout after a fault. -/
def recoverable : LayoutFault → Bool
  | .unreadable (.os _) | .unreadable .nullByte => true
  | .unreadable (.linkLoop _) => false
  | .unreadable (.notUnicode _ _ _) => true
  | .encoding | .notMapping => true
  | .yaml .malformed | .yaml (.badValue _) => true
  | .yaml _ => false
  | .settings .tooLarge | .settings .keyNotText => false
  | .settings _ => true

end LayoutFault

namespace Layout

def fileName : Text := "bootverify.yaml"

def newlines : List Char → List Char
  | [] => []
  | '\r' :: '\n' :: rest => '\n' :: newlines rest
  | '\r' :: rest => '\n' :: newlines rest
  | ch :: rest => ch :: newlines rest

/-- The layout of the bytes of a settings file; nothing when the file is empty. -/
def ofBytes (bytes : List UInt8) : Except LayoutFault (Option Layout) := do
  let text ← match (Text.decode bytes).chars? with
    | some text => pure (newlines text)
    | none => throw .encoding
  match Yaml.read text with
  | .error fault => throw (.yaml fault)
  | .ok .null => return none
  | .ok (.map items) =>
    match ofItems items with
    | .ok layout => return some layout
    | .error error => throw (.settings error)
  | .ok _ => throw .notMapping

end Layout

end StageParity
