import StageParity.Text.Glyph

/-!
# Log levels

The level of the diagnostic log, set by a variable of the environment or by the switch
for more output.
-/

namespace StageParity.LogLevel

def variableName : Text := "BOOTVERIFY_LOG_LEVEL"

def lineFormat : String := "%(asctime)s %(levelname)s %(name)s: %(message)s"

def standard : Nat := 30

def debug : Nat := 10

def levels : List (Text × Nat) :=
  [("CRITICAL", 50), ("FATAL", 50), ("ERROR", 40), ("WARNING", 30), ("WARN", 30), ("INFO", 20),
    ("DEBUG", debug), ("NOTSET", 0)]

def formatName : Text := "BASIC_FORMAT"

def formatText : Text := "%(levelname)s:%(name)s:%(message)s"

/-- The capital of a letter, as far as it can be part of a name of a level. -/
def capital : Glyph → Glyph
  | .char 'ı' => .char 'I'
  | .char 'ſ' => .char 'S'
  | .char c => .char c.toUpper
  | g => g

/-- The level of a name; for the name of a format, the format itself. -/
def ofName (name : Text) : Except Text Nat :=
  let capitals := name.map capital
  if capitals = formatName then .error formatText
  else .ok ((levels.lookup capitals).getD standard)

def choose (verbose : Bool) (setting : Option Text) : Except Text Nat :=
  if verbose then .ok debug
  else
    match setting with
    | some name => ofName name
    | none => .ok standard

end StageParity.LogLevel
