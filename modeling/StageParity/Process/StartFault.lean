import StageParity.Disk.Errno

/-!
# Faults of starts

Why a command does not start: the system refuses it, or it cannot even be asked for.
-/

namespace StageParity

inductive StartFault where
  | os (error : OsError)
  | noWords
  /-- The name of a variable has an equality sign. -/
  | variableName
  /-- A word or a variable has a null byte. -/
  | nullByte

namespace StartFault

def message : StartFault → Text
  | .os error => error.message
  | .noWords => "list index out of range"
  | .variableName => "illegal environment variable name"
  | .nullByte => "embedded null byte"

def hasNull (t : Text) : Bool := t.contains (.char '\x00')

def ofCommand? (argv : List Text) (bindings : Option (List (Text × Text))) : Option StartFault :=
  let given := bindings.getD []
  if argv.isEmpty then some .noWords
  else if given.any fun pair => pair.1.contains (.char '=') then some .variableName
  else if argv.any hasNull || given.any fun pair => hasNull pair.1 || hasNull pair.2 then
    some .nullByte
  else none

end StartFault

end StageParity
