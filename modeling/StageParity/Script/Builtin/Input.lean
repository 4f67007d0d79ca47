import StageParity.Script.Builtin.Basic

/-!
# Reading lines and options

The commands that read a line of input into variables, and options out of arguments.
-/

namespace StageParity.Script

namespace Evaluate

open Step

/-! ## Lines -/

/-- The line at the start of bytes, each glyph with whether it is escaped; how many bytes
it takes; and whether its end was met. Escapes are read only if `escapes` says so. -/
def lineFrom (escapes : Bool) : (taken : Nat) → List UInt8 → List Mark × Nat × Bool
  | taken, [] => ([], taken, false)
  | taken, 10 :: _ => ([], taken + 1, true)
  | taken, 92 :: b :: rest =>
    if escapes then
      let (line, count, ended) := lineFrom escapes (taken + 2) rest
      if b = 10 then (line, count, ended) else ((Text.bytewise [b]).map (·, true) ++ line, count, ended)
    else
      let (line, count, ended) := lineFrom escapes (taken + 1) (b :: rest)
      ((.char '\\', false) :: line, count, ended)
  | taken, b :: rest =>
    let (line, count, ended) := lineFrom escapes (taken + 1) rest
    if b = 0 || (escapes && b = 92) then (line, count, ended)
    else ((Text.bytewise [b]).map (·, false) ++ line, count, ended)
termination_by _ data => data.length

/-- How separators split a line. -/
structure Splitting where
  separators : Text

namespace Splitting

def separates (s : Splitting) (m : Mark) : Bool := !m.2 && s.separators.contains m.1

def isBlank (s : Splitting) (m : Mark) : Bool := s.separates m && standardSeparators.contains m.1

def afterField (s : Splitting) (marks : List Mark) : List Mark :=
  match marks.dropWhile s.isBlank with
  | m :: rest => if s.separates m then rest.dropWhile s.isBlank else m :: rest
  | [] => []

/-- The value of the last variable: the only field that is left, or else all of them. -/
def lastValue (s : Splitting) (marks : List Mark) : Text :=
  let field := marks.takeWhile fun m => !s.separates m
  if (s.afterField (marks.drop field.length)).isEmpty then Field.text field
  else Field.text ((marks.reverse.dropWhile s.isBlank).reverse)

/-- The values of variables from the rest of a line. -/
def values (s : Splitting) : List Text → List Mark → List (Text × Text)
  | [], _ => []
  | [name], marks => [(name, s.lastValue marks)]
  | name :: rest, marks =>
    let field := marks.takeWhile fun m => !s.separates m
    (name, Field.text field) :: s.values rest (s.afterField (marks.drop field.length))

end Splitting

def readCommand (arguments : List Text) : Step Nat := do
  let given ← optionsOf "p:r" arguments
  if given.operands.isEmpty then shellFails "arg count"
  let found ← input? 0
  let (index, input) ← match found with
    | some (index, input) => pure (some index, if input.fault.isSome then { input with pieces := [] } else input)
    | none => pure (none, .ready [] false)
  let (line, count, ended) := lineFrom (!given.has 'r') 0 input.rest
  if !ended then awaitUntil true input.endsAt
  if let some index := index then
    takeFrom index { input with drained := input.drained || !ended } count
  let s : Splitting := ⟨← Expand.separators⟩
  (s.values given.operands (line.dropWhile s.isBlank)).forM fun (name, value) => do
    checkName name
    setVariable name value
  return if ended then 0 else 1

/-! ## Options -/

/-- What the search for an option came to. -/
structure OptionFound where
  letter : Char
  /-- The value that goes with it, or nothing to keep the old one. -/
  value : Option (Option Text)
  complaint : Option Text
  optionIndex : Nat
  letterIndex : Nat
  done : Bool

def nextOption (spec : List Char) (words : List Text) (optionIndex letterIndex : Nat) : OptionFound :=
  let index := if words.length + 1 < optionIndex then 1 else optionIndex
  let before := words.getD (index - 2) []
  let pending : Text := if 1 < index && 0 < letterIndex && letterIndex ≤ before.length then before.drop letterIndex
    else []
  let finished : Nat → OptionFound := fun index => ⟨'?', none, none, index, 0, true⟩
  let silent := spec.head? = some ':'
  /- The letter at the front of a text, when the option after its word has the given index. -/
  let read : Text → Nat → OptionFound := fun t index => match t with
    | [] => finished index
    | g :: rest =>
      let word := words.getD (index - 2) []
      let letterIndex := word.length - rest.length
      let c := g.char?.getD '?'
      let known := if c = ':' then none else (optionLettersOf spec).lookup c
      match known with
      | none =>
        if silent then ⟨'?', some (some [g]), none, index, letterIndex, false⟩
        else ⟨'?', some none, some ("Illegal option -" ++ [g]), index, letterIndex, false⟩
      | some false => ⟨c, some (some []), none, index, letterIndex, false⟩
      | some true =>
        if !rest.isEmpty then ⟨c, some (some rest), none, index, 0, false⟩
        else
          match words[index - 1]? with
          | some value => ⟨c, some (some value), none, index + 1, 0, false⟩
          | none =>
            if silent then ⟨':', some (some [g]), none, index, letterIndex, false⟩
            else ⟨'?', some none, some ("No arg for -" ++ [g] ++ " option"), index, letterIndex, false⟩
  if !pending.isEmpty then read pending index
  else
    match words[index - 1]? with
    | some [.char '-', .char '-'] => finished (index + 1)
    | some (.char '-' :: g :: rest) => read (g :: rest) (index + 1)
    | _ => finished index

def getOptionsCommand (arguments : List Text) : Step Nat := do
  match arguments with
  | spec :: name :: rest =>
    let f ← frame
    let words := if rest.isEmpty then f.arguments else rest
    let found := nextOption (spec.filterMap Glyph.char?) words f.optionIndex f.letterIndex
    if let some complaint := found.complaint then complain complaint
    match found.value with
    | some (some value) => setVariable "OPTARG" value
    | some none => removeVariable "OPTARG"
    | none => pure ()
    assign "OPTIND" (Text.ofNat found.optionIndex)
    onFrame fun f => { f with optionIndex := found.optionIndex, letterIndex := found.letterIndex }
    checkName name
    setVariable name (Text.ofChars [found.letter])
    return if found.done then 1 else 0
  | _ => shellFails "Usage: getopts optstring var [arg...]"

end Evaluate

end StageParity.Script
