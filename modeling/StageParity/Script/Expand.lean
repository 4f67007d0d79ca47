import StageParity.Script.Arithmetic
import StageParity.Script.Machine
import StageParity.Script.Pattern

/-!
# Expansion of words

From the phrases of a script to the words of a command: variables, the output of other
commands, sums, the split into fields, and file name patterns.
-/

namespace StageParity.Script

/-- What a phrase expands to, position by position. -/
inductive Bit where
  | glyph (g : Glyph) (quoted : Bool)
  | loose (g : Glyph)
  /-- A place at which a field is split like at a blank. -/
  | gap
  | cut
  /-- A quoted text that may be empty stands here. -/
  | present

/-- A field with the quotes of its glyphs. -/
abbrev Field := List Mark

def Field.text (field : Field) : Text := field.map Prod.fst

def Bit.marks (bits : List Bit) : Field :=
  bits.filterMap fun
    | .glyph g quoted => some (g, quoted)
    | .loose g => some (g, false)
    | .gap | .cut => some (.char ' ', true)
    | .present => none

/-- The glyphs at which fields are split unless a script says otherwise. -/
def standardSeparators : Text := " \t\n"

/-- What the split into fields has just passed. -/
inductive Passed where
  | part
  /-- Blanks that end a field, after which one more separator belongs to them. -/
  | blanks
  | separator
deriving DecidableEq

/-- The fields of bits, in reverse. `current` is the field that has begun, if one has, also
in reverse. -/
def fieldsFrom (separators : Text) : (done : List Field) → (current : Option Field) → Passed →
    List Bit → List Field
  | done, current, _, [] => (current.map List.reverse).toList ++ done
  | done, current, passed, bit :: rest =>
    let add := fun (m : Mark) => fieldsFrom separators done (some (m :: current.getD [])) .part rest
    let blank := fun () =>
      match passed, current with
      | .part, some field => fieldsFrom separators (field.reverse :: done) none .blanks rest
      | .part, none => fieldsFrom separators done none .part rest
      | _, _ => fieldsFrom separators done none passed rest
    match bit with
    | .glyph g quoted => add (g, quoted)
    | .present => fieldsFrom separators done (some (current.getD [])) .part rest
    | .cut => fieldsFrom separators ((current.getD []).reverse :: done) none .part rest
    | .gap => blank ()
    | .loose g =>
      if !separators.contains g then add (g, false)
      else if standardSeparators.contains g then blank ()
      else if passed = .blanks then fieldsFrom separators done none .separator rest
      else fieldsFrom separators ((current.getD []).reverse :: done) none .separator rest

def splitFields (separators : Text) (bits : List Bit) : List Field :=
  (fieldsFrom separators [] none .part bits).reverse

def Field.parts : Field → List Field
  | [] => [[]]
  | item :: rest =>
    if item.1 = Path.slash then [] :: Field.parts rest
    else
      match Field.parts rest with
      | [] => [[item]]
      | part :: parts => (item :: part) :: parts

/-- The path texts that fit parts of a pattern, from a text that leads to a directory. -/
def pathsFitting (disk : Disk) (cwd : Location) : (front : Text) → List Field → List Text
  | front, [] => [front]
  | front, part :: rest =>
    let enter := fun (name : Text) =>
      if rest.isEmpty then pathsFitting disk cwd (front ++ name) rest
      else pathsFitting disk cwd (front ++ name ++ [Path.slash]) rest
    if !Pattern.isPattern part then
      let name := Field.text (Pattern.unescape part)
      if part.isEmpty || Reach.holds disk cwd .entry (front ++ name) fun _ => true then enter name else []
    else
      match Reach.found disk cwd .target (if front.isEmpty then "." else front) with
      | .ok (place, .directory mode) =>
        if mode &&& Entry.readBit = 0 then []
        else
          let pieces := Pattern.pieces part
          let hidden := part.head?.any fun m => m.1 = .char '.'
          let names := ([[.char '.'], Path.up] : List Text) ++ Reach.names disk place
          let fitting := names.filter fun name =>
            Pattern.fits pieces name && (hidden || name.head? ≠ some (.char '.'))
          let reachable := fitting.filter fun name =>
            rest.isEmpty || Reach.holds disk cwd .target (front ++ name) Entry.isDirectory
          reachable.flatMap enter
      | _ => []

/-- The words of a field: the paths that fit it if it is a pattern and there are any. -/
def Field.words (disk : Disk) (cwd : Location) (field : Field) : List Text :=
  if Pattern.isPattern field then
    match pathsFitting disk cwd [] (Field.parts field) with
    | [] => [field.text]
    | found => found.mergeSort Text.le
  else [field.text]

def withoutEnd (longest : Bool) (pieces : List Pattern.Piece) (value : Text) : Text :=
  let sizes := (List.range (value.length + 1)).filter fun n => Pattern.fits pieces (value.drop n)
  match if longest then sizes.head? else sizes.getLast? with
  | some n => value.take n
  | none => value

def withoutStart (longest : Bool) (pieces : List Pattern.Piece) (value : Text) : Text :=
  let sizes := (List.range (value.length + 1)).filter fun n => Pattern.fits pieces (value.take n)
  match if longest then sizes.getLast? else sizes.head? with
  | some n => value.drop n
  | none => value

def firstNumber : Nat := 4000

/-- The number of the process that started the first one. -/
def parentNumber : Nat := firstNumber - 1

def jobNumber (id : Nat) : Nat := firstNumber + 1000 + id

/-- The letters of options, in the order in which a shell shows them. -/
def optionLetters : List Char :=
  ['p', 'u', 'b', 'a', 'C', 'E', 'V', 'v', 'x', 's', 'n', 'm', 'i', 'I', 'f', 'e']

/-- How a phrase is expanded. -/
structure Expansion where
  splits : Bool
  /-- Whether the phrase stands inside the expansion of a variable. -/
  nested : Bool
  /-- Whether the phrase is the value of a variable, in which a home directory may also
  follow a colon. -/
  value : Bool

namespace Expansion

def words : Expansion := ⟨true, false, false⟩

def text : Expansion := ⟨false, false, false⟩

def setting : Expansion := ⟨false, false, true⟩

end Expansion

namespace Expand

open Step

def separators : Step Text := return (← lookup "IFS").getD standardSeparators

/-- What stands between arguments that become one text. -/
def joint : Step Text := do
  match ← lookup "IFS" with
  | some seps => return seps.take 1
  | none => return " "

/-- The value of a variable of any kind, if it is set. -/
def value? (name : Text) : Step (Option Text) := do
  let f ← frame
  match name with
  | [.char '#'] => return some (Text.ofNat f.arguments.length)
  | [.char '?'] => return some (Text.ofNat f.status)
  | [.char '$'] => return some (Text.ofNat f.number)
  | [.char '!'] => return f.lastJob.map fun id => Text.ofNat (jobNumber id)
  | [.char '-'] => return some (Text.ofChars (optionLetters.filter f.has))
  | [.char '@'] | [.char '*'] =>
    let between ← joint
    return if f.arguments.isEmpty then none else some (Text.join between f.arguments)
  | _ =>
    if name.all Reading.isDigit then
      match Arithmetic.digitsIn 10 name with
      | 0 => return some f.name
      | n + 1 => return f.arguments[n]?
    else lookup name

def isAll (name : Text) : Bool := name = [.char '@'] || name = [.char '*']

def bitsOf (quoted : Bool) (value : Text) : List Bit :=
  if quoted then .present :: value.map fun g => .glyph g true else value.map .loose

def allArguments (how : Expansion) (name : Text) (quoted : Bool) : Step (List Bit) := do
  let arguments := (← frame).arguments
  let parts := arguments.map (bitsOf quoted)
  if !how.splits || (name = [.char '*'] && quoted) then
    return bitsOf quoted (Text.join (← joint) arguments)
  else if quoted then return (parts.intersperse [.cut]).flatten
  else return (parts.intersperse [.gap]).flatten

def piecesOf (bits : List Bit) : List Pattern.Piece := Pattern.pieces (Bit.marks bits)

/-- Bytes as the text that stands for the output of a command: line ends at the end do not
count. -/
def outputText (data : List UInt8) : Text :=
  Text.dropEnd (Text.bytewise (data.filter (· ≠ 0))) (· == .char '\n')

def home? (name : Text) : Step (Option Text) := do
  if name.isEmpty then lookup "HOME"
  else return if name = Text.ofString "root" then some "/root" else none

/-- The bits of plain text, in which a tilde at the start stands for a home directory.
`last` tells whether nothing else follows in the phrase. -/
def tilde (how : Expansion) (last : Bool) (t : Text) : Step (List Bit) := do
  let plain := fun (t : Text) => t.map fun g => if how.nested then Bit.loose g else .glyph g false
  match t with
  | .char '~' :: rest =>
    let name := rest.takeWhile fun g => g ≠ Path.slash && !(how.value && g = .char ':')
    let after := rest.drop name.length
    if after.isEmpty && !last then return plain t
    else
      match ← home? name with
      | some found => return .present :: found.map (fun g => Bit.glyph g true) ++ plain after
      | none => return plain t
  | _ => return plain t

/-- The bits of plain text at the start of a phrase, or after a colon in a value. -/
def plainText (how : Expansion) (first last : Bool) (t : Text) : Step (List Bit) := do
  if how.value then
    let parts := Text.splitOn (.char ':') t
    let count := parts.length
    let bits ← (parts.zip (List.range count)).mapM fun (part, i) => do
      let ends := i + 1 < count || last
      let here ← if i = 0 && !first then pure (part.map fun g => Bit.glyph g false) else tilde how ends part
      return if i = 0 then here else .glyph (.char ':') false :: here
    return bits.flatten
  else if first then tilde how last t
  else return t.map fun g => if how.nested then Bit.loose g else .glyph g false

def sum (quoted : Bool) (text : Text) : Step (List Bit) := do
  let f ← frame
  match calculate (fun name => f.bindings.lookup name) text with
  | .ok (n, settings) =>
    settings.reverse.forM fun setting => setVariable setting.1 setting.2
    return bitsOf quoted (Text.ofInt n)
  | .error (.reason reason) =>
    shellFails ("arithmetic expression: " ++ Text.ofString reason ++ ": \"" ++ text ++ "\"")
  | .error (.illegal value) => shellFails ("Illegal number: " ++ value)

/-- The bits of a part, with what runs a command and gives its output, and what expands
the phrases inside the part. -/
def part (output : Command → Step (List UInt8)) (inner : Expansion → Phrase → Step (List Bit))
    (how : Expansion) (first last : Bool) : Part → Step (List Bit)
  | .text t quoted =>
    if quoted then return .present :: t.map fun g => .glyph g true
    else plainText how first last t
  | .output body quoted => return bitsOf quoted (outputText (← output body))
  | .sum expression quoted => do
    sum quoted (Field.text (Bit.marks (← inner .text expression)))
  | .variable name modifier quoted => do
    let value ← value? name
    let absent := fun (emptyCounts : Bool) => value.isNone || (emptyCounts && value == some [])
    let nested := { how with nested := true, value := false }
    let given := fun () => do
      if isAll name then allArguments how name quoted else return bitsOf quoted (value.getD [])
    let required := do
      if value.isNone && !isAll name && (← frame).has 'u' then
        shellFails (name ++ ": parameter not set")
    match modifier with
    | .plain =>
      required
      given ()
    | .length =>
      required
      return bitsOf quoted (Text.ofNat (value.getD []).length)
    | .orElse emptyCounts word => if absent emptyCounts then inner nested word else given ()
    | .ifSet emptyCounts word =>
      if absent emptyCounts then return if quoted then [.present] else [] else inner nested word
    | .assign emptyCounts word =>
      if absent emptyCounts then
        let text := Field.text (Bit.marks (← inner .text word))
        if !Reading.isName name then shellFails (name ++ ": bad variable name")
        setVariable name text
        return bitsOf quoted text
      else given ()
    | .orFail emptyCounts word =>
      if absent emptyCounts then
        let text := Field.text (Bit.marks (← inner .text word))
        let text := if !word.isEmpty then text
          else if emptyCounts then Text.ofString "parameter not set or null" else "parameter not set"
        shellFails (name ++ ": " ++ text)
      else given ()
    | .cutEnd longest pattern =>
      required
      let pieces := piecesOf (← inner .text pattern)
      return bitsOf quoted (withoutEnd longest pieces (value.getD []))
    | .cutStart longest pattern =>
      required
      let pieces := piecesOf (← inner .text pattern)
      return bitsOf quoted (withoutStart longest pieces (value.getD []))
    | .bad => shellFails "Bad substitution"

def parts (each : (first last : Bool) → Part → Step (List Bit)) : (first : Bool) → List Part →
    Step (List Bit)
  | _, [] => return []
  | first, part :: rest => do
    let bits ← each first rest.isEmpty part
    return bits ++ (← parts each false rest)

end Expand

end StageParity.Script
