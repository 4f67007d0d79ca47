import StageParity.CommandLine.Switch
import StageParity.Disk.Path
import StageParity.Text.Digit
import StageParity.Text.Quoted

/-!
# Arguments

Reading the words of a command line. Long names may be shortened as long as they stay
unique, a value may follow an equals sign, and short names without values may be joined.
-/

namespace StageParity

/-- What the command line asks for. -/
structure Arguments where
  workdir : Option Path
  verbose : Bool
  report : Option Path
deriving DecidableEq

def Arguments.empty : Arguments := ⟨none, false, none⟩

/-- Why a command line is refused. -/
inductive UsageError where
  /-- A short form fits several names. -/
  | ambiguous (word : Text) (names : List Text)
  | expectedValue (switch : Switch)
  | ignoredValue (switch : Switch) (value : Text)
  | unrecognized (words : List Text)
deriving DecidableEq

def UsageError.message : UsageError → Text
  | .ambiguous word names =>
    "ambiguous option: " ++ word ++ " could match " ++ Text.join ", " names
  | .expectedValue switch => "argument " ++ switch.label ++ ": expected one argument"
  | .ignoredValue switch value =>
    "argument " ++ switch.label ++ ": ignored explicit argument " ++ value.quoted
  | .unrecognized words => "unrecognized arguments: " ++ Text.join " " words

/-- Why reading a command line ends early. -/
inductive EarlyEnd where
  | help
  | version
  | refused (error : UsageError)
deriving DecidableEq

/-- What a word of the command line is. -/
inductive Word where
  | plain (text : Text)
  /-- Two dashes, after which there are no switches. -/
  | divider
  /-- A switch, by a short name or not, with the value given in the same word. -/
  | known (switch : Switch) (short : Bool) (value : Option Text)
  | unknown (text : Text)
deriving DecidableEq

namespace Word

def dash : Glyph := .char '-'

/-- Whether the glyphs are digits of any script, at least one of them. -/
def areDigits (t : Text) : Bool := !t.isEmpty && t.all Glyph.isDigit

/-- Whether the glyphs after a dash make a negative number of it. -/
def isNumber (t : Text) : Bool :=
  let body : Text := if t.getLast? = some (.char '\n') then t.dropLast else t
  areDigits body ||
    match body.splitFirst (.char '.') with
    | (whole, some fraction) => whole.all Glyph.isDigit && areDigits fraction
    | (_, none) => false

def isShort (name : Text) : Bool :=
  match name with
  | _ :: second :: _ => second ≠ dash
  | _ => true

/-- The words that start with a dash but are no switch of the program. -/
def ofOther (t : Text) : Word :=
  if isNumber (t.drop 1) || t.contains (.char ' ') then .plain t else .unknown t

def ofShortened (t : Text) : Except UsageError Word :=
  let (start, value) := t.splitFirst (.char '=')
  match Switch.table.filter fun entry => start.isPrefixOf entry.1 with
  | [] => .ok (ofOther t)
  | [(_, switch)] => .ok (.known switch false value)
  | entries => .error (.ambiguous t (entries.map Prod.fst))

/-- The switch of a word that starts with a short name. -/
def ofJoined (t : Text) : Word :=
  match Switch.named? (t.take 2) with
  | some switch => .known switch true (some (t.drop 2))
  | none => ofOther t

/-- A word that starts with a dash and is no name as a whole. -/
def ofDashed (t : Text) : Except UsageError Word :=
  if t.length = 1 then .ok (.plain t)
  else
    match t.splitFirst (.char '=') with
    | (name, some value) =>
      match Switch.named? name with
      | some switch => .ok (.known switch (isShort name) (some value))
      | none => if isShort t then .ok (ofJoined t) else ofShortened t
    | (_, none) => if isShort t then .ok (ofJoined t) else ofShortened t

def ofText (t : Text) : Except UsageError Word :=
  if t.head? ≠ some dash then .ok (.plain t)
  else if t = [dash, dash] then .ok .divider
  else
    match Switch.named? t with
    | some switch => .ok (.known switch (isShort t) none)
    | none => ofDashed t

def ofTexts : List Text → Except UsageError (List (Text × Word))
  | [] => .ok []
  | t :: rest => do
    match ← ofText t with
    | .divider => return (t, .divider) :: rest.map fun t => (t, .plain t)
    | word => return (t, word) :: (← ofTexts rest)

end Word

namespace Arguments

/-- The switches of a word that starts with a short name, each with its value if it has
one in the word. -/
def joined (switch : Switch) : Text → Except UsageError (List (Switch × Option Text))
  | [] => if switch.takesValue then .ok [(switch, some [])] else .error (.ignoredValue switch [])
  | g :: rest =>
    if switch.takesValue then .ok [(switch, some (g :: rest))]
    else
      match Switch.named? [Word.dash, g] with
      | none => .error (.ignoredValue switch (g :: rest))
      | some next =>
        if rest.isEmpty then .ok [(switch, none), (next, none)]
        else do return (switch, none) :: (← joined next rest)

def expand (switch : Switch) (short : Bool) :
    Option Text → Except UsageError (List (Switch × Option Text))
  | none => .ok [(switch, none)]
  | some value =>
    if switch.takesValue then .ok [(switch, some value)]
    else if short then joined switch value
    else .error (.ignoredValue switch value)

def apply (args : Arguments) : Switch × Option Text → Except EarlyEnd Arguments
  | (.help, _) => .error .help
  | (.version, _) => .error .version
  | (.verbose, _) => .ok { args with verbose := true }
  | (.workdir, value) => .ok { args with workdir := value.map Path.ofText }
  | (.report, value) => .ok { args with report := value.map Path.ofText }

/-- Whether the last of some switches still needs a value. -/
def needsValue (switches : List (Switch × Option Text)) : Option Switch :=
  match switches.getLast? with
  | some (switch, none) => if switch.takesValue then some switch else none
  | _ => none

def giveValue (switches : List (Switch × Option Text)) (value : Text) :
    List (Switch × Option Text) :=
  switches.dropLast ++ (switches.getLast?.map fun entry => (entry.1, some value)).toList

def applyAll (args : Arguments) (switches : List (Switch × Option Text)) :
    Except EarlyEnd Arguments :=
  switches.foldlM apply args

/-- What the words ask for, and the words that are left over. -/
def ofWords (args : Arguments) (extras : List Text) :
    List (Text × Word) → Except EarlyEnd (Arguments × List Text)
  | [] => .ok (args, extras)
  | (_, .known switch short value) :: rest => do
    let switches ← (expand switch short value).mapError .refused
    match needsValue switches with
    | none => ofWords (← args.applyAll switches) extras rest
    | some last =>
      match rest with
      | (t, .plain _) :: others => ofWords (← args.applyAll (giveValue switches t)) extras others
      | _ => throw (.refused (.expectedValue last))
  | (t, _) :: rest => ofWords args (extras ++ [t]) rest

def ofTexts (words : List Text) : Except EarlyEnd Arguments := do
  let words ← (Word.ofTexts words).mapError .refused
  match ← ofWords .empty [] words with
  | (args, []) => return args
  | (_, extras) => throw (.refused (.unrecognized extras))

end Arguments

end StageParity
