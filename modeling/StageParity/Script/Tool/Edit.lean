import StageParity.Script.Regex
import StageParity.Script.Tool.Show

/-!
# Editing scripts

The commands that edit the lines of a stream one after another, and how they are read.
-/

namespace StageParity.Script.Edit

open Reading (isDigit)

/-- A regular expression with its options; nothing stands for the one that was used last. -/
structure Search where
  regex : Option Regex
  anyCase : Bool

/-- What chooses lines. -/
inductive Address where
  | line (number : Nat)
  | last
  | search (s : Search)
  | every (first step : Nat)

inductive RangeEnd where
  | at_ (a : Address)
  /-- After some more lines. -/
  | after (count : Nat)
  | multiple (n : Nat)

/-- The lines for which a command is meant. -/
structure Choice where
  first : Option Address
  finish : Option RangeEnd
  /-- Whether the range starts before the first line. -/
  fromStart : Bool
  negated : Bool

/-- A change of letters in a replacement. -/
inductive Casing where
  | upper
  | lower
  | nextUpper
  | nextLower
  | stop
deriving DecidableEq

inductive Piece where
  | text (t : Text)
  | group (index : Nat)
  | casing (c : Casing)

structure Substitution where
  search : Search
  pieces : List Piece
  everywhere : Bool
  /-- The first match that is replaced. -/
  number : Nat
  prints : Bool
  target : Option Text

inductive Action where
  | open_
  | close
  | label (name : Text)
  | jump (name : Text)
  | jumpIfDone (name : Text)
  | jumpUnlessDone (name : Text)
  | insert (t : Text)
  | append (t : Text)
  | replace (t : Text)
  | delete
  | deleteFirst
  | print
  | printFirst
  | number
  | list
  | next
  | joinNext
  | keep
  | keepMore
  | fetch
  | fetchMore
  | exchange
  | clear
  | quit (status : Nat)
  | quitQuietly (status : Nat)
  | readFile (path : Text)
  | writeFile (path : Text)
  | substitute (s : Substitution)
  | translate (source target : Text)
  | fileName
  | nothing

/-- A command with the lines for which it is meant. -/
structure Command where
  choice : Choice
  action : Action

/-! ## Reading scripts -/

/-- The text that is left, and the number of glyphs read. -/
structure Script where
  rest : Text
  read : Nat

/-- A step in reading a script; a flaw is told with its place. -/
abbrev Reader := StateT Script (Except (Nat × Text))

def ch (c : Char) : Glyph := .char c

def reject {α : Type} (reason : Text) : Reader α := do throw ((← get).read, reason)

def peek : Reader (Option Glyph) := return (← get).rest.head?

def skip : Reader Unit := modify fun s => ⟨s.rest.drop 1, s.read + (if s.rest.isEmpty then 0 else 1)⟩

def takeWhile (test : Glyph → Bool) : Reader Text := do
  let s ← get
  let found := s.rest.takeWhile test
  set (Script.mk (s.rest.drop found.length) (s.read + found.length))
  return found

def isBlank (g : Glyph) : Bool := g = ch ' ' || g = ch '\t'

def isSpace (g : Glyph) : Bool := isBlank g || g = ch '\n' || g = ch '\r'

/-- Text up to an unescaped mark, which may stand between brackets in a regular expression.
An escaped mark loses its backslash. Nothing if there is no such mark. -/
def delimited (mark : Glyph) (regex : Bool) : (bracket : Nat) → Text → Option (Text × Text)
  | _, [] => none
  | bracket, .char '\\' :: g :: rest => do
    if bracket ≠ 0 then
      let (t, after) ← delimited mark regex bracket (g :: rest)
      return (ch '\\' :: t, after)
    let (t, after) ← delimited mark regex 0 rest
    if g = mark then return (g :: t, after)
    else if g = ch 'n' && regex then return (ch '\n' :: t, after)
    else return (ch '\\' :: g :: t, after)
  | bracket, g :: rest =>
    if g = mark && bracket = 0 then some ([], rest)
    else if g = ch '\n' && regex && bracket = 0 then none
    else do
      -- Inside brackets the place of the closing one is counted, since it may come first.
      let bracket :=
        if !regex then 0
        else if bracket = 0 then (if g = ch '[' then 1 else 0)
        else if g = ch ']' && 1 < bracket then 0
        else if g = ch '^' && bracket = 1 then 1 else 2
      let (t, after) ← delimited mark regex bracket rest
      return (g :: t, after)

def taken (mark : Glyph) (regex : Bool) (flaw : Text) : Reader Text := do
  let s ← get
  match delimited mark regex 0 s.rest with
  | some (t, after) =>
    set (Script.mk after (s.read + (s.rest.length - after.length)))
    return t
  | none =>
    modify fun s => ⟨[], s.read + s.rest.length⟩
    reject flaw

/-- A regular expression with its escapes for special glyphs. -/
def unescapeRegex : Text → Text
  | .char '\\' :: .char 't' :: rest => ch '\t' :: unescapeRegex rest
  | .char '\\' :: .char 'n' :: rest => ch '\n' :: unescapeRegex rest
  | .char '\\' :: .char 'f' :: rest => ch '\x0c' :: unescapeRegex rest
  | .char '\\' :: .char 'v' :: rest => ch '\x0b' :: unescapeRegex rest
  | .char '\\' :: .char 'r' :: rest => ch '\r' :: unescapeRegex rest
  | .char '\\' :: g :: rest => ch '\\' :: g :: unescapeRegex rest
  | g :: rest => g :: unescapeRegex rest
  | [] => []

def searchOf (extended anyCase : Bool) (t : Text) : Reader Search := do
  if t.isEmpty then return ⟨none, anyCase⟩
  else
    match Regex.ofText extended (unescapeRegex t) with
    | .ok r => return ⟨some r, anyCase⟩
    | .error reason => reject (Text.ofString reason)

def number : Reader Nat := return Arithmetic.digitsIn 10 (← takeWhile isDigit)

def address? (extended : Bool) : Reader (Option Address) := do
  let search := fun (mark : Glyph) => do
    let t ← taken mark true "unterminated address regex"
    let flags ← takeWhile fun g => g = ch 'I' || g = ch 'M'
    return some (Address.search (← searchOf extended (flags.contains (ch 'I')) t))
  match ← peek with
  | none => return none
  | some g =>
    if isDigit g then
      let n ← number
      if (← peek) = some (ch '~') then
        skip
        return some (.every n (← number))
      else return some (.line n)
    else if g = ch '$' then
      skip
      return some .last
    else if g = ch '/' then
      skip
      search g
    else if g = ch '\\' then
      skip
      match ← peek with
      | some mark =>
        skip
        search mark
      | none => reject "unexpected end"
    else return none

def rangeEnd (extended : Bool) : Reader RangeEnd := do
  let _ ← takeWhile isSpace
  match ← peek with
  | some (.char '+') =>
    skip
    return .after (← number)
  | some (.char '~') =>
    skip
    return .multiple (← number)
  | _ =>
    match ← address? extended with
    | some a => return .at_ a
    | none => reject "unexpected \x60,'"

/-- The lines for which the next command is meant. -/
def choice (extended : Bool) : Reader Choice := do
  let first ← address? extended
  let _ ← takeWhile isBlank
  let isZero := match first with
    | some (.line 0) => true
    | _ => false
  let finish ← match first, ← peek with
    | some _, some (.char ',') => do
      skip
      pure (some (← rangeEnd extended))
    | _, _ => pure none
  if isZero then
    match finish with
    | some (.at_ (.search _)) => pure ()
    | _ =>
      skip
      reject "invalid usage of line address 0"
  let _ ← takeWhile isSpace
  let negated := (← peek) = some (ch '!')
  if negated then
    skip
    let _ ← takeWhile isBlank
    if (← peek) = some (ch '!') then
      skip
      reject "multiple \x60!'s"
  return ⟨first, finish, isZero, negated⟩

def piecesOf : Text → List Piece
  | [] => []
  | .char '&' :: rest => .group 0 :: piecesOf rest
  | .char '\\' :: g :: rest =>
    match g with
    | .char 'n' => .text [ch '\n'] :: piecesOf rest
    | .char 't' => .text [ch '\t'] :: piecesOf rest
    | .char 'r' => .text [ch '\r'] :: piecesOf rest
    | .char 'f' => .text [ch '\x0c'] :: piecesOf rest
    | .char 'v' => .text [ch '\x0b'] :: piecesOf rest
    | .char 'a' => .text [ch '\x07'] :: piecesOf rest
    | .char 'U' => .casing .upper :: piecesOf rest
    | .char 'L' => .casing .lower :: piecesOf rest
    | .char 'u' => .casing .nextUpper :: piecesOf rest
    | .char 'l' => .casing .nextLower :: piecesOf rest
    | .char 'E' => .casing .stop :: piecesOf rest
    | .char c =>
      if c.isDigit then .group (c.toNat - 48) :: piecesOf rest else .text [g] :: piecesOf rest
    | _ => .text [g] :: piecesOf rest
  | g :: rest => .text [g] :: piecesOf rest

def largestGroup (pieces : List Piece) : Nat :=
  pieces.foldl (fun n piece => match piece with
    | .group i => max n i
    | _ => n) 0

def fileName : Reader Text := do
  let _ ← takeWhile isBlank
  let name ← takeWhile (· ≠ ch '\n')
  if name.isEmpty then reject "missing filename in r/R/w/W commands"
  return name

def substitutionOptions : (fuel : Nat) → Substitution → (anyCase : Bool) → Reader (Substitution × Bool)
  | 0, s, anyCase => return (s, anyCase)
  | fuel + 1, s, anyCase => do
    match ← peek with
    | some (.char 'g') =>
      skip
      if s.everywhere then reject "multiple \x60g' options to \x60s' command"
      substitutionOptions fuel { s with everywhere := true } anyCase
    | some (.char 'p') =>
      skip
      if s.prints then reject "multiple \x60p' options to \x60s' command"
      substitutionOptions fuel { s with prints := true } anyCase
    | some (.char 'i') | some (.char 'I') =>
      skip
      substitutionOptions fuel s true
    | some (.char 'm') | some (.char 'M') =>
      skip
      substitutionOptions fuel s anyCase
    | some (.char 'w') =>
      skip
      return ({ s with target := some (← fileName) }, anyCase)
    | some g =>
      if isDigit g then
        let n ← number
        if n = 0 then reject "number option to \x60s' command may not be zero"
        substitutionOptions fuel { s with number := n } anyCase
      else if isSpace g && g ≠ ch '\n' then
        skip
        substitutionOptions fuel s anyCase
      else if g = ch '\n' || g = ch ';' || g = ch '\x7d' || g = ch '#' then return (s, anyCase)
      else
        skip
        reject "unknown option to \x60s'"
    | none => return (s, anyCase)

def substitution (extended : Bool) : Reader Substitution := do
  let flaw : Text := "unterminated \x60s' command"
  match ← peek with
  | none => reject flaw
  | some mark =>
    skip
    let pattern ← taken mark true flaw
    let replacement ← taken mark false flaw
    let pieces := piecesOf replacement
    let (s, anyCase) ← substitutionOptions ((← get).rest.length + 1)
      ⟨⟨none, false⟩, pieces, false, 1, false, none⟩ false
    let search ← searchOf extended anyCase pattern
    let groups := (search.regex.map Regex.groupCount).getD 9
    if groups < largestGroup pieces then
      reject ("invalid reference \\" ++ Text.ofNat (largestGroup pieces) ++ " on \x60s' command's RHS")
    return { s with search }

/-- A text with its escapes, in a list of glyphs to be exchanged. -/
def unescapeList : Text → Text
  | .char '\\' :: .char 'n' :: rest => ch '\n' :: unescapeList rest
  | .char '\\' :: .char 't' :: rest => ch '\t' :: unescapeList rest
  | .char '\\' :: .char '\\' :: rest => ch '\\' :: unescapeList rest
  | g :: rest => g :: unescapeList rest
  | [] => []

def addedText : Text → Text × Text
  | [] => ([], [])
  | .char '\\' :: g :: rest =>
    let (t, after) := addedText rest
    (g :: t, after)
  | g :: rest =>
    if g = ch '\n' then ([], rest)
    else
      let (t, after) := addedText rest
      (g :: t, after)

def added : Reader Text := do
  let _ ← takeWhile isBlank
  match ← peek with
  | none => reject "expected \\ after \x60a', \x60c' or \x60i'"
  | some (.char '\\') =>
    skip
    let _ ← takeWhile isBlank
    if (← peek) = some (ch '\n') then skip
  | some _ => pure ()
  let s ← get
  let (t, after) := addedText s.rest
  set (Script.mk after (s.read + (s.rest.length - after.length)))
  return t ++ [ch '\n']

def finish : Reader Unit := do
  let _ ← takeWhile isBlank
  match ← peek with
  | none => return
  | some g =>
    if g = ch '\n' || g = ch ';' then skip
    else if g = ch '\x7d' || g = ch '#' then return
    else
      skip
      reject "extra characters after command"

def labelName : Reader Text := do
  let _ ← takeWhile isBlank
  let name ← takeWhile fun g => !(isSpace g || g = ch ';' || g = ch '\x7d')
  return name

/-- The action at the next glyph, for lines that were chosen or not. -/
def action (extended chosen : Bool) : Reader Action := do
  let simple := fun (a : Action) => do
    finish
    return a
  match ← peek with
  | none => reject "missing command"
  | some g =>
    skip
    match g with
    | .char '\x7b' => return .open_
    | .char '\x7d' =>
      if chosen then reject "\x7d doesn't want any addresses"
      finish
      return .close
    | .char '#' =>
      if chosen then reject "comments don't accept any addresses"
      let _ ← takeWhile (· ≠ ch '\n')
      return .nothing
    | .char ':' =>
      if chosen then reject ": doesn't want any addresses"
      let _ ← takeWhile isBlank
      let name ← takeWhile fun g => !(isSpace g || g = ch ';')
      if name.isEmpty then reject "\":\" lacks a label"
      finish
      return .label name
    | .char 'b' => simple (.jump (← labelName))
    | .char 't' => simple (.jumpIfDone (← labelName))
    | .char 'T' => simple (.jumpUnlessDone (← labelName))
    | .char 'a' => return .append (← added)
    | .char 'i' => return .insert (← added)
    | .char 'c' => return .replace (← added)
    | .char 'd' => simple .delete
    | .char 'D' => simple .deleteFirst
    | .char 'p' => simple .print
    | .char 'P' => simple .printFirst
    | .char '=' => simple .number
    | .char 'l' =>
      let _ ← takeWhile fun g => isBlank g || isDigit g
      simple .list
    | .char 'n' => simple .next
    | .char 'N' => simple .joinNext
    | .char 'h' => simple .keep
    | .char 'H' => simple .keepMore
    | .char 'g' => simple .fetch
    | .char 'G' => simple .fetchMore
    | .char 'x' => simple .exchange
    | .char 'z' => simple .clear
    | .char 'F' => simple .fileName
    | .char 'q' =>
      let _ ← takeWhile isBlank
      simple (.quit (← number))
    | .char 'Q' =>
      let _ ← takeWhile isBlank
      simple (.quitQuietly (← number))
    | .char 'r' => return .readFile (← fileName)
    | .char 'w' => return .writeFile (← fileName)
    | .char 's' =>
      let s ← substitution extended
      simple (.substitute s)
    | .char 'y' =>
      let flaw : Text := "unterminated \x60y' command"
      match ← peek with
      | none => reject flaw
      | some mark =>
        skip
        let source ← taken mark false flaw
        let target ← taken mark false flaw
        let source := unescapeList source
        let target := unescapeList target
        if source.length ≠ target.length then
          reject "strings for \x60y' command are different lengths"
        simple (.translate source target)
    | _ => reject ("unknown command: \x60" ++ [g] ++ "'")

/-- The commands of a script. `depth` counts the open braces. -/
def commands (extended : Bool) : (fuel depth : Nat) → Reader (List Command)
  | 0, _ => return []
  | fuel + 1, depth => do
    let _ ← takeWhile fun g => isSpace g || g = ch ';'
    if (← get).rest.isEmpty then
      if 0 < depth then throw (0, Text.ofString "unmatched \x60\x7b'")
      return []
    let c ← choice extended
    let _ ← takeWhile isSpace
    let a ← action extended c.first.isSome
    let depth ← match a with
      | .open_ => pure (depth + 1)
      | .close =>
        if depth = 0 then reject "unexpected \x60\x7d'"
        pure (depth - 1)
      | _ => pure depth
    return ⟨c, a⟩ :: (← commands extended fuel depth)

/-- The label of the first jump that leads nowhere. -/
def lostLabel? (program : List Command) : Option Text :=
  let labels := program.filterMap fun c => match c.action with
    | .label name => some name
    | _ => none
  program.findSome? fun c => match c.action with
    | .jump name | .jumpIfDone name | .jumpUnlessDone name =>
      if name.isEmpty || labels.contains name then none else some name
    | _ => none

def ofText (extended : Bool) (t : Text) : Except (Nat × Text) (List Command) :=
  ((commands extended (t.length + 2) 0).run ⟨t, 0⟩).map Prod.fst

end StageParity.Script.Edit
