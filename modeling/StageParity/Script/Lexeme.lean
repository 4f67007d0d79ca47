import StageParity.Script.Syntax

/-!
# Words and operators of scripts

Reading the text of a script glyph by glyph. Words may hold whole commands, so the reader
of words is given the reader of commands.
-/

namespace StageParity.Script

/-- A flaw in the text of a script, and the line on which it was found. -/
structure Flaw where
  line : Nat
  reason : Text

inductive Lexeme where
  | finish
  | newline
  | mark (symbol : String)
  | redirect (descriptor : Nat) (kind : RedirectKind)
  /-- The start of a document, which gives up the tabs before its lines if that is asked
  for. -/
  | document (descriptor : Nat) (tabs : Bool)
  | word (phrase : Phrase)
  | keyword (name : String)

/-- The words that have a meaning of their own where a command may start. -/
def keywords : List String :=
  ["!", "case", "do", "done", "elif", "else", "esac", "fi", "for", "if", "in", "then", "until",
   "while", "\x7b", "\x7d"]

def Lexeme.name : Lexeme → Text
  | .finish => "end of file"
  | .newline => "newline"
  | .mark symbol | .keyword symbol => "\"" ++ symbol ++ "\""
  | .redirect _ _ | .document _ _ => "redirection"
  | .word _ => "word"

/-- The text that is still to be read. -/
structure Source where
  rest : Text
  line : Nat
  /-- The lines of documents that were read ahead. -/
  ahead : Nat
  back : Option Lexeme
  /-- The words that stand for other text where a command may start. -/
  aliases : List (Text × Text)
  /-- The words whose text is being read, each with the number of glyphs after it. -/
  expanding : List (Text × Nat)

def Source.start (t : Text) : Source := ⟨t, 1, 0, none, [], []⟩

abbrev Reading := StateT Source (Except Flaw)

namespace Reading

def ch (c : Char) : Glyph := .char c

def startsName : Glyph → Bool
  | .char c => c.isAlpha || c = '_'
  | _ => false

def inName : Glyph → Bool
  | .char c => c.isAlphanum || c = '_'
  | _ => false

def isName : Text → Bool
  | [] => false
  | g :: rest => startsName g && rest.all inName

def isDigit : Glyph → Bool
  | .char c => c.isDigit
  | _ => false

def isSpecial : Glyph → Bool
  | .char c =>
    c = '@' || c = '*' || c = '#' || c = '?' || c = '$' || c = '!' || c = '-' || c.isDigit
  | _ => false

def endsWord : Glyph → Bool
  | .char c => c = ' ' || c = '\t' || c = '\n' || c = ';' || c = '&' || c = '|' || c = '<' ||
      c = '>' || c = '(' || c = ')'
  | _ => false

def reject {α : Type} (reason : Text) : Reading α := do
  throw ⟨(← get).line, reason⟩

def unexpected {α : Type} (found : Lexeme) (wanted : Option Lexeme) : Reading α :=
  match wanted with
  | some other => reject (found.name ++ " unexpected (expecting " ++ other.name ++ ")")
  | none => reject (found.name ++ " unexpected")

/-- Drop pairs of a backslash and a line end. -/
def joinLines : (fuel : Nat) → Text → Text × Nat
  | 0, t => (t, 0)
  | fuel + 1, .char '\\' :: .char '\n' :: rest =>
    let (t, n) := joinLines fuel rest
    (t, n + 1)
  | _, t => (t, 0)

/-- Pass over a line end that is continued. -/
def joinHere : Reading Unit := modify fun s =>
  let (rest, n) := joinLines s.rest.length s.rest
  { s with rest, line := s.line + n }

def peek : Reading (Option Glyph) := do
  joinHere
  return (← get).rest.head?

def skip : Reading Unit := modify fun s =>
  match s.rest with
  | .char '\n' :: rest => { s with rest, line := s.line + 1 + s.ahead, ahead := 0 }
  | _ :: rest => { s with rest }
  | [] => s

def takeWhile (test : Glyph → Bool) : (fuel : Nat) → Reading Text
  | 0 => return []
  | fuel + 1 => do
    match ← peek with
    | some g =>
      if test g then
        skip
        return g :: (← takeWhile test fuel)
      else return []
    | none => return []

def left : Reading Nat := return (← get).rest.length

structure Scope where
  quoted : Bool
  braced : Bool
  /-- Whether they are lines of a document, which no quote ends. -/
  document : Bool
  sum : Bool
  literal : Bool

namespace Scope

def word : Scope := ⟨false, false, false, false, false⟩

def ender : Scope := ⟨false, false, false, false, true⟩

def quotes : Scope := ⟨true, false, false, false, false⟩

def lines : Scope := ⟨true, false, true, false, false⟩

def expression : Scope := ⟨true, false, false, true, false⟩

/-- The word after a variable in braces. -/
def inBraces (s : Scope) : Scope := ⟨s.quoted, true, s.document, false, s.literal⟩

/-- A pattern after a variable in braces. -/
def pattern : Scope := ⟨false, true, false, false, false⟩

end Scope

def push (part : Part) (parts : List Part) : List Part :=
  match part, parts with
  | .text s q, .text t r :: rest => if q == r then .text (s ++ t) q :: rest else part :: parts
  | _, _ => part :: parts

/-- The text up to the next unescaped backquote, and what follows it. -/
def backquoted (quoted : Bool) : Text → Option (Text × Text)
  | [] => none
  | .char '\\' :: g :: rest => do
    let (inside, after) ← backquoted quoted rest
    if g = ch '\n' then return (inside, after)
    else if g = ch '\x60' || g = ch '\\' || g = ch '$' || (quoted && g = ch '"') then
      return (g :: inside, after)
    else return (ch '\\' :: g :: inside, after)
  | g :: rest =>
    if g = ch '\x60' then some ([], rest)
    else do
      let (inside, after) ← backquoted quoted rest
      return (g :: inside, after)

/-- Whether a backslash in some scope takes away the meaning of a glyph. -/
def isEscapable (scope : Scope) (g : Glyph) : Bool :=
  g = ch '\\' || g = ch '\x60' || g = ch '$' ||
    (g = ch '"' && !(scope.document && !scope.braced)) || (g = ch '\x7d' && scope.braced)

def digitOf : Glyph → Nat
  | .char c => c.toNat - '0'.toNat
  | _ => 0

section

variable (nested : Reading Command)

mutual

/-- The parts of a word in a scope, up to what ends them. `depth` counts the open
parentheses of an expression. -/
def parts (scope : Scope) : (fuel depth : Nat) → Reading (List Part)
  | 0, _ => return []
  | fuel + 1, depth => do
    match ← peek with
    | none =>
      if scope.sum then reject "Missing '))'"
      else if scope.quoted && !scope.document && !scope.braced then
        reject "Unterminated quoted string"
      else if scope.braced then reject "Missing '\x7d'"
      else return []
    | some g =>
      if scope.braced && g = ch '\x7d' then
        skip
        return []
      else if g = ch '"' && scope.quoted && !scope.sum && (scope.braced || !scope.document) then
        skip
        if scope.braced then return push (.text [] true) (← parts scope fuel depth)
        else return []
      else if scope.sum && g = ch ')' && depth = 0 then
        skip
        match ← peek with
        | some (.char ')') =>
          skip
          return []
        | _ => return push (.text [g] true) (← parts scope fuel 0)
      else if !scope.quoted && !scope.braced && endsWord g then return []
      else
        let depth := if !scope.sum then 0
          else if g = ch '(' then depth + 1 else if g = ch ')' then depth - 1 else depth
        let first ← part scope fuel g
        return first.foldr push (← parts scope fuel depth)

def part (scope : Scope) : (fuel : Nat) → Glyph → Reading (List Part)
  | 0, _ => return []
  | fuel + 1, g => do
    skip
    if g = ch '\\' then
      match (← get).rest with
      | [] => return [.text [g] true]
      | next :: _ =>
        skip
        if scope.quoted && !isEscapable scope next then return [.text [g, next] true]
        else return [.text [next] true]
    else if g = ch '\'' && !scope.quoted then
      let inside := (← get).rest.takeWhile (· ≠ ch '\'')
      inside.forM fun _ => skip
      if (← get).rest.isEmpty then reject "Unterminated quoted string"
      skip
      return [.text inside true]
    else if g = ch '"' && !scope.quoted then
      match ← parts .quotes fuel 0 with
      | [.variable [.char '@'] .plain true] => return [.variable [ch '@'] .plain true]
      | inside => return push (.text [] true) inside
    else if g = ch '$' && !scope.literal then dollar scope fuel
    else if g = ch '\x60' && !scope.literal then
      let s ← get
      match backquoted scope.quoted s.rest with
      | none => reject "EOF in backquote substitution"
      | some (inside, after) =>
        set { s with rest := inside ++ [ch '\n', ch ')'], back := none }
        let body ← nested
        set { s with rest := after, line := s.line + inside.count (ch '\n') }
        return [.output body scope.quoted]
    else return [.text [g] scope.quoted]

def dollar (scope : Scope) : (fuel : Nat) → Reading (List Part)
  | 0 => return []
  | fuel + 1 => do
    let plain := [Part.text [ch '$'] scope.quoted]
    match ← peek with
    | none => return plain
    | some (.char '(') =>
      skip
      match ← peek with
      | some (.char '(') =>
        skip
        return [.sum (← parts .expression fuel 0) scope.quoted]
      | _ =>
        let body ← nested
        return [.output body scope.quoted]
    | some (.char '\x7b') =>
      skip
      braces scope fuel
    | some g =>
      if startsName g then
        return [.variable (← takeWhile inName (← left)) .plain scope.quoted]
      else if isSpecial g then
        skip
        return [.variable [g] .plain scope.quoted]
      else return plain

def braces (scope : Scope) : (fuel : Nat) → Reading (List Part)
  | 0 => return []
  | fuel + 1 => do
    let meaningless := do
      let _ ← parts scope.inBraces fuel 0
      return [Part.variable [] .bad scope.quoted]
    let named := fun (modified : Text → Reading (List Part)) => do
      match ← peek with
      | none => meaningless
      | some g =>
        if startsName g then modified (← takeWhile inName (← left))
        else if isDigit g then modified (← takeWhile isDigit (← left))
        else if isSpecial g then
          skip
          modified [g]
        else meaningless
    match ← peek with
    | some (.char '#') =>
      let s ← get
      skip
      let next ← peek
      skip
      let second ← peek
      set s
      let isLength := match next with
        | some g => inName g || (g ≠ ch '\x7d' && second = some (ch '\x7d'))
        | none => false
      if isLength then
        skip
        named fun name => do
          let _ ← parts scope.inBraces fuel 0
          return [.variable name .length scope.quoted]
      else named (modified scope fuel)
    | _ => named (modified scope fuel)

/-- A variable with what is done to its value. -/
def modified (scope : Scope) : (fuel : Nat) → (name : Text) → Reading (List Part)
  | 0, _ => return []
  | fuel + 1, name => do
    let made := fun (modifier : Modifier) => return [Part.variable name modifier scope.quoted]
    let word := parts scope.inBraces fuel 0
    let conditional := fun (emptyCounts : Bool) => do
      match ← peek with
      | some (.char '-') =>
        skip
        made (.orElse emptyCounts (← word))
      | some (.char '=') =>
        skip
        made (.assign emptyCounts (← word))
      | some (.char '+') =>
        skip
        made (.ifSet emptyCounts (← word))
      | some (.char '?') =>
        skip
        made (.orFail emptyCounts (← word))
      | _ =>
        let _ ← word
        made .bad
    let cut := fun (mark : Glyph) (build : Bool → List Part → Modifier) => do
      skip
      let longest := (← peek) = some mark
      if longest then skip
      made (build longest (← parts .pattern fuel 0))
    match ← peek with
    | some (.char '\x7d') =>
      skip
      made .plain
    | some (.char '%') => cut (ch '%') .cutEnd
    | some (.char '#') => cut (ch '#') .cutStart
    | some (.char ':') =>
      skip
      conditional true
    | _ => conditional false

end

def word (scope : Scope) : Reading (List Part) := do parts nested scope (4 * (← left) + 8) 0

def skipBlanks : (fuel : Nat) → Reading Unit
  | 0 => return
  | fuel + 1 => do
    match ← peek with
    | some (.char ' ') | some (.char '\t') =>
      skip
      skipBlanks fuel
    | some (.char '#') =>
      let comment := (← get).rest.takeWhile (· ≠ ch '\n')
      comment.forM fun _ => skip
    | _ => return

def redirection (descriptor : Option Nat) : Reading Lexeme := do
  let mark ← peek
  skip
  let next ← peek
  let taken := fun (standard : Nat) (kind : RedirectKind) => do
    skip
    return Lexeme.redirect (descriptor.getD standard) kind
  match mark, next with
  | some (.char '>'), some (.char '>') => taken 1 .append
  | some (.char '>'), some (.char '|') => taken 1 .clobber
  | some (.char '>'), some (.char '&') => taken 1 .duplicate
  | some (.char '>'), _ => return .redirect (descriptor.getD 1) .output
  | _, some (.char '<') =>
    skip
    let tabs := (← peek) = some (ch '-')
    if tabs then skip
    return .document (descriptor.getD 0) tabs
  | _, some (.char '&') => taken 0 .duplicate
  | _, some (.char '>') => taken 0 .both
  | _, _ => return .redirect (descriptor.getD 0) .input

def startsRedirection (g : Option Glyph) : Bool := g = some (ch '<') || g = some (ch '>')

def lexeme : Reading Lexeme := do
  skipBlanks (← left)
  let doubled := fun (c : Char) (one two : String) => do
    skip
    if (← peek) = some (ch c) then
      skip
      return Lexeme.mark two
    else return Lexeme.mark one
  match ← peek with
  | none => return .finish
  | some (.char '\n') =>
    skip
    return .newline
  | some (.char ';') => doubled ';' ";" ";;"
  | some (.char '&') => doubled '&' "&" "&&"
  | some (.char '|') => doubled '|' "|" "||"
  | some (.char '(') =>
    skip
    return .mark "("
  | some (.char ')') =>
    skip
    return .mark ")"
  | some g =>
    if startsRedirection (some g) then redirection none
    else
      let s ← get
      if isDigit g then
        skip
        if startsRedirection (← peek) then return ← redirection (some (digitOf g))
        set s
      return .word (← word nested .word)

end

def documentLines (tabs : Bool) (ender : Text) : (fuel : Nat) → Text → Text × Nat × Text
  | 0, t => ([], 0, t)
  | _, [] => ([], 0, [])
  | fuel + 1, t =>
    let t := if tabs then t.dropWhile (· = ch '\t') else t
    let line := t.takeWhile (· ≠ ch '\n')
    let after := t.drop (line.length + 1)
    if line = ender then ([], 1, after)
    else if line.length = t.length then (line, 0, [])
    else
      let (more, count, after) := documentLines tabs ender fuel after
      (line ++ ch '\n' :: more, count + 1, after)

/-- The text of a word that ends a document, and whether any of it is quoted. -/
def enderOf (phrase : Phrase) : Text × Bool :=
  phrase.foldl (fun (found : Text × Bool) part => match part with
    | .text t quoted => (found.1 ++ t, found.2 || quoted)
    | _ => found) ([], false)

/-- The document that starts on the next line, as a phrase. Its lines are taken out of the
text. -/
def document (nested : Reading Command) (tabs : Bool) : Reading Phrase := do
  skipBlanks (← left)
  let (ender, quoted) := enderOf (← word nested .ender)
  let s ← get
  let line := s.rest.takeWhile (· ≠ ch '\n')
  let (body, count, after) :=
    documentLines tabs ender (s.rest.length + 1) (s.rest.drop (line.length + 1))
  let phrase ← if quoted then pure [Part.text body true] else do
    set { s with rest := body, back := none, line := s.line + 1 + s.ahead }
    word nested .lines
  set { s with rest := line ++ ch '\n' :: after, ahead := s.ahead + count }
  return phrase

end Reading

end StageParity.Script
