import StageParity.Yaml.Cursor

/-!
# Scalars

Plain, quoted and block scalars: from the character that opens one to the text it
stands for. Line breaks inside a scalar are folded by the rules of its style.
-/

namespace StageParity.Yaml

namespace Scalar

/-- The characters that a backslash and one character stand for. -/
def escapes : List (Char × Char) :=
  [('0', '\x00'), ('a', '\x07'), ('b', '\x08'), ('t', '\t'), ('\t', '\t'), ('n', '\n'),
   ('v', '\x0b'), ('f', '\x0c'), ('r', '\r'), ('e', '\x1b'), (' ', ' '), ('"', '"'),
   ('\\', '\\'), ('/', '/'), ('N', '\x85'), ('_', '\xa0'), ('L', '\u2028'), ('P', '\u2029')]

def codeWidth? (ch : Char) : Option Nat :=
  if ch == 'x' then some 2 else if ch == 'u' then some 4 else if ch == 'U' then some 8 else none

def ofCode (code : Nat) : Except Fault Glyph :=
  if 0x7FFFFFFF < code then .error .hugeCode
  else if 0x10FFFF < code then .error (.badValue "chr() arg not in range(0x110000)")
  else .ok (.ofRank code)

/-- The breaks and blanks from a line start inside a quoted scalar on. -/
def quotedBreaks : (fuel : Nat) → Cursor → Except Fault (List Char × Cursor)
  | 0, _ => .error .malformed
  | fuel + 1, c =>
    if c.atDocumentMark then .error .malformed
    else
      let c := c.dropWhile fun ch => ch == ' ' || ch == '\t'
      if Cursor.isBreak c.peek then do
        let (found, c) := c.lineBreak
        let (more, c) ← quotedBreaks fuel c
        return (found ++ more, c)
      else .ok ([], c)

/-- How a line break and the breaks after it count. A single break is a space. -/
def fold (found breaks : List Char) : List Char :=
  if found != ['\n'] then found ++ breaks
  else if breaks.isEmpty then [' ']
  else breaks

def quotedSpaces (c : Cursor) : Except Fault (List Char × Cursor) :=
  let (blanks, c) := c.span fun ch => ch == ' ' || ch == '\t'
  if c.peek == Cursor.finish then .error .malformed
  else if Cursor.isBreak c.peek then do
    let (found, c) := c.lineBreak
    let (breaks, c) ← quotedBreaks (c.rest.length + 1) c
    return (fold found breaks, c)
  else .ok (blanks, c)

/-- The characters that need no thought inside quotes. -/
def isOrdinary (ch : Char) : Bool :=
  !(ch == '\'' || ch == '"' || ch == '\\' || Cursor.isGapOrEnd ch)

/-- What a backslash in double quotes stands for. The cursor stands after it. -/
def escaped (c : Cursor) : Except Fault (Text × Cursor) :=
  let ch := c.peek
  match escapes.lookup ch with
  | some found => .ok ([.char found], c.forward)
  | none =>
    match codeWidth? ch with
    | some width =>
      let c := c.forward
      let digits := c.ahead width
      match hexNumber? digits with
      | some code =>
        if digits.length = width then do
          let glyph ← ofCode code
          return ([glyph], c.skip width)
        else .error .malformed
      | none => .error .malformed
    | none =>
      if Cursor.isBreak ch then do
        let (breaks, c) ← quotedBreaks (c.rest.length + 1) c.lineBreak.2
        return (Text.ofChars breaks, c)
      else .error .malformed

def quotedBody (double : Bool) : (fuel : Nat) → Cursor → Except Fault (Text × Cursor)
  | 0, _ => .error .malformed
  | fuel + 1, c => do
    let (plain, c) := c.span isOrdinary
    let ch := c.peek
    let (piece, c) ←
      if !double && ch == '\'' && c.peekAt 1 == '\'' then pure ([.char '\''], c.skip 2)
      else if (double && ch == '\'') || (!double && (ch == '"' || ch == '\\')) then
        pure ([.char ch], c.forward)
      else if double && ch == '\\' then escaped c.forward
      else if ch == (if double then '"' else '\'') then return (Text.ofChars plain, c)
      else do
        let (spaces, c) ← quotedSpaces c
        pure (Text.ofChars spaces, c)
    let (more, c) ← quotedBody double fuel c
    return (Text.ofChars plain ++ piece ++ more, c)

def quoted (double : Bool) (c : Cursor) : Except Fault (Text × Cursor) := do
  let (body, c) ← quotedBody double (2 * c.rest.length + 2) c.forward
  return (body, c.forward)

/-- How a block scalar treats the line breaks at its end. -/
inductive Chomping where
  | clip
  | strip
  | keep
deriving DecidableEq

def chomping? (ch : Char) : Option Chomping :=
  if ch == '+' then some .keep else if ch == '-' then some .strip else none

def increment? (ch : Char) : Option Nat :=
  if ch.isDigit then some (ch.toNat - '0'.toNat) else none

/-- The indicators of a block scalar, in either order. -/
def blockHeader (c : Cursor) : Except Fault (Chomping × Option Nat × Cursor) := do
  let (chomping, increment, c) :=
    match chomping? c.peek with
    | some chomping =>
      let c := c.forward
      match increment? c.peek with
      | some n => (chomping, some n, c.forward)
      | none => (chomping, none, c)
    | none =>
      match increment? c.peek with
      | some n =>
        let c := c.forward
        match chomping? c.peek with
        | some chomping => (chomping, some n, c.forward)
        | none => (.clip, some n, c)
      | none => (.clip, none, c)
  if increment = some 0 || !Cursor.isSpaceOrEnd c.peek then throw .malformed
  return (chomping, increment, c)

/-- The empty lines before a block scalar whose indentation is not given, the widest
indentation seen, and the cursor after them. -/
def blockIndentation : (fuel : Nat) → (widest : Nat) → Cursor → List Char × Nat × Cursor
  | 0, widest, c => ([], widest, c)
  | fuel + 1, widest, c =>
    if c.peek == ' ' then
      let c := c.forward
      blockIndentation fuel (max widest c.column) c
    else if Cursor.isBreak c.peek then
      let (found, c) := c.lineBreak
      let (more, widest, c) := blockIndentation fuel widest c
      (found ++ more, widest, c)
    else ([], widest, c)

/-- The cursor after spaces, as far as they are indentation. -/
def skipIndent : (fuel : Nat) → (indent : Nat) → Cursor → Cursor
  | 0, _, c => c
  | fuel + 1, indent, c =>
    if c.column < indent && c.peek == ' ' then skipIndent fuel indent c.forward else c

def blockBreaks : (fuel : Nat) → (indent : Nat) → Cursor → List Char × Cursor
  | 0, _, c => ([], c)
  | fuel + 1, indent, c =>
    let c := skipIndent indent indent c
    if Cursor.isBreak c.peek then
      let (found, c) := c.lineBreak
      let (more, c) := blockBreaks fuel indent c
      (found ++ more, c)
    else ([], c)

def atBlockLine (indent : Nat) (c : Cursor) : Bool :=
  c.column == indent && c.peek != Cursor.finish

/-- The lines of a block scalar. The answer is the text without the last line break,
that break, the empty lines after it, and the cursor. -/
def blockLines (folded : Bool) (indent : Nat) :
    (fuel : Nat) → (breaks : List Char) → Cursor → List Char × List Char × List Char × Cursor
  | 0, breaks, c => ([], [], breaks, c)
  | fuel + 1, breaks, c =>
    if !atBlockLine indent c then ([], [], breaks, c)
    else
      let leading := !(c.peek == ' ' || c.peek == '\t')
      let (line, c) := c.span fun ch => !Cursor.isBreakOrEnd ch
      let (found, c) := c.lineBreak
      let (next, c) := blockBreaks (c.rest.length + 1) indent c
      if atBlockLine indent c then
        let joint :=
          if folded && found == ['\n'] && leading && !(c.peek == ' ' || c.peek == '\t') then
            if next.isEmpty then [' '] else []
          else found
        let (more, last, after, c) := blockLines folded indent fuel next c
        (breaks ++ line ++ joint ++ more, last, after, c)
      else (breaks ++ line, found, next, c)

def block (folded : Bool) (outer : Int) (c : Cursor) : Except Fault (Text × Cursor) := do
  let (chomping, increment, c) ← blockHeader c.forward
  let c ← c.restOfLine
  let least := (max (outer + 1) 1).toNat
  let (indent, breaks, c) :=
    match increment with
    | some n =>
      let indent := least + n - 1
      let (breaks, c) := blockBreaks (c.rest.length + 1) indent c
      (indent, breaks, c)
    | none =>
      let (breaks, widest, c) := blockIndentation (c.rest.length + 1) 0 c
      (max least widest, breaks, c)
  let (body, last, after, c) := blockLines folded indent (c.rest.length + 1) breaks c
  let ending :=
    match chomping with
    | .strip => []
    | .clip => last
    | .keep => last ++ after
  return (Text.ofChars (body ++ ending), c)

def plainLength (flow : Bool) : List Char → Nat
  | [] => 0
  | ch :: rest =>
    let next := rest.headD Cursor.finish
    if Cursor.isGapOrEnd ch
        || (ch == ':' && (Cursor.isGapOrEnd next || (flow && ",[]\x7b\x7d".toList.contains next)))
        || (flow && ",?[]\x7b\x7d".toList.contains ch) then 0
    else plainLength flow rest + 1

/-- The line breaks inside a plain scalar, from a line start on. Nothing when a
document mark comes first. -/
def plainBreaks : (fuel : Nat) → Cursor → Option (List Char) × Cursor
  | 0, c => (some [], c)
  | fuel + 1, c =>
    if c.peek == ' ' then plainBreaks fuel c.forward
    else if Cursor.isBreak c.peek then
      let (found, c) := c.lineBreak
      if c.atDocumentMark then (none, c)
      else
        let (more, c) := plainBreaks fuel c
        (more.map (found ++ ·), c)
    else (some [], c)

/-- The spaces and breaks after a piece of a plain scalar: what they count as, the
cursor after them, and whether there was a line break. -/
def plainSpaces (c : Cursor) : List Char × Cursor × Bool :=
  let (blanks, c) := c.span (· == ' ')
  if Cursor.isBreak c.peek then
    let (found, c) := c.lineBreak
    if c.atDocumentMark then ([], c, true)
    else
      match plainBreaks (c.rest.length + 1) c with
      | (some breaks, c) => (fold found breaks, c, true)
      | (none, c) => ([], c, true)
  else (blanks, c, false)

/-- The plain scalar from the cursor on, after `spaces` that join it to an earlier
piece. The answer tells whether the scalar ends after a line break. -/
def plainFrom (flow : Bool) (indent : Int) :
    (fuel : Nat) → (spaces : List Char) → Cursor → List Char × Cursor × Bool
  | 0, _, c => ([], c, false)
  | fuel + 1, spaces, c =>
    let length := if c.peek == '#' then 0 else plainLength flow c.rest
    if length = 0 then ([], c, false)
    else
      let piece := c.ahead length
      let (after, c, broken) := plainSpaces (c.skip length)
      if after.isEmpty || c.peek == '#' || (!flow && c.column < indent) then
        (spaces ++ piece, c, broken)
      else
        let (more, c, broken') := plainFrom flow indent fuel after c
        (spaces ++ piece ++ more, c, if more.isEmpty then broken else broken')

end Scalar

end StageParity.Yaml
