import StageParity.Text.Utf8
import StageParity.Yaml.Number
import StageParity.Yaml.Scalar

/-!
# Tokens

A text as a list of tokens. Indentation opens and closes blocks, and a scalar turns
out to be a key only when a colon follows it, so a key token may be put before
tokens that were found earlier.
-/

namespace StageParity.Yaml

/-- A tag as written: the handle, if any, and what follows it. -/
structure TagName where
  handle : Option (List Char)
  suffix : Text

/-- The lines that start with a percent sign. -/
inductive Directive where
  | version (major minor : Nat)
  | tag (handle : List Char) (meaning : Text)
  | other

inductive Token where
  | directive (line : Directive)
  | documentStart
  | documentEnd
  | streamEnd
  | blockSequence
  | blockMapping
  | blockEnd
  | flowSequence
  | flowSequenceEnd
  | flowMapping
  | flowMappingEnd
  | entry
  | flowEntry
  | key
  | value
  | alias_ (name : List Char)
  | anchor (name : List Char)
  | tag (name : TagName)
  | scalar (text : Text) (plain : Bool)

/-- The tokens of a text, and the fault that comes after them if there is one. -/
structure TokenStream where
  tokens : List Token
  fault : Option Fault

/-- A token that becomes a key if a colon follows it soon. -/
structure KeyCandidate where
  token : Nat
  /-- Whether the token stands where nothing but a key can. -/
  required : Bool
  index : Nat
  line : Nat
  column : Nat

/-- The state of the reader between two tokens. -/
structure Scanner where
  cursor : Cursor
  /-- How many flow collections are open. -/
  flow : Nat
  tokens : Array Token
  indent : Int
  indents : List Int
  allowKey : Bool
  candidates : List (Nat × KeyCandidate)

namespace Scanner

def start (text : List Char) : Scanner := ⟨Cursor.start text, 0, #[], -1, [], true, []⟩

def inBlock (s : Scanner) : Bool := s.flow == 0

def push (s : Scanner) (token : Token) : Scanner := { s with tokens := s.tokens.push token }

def insertAt (s : Scanner) (place : Nat) (token : Token) : Scanner :=
  { s with tokens := (s.tokens.toList.take place ++ token :: s.tokens.toList.drop place).toArray }

def skip (s : Scanner) (n : Nat) : Scanner := { s with cursor := s.cursor.skip n }

/-- The largest distance in characters between a key and its colon. -/
def maxKeyLength : Nat := 1024

def isStale (s : Scanner) (key : KeyCandidate) : Bool :=
  key.line != s.cursor.line || maxKeyLength < s.cursor.index - key.index

/-- Drop the candidates that can no longer become keys. A required one must not be
among them. -/
def dropStale (s : Scanner) : Except Fault Scanner :=
  if s.candidates.any fun entry => s.isStale entry.2 && entry.2.required then .error .malformed
  else .ok { s with candidates := s.candidates.filter fun entry => !s.isStale entry.2 }

def dropCandidate (s : Scanner) : Except Fault Scanner :=
  match s.candidates.lookup s.flow with
  | none => .ok s
  | some key =>
    if key.required then .error .malformed
    else .ok { s with candidates := s.candidates.filter fun entry => entry.1 != s.flow }

def noteCandidate (s : Scanner) : Except Fault Scanner := do
  if !s.allowKey then return s
  let required := s.inBlock && s.indent == s.cursor.column
  let s ← s.dropCandidate
  let key : KeyCandidate :=
    ⟨s.tokens.size, required, s.cursor.index, s.cursor.line, s.cursor.column⟩
  return { s with candidates := (s.flow, key) :: s.candidates }

/-- Close the blocks that are indented more than a column. -/
def unwind (s : Scanner) (column : Int) : Scanner :=
  if s.inBlock then go s.indents s else s
where
  go : List Int → Scanner → Scanner
    | [], s => s
    | outer :: rest, s =>
      if column < s.indent then go rest { s.push .blockEnd with indent := outer, indents := rest }
      else s

/-- Open a block at a column if it is indented more than the current one. -/
def addIndent (s : Scanner) (column : Nat) : Bool × Scanner :=
  if s.indent < column then
    (true, { s with indents := s.indent :: s.indents, indent := column })
  else (false, s)

def toNextToken : (fuel : Nat) → Scanner → Scanner
  | 0, s => s
  | fuel + 1, s =>
    let c := s.cursor.dropWhile (· == ' ')
    let c := if c.peek == '#' then c.toLineEnd else c
    if Cursor.isBreak c.peek then
      toNextToken fuel
        { s with cursor := c.lineBreak.2, allowKey := s.allowKey || s.inBlock }
    else { s with cursor := c }

def tagHandle (c : Cursor) : Except Fault (List Char × Cursor) :=
  if c.peek != '!' then .error .malformed
  else if c.peekAt 1 == ' ' then .ok (['!'], c.forward)
  else
    let (name, after) := c.forward.span isNameChar
    if after.peek == '!' then .ok ('!' :: name ++ ['!'], after.forward) else .error .malformed

def isTagChar (ch : Char) : Bool :=
  ch.isAlphanum || "-;/?:@&=+$,_.!~*'()[]%".toList.contains ch

def percentBytes : (fuel : Nat) → Cursor → Except Fault (List UInt8 × Cursor)
  | 0, _ => .error .malformed
  | fuel + 1, c =>
    if c.peek != '%' then .ok ([], c)
    else
      let digits := c.forward.ahead 2
      match digits.length, hexNumber? digits with
      | 2, some code => do
        let (more, c) ← percentBytes fuel (c.skip 3)
        return (UInt8.ofNat code :: more, c)
      | _, _ => .error .malformed

def tagBody : (fuel : Nat) → Cursor → Except Fault (Text × Cursor)
  | 0, _ => .error .malformed
  | fuel + 1, c => do
    let (plain, c) := c.span fun ch => isTagChar ch && ch != '%'
    if c.peek != '%' then return (Text.ofChars plain, c)
    let (bytes, c) ← percentBytes (c.rest.length + 1) c
    if !Text.wellFormed bytes then throw .malformed
    let (more, c) ← tagBody fuel c
    return (Text.ofChars plain ++ Text.decode bytes ++ more, c)

/-- The rest of a tag, which must not be empty. -/
def tagSuffix (c : Cursor) : Except Fault (Text × Cursor) :=
  if isTagChar c.peek then tagBody (c.rest.length + 1) c else .error .malformed

/-- Whether another exclamation mark stands in the word after the first one. -/
def hasHandle (c : Cursor) : Bool :=
  (c.forward.rest.takeWhile fun ch => !Cursor.isSpaceOrEnd ch).contains '!'

def tagAt (c : Cursor) : Except Fault (TagName × Cursor) := do
  let next := c.peekAt 1
  let (name, c) ←
    if next == '<' then do
      let (suffix, c) ← tagSuffix (c.skip 2)
      if c.peek != '>' then throw .malformed
      pure ((⟨none, suffix⟩ : TagName), c.forward)
    else if Cursor.isGapOrEnd next then pure ((⟨none, [.char '!']⟩ : TagName), c.forward)
    else do
      let (handle, c) ← if hasHandle c then tagHandle c else pure (['!'], c.forward)
      let (suffix, c) ← tagSuffix c
      pure ((⟨some handle, suffix⟩ : TagName), c)
  if Cursor.isSpaceOrEnd c.peek then return (name, c) else throw .malformed

/-- The name of an anchor or alias. The cursor stands before the mark. -/
def anchorName (c : Cursor) : Except Fault (List Char × Cursor) :=
  let (name, c) := c.forward.span isNameChar
  if name.isEmpty then .error .malformed
  else if Cursor.isGapOrEnd c.peek || "?:,]\x7d%@\x60".toList.contains c.peek then .ok (name, c)
  else .error .malformed

def versionNumber (c : Cursor) : Except Fault (Nat × Cursor) := do
  let (digits, c) := c.span Char.isDigit
  if digits.isEmpty then throw .malformed
  let number ← Number.int 10 (Text.ofChars digits)
  return (number.toNat, c)

def directiveAt (c : Cursor) : Except Fault (Directive × Cursor) := do
  let (name, c) := c.forward.span isNameChar
  if name.isEmpty || !Cursor.isSpaceOrEnd c.peek then throw .malformed
  let (line, c) ←
    if name == "YAML".toList then do
      let (major, c) ← versionNumber (c.dropWhile (· == ' '))
      if c.peek != '.' then throw .malformed
      let (minor, c) ← versionNumber c.forward
      if !Cursor.isSpaceOrEnd c.peek then throw .malformed
      pure (Directive.version major minor, c)
    else if name == "TAG".toList then do
      let (handle, c) ← tagHandle (c.dropWhile (· == ' '))
      if c.peek != ' ' then throw .malformed
      let (meaning, c) ← tagSuffix (c.dropWhile (· == ' '))
      if !Cursor.isSpaceOrEnd c.peek then throw .malformed
      pure (Directive.tag handle meaning, c)
    else pure (Directive.other, c.toLineEnd)
  let c ← c.restOfLine
  return (line, c)

def startsPlain (s : Scanner) : Bool :=
  let ch := s.cursor.peek
  !(Cursor.isGapOrEnd ch || "-?:,[]\x7b\x7d#&*!|>'\"%@\x60".toList.contains ch) ||
    (!Cursor.isGapOrEnd (s.cursor.peekAt 1) &&
      (ch == '-' || (s.inBlock && (ch == '?' || ch == ':'))))

/-- End all blocks and any candidate, before a mark that ends a document. -/
def closeDocument (s : Scanner) : Except Fault Scanner := do
  let s ← (s.unwind (-1)).dropCandidate
  return { s with allowKey := false }

def openFlow (s : Scanner) (token : Token) : Except Fault Scanner := do
  let s ← s.noteCandidate
  return ({ s with flow := s.flow + 1, allowKey := true }.skip 1).push token

/-- Close a flow collection. A closing mark without an opening one ends nothing. -/
def closeFlow (s : Scanner) (token : Token) : Except Fault Scanner := do
  let s ← s.dropCandidate
  if s.flow = 0 then throw .malformed
  return ({ s with flow := s.flow - 1, allowKey := false }.skip 1).push token

/-- Open a block collection at the cursor if its indentation asks for one. -/
def openBlock (s : Scanner) (token : Token) : Except Fault Scanner :=
  if !s.inBlock then .ok s
  else if !s.allowKey then .error .malformed
  else
    let (opened, s) := s.addIndent s.cursor.column
    .ok (if opened then s.push token else s)

def takeEntry (s : Scanner) : Except Fault Scanner := do
  let s ← s.openBlock .blockSequence
  let s ← { s with allowKey := true }.dropCandidate
  return (s.skip 1).push .entry

def takeKey (s : Scanner) : Except Fault Scanner := do
  let s ← s.openBlock .blockMapping
  let s ← { s with allowKey := s.inBlock }.dropCandidate
  return (s.skip 1).push .key

/-- A colon. If there is a candidate it becomes the key. -/
def takeValue (s : Scanner) : Except Fault Scanner := do
  match s.candidates.lookup s.flow with
  | some key =>
    let s := { s with candidates := s.candidates.filter fun entry => entry.1 != s.flow }
    let s := s.insertAt key.token .key
    let s :=
      if s.inBlock then
        let (opened, s) := s.addIndent key.column
        if opened then s.insertAt key.token .blockMapping else s
      else s
    return ({ s with allowKey := false }.skip 1).push .value
  | none =>
    let s ← s.openBlock .blockMapping
    let s ← { s with allowKey := s.inBlock }.dropCandidate
    return (s.skip 1).push .value

/-- A token that may become a key and is read by `read`. -/
def takeNode {α : Type} (s : Scanner) (read : Cursor → Except Fault (α × Cursor))
    (token : α → Token) : Except Fault Scanner := do
  let s ← s.noteCandidate
  let (found, cursor) ← read s.cursor
  return { s with cursor, allowKey := false }.push (token found)

def takeBlock (s : Scanner) (folded : Bool) : Except Fault Scanner := do
  let s ← { s with allowKey := true }.dropCandidate
  let (text, cursor) ← Scalar.block folded s.indent s.cursor
  return { s with cursor }.push (.scalar text false)

/-- A plain scalar. A line break after it allows a key again. -/
def takePlain (s : Scanner) : Except Fault Scanner := do
  let s ← s.noteCandidate
  let (text, cursor, broken) :=
    Scalar.plainFrom (!s.inBlock) (s.indent + 1) (s.cursor.rest.length + 1) [] s.cursor
  return { s with cursor, allowKey := broken }.push (.scalar (Text.ofChars text) true)

def take (s : Scanner) : Except Fault Scanner :=
  let c := s.cursor
  let ch := c.peek
  let spaced := Cursor.isGapOrEnd (c.peekAt 1)
  if ch == '%' && c.column == 0 then do
    let s ← s.closeDocument
    let (line, cursor) ← directiveAt s.cursor
    return { s with cursor }.push (.directive line)
  else if c.column == 0 && c.atDocumentMark then do
    let s ← s.closeDocument
    return (s.skip 3).push (if ch == '-' then .documentStart else .documentEnd)
  else if ch == '[' then s.openFlow .flowSequence
  else if ch == '\x7b' then s.openFlow .flowMapping
  else if ch == ']' then s.closeFlow .flowSequenceEnd
  else if ch == '\x7d' then s.closeFlow .flowMappingEnd
  else if ch == ',' then do
    let s ← { s with allowKey := true }.dropCandidate
    return (s.skip 1).push .flowEntry
  else if ch == '-' && spaced then s.takeEntry
  else if ch == '?' && (!s.inBlock || spaced) then s.takeKey
  else if ch == ':' && (!s.inBlock || spaced) then s.takeValue
  else if ch == '*' then s.takeNode anchorName .alias_
  else if ch == '&' then s.takeNode anchorName .anchor
  else if ch == '!' then s.takeNode tagAt .tag
  else if ch == '|' && s.inBlock then s.takeBlock false
  else if ch == '>' && s.inBlock then s.takeBlock true
  else if ch == '\'' then s.takeNode (Scalar.quoted false) (Token.scalar · false)
  else if ch == '"' then s.takeNode (Scalar.quoted true) (Token.scalar · false)
  else if s.startsPlain then s.takePlain
  else .error .malformed

/-- Pass over what is between tokens and read the next one, which may be the end. -/
def step (s : Scanner) : Except Fault Scanner := do
  let s ← (s.toNextToken (s.cursor.rest.length + 1)).dropStale
  let s := s.unwind s.cursor.column
  if s.cursor.peek == Cursor.finish then
    let s ← s.closeDocument
    return s.push .streamEnd
  else s.take

/-- The tokens that are certain: those before the first one that may still turn out to be
a key. -/
def settled (s : Scanner) : List Token :=
  let open_ := (s.candidates.filter fun entry => !s.isStale entry.2).map fun entry => entry.2.token
  s.tokens.toList.take (open_.foldl min s.tokens.size)

def ended (s : Scanner) : Bool :=
  match s.tokens.back? with
  | some .streamEnd => true
  | _ => false

/-- Read tokens up to the end of the text, or to a fault that comes to light once the
settled tokens before it have been used. -/
def run : (fuel : Nat) → Scanner → TokenStream
  | 0, s => ⟨s.settled, some .malformed⟩
  | fuel + 1, s =>
    match s.step with
    | .error fault => ⟨s.settled, some fault⟩
    | .ok next => if next.ended then ⟨next.tokens.toList, none⟩ else run fuel next

end Scanner

def isReadable (ch : Char) : Bool :=
  let n := ch.toNat
  n == 0x09 || n == 0x0A || n == 0x0D || (0x20 ≤ n && n ≤ 0x7E) || n == 0x85 ||
    (0xA0 ≤ n && n ≤ 0xD7FF) || (0xE000 ≤ n && n ≤ 0xFFFD) || 0x10000 ≤ n

/-- The tokens of a text. A byte order mark at the start is passed over. -/
def tokens (text : List Char) : TokenStream :=
  if !text.all isReadable then ⟨[], some .malformed⟩
  else
    let s := Scanner.start text
    (if s.cursor.peek == '\ufeff' then s.skip 1 else s).run (text.length + 2)

end StageParity.Yaml
