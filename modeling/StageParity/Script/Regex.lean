import StageParity.Script.Pattern

/-!
# Regular expressions

Regular expressions with groups, in their basic and their extended spelling, and what they
match: of the matches that start first the longest one, and in it the longest parts for the
groups that come first.
-/

namespace StageParity.Script

/-- A place between two glyphs that a regular expression can ask for. -/
inductive Edge where
  | lineStart
  | lineEnd
  | wordStart
  | wordEnd
  | wordSide
  | noWordSide
deriving DecidableEq

inductive Regex where
  | empty
  | one (s : GlyphSet)
  | edge (e : Edge)
  | sequence (first second : Regex)
  | either (first second : Regex)
  /-- Some number of times, at most `most` times if that is given. -/
  | times (body : Regex) (least : Nat) (most : Option Nat)
  | group (index : Nat) (body : Regex)
  /-- The text of a group once more. -/
  | again (index : Nat)

namespace Regex

/-- Where a match stands: the glyph before, the text ahead, the number of glyphs passed,
and where groups start and end. -/
structure Point where
  before : Option Glyph
  ahead : Text
  passed : Nat
  groups : List (Nat × Nat × Nat)

def isWordGlyph (g : Option Glyph) : Bool :=
  match g with
  | some (.char c) => c.isAlphanum || c = '_'
  | _ => false

def Edge.isAt (e : Edge) (p : Point) : Bool :=
  let left := isWordGlyph p.before
  let right := isWordGlyph p.ahead.head?
  match e with
  | .lineStart => p.passed = 0
  | .lineEnd => p.ahead.isEmpty
  | .wordStart => !left && right
  | .wordEnd => left && !right
  | .wordSide => left != right
  | .noWordSide => left == right

def otherCase (g : Glyph) : Glyph :=
  match g with
  | .char c => .char (if c.isUpper then c.toLower else c.toUpper)
  | _ => g

def holds (anyCase : Bool) (s : GlyphSet) (g : Glyph) : Bool :=
  s.holds g || (anyCase && s.holds (otherCase g))

/-- Points without those that are at a place where another one is before them. -/
def distinct (byGroups : Bool) (points : List Point) : List Point :=
  (points.foldl (fun (found : List Point) p =>
    if found.any fun q => q.passed == p.passed && (!byGroups || q.groups == p.groups) then found
    else p :: found) []).reverse

def farthestFirst (points : List Point) : List Point :=
  points.mergeSort fun a b => b.passed ≤ a.passed

/-- The points after each glyph of a set, the farthest first. -/
def spanPoints (test : Glyph → Bool) : (count : Nat) → (least : Nat) → (most : Option Nat) → Point →
    (found : List Point) → Text → List Point
  | count, least, most, p, found, ahead =>
    let found := if least ≤ count then p :: found else found
    match ahead with
    | [] => found
    | g :: rest =>
      if most = some count || !test g then found
      else spanPoints test (count + 1) least most { p with before := some g, ahead := rest, passed := p.passed + 1 }
        found rest

/-- A state of going round: a point and the number of rounds. -/
abbrev Round := Point × Nat

/-- The points that rounds of a step lead to, each place once. -/
def rounds (step : Point → List Point) (byGroups : Bool) (least : Nat) (most : Option Nat) :
    (fuel : Nat) → (waiting : List Round) → (seen : List Round) → (found : List Point) → List Point
  | 0, _, _, found => found
  | _, [], _, found => found
  | fuel + 1, (p, count) :: waiting, seen, found =>
    let cap := most.getD least
    let key := min count cap
    if seen.any fun (q, n) => q.passed == p.passed && n == key && (!byGroups || q.groups == p.groups) then
      rounds step byGroups least most fuel waiting seen found
    else
      let found := if least ≤ count then p :: found else found
      let next := if most = some count then []
        else (step p).filter fun q => count < least || p.passed < q.passed
      rounds step byGroups least most fuel (next.map (fun q => (q, count + 1)) ++ waiting)
        ((p, key) :: seen) found

def Point.pass (p : Point) (count : Nat) : Point :=
  { p with
    before := if count = 0 then p.before else p.ahead[count - 1]?,
    ahead := p.ahead.drop count, passed := p.passed + count }

section

variable (whole : Text) (anyCase byGroups : Bool)

/-- Whether a text starts with another one, perhaps in the other case. -/
def startsWith (part t : Text) : Bool :=
  part.length ≤ t.length &&
    (part.zip t).all fun (a, b) => a == b || (anyCase && otherCase a == b)

/-- The points that a match of a regular expression from a point can lead to, the farthest
first. -/
def points : Regex → Point → List Point
  | .empty, p => [p]
  | .one s, p =>
    match p.ahead with
    | g :: _ => if holds anyCase s g then [p.pass 1] else []
    | [] => []
  | .edge e, p => if Edge.isAt e p then [p] else []
  | .sequence first second, p =>
    farthestFirst (distinct byGroups ((points first p).flatMap (points second)))
  | .either first second, p =>
    farthestFirst (distinct byGroups (points first p ++ points second p))
  | .times (.one s) least most, p => spanPoints (holds anyCase s) 0 least most p [] p.ahead
  | .times body least most, p =>
    let size := p.ahead.length + least + most.getD 0 + 2
    let found := rounds (points body) byGroups least most (size * size * size) [(p, 0)] [] []
    farthestFirst found.reverse
  | .group index body, p =>
    (points body p).map fun q =>
      { q with groups := (index, p.passed, q.passed) :: q.groups.filter fun item => item.1 ≠ index }
  | .again index, p =>
    match p.groups.lookup index with
    | none => []
    | some (start, finish) =>
      let part := (whole.drop start).take (finish - start)
      if startsWith anyCase part p.ahead then [p.pass part.length] else []

end

/-- Whether a regular expression asks for the text of a group once more. -/
def looksBack : Regex → Bool
  | .again _ => true
  | .sequence a b | .either a b => a.looksBack || b.looksBack
  | .times a _ _ | .group _ a => a.looksBack
  | _ => false

def groupCount : Regex → Nat
  | .sequence a b | .either a b => a.groupCount + b.groupCount
  | .times a _ _ => a.groupCount
  | .group _ a => a.groupCount + 1
  | _ => 0

end Regex

/-- A match: where it starts and ends, and where its groups do. -/
structure Match where
  start : Nat
  finish : Nat
  groups : List (Nat × Nat × Nat)

namespace Regex

/-- The first match from a place on in the rest of a text. -/
def searchFrom (r : Regex) (whole : Text) (anyCase : Bool) : (before : Option Glyph) →
    (passed : Nat) → (ahead : Text) → Option Match
  | before, passed, ahead =>
    match (r.points whole anyCase r.looksBack ⟨before, ahead, passed, []⟩).head? with
    | some p => some ⟨passed, p.passed, p.groups⟩
    | none =>
      match ahead with
      | [] => none
      | g :: rest => searchFrom r whole anyCase (some g) (passed + 1) rest

def search (r : Regex) (anyCase : Bool) (t : Text) (place : Nat) : Option Match :=
  let before := if place = 0 then none else t[place - 1]?
  r.searchFrom t anyCase before place (t.drop place)

/-! ## Spelling -/

/-- A step in reading a regular expression: what is left, and the number of groups. -/
abbrev Reader := StateT (Text × Nat) (Except String)

def setItems : (fuel : Nat) → (first : Bool) → Reader (List SetItem)
  | 0, _ => throw "Unmatched [, [^, [:, [., or [="
  | fuel + 1, first => do
    let (t, n) ← get
    let more := fun (item : SetItem) (after : Text) => do
      set (after, n)
      return item :: (← setItems fuel false)
    match t with
    | [] => throw "Unmatched [, [^, [:, [., or [="
    | .char ']' :: rest =>
      if first then more (.range (.char ']') (.char ']')) rest
      else
        set (rest, n)
        return []
    | .char '[' :: .char ':' :: rest =>
      let name := rest.takeWhile fun g => g.char?.any Char.isAlpha
      match rest.drop name.length with
      | .char ':' :: .char ']' :: after =>
        let known := String.ofList (name.filterMap Glyph.char?)
        if (classOf? known).isNone then throw "Invalid character class name"
        more (.cls known) after
      | _ => throw "Unmatched [, [^, [:, [., or [="
    | .char '[' :: .char '.' :: g :: .char '.' :: .char ']' :: after
    | .char '[' :: .char '=' :: g :: .char '=' :: .char ']' :: after => more (.range g g) after
    | low :: .char '-' :: high :: after =>
      if high = .char ']' then more (.range low low) (.char '-' :: high :: after)
      else if high.rank < low.rank then throw "Invalid range end"
      else more (.range low high) after
    | g :: rest => more (.range g g) rest

def bracket : Reader Regex := do
  let (t, n) ← get
  let negated := t.head? = some (.char '^')
  if negated then set (t.drop 1, n)
  return .one ⟨negated, ← setItems (t.length + 1) true⟩

def ofGlyph (g : Glyph) : Regex := .one ⟨false, [.range g g]⟩

def wordSet (negated : Bool) : Regex := .one ⟨negated, [.cls "alnum", .range (.char '_') (.char '_')]⟩

/-- The numbers between braces, and what follows the closing one. -/
def bounds? (extended : Bool) (t : Text) : Option (Nat × Option Nat × Text) :=
  let isDigit := fun (g : Glyph) => g.char?.any Char.isDigit
  let value := fun (ds : Text) => (ds.filterMap Glyph.char?).foldl (fun n c => 10 * n + (c.toNat - 48)) 0
  let least := t.takeWhile isDigit
  let rest := t.drop least.length
  let (most, rest) : Option Nat × Text := match rest with
    | .char ',' :: rest =>
      let digits := rest.takeWhile isDigit
      (if digits.isEmpty then none else some (value digits), rest.drop digits.length)
    | _ => (some (value least), rest)
  if least.isEmpty && t.head? ≠ some (.char ',') then none
  else
    match extended, rest with
    | true, .char '\x7d' :: rest => some (value least, most, rest)
    | false, .char '\\' :: .char '\x7d' :: rest => some (value least, most, rest)
    | _, _ => none

def repeated (extended : Bool) : (fuel : Nat) → Regex → Reader Regex
  | 0, body => return body
  | fuel + 1, body => do
    let (t, n) ← get
    let go := fun (least : Nat) (most : Option Nat) (rest : Text) => do
      set (rest, n)
      repeated extended fuel (.times body least most)
    match extended, t with
    | _, .char '*' :: rest => go 0 none rest
    | true, .char '+' :: rest | false, .char '\\' :: .char '+' :: rest => go 1 none rest
    | true, .char '?' :: rest | false, .char '\\' :: .char '?' :: rest => go 0 (some 1) rest
    | true, .char '\x7b' :: rest =>
      match bounds? true rest with
      | some (least, most, rest) =>
        if most.any (· < least) then throw "Invalid content of \\\x7b\\\x7d" else go least most rest
      | none => return body
    | false, .char '\\' :: .char '\x7b' :: rest =>
      match bounds? false rest with
      | some (least, most, rest) =>
        if most.any (· < least) then throw "Invalid content of \\\x7b\\\x7d" else go least most rest
      | none => throw "Unmatched \\\x7b"
    | _, _ => return body

def endsAlternative (extended : Bool) (t : Text) : Bool :=
  match extended, t with
  | _, [] => true
  | true, .char '|' :: _ | true, .char ')' :: _ => true
  | false, .char '\\' :: .char '|' :: _ | false, .char '\\' :: .char ')' :: _ => true
  | _, _ => false

mutual

def alternatives (extended : Bool) : (fuel depth : Nat) → Reader Regex
  | 0, _ => throw "Regular expression too big"
  | fuel + 1, depth => do
    let first ← branch extended fuel depth true
    let (t, n) ← get
    match extended, t with
    | true, .char '|' :: rest | false, .char '\\' :: .char '|' :: rest =>
      set (rest, n)
      return .either first (← alternatives extended fuel depth)
    | _, _ => return first

def branch (extended : Bool) : (fuel depth : Nat) → (first : Bool) → Reader Regex
  | 0, _, _ => throw "Regular expression too big"
  | fuel + 1, depth, first => do
    let (t, _) ← get
    if endsAlternative extended t && !(extended && depth = 0 && t.head? = some (.char ')')) then
      return .empty
    else
      let (part, anchors) ← atom extended fuel depth first
      let part ← if anchors then pure part else repeated extended (t.length + 1) part
      let rest ← branch extended fuel depth (anchors && first)
      return match rest with
        | .empty => part
        | _ => .sequence part rest

/-- A part without its repetitions, and whether it is the start of a line. -/
def atom (extended : Bool) : (fuel depth : Nat) → (first : Bool) → Reader (Regex × Bool)
  | 0, _, _ => throw "Regular expression too big"
  | fuel + 1, depth, first => do
    let (t, n) ← get
    let grouped := fun (rest : Text) => do
      set (rest, n + 1)
      let body ← alternatives extended fuel (depth + 1)
      let (t, m) ← get
      match extended, t with
      | true, .char ')' :: rest | false, .char '\\' :: .char ')' :: rest =>
        set (rest, m)
        return (Regex.group (n + 1) body, false)
      | _, _ => throw "Unmatched ( or \\("
    let plain := fun (r : Regex) (rest : Text) => do
      set (rest, n)
      return (r, false)
    match t with
    | [] => return (.empty, false)
    | .char '[' :: rest =>
      set (rest, n)
      return (← bracket, false)
    | .char '.' :: rest => plain (.one ⟨true, []⟩) rest
    | .char '^' :: rest =>
      if extended || first then
        set (rest, n)
        return (.edge .lineStart, true)
      else plain (ofGlyph (.char '^')) rest
    | .char '$' :: rest =>
      if extended || endsAlternative false rest then plain (.edge .lineEnd) rest
      else plain (ofGlyph (.char '$')) rest
    | .char '\\' :: [] => throw "Trailing backslash"
    | .char '\\' :: g :: rest =>
      match g with
      | .char '(' => if extended then plain (ofGlyph g) rest else grouped rest
      | .char ')' => if extended then plain (ofGlyph g) rest else throw "Unmatched ) or \\)"
      | .char 'w' => plain (wordSet false) rest
      | .char 'W' => plain (wordSet true) rest
      | .char 's' => plain (.one ⟨false, [.cls "space"]⟩) rest
      | .char 'S' => plain (.one ⟨true, [.cls "space"]⟩) rest
      | .char 'b' => plain (.edge .wordSide) rest
      | .char 'B' => plain (.edge .noWordSide) rest
      | .char '<' => plain (.edge .wordStart) rest
      | .char '>' => plain (.edge .wordEnd) rest
      | .char '\x60' => plain (.edge .lineStart) rest
      | .char '\'' => plain (.edge .lineEnd) rest
      | .char '\x7b' =>
        if !extended && first then throw "Invalid preceding regular expression"
        else plain (ofGlyph g) rest
      | .char c =>
        if '1' ≤ c && c ≤ '9' then
          if n < c.toNat - 48 then throw "Invalid back reference"
          else plain (.again (c.toNat - 48)) rest
        else plain (ofGlyph g) rest
      | _ => plain (ofGlyph g) rest
    | .char '(' :: rest => if extended then grouped rest else plain (ofGlyph (.char '(')) rest
    | .char ')' :: rest =>
      if extended && depth = 0 then throw "Unmatched ) or \\)" else plain (ofGlyph (.char ')')) rest
    | g :: rest => plain (ofGlyph g) rest

end

def ofText (extended : Bool) (t : Text) : Except String Regex := do
  let (r, rest, _) ← (alternatives extended (4 * t.length + 16) 0).run (t, 0)
  if rest.isEmpty then return r else throw "Unmatched ) or \\)"

end Regex

end StageParity.Script
