import StageParity.Text.Glyph

/-!
# Patterns of names

The patterns with which scripts choose names and cut values: stars, question marks and
sets of glyphs between brackets. Quoted glyphs stand for themselves.
-/

namespace StageParity.Script

def classOf? (name : String) : Option (Char → Bool) :=
  let isPunct := fun (c : Char) => '!' ≤ c && c ≤ '~' && !c.isAlphanum
  match name with
  | "alpha" => some Char.isAlpha
  | "digit" => some Char.isDigit
  | "alnum" => some Char.isAlphanum
  | "upper" => some Char.isUpper
  | "lower" => some Char.isLower
  | "space" => some fun c => c = ' ' || ('\t' ≤ c && c ≤ '\r')
  | "blank" => some fun c => c = ' ' || c = '\t'
  | "punct" => some isPunct
  | "print" => some fun c => ' ' ≤ c && c ≤ '~'
  | "graph" => some fun c => '!' ≤ c && c ≤ '~'
  | "cntrl" => some fun c => c < ' ' || c = '\x7f'
  | "xdigit" => some fun c => c.isDigit || ('a' ≤ c && c ≤ 'f') || ('A' ≤ c && c ≤ 'F')
  | _ => none

inductive SetItem where
  | range (low high : Glyph)
  | cls (name : String)
deriving DecidableEq

def SetItem.holds (item : SetItem) (g : Glyph) : Bool :=
  match item with
  | .range low high => low.rank ≤ g.rank && g.rank ≤ high.rank
  | .cls name => g.char?.any ((classOf? name).getD fun _ => false)

/-- A set of glyphs: those that some elements hold, or all others. -/
structure GlyphSet where
  negated : Bool
  items : List SetItem
deriving DecidableEq

def GlyphSet.holds (s : GlyphSet) (g : Glyph) : Bool := s.negated != s.items.any (·.holds g)

/-- A glyph of a pattern, and whether it is quoted. -/
abbrev Mark := Glyph × Bool

namespace Pattern

def isBare (c : Char) (m : Mark) : Bool := m.1 = .char c && !m.2

/-- The name of a class at the start of marks, after the opening bracket and colon, and
what follows the class. -/
def className? (marks : List Mark) : Option (String × List Mark) :=
  let letters := marks.takeWhile fun m => m.1.char?.any Char.isAlpha
  match marks.drop letters.length with
  | (.char ':', _) :: (.char ']', _) :: rest =>
    let name := String.ofList (letters.filterMap fun m => m.1.char?)
    if (classOf? name).isSome then some (name, rest) else none
  | _ => none

/-- The elements of a set up to its closing bracket, and what follows; nothing if there is
no such bracket. -/
def setItems : (fuel : Nat) → (first : Bool) → List Mark → Option (List SetItem × List Mark)
  | 0, _, _ => none
  | _, _, [] => none
  | fuel + 1, first, m :: rest =>
    if isBare ']' m && !first then some ([], rest)
    else
      let named := if isBare '[' m && rest.head?.any (isBare ':') then className? (rest.drop 1) else none
      match named with
      | some (name, after) => do
        let (more, after) ← setItems fuel false after
        return (.cls name :: more, after)
      | none =>
        match rest with
        | dash :: high :: after =>
          if isBare '-' dash && !isBare ']' high then do
            let (more, after) ← setItems fuel false after
            return (.range m.1 high.1 :: more, after)
          else do
            let (more, after) ← setItems fuel false rest
            return (.range m.1 m.1 :: more, after)
        | _ => do
          let (more, after) ← setItems fuel false rest
          return (.range m.1 m.1 :: more, after)

/-- The set after an opening bracket, and what follows it. -/
def set? (marks : List Mark) : Option (GlyphSet × List Mark) :=
  let negated := marks.head?.any (isBare '!')
  let inside := if negated then marks.drop 1 else marks
  (setItems (inside.length + 1) true inside).map fun (items, after) => (⟨negated, items⟩, after)

inductive Piece where
  | one (set : GlyphSet)
  | star

def Piece.glyph (g : Glyph) : Piece := .one ⟨false, [.range g g]⟩

def Piece.any : Piece := .one ⟨true, []⟩

/-- Marks in which a bare backslash quotes what follows it. -/
def unescape : List Mark → List Mark
  | (.char '\\', false) :: (g, _) :: rest => (g, true) :: unescape rest
  | m :: rest => m :: unescape rest
  | [] => []

def piecesFrom : (fuel : Nat) → List Mark → List Piece
  | 0, _ => []
  | _, [] => []
  | fuel + 1, m :: rest =>
    if isBare '*' m then .star :: piecesFrom fuel rest
    else if isBare '?' m then .any :: piecesFrom fuel rest
    else
      match if isBare '[' m then set? rest else none with
      | some (set, after) => .one set :: piecesFrom fuel after
      | none => .glyph m.1 :: piecesFrom fuel rest

def pieces (marks : List Mark) : List Piece := piecesFrom (marks.length + 1) (unescape marks)

/-- The positions in a pattern that can be reached without a glyph, as what follows
them. -/
def starts : List Piece → List (List Piece)
  | .star :: rest => (.star :: rest) :: starts rest
  | rest => [rest]

def advance (g : Glyph) (here : List (List Piece)) : List (List Piece) :=
  let next := here.flatMap fun
    | .star :: rest => [.star :: rest]
    | .one set :: rest => if set.holds g then starts rest else []
    | [] => []
  next.foldl (fun found p => if found.any (·.length == p.length) then found else found ++ [p]) []

def fits (pattern : List Piece) (t : Text) : Bool :=
  (t.foldl (fun here g => advance g (here.flatMap fun p => starts p)) [pattern]).flatMap starts
    |>.any (·.isEmpty)

/-- Whether marks hold a glyph that chooses among names. -/
def isPattern (marks : List Mark) : Bool :=
  marks.any fun m => isBare '*' m || isBare '?' m || isBare '[' m

end Pattern

end StageParity.Script
