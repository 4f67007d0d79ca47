/-!
# Wrapped text

Breaking a text into lines of a width. Lines break at spaces and after hyphens inside
words; a word that is too long for a line is cut.
-/

namespace StageParity.Wrap

def isBlankPiece (piece : List Char) : Bool := piece.all (· = ' ')

/-- Whether a line may break after a hyphen, given the text before it in reverse and the
text after it: two letters stand on either side. -/
def breaksAt (before after : List Char) : Bool :=
  match before, after with
  | a :: b :: _, c :: d :: _ => a.isAlpha && b.isAlpha && c.isAlpha && d.isAlpha
  | _, _ => false

/-- The pieces of a text: runs of spaces, and words without them, cut after hyphens.
`done` is the piece so far in reverse. -/
def piecesFrom (done : List Char) : List Char → List (List Char)
  | [] => if done.isEmpty then [] else [done.reverse]
  | c :: rest =>
    if done.isEmpty then piecesFrom [c] rest
    else if (c = ' ') ≠ (done.head? = some ' ') then done.reverse :: piecesFrom [c] rest
    else if c = '-' ∧ breaksAt done rest then (c :: done).reverse :: piecesFrom [] rest
    else piecesFrom (c :: done) rest

def pieces (t : String) : List (List Char) := piecesFrom [] t.toList

/-- The pieces that fit on a line with some room left, and the others. -/
def fill : (room : Nat) → List (List Char) → List (List Char) × List (List Char)
  | _, [] => ([], [])
  | room, piece :: rest =>
    if piece.length ≤ room then
      let (line, others) := fill (room - piece.length) rest
      (piece :: line, others)
    else ([], piece :: rest)

/-- The line with the start of the next piece if that is too long for any line. -/
def cutLong (width : Nat) (line rest : List (List Char)) : List (List Char) × List (List Char) :=
  match rest with
  | piece :: others =>
    if width < piece.length then
      let room := width - line.flatten.length
      (line ++ [piece.take room], piece.drop room :: others)
    else (line, rest)
  | [] => (line, rest)

def dropLastBlank (line : List (List Char)) : List (List Char) :=
  match line.getLast? with
  | some piece => if isBlankPiece piece then line.dropLast else line
  | none => line

/-- The lines of pieces, at most `steps` of them. A blank piece at the start of a line
that is not the first is left out. -/
def linesFrom (width : Nat) : (steps : Nat) → (first : Bool) → List (List Char) → List (List Char)
  | 0, _, _ => []
  | _, _, [] => []
  | steps + 1, first, piece :: others =>
    let rest := if !first && isBlankPiece piece then others else piece :: others
    let (line, rest) := fill width rest
    let (line, rest) := cutLong width line rest
    let line := dropLastBlank line
    if line.isEmpty then linesFrom width steps first rest
    else line.flatten :: linesFrom width steps false rest

def lines (width : Nat) (t : String) : List String :=
  (linesFrom width (2 * t.length + 2) true (pieces t)).map String.ofList

end StageParity.Wrap
