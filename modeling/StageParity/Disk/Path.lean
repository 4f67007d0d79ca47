import StageParity.Text.Glyph

/-!
# Paths

A path is where it starts and the names that follow. Single dots, repeated slashes
and a slash at the end leave no trace; double dots are names like any other. Two
slashes at the start, no more and no fewer, are kept apart from one.
-/

namespace StageParity

inductive Anchor where
  | relative
  | root
  | doubleRoot
deriving DecidableEq

structure Path where
  anchor : Anchor
  names : List Text
deriving DecidableEq

namespace Path

def slash : Glyph := .char '/'

def up : Text := ".."

def anchorOf (t : Text) : Anchor :=
  match (t.takeWhile (· == slash)).length with
  | 0 => .relative
  | 2 => .doubleRoot
  | _ => .root

def namesOf (t : Text) : List Text :=
  (t.splitOn slash).filter fun name => !name.isEmpty && name ≠ [.char '.']

def here : Text := "."

/-- The names of a path text and, when it ends in a slash or a single dot, a last step that
stays where it is: nothing for the slash, the dot for the dot. -/
def stepsOf (t : Text) : List Text :=
  let parts := (t.splitOn slash).filter fun name => !name.isEmpty
  let last := parts.getLast?
  if namesOf t = [] || last = some up then namesOf t
  else if last = some here then namesOf t ++ [here]
  else if t.getLast? = some slash then namesOf t ++ [[]]
  else namesOf t

def ofText (t : Text) : Path := ⟨anchorOf t, namesOf t⟩

def anchorText : Anchor → Text
  | .relative => []
  | .root => [slash]
  | .doubleRoot => [slash, slash]

/-- The text of a path; a single dot for the empty relative path. -/
def text (p : Path) : Text :=
  if p.anchor = .relative ∧ p.names = [] then "."
  else anchorText p.anchor ++ Text.join [slash] p.names

def isAbsolute (p : Path) : Bool := p.anchor ≠ .relative

/-- The second path as seen from the first one. -/
def join (p q : Path) : Path := if q.isAbsolute then q else ⟨p.anchor, p.names ++ q.names⟩

def child (p : Path) (t : Text) : Path := p.join (ofText t)

/-- The last name of a path; nothing when it has none. -/
def name (p : Path) : Text := p.names.getLast?.getD []

def parent (p : Path) : Path := ⟨p.anchor, p.names.dropLast⟩

/-- The names that remain when each double dot takes away the name before it. `above`
holds the names so far in reverse, and at the root double dots lead nowhere. -/
def flattenFrom (rooted : Bool) (above : List Text) : List Text → List Text
  | [] => above.reverse
  | name :: rest =>
    if name = up then
      match above with
      | [] => flattenFrom rooted (if rooted then [] else [up]) rest
      | last :: before =>
        if last = up then flattenFrom rooted (up :: above) rest
        else flattenFrom rooted before rest
    else flattenFrom rooted (name :: above) rest

/-- The path as seen from a directory, without double dots. -/
def absolute (cwd p : Path) : Path :=
  let q := cwd.join p
  ⟨q.anchor, flattenFrom q.isAbsolute [] q.names⟩

end Path

end StageParity
