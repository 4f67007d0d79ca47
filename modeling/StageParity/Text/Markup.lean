import StageParity.Text.Glyph

/-!
# Markup

Styles in a text are given by tags in brackets. Backslashes before a tag keep it from being
one: an odd number of them makes it plain text, and every two of them stand for one.
-/

namespace StageParity

namespace Markup

def backslash : Glyph := .char '\\'

def startsTag (c : Char) : Bool := ('a' ≤ c && c ≤ 'z') || c == '#' || c == '/' || c == '@'

def isInTag (g : Glyph) : Bool := g != .char '[' && g != .char ']'

/-- The tag at the start of a text with its brackets, and what follows it. -/
def tag? : Text → Option (Text × Text)
  | .char '[' :: .char c :: rest =>
    if startsTag c then
      match rest.dropWhile isInTag with
      | .char ']' :: after =>
        some (.char '[' :: .char c :: rest.takeWhile isInTag ++ [.char ']'], after)
      | _ => none
    else none
  | _ => none

/-- The text with its tags kept from being tags. `fuel` bounds the glyphs. -/
def escapeTags : (fuel : Nat) → Text → Text
  | 0, t => t
  | fuel + 1, t =>
    let slashes := t.takeWhile (· == backslash)
    let rest := t.dropWhile (· == backslash)
    match tag? rest with
    | some (tag, after) => slashes ++ slashes ++ [backslash] ++ tag ++ escapeTags fuel after
    | none =>
      match rest with
      | [] => slashes
      | g :: after => slashes ++ [g] ++ escapeTags fuel after

/-- The markup that shows a text. A single backslash at the end is doubled, lest it keep
a tag that follows from being one. -/
def escape (t : Text) : Text :=
  let escaped := escapeTags t.length t
  match escaped.reverse with
  | last :: rest =>
    if last == backslash && rest.head? != some backslash then escaped ++ [backslash] else escaped
  | [] => escaped

/-- A text between tags, where a backslash before a bracket is dropped. -/
def plain : Text → Text
  | .char '\\' :: .char '[' :: rest => .char '[' :: plain rest
  | g :: rest => g :: plain rest
  | [] => []

/-- The text that markup shows, after the text `before`, last glyph first, that no tag
divides from it. -/
def showFrom : (fuel : Nat) → (before : Text) → Text → Text
  | 0, before, t => plain (before.reverse ++ t)
  | fuel + 1, before, t =>
    let slashes := t.takeWhile (· == backslash)
    let rest := t.dropWhile (· == backslash)
    match tag? rest with
    | some (tag, after) =>
      plain before.reverse ++ slashes.take (slashes.length / 2) ++
        (if slashes.length % 2 = 1 then tag else []) ++ showFrom fuel [] after
    | none =>
      match rest with
      | [] => plain (before.reverse ++ slashes)
      | g :: after => showFrom fuel (g :: (slashes ++ before)) after

def shown (markup : Text) : Text := showFrom markup.length [] markup

end Markup

end StageParity
