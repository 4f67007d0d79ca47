import StageParity.Text.Glyph

/-!
# Shell scripts

The structure of shell scripts: words with their quotes and expansions, and commands.
-/

namespace StageParity.Script

inductive RedirectKind where
  | input
  | output
  /-- Output even to a file that is protected. -/
  | clobber
  | append
  | both
  /-- The channel of another descriptor. -/
  | duplicate
  /-- Input from the script itself. -/
  | here
deriving DecidableEq

mutual

inductive Part where
  | text (t : Text) (quoted : Bool)
  | variable (name : Text) (modifier : Modifier) (quoted : Bool)
  | output (body : Command) (quoted : Bool)
  | sum (expression : List Part) (quoted : Bool)

/-- What is done to the value of a variable. In some of these an empty value may count as
none. -/
inductive Modifier where
  | plain
  | length
  | orElse (emptyCounts : Bool) (word : List Part)
  | assign (emptyCounts : Bool) (word : List Part)
  | ifSet (emptyCounts : Bool) (word : List Part)
  | orFail (emptyCounts : Bool) (word : List Part)
  | cutEnd (longest : Bool) (pattern : List Part)
  /-- Without the shortest or longest start that fits a pattern. -/
  | cutStart (longest : Bool) (pattern : List Part)
  | bad

inductive Redirect where
  | mk (descriptor : Nat) (kind : RedirectKind) (target : List Part)

inductive Command where
  | nothing
  | simple (line : Nat) (settings : List (Text × List Part)) (words : List (List Part))
    (redirects : List Redirect)
  | sequence (first second : Command)
  | andThen (first second : Command)
  | orElse (first second : Command)
  | negate (body : Command)
  | pipe (first second : Command)
  | background (body : Command)
  | choose (test yes no : Command)
  | loop (stopOnSuccess : Bool) (test body : Command)
  /-- A loop over words, or over the arguments when there are none. -/
  | each (line : Nat) (name : Text) (items : Option (List (List Part))) (body : Command)
  | select (line : Nat) (subject : List Part) (arms : List (List (List Part) × Command))
  | redirected (line : Nat) (body : Command) (redirects : List Redirect)
  | subshell (line : Nat) (body : Command) (redirects : List Redirect)
  | define (line : Nat) (name : Text) (body : Command)

end

instance : Inhabited Command := ⟨.nothing⟩

/-- A word before its expansion. -/
abbrev Phrase := List Part

/-- The text of a phrase that has neither quotes nor expansions. -/
def Phrase.literal? (p : Phrase) : Option Text :=
  match p with
  | [.text t false] => some t
  | _ => none

namespace Redirect

def descriptor : Redirect → Nat
  | .mk n _ _ => n

end Redirect

end StageParity.Script
