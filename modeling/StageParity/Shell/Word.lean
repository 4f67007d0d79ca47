import StageParity.Text.Glyph

/-!
# Shell words

Writing a list of words as one command text, and cutting a command text into
words. A word of safe characters is written as it is; every other word stands
between single quotes. Cutting reads both kinds of quotes and backslashes.
-/

namespace StageParity

namespace Shell

def isSafe (c : Char) : Bool :=
  c.isAlphanum || "_@%+=:,./-".toList.contains c

/-- The quoted form of a word. A single quote leaves the quotes and stands between
double quotes. -/
def quoteWord (word : Text) : Text :=
  if word.isEmpty then "''"
  else if word.all (fun g => g.char?.any isSafe) then word
  else
    let inner := word.flatMap fun g => if g = .char '\'' then Text.ofString "'\"'\"'" else [g]
    .char '\'' :: inner ++ [.char '\'']

def joinWords (words : List Text) : Text := Text.join " " (words.map quoteWord)

inductive SplitError where
  | unclosedQuote
  | danglingEscape
deriving DecidableEq

def SplitError.message : SplitError → String
  | .unclosedQuote => "No closing quotation"
  | .danglingEscape => "No escaped character"

def separates (g : Glyph) : Bool :=
  g = .char ' ' || g = .char '\t' || g = .char '\r' || g = .char '\n'

/-- Where the reader of a command text stands. `word` is the unfinished word in
reverse. -/
inductive Place where
  | gap
  | bare (word : Text)
  /-- After a backslash outside quotes. -/
  | escaped (word : Text)
  | single (word : Text)
  | double (word : Text)
  /-- After a backslash inside double quotes. -/
  | doubleEscaped (word : Text)

/-- One glyph outside quotes, after the glyphs `word` of an unfinished word. -/
def enter (word : Text) (g : Glyph) : Place :=
  if g = .char '\\' then .escaped word
  else if g = .char '\'' then .single word
  else if g = .char '"' then .double word
  else .bare (g :: word)

def splitFrom : Place → Text → Except SplitError (List Text)
  | .gap, [] => .ok []
  | .bare word, [] => .ok [word.reverse]
  | .escaped _, [] => .error .danglingEscape
  | .single _, [] => .error .unclosedQuote
  | .double _, [] => .error .unclosedQuote
  | .doubleEscaped _, [] => .error .danglingEscape
  | .gap, g :: rest => if separates g then splitFrom .gap rest else splitFrom (enter [] g) rest
  | .bare word, g :: rest =>
    if separates g then do
      let words ← splitFrom .gap rest
      return word.reverse :: words
    else splitFrom (enter word g) rest
  | .escaped word, g :: rest => splitFrom (.bare (g :: word)) rest
  | .single word, g :: rest =>
    if g = .char '\'' then splitFrom (.bare word) rest else splitFrom (.single (g :: word)) rest
  | .double word, g :: rest =>
    if g = .char '"' then splitFrom (.bare word) rest
    else if g = .char '\\' then splitFrom (.doubleEscaped word) rest
    else splitFrom (.double (g :: word)) rest
  | .doubleEscaped word, g :: rest =>
    if g = .char '\\' || g = .char '"' then splitFrom (.double (g :: word)) rest
    else splitFrom (.double (g :: .char '\\' :: word)) rest

def splitWords (command : Text) : Except SplitError (List Text) := splitFrom .gap command

end Shell

end StageParity
