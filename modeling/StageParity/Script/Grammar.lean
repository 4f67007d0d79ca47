import StageParity.Script.Lexeme

/-!
# Grammar of scripts

From the words and operators of a script to its commands. A script is read up to the end
of a line at a time, so the commands before a flaw can run.
-/

namespace StageParity.Script

namespace Reading

/-- The name that a word gives to a variable, with the phrase of its value. -/
def setting? (phrase : Phrase) : Option (Text × Phrase) :=
  match phrase with
  | .text t false :: rest =>
    match t.splitFirst (ch '=') with
    | (name, some value) =>
      if isName name then some (name, if value.isEmpty then rest else .text value false :: rest)
      else none
    | (_, none) => none
  | _ => none

def keyword? (phrase : Phrase) : Option String :=
  match phrase.literal? with
  | some t => keywords.find? fun name => Text.ofString name == t
  | none => none

/-- The text that a word stands for at a place, where `here` glyphs are left. A word does
not stand for anything inside its own text. -/
def alias? (s : Source) (here : Nat) (word : Text) : Option Text :=
  if s.expanding.any fun item => item.1 = word && item.2 < here then none else s.aliases.lookup word

/-- Whether a place follows the text of a word that ends in a blank. -/
def afterBlank (s : Source) (here : Nat) : Bool :=
  s.expanding.head?.any fun item =>
    here ≤ item.2 && ((s.aliases.lookup item.1).bind List.getLast?).any fun g => g = ch ' ' || g = ch '\t'

/-- The next token. Line ends are passed over, and keywords told from words, if that is
asked for; `findsAliases` tells whether words may stand for other text. -/
def aliasedToken (nested : Reading Command) (findsKeywords findsAliases skipsLines : Bool) : Reading Lexeme := do
  let rec next : (fuel : Nat) → Reading Lexeme
    | 0 => return .finish
    | fuel + 1 => do
      let back := (← get).back
      if back.isNone then skipBlanks ((← left) + 1)
      let s ← get
      let here := s.rest.length
      let found ← match back with
        | some found => do
          set { s with back := none }
          pure found
        | none => lexeme nested
      match found with
      | .newline => if skipsLines then next fuel else return found
      | .word phrase =>
        match if findsKeywords then keyword? phrase else none with
        | some name => return .keyword name
        | none =>
          let wanted := back.isNone && (findsAliases || afterBlank s here)
          match if wanted then phrase.literal? else none with
          | none => return found
          | some word =>
            match alias? s here word with
            | none => return found
            | some text => do
              modify fun after => { after with
                rest := text ++ after.rest, expanding := (word, after.rest.length) :: after.expanding }
              next fuel
      | _ => return found
  let s ← get
  next (s.rest.length + (s.aliases.flatMap Prod.snd).length + s.aliases.length + 2)

/-- The next token. Where keywords are told from words, words may also stand for other
text. -/
def token (nested : Reading Command) (findsKeywords skipsLines : Bool) : Reading Lexeme :=
  aliasedToken nested findsKeywords findsKeywords skipsLines

def putBack (found : Lexeme) : Reading Unit := modify fun s => { s with back := some found }

def expect (nested : Reading Command) (findsKeywords skipsLines : Bool) (wanted : Lexeme) :
    Reading Unit := do
  let found ← token nested findsKeywords skipsLines
  if found.name ≠ wanted.name then unexpected found (some wanted)

def endsList : Lexeme → Bool
  | .finish => true
  | .mark symbol => symbol == ")" || symbol == ";;"
  | .keyword name =>
    ["do", "done", "elif", "else", "esac", "fi", "then", "\x7d"].contains name
  | _ => false

/-- The names of the commands that no function may have. -/
def specialNames : List String :=
  [".", ":", "break", "continue", "eval", "exec", "exit", "export", "readonly", "return", "set",
   "shift", "times", "trap", "unset"]

def target (nested : Reading Command) : Reading Phrase := do
  match ← token nested false false with
  | .word phrase => return phrase
  | found => unexpected found none

/-- The redirection that a token starts, if it starts one. -/
def redirect? (nested : Reading Command) : Lexeme → Reading (Option Redirect)
  | .redirect descriptor kind => return some (.mk descriptor kind (← target nested))
  | .document descriptor tabs => do
    match (← get).rest.dropWhile fun g => g = ch ' ' || g = ch '\t' with
    | [] => unexpected .finish none
    | g :: _ =>
      if g = ch '\n' then unexpected .newline none
      else if endsWord g then unexpected (← token nested false false) none
      else return some (.mk descriptor .here (← document nested tabs))
  | _ => return none

def redirects (nested : Reading Command) : (fuel : Nat) → Reading (List Redirect)
  | 0 => return []
  | fuel + 1 => do
    let found ← token nested true false
    match ← redirect? nested found with
    | some r => return r :: (← redirects nested fuel)
    | none =>
      putBack found
      return []

structure Simple where
  settings : List (Text × Phrase)
  words : List Phrase
  redirects : List Redirect

/-- The parts of a simple command, and the token after them. -/
def simpleParts (nested : Reading Command) : (fuel : Nat) → Simple → Reading (Simple × Lexeme)
  | 0, s => return (s, .finish)
  | fuel + 1, s => do
    let found ← aliasedToken nested false s.words.isEmpty false
    match found with
    | .word phrase =>
      match s.words, setting? phrase with
      | [], some setting =>
        simpleParts nested fuel { s with settings := s.settings ++ [setting] }
      | _, _ => simpleParts nested fuel { s with words := s.words ++ [phrase] }
    | _ =>
      match ← redirect? nested found with
      | some r => simpleParts nested fuel { s with redirects := s.redirects ++ [r] }
      | none => return (s, found)

def items (nested : Reading Command) : (fuel : Nat) → Reading (List Phrase × Lexeme)
  | 0 => return ([], .finish)
  | fuel + 1 => do
    match ← token nested false false with
    | .word phrase => do
      let (more, after) ← items nested fuel
      return (phrase :: more, after)
    | found => return ([], found)

def patternOf : Lexeme → Option Phrase
  | .word phrase => some phrase
  | .keyword name => some [.text name false]
  | _ => none

/-- The patterns of an arm, up to its parenthesis, from a token on. -/
def patterns (nested : Reading Command) : (fuel : Nat) → Lexeme → Reading (List Phrase)
  | 0, _ => return []
  | fuel + 1, first => do
    match patternOf first with
    | none => unexpected first (some (.word []))
    | some phrase =>
      match ← token nested false false with
      | .mark "|" => return phrase :: (← patterns nested fuel (← token nested false false))
      | .mark ")" => return [phrase]
      | found => unexpected found (some (.mark ")"))

inductive Mode where
  | line
  | body
  /-- As many commands as there are, up to what ends a list. -/
  | open_
deriving DecidableEq

mutual

/-- A list of commands, after those in `before`. -/
def list : (fuel : Nat) → Mode → (before : Option Command) → Reading (Option Command)
  | 0, _, before => return before
  | fuel + 1, mode, before => do
    let nested := substitution fuel
    let found ← token nested true (mode ≠ .line)
    match found with
    | .newline => return some (before.getD .nothing)
    | .finish =>
      putBack .finish
      return if mode = .line then before else some (before.getD .nothing)
    | _ =>
      putBack found
      if mode = .open_ && endsList found then return some (before.getD .nothing)
      let next ← chain fuel
      let after ← token nested false false
      let next := match after with
        | .mark "&" => Command.background next
        | _ => next
      let joined := match before with
        | some first => Command.sequence first next
        | none => next
      let rest := if mode = .body then Mode.open_ else mode
      match after with
      | .finish =>
        putBack .finish
        return some joined
      | .newline =>
        putBack .newline
        list fuel rest (some joined)
      | .mark "&" | .mark ";" => list fuel rest (some joined)
      | _ =>
        if mode = .line then unexpected after none
        putBack after
        return some joined

/-- The commands between parentheses after a dollar sign, or of a text between backquotes. -/
def substitution : (fuel : Nat) → Reading Command
  | 0 => return .nothing
  | fuel + 1 => do
    let body ← list fuel .open_ none
    let found ← token (substitution fuel) false false
    match found with
    | .mark ")" => return body.getD .nothing
    | _ => unexpected found (some (.mark ")"))

def chain : (fuel : Nat) → Reading Command
  | 0 => return .nothing
  | fuel + 1 => do chainFrom fuel (← pipeline fuel false)

def chainFrom : (fuel : Nat) → Command → Reading Command
  | 0, first => return first
  | fuel + 1, first => do
    match ← token (substitution fuel) false false with
    | .mark "&&" => chainFrom fuel (.andThen first (← pipeline fuel true))
    | .mark "||" => chainFrom fuel (.orElse first (← pipeline fuel true))
    | found =>
      putBack found
      return first

def pipeline : (fuel : Nat) → (skipsLines : Bool) → Reading Command
  | 0, _ => return .nothing
  | fuel + 1, skipsLines => do
    let found ← token (substitution fuel) true skipsLines
    match found with
    | .keyword "!" => return .negate (← pipesFrom fuel (← command fuel (← token (substitution fuel) true false)))
    | _ => pipesFrom fuel (← command fuel found)

def pipesFrom : (fuel : Nat) → Command → Reading Command
  | 0, first => return first
  | fuel + 1, first => do
    match ← token (substitution fuel) false false with
    | .mark "|" =>
      let second ← command fuel (← token (substitution fuel) true true)
      return .pipe first (← pipesFrom fuel second)
    | found =>
      putBack found
      return first

def command : (fuel : Nat) → Lexeme → Reading Command
  | 0, _ => return .nothing
  | fuel + 1, found => do
    let nested := substitution fuel
    let line := (← get).line
    let required := fun (wanted : Lexeme) => expect nested true false wanted
    let withRedirects := fun (body : Command) => do
      match ← redirects nested (← left) with
      | [] => return body
      | found => return Command.redirected line body found
    match found with
    | .keyword "if" =>
      let body ← condition fuel
      required (.keyword "fi")
      withRedirects body
    | .keyword "while" | .keyword "until" =>
      let test ← list fuel .body none
      required (.keyword "do")
      let body ← list fuel .body none
      required (.keyword "done")
      withRedirects (.loop (found.name = Lexeme.name (.keyword "until")) (test.getD .nothing)
        (body.getD .nothing))
    | .keyword "for" =>
      match ← token nested false false with
      | .word [.text name false] =>
        if !isName name then reject "Bad for loop variable"
        let next ← token nested true true
        let found ← match next with
          | .keyword "in" => do
            let (found, after) ← items nested (← left)
            match after with
            | .newline | .mark ";" => pure (some found)
            | _ => unexpected after none
          | .mark ";" => pure none
          | _ => do
            putBack next
            pure none
        expect nested true true (.keyword "do")
        let body ← list fuel .body none
        required (.keyword "done")
        withRedirects (.each line name found (body.getD .nothing))
      | _ => reject "Bad for loop variable"
    | .keyword "case" =>
      match ← token nested false false with
      | .word subject =>
        expect nested true true (.keyword "in")
        let found ← arms fuel
        withRedirects (.select line subject found)
      | other => unexpected other (some (.word []))
    | .mark "(" =>
      let body ← list fuel .body none
      required (.mark ")")
      return .subshell line (body.getD .nothing) (← redirects nested (← left))
    | .keyword "\x7b" =>
      let body ← list fuel .body none
      required (.keyword "\x7d")
      withRedirects (body.getD .nothing)
    | .word _ | .redirect _ _ | .document _ _ =>
      putBack found
      let (s, after) ← simpleParts nested ((← left) + 2) ⟨[], [], []⟩
      match s, after with
      | ⟨[], [phrase], []⟩, .mark "(" =>
        expect nested false false (.mark ")")
        match phrase.literal? with
        | some name =>
          if !isName name || specialNames.any fun known => Text.ofString known == name then
            reject "Bad function name"
          let line := (← get).line
          let body ← command fuel (← token nested true true)
          return .define line name body
        | none => reject "Bad function name"
      | _, _ =>
        putBack after
        return .simple line s.settings s.words s.redirects
    | _ => unexpected found none

def condition : (fuel : Nat) → Reading Command
  | 0 => return .nothing
  | fuel + 1 => do
    let nested := substitution fuel
    let test ← list fuel .body none
    expect nested true false (.keyword "then")
    let yes ← list fuel .body none
    let made := fun (no : Command) => Command.choose (test.getD .nothing) (yes.getD .nothing) no
    match ← token nested true false with
    | .keyword "elif" => return made (← condition fuel)
    | .keyword "else" => return made ((← list fuel .body none).getD .nothing)
    | found =>
      putBack found
      return made .nothing

def arms : (fuel : Nat) → Reading (List (List Phrase × Command))
  | 0 => return []
  | fuel + 1 => do
    let nested := substitution fuel
    match ← token nested true true with
    | .keyword "esac" => return []
    | found =>
      let first ← match found with
        | .mark "(" => token nested false false
        | _ => pure found
      let fitting ← patterns nested (← left) first
      let body ← list fuel .open_ none
      match ← token nested true true with
      | .keyword "esac" => return [(fitting, body.getD .nothing)]
      | .mark ";;" => return (fitting, body.getD .nothing) :: (← arms fuel)
      | other => unexpected other (some (.mark ";;"))

end

def fuelFor (s : Source) : Nat :=
  16 * (s.rest.length + (s.aliases.flatMap Prod.snd).length) + 64

end Reading

/-- The phrase of a text in which only expansions have a meaning. -/
def phraseOf (t : Text) : Except Flaw Phrase :=
  let source := Source.start t
  ((Reading.word (Reading.substitution (Reading.fuelFor source)) .lines).run source).map Prod.fst

/-- The commands up to the end of a line of a script, and what is left of it; nothing at
its end. -/
def nextLine? (s : Source) : Except Flaw (Option (Command × Source)) :=
  match (Reading.list (Reading.fuelFor s) .line none).run { s with back := none } with
  | .ok (some command, rest) => .ok (some (command, rest))
  | .ok (none, _) => .ok none
  | .error flaw => .error flaw

end StageParity.Script
