import StageParity.Script.Wrapper

/-!
# Searching for files

The program that finds files by tests on their names and contents, and runs programs on
them.
-/

namespace StageParity.Script

namespace Evaluate

open Step

/-- A test on a file, or something that is done with it. -/
inductive Quest where
  | always (holds : Bool)
  | name (pattern : Text) (anyCase : Bool)
  | path (pattern : Text)
  | kind (letters : List Char)
  | empty
  | size (sign : Ordering) (count unit : Nat)
  | print (ender : UInt8)
  | run (words : List Text)
  /-- Run once, for all files together. -/
  | runAll (words : List Text)
  | delete
  | prune
  | not (body : Quest)
  | both (first second : Quest)
  | either (first second : Quest)

namespace Quest

def acts : Quest → Bool
  | .print _ | .run _ | .runAll _ | .delete => true
  | .not body => body.acts
  | .both a b | .either a b => a.acts || b.acts
  | _ => false

def wordsUpTo (ender : List Text → Bool) : (done : List Text) → List Text → Option (List Text × List Text)
  | _, [] => none
  | done, word :: rest =>
    if ender (word :: done) then some (done.reverse, (word :: rest)) else wordsUpTo ender (word :: done) rest

mutual

def parseEither : (fuel : Nat) → List Text → Except Text (Quest × List Text)
  | 0, words => .ok (.always true, words)
  | fuel + 1, words => do
    let (first, rest) ← parseBoth fuel words
    match rest with
    | word :: more =>
      if word = Text.ofString "-o" || word = Text.ofString "-or" then
        let (second, rest) ← parseEither fuel more
        return (.either first second, rest)
      else return (first, rest)
    | [] => return (first, [])

def parseBoth : (fuel : Nat) → List Text → Except Text (Quest × List Text)
  | 0, words => .ok (.always true, words)
  | fuel + 1, words => do
    let (first, rest) ← parseOne fuel words
    match rest with
    | [] => return (first, [])
    | word :: more =>
      if word = Text.ofString "-o" || word = Text.ofString "-or" || word = Text.ofString ")" then
        return (first, rest)
      else
        let rest := if word = Text.ofString "-a" || word = Text.ofString "-and" then more else rest
        let (second, rest) ← parseBoth fuel rest
        return (.both first second, rest)

def parseOne : (fuel : Nat) → List Text → Except Text (Quest × List Text)
  | 0, words => .ok (.always true, words)
  | _, [] => .ok (.always true, [])
  | fuel + 1, word :: rest =>
    let text := Condition.stringOf word
    let missing := "missing argument to \x60" ++ word ++ "'"
    let withValue := fun (make : Text → Except Text Quest) => match rest with
      | value :: rest => do return (← make value, rest)
      | [] => .error missing
    match text with
    | "!" | "-not" => do
      let (body, rest) ← parseOne fuel rest
      return (.not body, rest)
    | "(" => do
      let (body, rest) ← parseEither fuel rest
      return (body, rest.drop 1)
    | "-true" => .ok (.always true, rest)
    | "-false" => .ok (.always false, rest)
    | "-name" => withValue fun t => .ok (.name t false)
    | "-iname" => withValue fun t => .ok (.name t true)
    | "-path" | "-wholename" => withValue fun t => .ok (.path t)
    | "-type" => withValue fun t =>
      let letters := (t.filter (· ≠ Glyph.char ',')).filterMap Glyph.char?
      match letters.find? fun c => !(['f', 'd', 'l', 'b', 'c', 'p', 's'].contains c) with
      | some c => .error ("Unknown argument to -type: " ++ Text.ofChars [c])
      | none => .ok (.kind letters)
    | "-empty" => .ok (.empty, rest)
    | "-size" => withValue fun t =>
      let (sign, body) : Ordering × Text := match t with
        | .char '+' :: body => (.gt, body)
        | .char '-' :: body => (.lt, body)
        | _ => (.eq, t)
      let digits := body.takeWhile Reading.isDigit
      let unit? : Option Nat := match Condition.stringOf (body.drop digits.length) with
        | "c" => some 1
        | "w" => some 2
        | "k" => some 1024
        | "M" => some 1048576
        | "" | "b" => some 512
        | _ => none
      match digits? digits, unit? with
      | some count, some unit => .ok (.size sign count unit)
      | _, _ => .error ("Invalid argument \x60" ++ t ++ "' to -size")
    | "-print" => .ok (.print 10, rest)
    | "-print0" => .ok (.print 0, rest)
    | "-delete" => .ok (.delete, rest)
    | "-prune" => .ok (.prune, rest)
    | "-exec" =>
      let once := wordsUpTo (fun done => done.head? = some (Text.ofString ";")) [] rest
      let together := wordsUpTo (fun done => done.head? = some (Text.ofString "+") &&
        (done.drop 1).head? = some (Text.ofString "\x7b\x7d")) [] rest
      match together, once with
      | some (words, rest), none => .ok (.runAll words.dropLast, rest.drop 1)
      | some (words, rest), some (words', rest') =>
        if words.length < words'.length then .ok (.runAll words.dropLast, rest.drop 1)
        else .ok (.run words', rest'.drop 1)
      | none, some (words, rest) => if words.isEmpty then .error missing else .ok (.run words, rest.drop 1)
      | none, none => .error missing
    | _ =>
      if word.head? = some (Glyph.char '-') then .error ("unknown predicate \x60" ++ word ++ "'")
      else .error ("paths must precede expression: \x60" ++ word ++ "'")

end

def lowered (t : Text) : Text :=
  t.map fun
    | .char c => .char c.toLower
    | g => g

def piecesOfText (anyCase : Bool) (pattern : Text) : List Pattern.Piece :=
  Pattern.pieces ((if anyCase then lowered pattern else pattern).map (·, false))

end Quest

structure Search where
  /-- The files for commands that run once, each with its words. -/
  gathered : List (List Text × Text)
  failed : Bool

/-- Take a quest to a file, and say whether it holds and whether the search goes below. -/
def takeQuest (i : Inner) (path : Text) (place : Location) (entry : Entry) :
    Quest → StateT Search Step (Bool × Bool)
  | .always holds => return (holds, true)
  | .name pattern anyCase =>
    let name := baseName path
    let name := if anyCase then Quest.lowered name else name
    return (Pattern.fits (Quest.piecesOfText anyCase pattern) name, true)
  | .path pattern => return (Pattern.fits (Quest.piecesOfText false pattern) path, true)
  | .kind letters =>
    let letter := match entry with
      | .file _ _ => 'f'
      | .directory _ => 'd'
      | .link _ => 'l'
    return (letters.contains letter, true)
  | .empty => do
    let names := Reach.names (← (get : Step Machine)).disk place
    let holds := match entry with
      | .file _ data => data.isEmpty
      | .directory _ => names.isEmpty
      | .link _ => false
    return (holds, true)
  | .size sign count unit => return (compare ((Tool.sizeOf entry + unit - 1) / unit) count == sign, true)
  | .print ender => do
    Step.write (path.encode ++ [ender])
    return (true, true)
  | .run words => do
    let filled := words.map fun word => filledIn "\x7b\x7d" path (word.length + 1) word
    match ← runChild i filled with
    | .ok ending => return (ending.status = 0, true)
    | .error errno =>
      Tool.report (alwaysQuoted (filled.headD []) ++ ": " ++ errno.message)
      return (false, true)
  | .runAll words => do
    modify fun s => { s with gathered := s.gathered ++ [(words, path)] }
    return (true, true)
  | .delete => do
    match ← Step.change fun disk cwd => do
        if entry.isDirectory && !(Reach.names disk place).isEmpty then throw .notEmpty
        let _ := cwd
        Reach.removeAt disk place with
    | .ok () => return (true, true)
    | .error errno =>
      Tool.report ("cannot delete " ++ alwaysQuoted path ++ ": " ++ errno.message)
      modify fun s => { s with failed := true }
      return (false, true)
  | .prune => return (true, false)
  | .not body => do
    let (holds, below) ← takeQuest i path place entry body
    return (!holds, below)
  | .both a b => do
    let (holds, below) ← takeQuest i path place entry a
    if !holds then return (false, below)
    let (holds, more) ← takeQuest i path place entry b
    return (holds, below && more)
  | .either a b => do
    let (holds, below) ← takeQuest i path place entry a
    if holds then return (true, below)
    let (holds, more) ← takeQuest i path place entry b
    return (holds, below && more)

/-- Whether a quest removes files, which makes it go to what is below first. -/
def Quest.deletes : Quest → Bool
  | .delete => true
  | .not body => body.deletes
  | .both a b | .either a b => a.deletes || b.deletes
  | _ => false

/-- Take a quest to a file and to all that is below it. -/
def searchFrom (i : Inner) (quest : Quest) (least most : Nat) : (fuel depth : Nat) → Text →
    StateT Search Step Unit
  | 0, _, _ => return
  | fuel + 1, depth, path => do
    match ← Step.ask fun disk cwd => Reach.found disk cwd .entry path with
    | .error errno =>
      Tool.report (alwaysQuoted path ++ ": " ++ errno.message)
      modify fun s => { s with failed := true }
    | .ok (place, entry) =>
      let here := if depth < least then pure (true, true) else takeQuest i path place entry quest
      let goBelow := do
        if entry.isDirectory && depth < most then
          let names := Reach.names (← (get : Step Machine)).disk place
          names.forM fun name => searchFrom i quest least most fuel (depth + 1) (nameIn path name)
      if quest.deletes then
        goBelow
        let _ ← here
      else
        let (_, below) ← here
        if below then goBelow

def find (i : Inner) (arguments : List Text) : Step Unit := do
  let isPath := fun (t : Text) =>
    !(t.head? = some (Glyph.char '-') || t = Text.ofString "!" || t = Text.ofString "(")
  let paths := arguments.takeWhile isPath
  let paths := if paths.isEmpty then [Text.ofString "."] else paths
  let words := arguments.dropWhile isPath
  let (limits, words) := takeLimits (words.length + 1) [] words
  match Quest.parseEither (4 * words.length + 8) words with
  | .error reason =>
    Tool.report reason
    throw (.exit 1)
  | .ok (quest, _) =>
    let quest := if quest.acts then quest else .both quest (.print 10)
    let least := (limits.lookup "-mindepth").getD 0
    let most := (limits.lookup "-maxdepth").getD 1000
    let ((), s) ← StateT.run (paths.forM (searchFrom i quest least most 1000 0)) ⟨[], false⟩
    let commands := (s.gathered.map Prod.fst).eraseDups
    let results ← commands.mapM fun words => do
      let files := (s.gathered.filter fun item => item.1 = words).map Prod.snd
      match ← runChild i (words ++ files) with
      | .ok ending => return decide (ending.status = 0)
      | .error errno =>
        Tool.report (alwaysQuoted (words.headD []) ++ ": " ++ errno.message)
        return false
    throw (.exit (if s.failed || !results.all id then 1 else 0))
where
  takeLimits : (fuel : Nat) → List (String × Nat) → List Text → List (String × Nat) × List Text
    | 0, limits, words => (limits, words)
    | _, limits, [] => (limits, [])
    | fuel + 1, limits, word :: rest =>
      let name := Condition.stringOf word
      match name = "-maxdepth" || name = "-mindepth", rest.head?.bind digits? with
      | true, some n => takeLimits fuel ((name, n) :: limits) (rest.drop 1)
      | _, _ =>
        let (limits, rest) := takeLimits fuel limits rest
        (limits, word :: rest)

end Evaluate

end StageParity.Script
