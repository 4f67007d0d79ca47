import StageParity.Script.Regex
import StageParity.Script.Tool.Show

/-!
# Lines that match

The tool that writes the lines of files in which a regular expression is found.
-/

namespace StageParity.Script

namespace Tool

open Step

/-- How lines are searched. -/
structure Matching where
  patterns : List Regex
  anyCase : Bool
  /-- Whether only matches of whole words count. -/
  words : Bool

def fixedText : Text → Regex
  | [] => .empty
  | [g] => Regex.ofGlyph g
  | g :: rest => .sequence (Regex.ofGlyph g) (fixedText rest)

def Matching.first (m : Matching) (line : Text) (place : Nat) : Option Match :=
  let found := m.patterns.filterMap fun r => r.search m.anyCase line place
  found.foldl (fun (best : Option Match) next => match best with
    | none => some next
    | some best =>
      if next.start < best.start || (next.start = best.start && best.finish < next.finish) then some next
      else some best) none

def isWholeWord (whole : Text) (found : Match) : Bool :=
  let before := if found.start = 0 then none else whole[found.start - 1]?
  !Regex.isWordGlyph before && !Regex.isWordGlyph whole[found.finish]?

def Matching.next (m : Matching) (line : Text) : (fuel place : Nat) → Option Match
  | 0, _ => none
  | fuel + 1, place =>
    match m.first line place with
    | none => none
    | some found =>
      if !m.words || isWholeWord line found then some found
      else if line.length ≤ found.start then none
      else
        -- A shorter match at the same place may be a whole word.
        let shorter := (List.range (found.finish - found.start)).reverse.findSome? fun size =>
          let cut := line.take (found.start + size)
          match m.first cut found.start with
          | some other =>
            if other.start = found.start && other.finish = cut.length && isWholeWord line other then some other
            else none
          | none => none
        match shorter with
        | some other => some other
        | none => m.next line fuel (found.start + 1)

def Matching.all (m : Matching) (line : Text) : (fuel place : Nat) → List Match
  | 0, _ => []
  | fuel + 1, place =>
    match m.next line (line.length + 2) place with
    | none => []
    | some found =>
      if found.start = found.finish then
        if line.length ≤ found.start then [] else m.all line fuel (found.start + 1)
      else found :: m.all line fuel found.finish

def filesBelow (disk : Disk) (cwd : Location) : (depth : Nat) → Text → List Text
  | 0, path => [path]
  | depth + 1, path =>
    match Reach.found disk cwd .target path with
    | .ok (place, .directory _) =>
      (Reach.names disk place).flatMap fun name =>
        filesBelow disk cwd depth
          (if path.getLast? = some Path.slash then path ++ name else path ++ Path.slash :: name)
    | _ => [path]

/-- Which lines are written, with those around them: the marks tell matches from context. -/
def withContext (before after : Nat) (hits : List Bool) : List (Option Bool) :=
  let indexed := hits.zipIdx
  let at_ := (indexed.filter Prod.fst).map Prod.snd
  indexed.map fun (hit, i) =>
    if hit then some true
    else if at_.any fun j => (i < j && j ≤ i + before) || (j < i && i ≤ j + after) then some false
    else none

def grep (arguments : List Text) : Step Nat := do
  let spec := OptionSpec.of "EFGPivce:f:hHlLm:noqsrRwxA:B:C:azU"
    [("extended-regexp", 'E'), ("fixed-strings", 'F'), ("basic-regexp", 'G'), ("ignore-case", 'i'),
     ("invert-match", 'v'), ("count", 'c'), ("regexp", 'e'), ("file", 'f'), ("no-filename", 'h'),
     ("with-filename", 'H'), ("files-with-matches", 'l'), ("files-without-match", 'L'),
     ("max-count", 'm'), ("line-number", 'n'), ("only-matching", 'o'), ("quiet", 'q'), ("silent", 'q'),
     ("no-messages", 's'), ("recursive", 'r'), ("word-regexp", 'w'), ("line-regexp", 'x'),
     ("after-context", 'A'), ("before-context", 'B'), ("context", 'C'), ("text", 'a')]
  let colour := fun (t : Text) => (Text.ofString "--color").isPrefixOf t || (Text.ofString "--colour").isPrefixOf t
  withOptions spec 2 (arguments.filter fun t => !colour t) fun given => do
    let lists := given.options.filter fun option => option.1 = 'e' || option.1 = 'f'
    let fromFiles ← (lists.filter fun option => option.1 = 'f').mapM fun option =>
      return (option.2, ← bytesOf option.2)
    let (sources, operands) : List Text × List Text :=
      if lists.isEmpty then (given.operands.take 1, given.operands.drop 1)
      else
        (lists.flatMap fun (letter, value) =>
          if letter = 'e' then [value]
          else
            match fromFiles.lookup value with
            | some (.ok data) => (linesOf data).1.map Text.bytewise
            | _ => [], given.operands)
    match fromFiles.find? fun item => match item.2 with
        | .ok _ => false
        | .error _ => true with
    | some (path, .error errno) =>
      report (shownName path ++ ": " ++ errno.message)
      return 2
    | _ =>
      if lists.isEmpty && sources.isEmpty then
        complain "Usage: grep [OPTION]... PATTERNS [FILE]..."
        pointToHelp
        return 2
      let texts := sources.flatMap fun t => Text.splitOn (.char '\n') t
      let extended := given.last? ['E', 'F', 'G', 'P'] = some 'E' || given.last? ['E', 'F', 'G', 'P'] = some 'P'
      let built := texts.mapM fun t =>
        if given.last? ['E', 'F', 'G', 'P'] = some 'F' then .ok (fixedText t)
        else Regex.ofText extended t
      match built with
      | .error reason =>
        let ends := texts.any fun t => t.getLast? = some (.char '[')
        report (if ends then "Invalid regular expression" else Text.ofString reason)
        return 2
      | .ok patterns =>
        let patterns := if given.has 'x' then
            patterns.map fun r => .sequence (.edge .lineStart) (.sequence r (.edge .lineEnd))
          else patterns
        let m : Matching := ⟨patterns, given.has 'i', given.has 'w'⟩
        let recursive := given.has 'r' || given.has 'R'
        let operands := if operands.isEmpty then [Text.ofString (if recursive then "." else "-")] else operands
        let machine ← get
        let files := if recursive then
            operands.flatMap fun operand => filesBelow machine.disk machine.frame.cwd 64 operand
          else operands
        let files := if recursive && given.operands.length ≤ 1 && lists.isEmpty then
            files.map fun path => if (Text.ofString "./").isPrefixOf path then path.drop 2 else path
          else files
        let named := match given.last? ['h', 'H'] with
          | some 'h' => false
          | some _ => true
          | none => 1 < files.length || (recursive && files ≠ operands)
        let number := fun (letter : Char) => (given.value? letter).bind digits?
        let around := number 'C'
        let before := ((number 'B').orElse fun _ => around).getD 0
        let after := ((number 'A').orElse fun _ => around).getD 0
        let results ← files.mapM fun file => do
          match ← bytesOf file with
          | .error errno =>
            let name := if file = Text.ofString "-" then Text.ofString "(standard input)" else shownName file
            if !given.has 's' then report (name ++ ": " ++ errno.message)
            return none
          | .ok data =>
            let name := if file = Text.ofString "-" then Text.ofString "(standard input)" else file
            let lines := (linesOf data).1.map Text.bytewise
            let hits := lines.map fun line => (m.next line (line.length + 2) 0).isSome != given.has 'v'
            let hits := match number 'm' with
              | some most => (hits.foldl (fun (found : List Bool × Nat) hit =>
                  if hit && found.2 < most then (found.1 ++ [true], found.2 + 1)
                  else (found.1 ++ [false], found.2)) ([], 0)).1
              | none => hits
            let total := hits.count true
            let enough := given.has 'q' || given.has 'l' || given.has 'L' || (number 'm').any (· ≤ total)
            if 0 < total && enough then onFrame fun f => { f with engaged := false }
            if given.has 'q' then return some (decide (0 < total))
            else if given.has 'l' || given.has 'L' then
              if (0 < total) != given.has 'L' then writeLine name
              return some ((0 < total) != given.has 'L')
            else if given.has 'c' then
              writeLine ((if named then name ++ ":" else []) ++ Text.ofNat total)
              return some (decide (0 < total))
            else
              let label := fun (mark : Char) (i : Nat) =>
                (if named then name ++ [.char mark] else []) ++
                  (if given.has 'n' then Text.ofNat (i + 1) ++ [.char mark] else [])
              let shown := withContext before after hits
              let separated := 0 < before || 0 < after
              let _ ← (lines.zip shown).zipIdx.foldlM (fun (last : Option Nat) ((line, mark), i) => do
                match mark with
                | none => return last
                | some hit =>
                  if separated && last.any fun j => j + 1 < i then writeLine "--"
                  if given.has 'o' then
                    if hit && !given.has 'v' then
                      (m.all line (line.length + 2) 0).forM fun found =>
                        writeLine (label ':' i ++ (line.drop found.start).take (found.finish - found.start))
                  else writeLine (label (if hit then ':' else '-') i ++ line)
                  return some i) none
              return some (decide (0 < total))
        let found := results.any fun r => r = some true
        let failed := results.any Option.isNone
        return if found && (given.has 'q' || !failed) then 0 else if failed then 2 else 1

end Tool

end StageParity.Script
