import StageParity.Script.Tool.Show

/-!
# Sorting lines

Lines in the order of keys. A key is a part of a line, compared byte by byte, as a number, or
in some other way; lines with equal keys are compared as a whole.
-/

namespace StageParity.Script

namespace Tool

open Step

/-- A key: where it starts and ends, and how it is compared. -/
structure SortKey where
  startField : Nat
  startChar : Nat
  /-- The field in which it ends, and the last byte of that field, or 0 for all of it. -/
  finish : Option (Nat × Nat)
  skipsStart : Bool
  skipsEnd : Bool
  /-- The letters that say how it is compared. -/
  letters : List Char

def isBlankByte (b : UInt8) : Bool := b = 32 || b = 9 || b = 10

def afterFields (mark : Option UInt8) : (count : Nat) → List UInt8 → List UInt8
  | 0, line => line
  | count + 1, line =>
    match mark with
    | some mark => afterFields (some mark) count ((line.dropWhile (· ≠ mark)).drop 1)
    | none =>
      afterFields none count ((line.dropWhile isBlankByte).dropWhile fun b => !isBlankByte b)

def afterKey (mark : Option UInt8) (key : SortKey) (line : List UInt8) : List UInt8 :=
  match key.finish with
  | none => []
  | some (field, 0) =>
    match mark with
    | some mark =>
      let rest := afterFields (some mark) (field - 1) line
      rest.dropWhile (· ≠ mark)
    | none => afterFields none field line
  | some (field, char) =>
    let rest := afterFields mark (field - 1) line
    let rest := if key.skipsEnd then rest.dropWhile isBlankByte else rest
    rest.drop char

def keyPart (mark : Option UInt8) (key : SortKey) (line : List UInt8) : List UInt8 :=
  let start := afterFields mark (key.startField - 1) line
  let start := if key.skipsStart then start.dropWhile isBlankByte else start
  let start := start.drop (key.startChar - 1)
  start.take (start.length - (afterKey mark key line).length)

def compareBytes : List UInt8 → List UInt8 → Ordering
  | [], [] => .eq
  | [], _ => .lt
  | _, [] => .gt
  | a :: as, b :: bs => if a < b then .lt else if b < a then .gt else compareBytes as bs

/-- The number at the start of bytes, as an integer and a number of places. -/
def plainNumber (data : List UInt8) : Int × Nat :=
  let data := data.dropWhile isBlankByte
  let isDigit := fun (b : UInt8) => 48 ≤ b && b ≤ 57
  let (negative, data) := match data with
    | 45 :: rest => (true, rest)
    | _ => (false, data)
  let whole := data.takeWhile isDigit
  let places := match data.drop whole.length with
    | 46 :: rest => rest.takeWhile isDigit
    | _ => []
  let size := (whole ++ places).foldl (fun n (b : UInt8) => 10 * n + (b.toNat - 48)) 0
  (if negative then -(size : Int) else size, places.length)

def compareNumbers (a b : Int × Nat) : Ordering :=
  compare (a.1 * (Nat.pow 10 b.2 : Nat)) (b.1 * (Nat.pow 10 a.2 : Nat))

/-- The number at the start of bytes with the unit after it. -/
def scaledNumber (data : List UInt8) : Nat × (Int × Nat) :=
  let n := plainNumber data
  let rest := (data.dropWhile isBlankByte).dropWhile fun b => b = 45 || b = 46 || (48 ≤ b && b ≤ 57)
  let unit := match rest with
    | b :: _ => ("KMGTPEZY".toList.zipIdx.lookup (Char.ofNat b.toNat)).map (· + 1)
    | [] => none
  let unit := match rest with
    | 107 :: _ => some 1
    | _ => unit
  (unit.getD 0, n)

def monthOf (data : List UInt8) : Nat :=
  let name := ((data.dropWhile isBlankByte).take 3).map fun b => (Char.ofNat b.toNat).toUpper
  let known := ["JAN", "FEB", "MAR", "APR", "MAY", "JUN", "JUL", "AUG", "SEP", "OCT", "NOV", "DEC"]
  match known.zipIdx.lookup (String.ofList name) with
  | some i => i + 1
  | none => 0

/-- The order of a version's byte before a digit: the end first, then letters, then the
rest. -/
def versionRank (b : UInt8) : Nat :=
  if b = 126 then 0
  else if (65 ≤ b && b ≤ 90) || (97 ≤ b && b ≤ 122) then b.toNat + 2 else b.toNat + 1000

/-- The order of versions, in which runs of digits are numbers. -/
def compareVersions : (fuel : Nat) → List UInt8 → List UInt8 → Ordering
  | 0, _, _ => .eq
  | fuel + 1, a, b =>
    let isDigit := fun (b : UInt8) => 48 ≤ b && b ≤ 57
    match a, b with
    | [], [] => .eq
    | _, _ =>
      let rank := fun (x : List UInt8) => match x with
        | [] => 1
        | h :: _ => if isDigit h then 1 else versionRank h
      if a.head?.any isDigit && b.head?.any isDigit then
        let m := a.takeWhile isDigit
        let n := b.takeWhile isDigit
        match compareNumbers (plainNumber m) (plainNumber n) with
        | .eq => compareVersions fuel (a.drop m.length) (b.drop n.length)
        | other => other
      else
        match compare (rank a) (rank b) with
        | .eq => compareVersions fuel (if a.head?.any isDigit then a else a.drop 1)
            (if b.head?.any isDigit then b else b.drop 1)
        | other => other

/-- Bytes as a key without a special order sees them. -/
def foldedKey (letters : List Char) (data : List UInt8) : List UInt8 :=
  let isAlnum := fun (b : UInt8) => (Char.ofNat b.toNat).isAlphanum
  let data := if letters.contains 'd' then data.filter fun b => isBlankByte b || isAlnum b
    else if letters.contains 'i' then data.filter fun b => 32 ≤ b && b < 127 else data
  if letters.contains 'f' then data.map fun b => if 97 ≤ b && b ≤ 122 then b - 32 else b else data

/-- The floating-point number of a key; what is none comes first. -/
def floatKey (data : List UInt8) : Nat × Float :=
  match floatPart? (Text.bytewise data) with
  | some (x, _) => if x.isNaN then (1, 0) else (2, x)
  | none => (0, 0)

def compareKeys (letters : List Char) (a b : List UInt8) : Ordering :=
  if letters.contains 'n' then compareNumbers (plainNumber a) (plainNumber b)
  else if letters.contains 'g' then
    let (i, x) := floatKey a
    let (j, y) := floatKey b
    match compare i j with
    | .eq => if x < y then .lt else if y < x then .gt else .eq
    | other => other
  else if letters.contains 'h' then
    let (i, x) := scaledNumber a
    let (j, y) := scaledNumber b
    let sign := fun (n : Int × Nat) => if n.1 < 0 then -1 else if 0 < n.1 then (1 : Int) else 0
    match compare (sign x) (sign y) with
    | .eq =>
      match if sign x < 0 then compare j i else compare i j with
      | .eq => compareNumbers x y
      | other => other
    | other => other
  else if letters.contains 'M' then compare (monthOf a) (monthOf b)
  else if letters.contains 'V' then
    match compareVersions (a.length + b.length + 2) a b with
    | .eq => compareBytes a b
    | other => other
  else compareBytes (foldedKey letters a) (foldedKey letters b)

def compareByKeys (mark : Option UInt8) (keys : List SortKey) (a b : List UInt8) : Ordering :=
  match keys with
  | [] => .eq
  | key :: rest =>
    let found := compareKeys key.letters (keyPart mark key a) (keyPart mark key b)
    let found := if key.letters.contains 'r' then found.swap else found
    match found with
    | .eq => compareByKeys mark rest a b
    | other => other

/-- The field and byte at the start of a text, and what follows them. -/
def keyPlace? (t : Text) : Option (Nat × Option Nat × Text) := do
  let field := t.takeWhile Reading.isDigit
  let n ← digits? field
  match t.drop field.length with
  | .char '.' :: rest =>
    let char := rest.takeWhile Reading.isDigit
    let m ← digits? char
    return (n, some m, rest.drop char.length)
  | rest => return (n, none, rest)

def isKeyLetter (c : Char) : Bool := ['b', 'd', 'f', 'g', 'h', 'i', 'M', 'n', 'r', 'R', 'V'].contains c

def sortKey? (t : Text) : Option SortKey := do
  let (field, char, rest) ← keyPlace? t
  let isLetter := fun (g : Glyph) => g.char?.any isKeyLetter
  let first := (rest.takeWhile isLetter).filterMap Glyph.char?
  let rest := rest.dropWhile isLetter
  if field = 0 then none
  match rest with
  | [] => return ⟨field, char.getD 1, none, first.contains 'b', false, first⟩
  | .char ',' :: rest =>
    let (last, end_, rest) ← keyPlace? rest
    let second := (rest.takeWhile isLetter).filterMap Glyph.char?
    if last = 0 || !(rest.dropWhile isLetter).isEmpty then none
    return ⟨field, char.getD 1, some (last, end_.getD 0), first.contains 'b', second.contains 'b',
      first ++ second⟩
  | _ => none

/-- Lines without those that are equal to the one before. -/
def withoutRepeats (same : List UInt8 → List UInt8 → Bool) : List (List UInt8) → List (List UInt8)
  | [] => []
  | line :: rest =>
    match withoutRepeats same rest with
    | [] => [line]
    | next :: more => if same line next then line :: more else line :: next :: more

/-- The number of the first line that is out of order. -/
def disorder? (bad : List UInt8 → List UInt8 → Bool) : (number : Nat) → List (List UInt8) →
    Option (Nat × List UInt8)
  | number, a :: b :: rest => if bad a b then some (number + 1, b) else disorder? bad (number + 1) (b :: rest)
  | _, _ => none

def sort (arguments : List Text) : Step Nat :=
  let spec := OptionSpec.of "bcCdfghik:mMno:rRst:uVz"
    [("key", 'k'), ("field-separator", 't'), ("unique", 'u'), ("reverse", 'r'), ("numeric-sort", 'n'),
     ("ignore-case", 'f'), ("ignore-leading-blanks", 'b'), ("stable", 's'), ("output", 'o'),
     ("check", 'c'), ("version-sort", 'V'), ("general-numeric-sort", 'g'), ("human-numeric-sort", 'h'),
     ("month-sort", 'M'), ("dictionary-order", 'd'), ("merge", 'm')]
  withOptions spec 2 arguments fun given => do
    let specs := (given.options.filter fun option => option.1 = 'k').map Prod.snd
    match specs.find? fun t => (sortKey? t).isNone with
    | some bad =>
      if (keyPlace? bad).any fun place => place.1 = 0 then
        report ("-: invalid field specification " ++ alwaysQuoted bad)
      else report ("invalid number at field start: invalid count at start of " ++ alwaysQuoted bad)
      return 2
    | none =>
      let tab := (given.value? 't').getD []
      if 1 < tab.length && tab ≠ Text.ofString "\\0" then
        report ("multi-character tab " ++ alwaysQuoted tab)
        return 2
      let mark := tab.encode.head?
      let global := (given.options.map Prod.fst).filter isKeyLetter
      let keys := (specs.filterMap sortKey?).map fun key =>
        if key.letters.isEmpty then
          { key with
            letters := global, skipsStart := global.contains 'b', skipsEnd := global.contains 'b' }
        else key
      let plain := global.filter (· ≠ 'r')
      let keys := if keys.isEmpty && !plain.isEmpty then
          [⟨1, 1, none, global.contains 'b', global.contains 'b', global⟩]
        else keys
      let operands := if given.operands.isEmpty then [Text.ofString "-"] else given.operands
      let parts ← operands.mapM fun operand => return (operand, ← wholeBytesOf operand)
      let failed := parts.find? fun item => match item.2 with
        | .ok _ => false
        | .error _ => true
      match failed with
      | some (operand, .error errno) =>
        if errno = .isDirectory then report ("read failed: " ++ shownName operand ++ ": " ++ errno.message)
        else if errno = .badDescriptor then report ("stat failed: " ++ shownName operand ++ ": " ++ errno.message)
        else report ("cannot read: " ++ shownName operand ++ ": " ++ errno.message)
        return 2
      | _ =>
        let lines := parts.flatMap fun item => match item.2 with
          | .ok data => (linesOf data).1
          | .error _ => []
        let byKeys := compareByKeys mark keys
        let whole := fun (a b : List UInt8) =>
          if global.contains 'r' then compareBytes b a else compareBytes a b
        let order : List UInt8 → List UInt8 → Ordering := fun a b =>
          match byKeys a b with
          | .eq => if given.has 's' || (given.has 'u' && !keys.isEmpty) then .eq else whole a b
          | other => other
        if given.has 'c' || given.has 'C' then
          let bad := fun (a b : List UInt8) => match order a b with
            | .gt => true
            | .eq => given.has 'u'
            | .lt => false
          match disorder? bad 1 lines with
          | none => return 0
          | some (number, line) =>
            if given.has 'c' then
              report (shownName (operands.headD []) ++ ":" ++ Text.ofNat number ++ ": disorder: " ++
                Text.bytewise line)
            return 1
        else
          let sorted := lines.mergeSort fun a b => order a b ≠ .gt
          let sorted := if given.has 'u' then withoutRepeats (fun a b => order a b = .eq) sorted else sorted
          let out := ofLines sorted true
          match given.value? 'o' with
          | none =>
            write out
            return 0
          | some target =>
            let umask := (← frame).umask
            match ← change fun disk cwd => Reach.writeFile disk cwd umask target out with
            | .ok () => return 0
            | .error errno =>
              report ("open failed: " ++ shownName target ++ ": " ++ errno.message)
              return 2

end Tool

end StageParity.Script
