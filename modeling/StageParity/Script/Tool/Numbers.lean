import StageParity.Script.Regex
import StageParity.Script.Tool.Show

/-!
# Tools for numbers

Sequences of numbers, and the values of expressions.
-/

namespace StageParity.Script

namespace Tool

open Step

/-! ## Sequences -/

/-- A decimal number: an integer, and the number of its digits after the point. -/
structure DecimalNumber where
  digits : Int
  places : Nat

def DecimalNumber.of? (t : Text) : Option DecimalNumber := do
  let (negative, body) := match t with
    | .char '-' :: rest => (true, rest)
    | .char '+' :: rest => (false, rest)
    | _ => (false, t)
  let whole := body.takeWhile Reading.isDigit
  let (places, rest) := match body.drop whole.length with
    | .char '.' :: rest => (rest.takeWhile Reading.isDigit, rest.dropWhile Reading.isDigit)
    | rest => ([], rest)
  if whole.isEmpty && places.isEmpty then none
  let (power, rest) : Int × Text ← match rest with
    | .char 'e' :: more =>
      match Arithmetic.wholeNumber? true more with
      | some n => some (n, [])
      | none => none
    | _ => some (0, rest)
  if !rest.isEmpty then none
  let size : Int := Arithmetic.digitsIn 10 (whole ++ places)
  let size := if negative then -size else size
  if 0 ≤ power then
    let shift := power.toNat
    if places.length ≤ shift then return ⟨size * (Nat.pow 10 (shift - places.length) : Nat), 0⟩
    else return ⟨size, places.length - shift⟩
  else return ⟨size, places.length + power.natAbs⟩

/-- The digits of a number as if it had some places. -/
def DecimalNumber.scaled (n : DecimalNumber) (places : Nat) : Int :=
  n.digits * (Nat.pow 10 (places - n.places) : Nat)

def placedText (places : Nat) (n : Int) : Text :=
  let digits := Decimal.wide (places + 1) n.natAbs
  let whole := digits.length - places
  Text.ofChars ((if n < 0 then ['-'] else []) ++ digits.take whole ++
    (if places = 0 then [] else '.' :: digits.drop whole))

def maxSequence : Nat := 200000

def sequence (arguments : List Text) : Step Nat := do
  let isNumber := fun (t : Text) => match t with
    | .char '-' :: g :: _ => Reading.isDigit g || g = .char '.'
    | _ => false
  let options := arguments.takeWhile fun t => t.head? = some (.char '-') && !isNumber t
  let valued := fun (t : Text) => t = Text.ofString "-s" || t = Text.ofString "-f"
  let count := if options.getLast?.any valued then options.length + 1 else options.length
  let (front, numbers) :=
    if valued (arguments.headD []) then
      (arguments.take 2 ++ ((arguments.drop 2).takeWhile fun t => t.head? = some (.char '-') && !isNumber t),
        (arguments.drop 2).dropWhile fun t => t.head? = some (.char '-') && !isNumber t)
    else (arguments.take count, arguments.drop count)
  let spec := OptionSpec.of "s:f:w" [("separator", 's'), ("format", 'f'), ("equal-width", 'w')]
  withOptions spec 1 front fun given => do
    match numbers with
    | [] => misused 1 "missing operand"
    | _ :: _ :: _ :: extra :: _ => misused 1 ("extra operand " ++ alwaysQuoted extra)
    | _ =>
      match numbers.find? fun t => (DecimalNumber.of? t).isNone with
      | some bad => misused 1 ("invalid floating point argument: " ++ alwaysQuoted bad)
      | none =>
        let one : DecimalNumber := ⟨1, 0⟩
        let (first, step, last) := match numbers.filterMap DecimalNumber.of? with
          | [last] => (one, one, last)
          | [first, last] => (first, one, last)
          | [first, step, last] => (first, step, last)
          | _ => (one, one, ⟨0, 0⟩)
        if step.digits = 0 then misused 1 ("invalid Zero increment value: " ++ alwaysQuoted (numbers.getD 1 []))
        else
          let places := max first.places step.places
          let grid := max places last.places
          let a := first.scaled grid
          let d := step.scaled grid
          let b := last.scaled grid
          let size := if 0 < d then (Int.fdiv (b - a) d + 1).toNat else (Int.fdiv (a - b) (-d) + 1).toNat
          let values := (List.range (min size maxSequence)).map fun (i : Nat) => a + d * i
          let unit : Int := (Nat.pow 10 (grid - places) : Nat)
          let texts := values.map fun n => placedText places (n / unit)
          let texts := match given.value? 'f' with
            | some format => values.map fun n => Text.bytewise (printed .program format [placedText grid n]).bytes
            | none => texts
          let width := (texts.map List.length).foldl max 0
          let texts := if given.has 'w' then texts.map fun t =>
              let zeros := List.replicate (width - t.length) (Glyph.char '0')
              match t with
              | .char '-' :: rest => .char '-' :: zeros ++ rest
              | _ => zeros ++ t
            else texts
          let line := Text.join ((given.value? 's').getD "\n") texts
          if !texts.isEmpty then write (line.encode ++ [10])
          return 0

/-! ## Expressions -/

inductive ExprFault where
  | syntax_ (reason : Text)
  | plain (reason : String)

abbrev Expr := StateT (List Text) (Except ExprFault)

def exprInteger? (t : Text) : Option Int :=
  match t with
  | .char '-' :: rest => (digits? rest).map fun n => -(n : Int)
  | _ => (digits? t).map Int.ofNat

def isNull (t : Text) : Bool :=
  t.isEmpty || (exprInteger? t) = some 0

/-- What a match of a pattern at the start gives: a group, or the number of glyphs. -/
def exprMatch (subject pattern : Text) : Expr Text := do
  match Regex.ofText false pattern with
  | .error reason => throw (.plain reason)
  | .ok r =>
    let grouped := 0 < r.groupCount
    match (r.points subject false r.looksBack ⟨none, subject, 0, []⟩).head? with
    | none => return if grouped then [] else "0"
    | some p =>
      if grouped then
        match p.groups.lookup 1 with
        | some (start, finish) => return (subject.drop start).take (finish - start)
        | none => return []
      else return Text.ofNat p.passed

/-- The operators of each level, the loosest first. -/
def exprLevels : List (List String) :=
  [["|"], ["&"], ["<", "<=", "=", "==", "!=", ">=", ">"], ["+", "-"], ["*", "/", "%"], [":"]]

def exprApply (operator : String) (a b : Text) : Expr Text := do
  let numbers : Expr (Int × Int) := do
    match exprInteger? a, exprInteger? b with
    | some x, some y => return (x, y)
    | _, _ => throw (.plain "non-integer argument")
  let compared := fun (test : Ordering → Bool) =>
    let order := match exprInteger? a, exprInteger? b with
      | some x, some y => compare x y
      | _, _ => if a = b then .eq else if Text.le a b then .lt else .gt
    (if test order then Text.ofString "1" else "0")
  match operator with
  | "|" => return if !isNull a then a else if !isNull b then b else "0"
  | "&" => return if isNull a || isNull b then "0" else a
  | "<" => return compared (· = .lt)
  | "<=" => return compared (· ≠ .gt)
  | "=" | "==" => return compared (· = .eq)
  | "!=" => return compared (· ≠ .eq)
  | ">=" => return compared (· ≠ .lt)
  | ">" => return compared (· = .gt)
  | "+" =>
    let (x, y) ← numbers
    return Text.ofInt (x + y)
  | "-" =>
    let (x, y) ← numbers
    return Text.ofInt (x - y)
  | "*" =>
    let (x, y) ← numbers
    return Text.ofInt (x * y)
  | "/" | "%" =>
    let (x, y) ← numbers
    if y = 0 then throw (.plain "division by zero")
    return Text.ofInt (if operator = "/" then Int.tdiv x y else Int.tmod x y)
  | _ => exprMatch a b

mutual

/-- The value of operands on some levels. -/
def exprLevel : (fuel : Nat) → List (List String) → (before : Text) → Expr Text
  | 0, _, _ => return []
  | fuel + 1, [], before => exprOperand fuel before
  | fuel + 1, operators :: tighter, before => do
    let first ← exprLevel fuel tighter before
    exprRest fuel operators tighter first

/-- The value of what follows a first operand. -/
def exprRest : (fuel : Nat) → List String → List (List String) → Text → Expr Text
  | 0, _, _, first => return first
  | fuel + 1, operators, tighter, first => do
    match ← get with
    | word :: rest =>
      match operators.find? fun o => Text.ofString o = word with
      | some operator =>
        set rest
        let second ← exprLevel fuel tighter word
        exprRest fuel operators tighter (← exprApply operator first second)
      | none => return first
    | [] => return first

def exprOperand : (fuel : Nat) → (before : Text) → Expr Text
  | 0, _ => return []
  | fuel + 1, before => do
    match ← get with
    | [] =>
      throw (.syntax_ (if before.isEmpty then Text.ofString "missing argument"
        else "missing argument after " ++ alwaysQuoted before))
    | word :: rest =>
      set rest
      match String.ofList (word.filterMap Glyph.char?) with
      | "(" =>
        let value ← exprLevel fuel exprLevels word
        match ← get with
        | [.char ')'] :: rest =>
          set rest
          return value
        | [] => throw (.syntax_ "expecting ')' after '('")
        | other :: _ => throw (.syntax_ ("expecting ')' instead of " ++ alwaysQuoted other))
      | ")" => throw (.syntax_ "unexpected ')'")
      | "+" =>
        match rest with
        | quoted :: rest =>
          set rest
          return quoted
        | [] => throw (.syntax_ "missing argument after '+'")
      | "length" =>
        let t ← exprOperand fuel word
        return Text.ofNat t.length
      | "match" =>
        let t ← exprOperand fuel word
        let pattern ← exprOperand fuel word
        exprMatch t pattern
      | "index" =>
        let t ← exprOperand fuel word
        let glyphs ← exprOperand fuel word
        return Text.ofNat (((t.findIdx? fun g => glyphs.contains g).map (· + 1)).getD 0)
      | "substr" =>
        let t ← exprOperand fuel word
        let start ← exprOperand fuel word
        let size ← exprOperand fuel word
        match exprInteger? start, exprInteger? size with
        | some i, some n => return if i < 1 || n < 1 then [] else (t.drop (i.toNat - 1)).take n.toNat
        | _, _ => return []
      | _ => return word

end

def evaluate (arguments : List Text) : Step Nat := do
  let arguments := if arguments.head? = some "--" then arguments.drop 1 else arguments
  if arguments.isEmpty then misused 2 "missing operand"
  else
    let result := do
      let (value, rest) ← (exprLevel (16 * arguments.length + 16) exprLevels []).run arguments
      match rest with
      | [] => return value
      | extra :: _ => throw (ExprFault.syntax_ ("unexpected argument " ++ alwaysQuoted extra))
    match result with
    | .ok value =>
      writeLine value
      return if isNull value then 1 else 0
    | .error (.syntax_ reason) =>
      report ("syntax error: " ++ reason)
      return 2
    | .error (.plain reason) =>
      report (Text.ofString reason)
      return 2

end Tool

end StageParity.Script
