import StageParity.Script.Lexeme

/-!
# Arithmetic of scripts

Expressions over integers of 64 bits and variables, with the operators and levels of the
C language. Comparisons give 1 or 0.
-/

namespace StageParity.Script

/-- The binary operators that give a number. -/
inductive Operator where
  | times | over | modulo | plus | minus | shiftLeft | shiftRight
  | less | lessEqual | greater | greaterEqual | equal | notEqual
  | bitAnd | bitXor | bitOr
deriving DecidableEq

namespace Operator

/-- How loosely an operator binds its operands. -/
def level : Operator → Nat
  | .times | .over | .modulo => 0
  | .plus | .minus => 1
  | .shiftLeft | .shiftRight => 2
  | .less | .lessEqual | .greater | .greaterEqual => 3
  | .equal | .notEqual => 4
  | .bitAnd => 5
  | .bitXor => 6
  | .bitOr => 7

def levels : Nat := 8

def symbols : List (String × Operator) :=
  [("<<", .shiftLeft), (">>", .shiftRight), ("<=", .lessEqual), (">=", .greaterEqual),
   ("==", .equal), ("!=", .notEqual), ("<", .less), (">", .greater), ("*", .times), ("/", .over),
   ("%", .modulo), ("+", .plus), ("-", .minus), ("&", .bitAnd), ("^", .bitXor), ("|", .bitOr)]

end Operator

inductive SumToken where
  | number (n : Int)
  | variable (name : Text)
  | operator (op : Operator)
  | assign (op : Option Operator)
  | symbol (s : String)
  | unknown
deriving DecidableEq

inductive Sum where
  | number (n : Int)
  | variable (name : Text)
  | negated (body : Sum)
  | inverted (body : Sum)
  | complement (body : Sum)
  | binary (op : Operator) (left right : Sum)
  | conjunction (left right : Sum)
  | disjunction (left right : Sum)
  | choice (test yes no : Sum)
  | assign (name : Text) (op : Option Operator) (value : Sum)

inductive SumFault where
  /-- The expression is not well formed, or divides by zero. -/
  | reason (text : String)
  /-- A variable holds no number. -/
  | illegal (value : Text)

namespace Arithmetic

open Reading

/-- The value of digits in a base, letters included. -/
def digitsIn (base : Nat) (t : Text) : Nat :=
  (t.filterMap Glyph.char?).foldl
    (fun n c => base * n + (if c.isDigit then c.toNat - 48 else c.toLower.toNat - 87)) 0

def isDigitIn (base : Nat) : Glyph → Bool
  | .char c => (c.isDigit || ('a' ≤ c.toLower && c.toLower ≤ 'f')) && digitsIn base [.char c] < base
  | _ => false

def maxNumber : Nat := Nat.pow 2 63 - 1

/-- The number at the start of a text, in base ten, eight or sixteen as it is written, and
what follows it. There is a digit at the start. -/
def unsignedPart (t : Text) : Nat × Text :=
  let digits := fun (base : Nat) (t : Text) =>
    (digitsIn base (t.takeWhile (isDigitIn base)), t.dropWhile (isDigitIn base))
  match t with
  | .char '0' :: .char x :: rest =>
    if (x = 'x' || x = 'X') && (rest.head?.any (isDigitIn 16)) then digits 16 rest
    else digits 8 t
  | .char '0' :: _ => digits 8 t
  | _ => digits 10 t

/-- The number at the start of a text, after blanks and a sign, and what follows it;
nothing if there is none. -/
def numberPart? (t : Text) : Option (Int × Text) :=
  let isBlank := fun (g : Glyph) => g.char?.any fun c => c = ' ' || ('\t' ≤ c && c ≤ '\r')
  let t := t.dropWhile isBlank
  let (negative, body) := match t with
    | .char '-' :: rest => (true, rest)
    | .char '+' :: rest => (false, rest)
    | _ => (false, t)
  if body.head?.any isDigit then
    let (size, rest) := unsignedPart body
    some (if negative then -(size : Int) else size, rest)
  else none

/-- The number that a whole text is, blanks around it aside. A number in base ten only if
`decimal` says so. -/
def wholeNumber? (decimal : Bool) (t : Text) : Option Int :=
  let isBlank := fun (g : Glyph) => g.char?.any fun c => c = ' ' || ('\t' ≤ c && c ≤ '\r')
  let t := Text.dropEnd (t.dropWhile isBlank) isBlank
  let (negative, body) := match t with
    | .char '-' :: rest => (true, rest)
    | .char '+' :: rest => (false, rest)
    | _ => (false, t)
  let size? : Option Nat :=
    if decimal then
      if !body.isEmpty && body.all isDigit then some (digitsIn 10 body) else none
    else if body.head?.any isDigit then
      match unsignedPart body with
      | (size, []) => some size
      | _ => none
    else none
  match size? with
  | some size =>
    if maxNumber + (if negative then 1 else 0) < size then none
    else some (if negative then -(size : Int) else size)
  | none => none

def tokens : (fuel : Nat) → Text → List SumToken
  | 0, _ => []
  | _, [] => []
  | fuel + 1, g :: rest =>
    let t := g :: rest
    if g = ch ' ' || g = ch '\t' || g = ch '\n' then tokens fuel rest
    else if isDigit g then
      let (n, after) := unsignedPart t
      .number (min n maxNumber) :: tokens fuel after
    else if startsName g then .variable (t.takeWhile inName) :: tokens fuel (t.dropWhile inName)
    else
      let starts := fun (s : String) => List.isPrefixOf (Text.ofString s) t
      match ["&&", "||", "(", ")", "?", ":", "~"].find? starts with
      | some s => .symbol s :: tokens fuel (t.drop s.length)
      | none =>
        match Operator.symbols.find? fun item => starts item.1 with
        | some (s, op) =>
          let after := t.drop s.length
          let assigns := after.head? = some (ch '=') && op.level ≠ 3 && op.level ≠ 4
          if assigns then .assign (some op) :: tokens fuel (after.drop 1)
          else .operator op :: tokens fuel after
        | none =>
          if g = ch '=' then .assign none :: tokens fuel rest
          else if g = ch '!' then .symbol "!" :: tokens fuel rest
          else .unknown :: tokens fuel rest

abbrev SumReading := StateT (List SumToken) (Except String)

mutual

def assignment : (fuel : Nat) → SumReading Sum
  | 0 => throw "expecting primary"
  | fuel + 1 => do
    match ← get with
    | .variable name :: .assign op :: rest =>
      set rest
      return .assign name op (← assignment fuel)
    | _ => conditional fuel

/-- A choice between two expressions, or none. -/
def conditional : (fuel : Nat) → SumReading Sum
  | 0 => throw "expecting primary"
  | fuel + 1 => do
    let test ← either fuel
    match ← get with
    | .symbol "?" :: rest =>
      set rest
      let yes ← assignment fuel
      match ← get with
      | .symbol ":" :: rest =>
        set rest
        return .choice test yes (← conditional fuel)
      | _ => throw "expecting ':'"
    | _ => return test

def either : (fuel : Nat) → SumReading Sum
  | 0 => throw "expecting primary"
  | fuel + 1 => do
    let first ← both fuel
    match ← get with
    | .symbol "||" :: rest =>
      set rest
      return .disjunction first (← either fuel)
    | _ => return first

def both : (fuel : Nat) → SumReading Sum
  | 0 => throw "expecting primary"
  | fuel + 1 => do
    let first ← binary fuel Operator.levels
    match ← get with
    | .symbol "&&" :: rest =>
      set rest
      return .conjunction first (← both fuel)
    | _ => return first

/-- An expression of operators that bind more tightly than a level. -/
def binary : (fuel level : Nat) → SumReading Sum
  | 0, _ => throw "expecting primary"
  | fuel + 1, 0 => primary fuel
  | fuel + 1, level + 1 => do operands fuel level (← binary fuel level)

def operands : (fuel level : Nat) → Sum → SumReading Sum
  | 0, _, _ => throw "expecting primary"
  | fuel + 1, level, first => do
    match ← get with
    | .operator op :: rest =>
      if op.level = level then
        set rest
        let second ← binary fuel level
        operands fuel level (.binary op first second)
      else return first
    | _ => return first

/-- A number, a variable, an expression with a sign or one between parentheses. -/
def primary : (fuel : Nat) → SumReading Sum
  | 0 => throw "expecting primary"
  | fuel + 1 => do
    match ← get with
    | .symbol "(" :: rest =>
      set rest
      let inside ← assignment fuel
      match ← get with
      | .symbol ")" :: rest =>
        set rest
        return inside
      | _ => throw "expecting ')'"
    | .number n :: rest =>
      set rest
      return .number n
    | .variable name :: rest =>
      set rest
      return .variable name
    | .operator .plus :: rest =>
      set rest
      primary fuel
    | .operator .minus :: rest =>
      set rest
      return .negated (← primary fuel)
    | .symbol "!" :: rest =>
      set rest
      return .inverted (← primary fuel)
    | .symbol "~" :: rest =>
      set rest
      return .complement (← primary fuel)
    | _ => throw "expecting primary"

end

/-- A number modulo 64 bits. -/
def wrap (n : Int) : Int := Int.bmod n (Nat.pow 2 64)

def bits (n : Int) : Nat := (n % (Nat.pow 2 64 : Nat)).toNat

def truth (b : Bool) : Int := if b then 1 else 0

def apply (op : Operator) (a b : Int) : Except SumFault Int :=
  match op with
  | .times => .ok (wrap (a * b))
  | .over => if b = 0 then .error (.reason "division by zero") else .ok (wrap (Int.tdiv a b))
  | .modulo => if b = 0 then .error (.reason "division by zero") else .ok (wrap (Int.tmod a b))
  | .plus => .ok (wrap (a + b))
  | .minus => .ok (wrap (a - b))
  | .shiftLeft => .ok (wrap (a * (Nat.pow 2 (bits b % 64) : Nat)))
  | .shiftRight => .ok (Int.fdiv a (Nat.pow 2 (bits b % 64) : Nat))
  | .less => .ok (truth (a < b))
  | .lessEqual => .ok (truth (a ≤ b))
  | .greater => .ok (truth (b < a))
  | .greaterEqual => .ok (truth (b ≤ a))
  | .equal => .ok (truth (a = b))
  | .notEqual => .ok (truth (a ≠ b))
  | .bitAnd => .ok (wrap (bits a &&& bits b))
  | .bitXor => .ok (wrap (bits a ^^^ bits b))
  | .bitOr => .ok (wrap (bits a ||| bits b))

/-- A calculation, in the course of which variables are set. -/
abbrev Calculation := StateT (List (Text × Text)) (Except SumFault)

/-- The number that a variable holds; one without a value holds zero. -/
def valueOf (outside : Text → Option Text) (name : Text) : Calculation Int := do
  let found := match (← get).lookup name with
    | some value => some value
    | none => outside name
  let isBlank := fun (g : Glyph) => g.char?.any fun c => c = ' ' || ('\t' ≤ c && c ≤ '\r')
  match found with
  | none => return 0
  | some value =>
    if value.all isBlank then return 0
    else
      match wholeNumber? false value with
      | some n => return n
      | none => throw (.illegal value)

/-- The value of an expression, with the values of variables outside of it. -/
def evaluate (outside : Text → Option Text) : Sum → Calculation Int
  | .number n => return n
  | .variable name => valueOf outside name
  | .negated body => return wrap (-(← evaluate outside body))
  | .inverted body => return truth ((← evaluate outside body) = 0)
  | .complement body => return -(← evaluate outside body) - 1
  | .binary op left right => do
    let a ← evaluate outside left
    let b ← evaluate outside right
    match apply op a b with
    | .ok n => return n
    | .error fault => throw fault
  | .conjunction left right => do
    if (← evaluate outside left) = 0 then return 0
    else return truth ((← evaluate outside right) ≠ 0)
  | .disjunction left right => do
    if (← evaluate outside left) ≠ 0 then return 1
    else return truth ((← evaluate outside right) ≠ 0)
  | .choice test yes no => do
    if (← evaluate outside test) ≠ 0 then evaluate outside yes else evaluate outside no
  | .assign name op value => do
    let b ← evaluate outside value
    let n ← match op with
      | none => pure b
      | some op => do
        match apply op (← valueOf outside name) b with
        | .ok n => pure n
        | .error fault => throw fault
    modify fun found => (name, Text.ofInt n) :: found
    return n

end Arithmetic

/-- The value of an expression, and the variables that it sets, the last first. -/
def calculate (outside : Text → Option Text) (t : Text) :
    Except SumFault (Int × List (Text × Text)) :=
  let found := Arithmetic.tokens (t.length + 1) t
  if found.isEmpty then .error (.reason "expecting primary")
  else
    match (Arithmetic.assignment (16 * found.length + 32)).run found with
    | .error reason => .error (.reason reason)
    | .ok (sum, []) => (Arithmetic.evaluate outside sum).run []
    | .ok (_, _ :: _) => .error (.reason "expecting EOF")

end StageParity.Script
