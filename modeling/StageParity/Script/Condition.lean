import StageParity.Script.Arithmetic
import StageParity.Script.Reach

/-!
# Conditions of scripts

Tests of files, texts and numbers, with the grammar by which words become tests. A word may
look like an operator and still be an operand, which depends on how many words follow.
-/

namespace StageParity.Script.Condition

def stringOf (t : Text) : String := String.ofList (t.filterMap Glyph.char?)

/-- What an operator stands between. -/
inductive Kind where
  | unary
  | binary
  | negation
  | conjunction
  | disjunction
  | opening
  | closing
deriving DecidableEq

def kind? (t : Text) : Option Kind :=
  let name := stringOf t
  if t.any fun g => !g.isChar then none
  else if ["-r", "-w", "-x", "-e", "-f", "-d", "-c", "-b", "-p", "-u", "-g", "-k", "-s", "-t", "-z",
    "-n", "-h", "-O", "-G", "-L", "-S"].contains name then some .unary
  else if ["=", "!=", "<", ">", "-eq", "-ne", "-ge", "-gt", "-le", "-lt", "-nt", "-ot",
    "-ef"].contains name then some .binary
  else
    match name with
    | "!" => some .negation
    | "-a" => some .conjunction
    | "-o" => some .disjunction
    | "(" => some .opening
    | ")" => some .closing
    | _ => none

/-- The devices that can be written and read. -/
def devices : List String :=
  ["/dev/null", "/dev/zero", "/dev/full", "/dev/tty", "/dev/random", "/dev/urandom"]

def isDevice (t : Text) : Bool := t.all Glyph.isChar && devices.contains (stringOf t)

/-- The words that are left, and why a condition has no value. -/
abbrev Test := StateT (List Text) (Except Text)

section

variable (disk : Disk) (cwd : Location)

def onFile (operator : String) (path : Text) : Bool :=
  let target := fun (test : Entry → Bool) => Reach.holds disk cwd .target path test
  if isDevice path then ["-e", "-r", "-w", "-c"].contains operator
  else
    match operator with
    | "-e" => target fun _ => true
    | "-f" => target Entry.isFile
    | "-d" => target Entry.isDirectory
    | "-h" | "-L" => Reach.holds disk cwd .entry path Entry.isLink
    | "-r" => target fun e => e.mode &&& 0o400 ≠ 0
    | "-w" =>
      match Reach.found disk cwd .target path with
      | .ok (place, e) => place ≠ [] && e.mode &&& 0o200 ≠ 0
      | .error _ => false
    | "-x" => target fun e => e.mode &&& 0o100 ≠ 0
    | "-s" => target fun
      | .file _ data => !data.isEmpty
      | _ => true
    | "-u" => target fun e => e.mode &&& 0o4000 ≠ 0
    | "-g" => target fun e => e.mode &&& 0o2000 ≠ 0
    | "-k" => target fun e => e.mode &&& 0o1000 ≠ 0
    | "-O" | "-G" =>
      match Reach.found disk cwd .target path with
      | .ok (place, _) => place.head? = some "tmp" && place.length ≠ 1
      | .error _ => false
    | _ => false

def number (t : Text) : Test Int :=
  match Arithmetic.wholeNumber? true t with
  | some n => return n
  | none => throw ("Illegal number: " ++ t)

def unary (operator : String) (operand : Text) : Test Bool :=
  match operator with
  | "-n" => return !operand.isEmpty
  | "-z" => return operand.isEmpty
  | "-t" => do
    let _ ← number operand
    return false
  | _ => return onFile disk cwd operator operand

def binary (operator : String) (left right : Text) : Test Bool := do
  match operator with
  | "=" => return left == right
  | "!=" => return left != right
  | "<" => return Text.le left right && left != right
  | ">" => return Text.le right left && left != right
  | "-ef" =>
    match Reach.found disk cwd .target left, Reach.found disk cwd .target right with
    | .ok (a, _), .ok (b, _) => return a == b
    | _, _ => return false
  | "-nt" | "-ot" => return false
  | _ =>
    let a ← number left
    let b ← number right
    return match operator with
      | "-eq" => a == b
      | "-ne" => a != b
      | "-lt" => a < b
      | "-le" => a ≤ b
      | "-gt" => b < a
      | _ => b ≤ a

/-- The kind of operator that the first word is where it stands. -/
def current (words : List Text) : Option Kind :=
  match words with
  | [] => none
  | word :: rest =>
    match kind? word with
    | some .unary =>
      match rest with
      | [] => none
      | [_] => some .unary
      | next :: _ => if kind? next = some .binary then none else some .unary
    | some .opening => if rest.isEmpty then none else some .opening
    | found => found

mutual

/-- Tests of which one has to hold. On return the last word of the test is still there. -/
def either : (fuel : Nat) → Option Kind → Test Bool
  | 0, _ => return false
  | fuel + 1, kind => do
    let held ← both fuel kind
    match ← get with
    | last :: operator :: rest =>
      if current (operator :: rest) = some .disjunction then
        set rest
        return (← either fuel (current rest)) || held
      else
        set (last :: operator :: rest)
        return held
    | _ => return held

def both : (fuel : Nat) → Option Kind → Test Bool
  | 0, _ => return false
  | fuel + 1, kind => do
    let held ← negatable fuel kind
    match ← get with
    | last :: operator :: rest =>
      if current (operator :: rest) = some .conjunction then
        set rest
        return (← both fuel (current rest)) && held
      else
        set (last :: operator :: rest)
        return held
    | _ => return held

def negatable : (fuel : Nat) → Option Kind → Test Bool
  | 0, _ => return false
  | fuel + 1, kind => do
    if kind ≠ some .negation then primary fuel kind
    else
      let rest := (← get).drop 1
      if rest.isEmpty then return true
      set rest
      return !(← negatable fuel (current rest))

/-- A single test, or one between parentheses. -/
def primary : (fuel : Nat) → Option Kind → Test Bool
  | 0, _ => return false
  | fuel + 1, kind => do
    match ← get with
    | [] => return false
    | word :: rest =>
      if kind = some .opening then
        set rest
        if current rest = some .closing then return false
        let held ← either fuel (current rest)
        let after := (← get).drop 1
        if current after ≠ some .closing then throw (Text.ofString "closing paren expected")
        set after
        return held
      else if kind = some .unary then
        match rest with
        | [] => throw (word ++ ": argument expected")
        | operand :: _ =>
          set rest
          unary disk cwd (stringOf word) operand
      else
        match rest with
        | operator :: after =>
          if current rest = some .binary then
            match after with
            | [] => throw (operator ++ ": argument expected")
            | operand :: _ =>
              set after
              binary disk cwd (stringOf operator) word operand
          else return !word.isEmpty
        | [] => return !word.isEmpty

end

/-- The value of words as a test, the first of which has some kind. -/
def whole (words : List Text) (kind : Option Kind) : Except Text Bool := do
  let (held, rest) ← (either disk cwd (8 * words.length + 16) kind).run words
  match rest with
  | word :: _ :: _ => throw (word ++ ": unexpected operator")
  | _ => return held

/-- The value of words as a condition. Conditions of few words are told by their number. -/
def holds : List Text → Except Text Bool
  | [] => .ok false
  | first :: rest =>
    let words := first :: rest
    match rest with
    | [second, third] =>
      if kind? second = some .binary then whole disk cwd words none
      else if kind? first = some .opening && kind? third = some .closing then
        whole disk cwd [second] (current [second])
      else if kind? first = some .negation then (holds [second, third]).map (!·)
      else whole disk cwd words (current words)
    | [second, third, fourth] =>
      if kind? first = some .opening && kind? fourth = some .closing then
        whole disk cwd [second, third] (current [second, third])
      else if kind? first = some .negation then (holds [second, third, fourth]).map (!·)
      else whole disk cwd words (current words)
    | _ => whole disk cwd words (current words)

end

end StageParity.Script.Condition
