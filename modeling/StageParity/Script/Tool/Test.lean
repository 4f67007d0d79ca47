import StageParity.Script.Condition
import StageParity.Script.Tool.Basic

/-!
# Tests as a program

The program that takes a test goes by the number of its words as long as there are few,
and by the grammar of its operators otherwise.
-/

namespace StageParity.Script

namespace Tool

namespace Test

section

variable (disk : Disk) (cwd : Location)

/-- A step in reading a test: the words that are left, and all of them for complaints. -/
abbrev Trial := ReaderT (List Text) (StateT (List Text) (Except Text))

def beyond {α : Type} : Trial α := do
  throw ("missing argument after " ++ alwaysQuoted ((← read).getLast?.getD []))

def next : Trial Text := do
  match ← get with
  | [] => beyond
  | word :: rest =>
    set rest
    return word

/-- Whether a word stands between two operands. -/
def isBinary (t : Text) : Bool := t = Text.ofString "==" || Condition.kind? t = some .binary

/-- Whether a word has the form of an operator before one operand. -/
def looksUnary (t : Text) : Bool := t.length = 2 && t.head? = some (.char '-')

/-- Take the value of a test that another reader of tests knows as well. -/
def known (test : Condition.Test Bool) : Trial Bool := do
  match test.run [] with
  | .ok (holds, _) => return holds
  | .error reason =>
    let front : Text := "Illegal number: "
    if front.isPrefixOf reason then throw ("invalid integer " ++ alwaysQuoted (reason.drop front.length))
    else throw reason

def unary : Trial Bool := do
  let operator ← next
  if Condition.kind? operator = some .unary then
    let operand ← next
    known (Condition.unary disk cwd (Condition.stringOf operator) operand)
  else throw (alwaysQuoted operator ++ ": unary operator expected")

def binary : Trial Bool := do
  let left ← next
  let operator ← next
  let right ← next
  let name := Condition.stringOf operator
  known (Condition.binary disk cwd (if name = "==" then "=" else name) left right)

mutual

def either : (fuel : Nat) → Trial Bool
  | 0 => beyond
  | fuel + 1 => do
    let first ← both fuel
    match ← get with
    | word :: rest =>
      if word = Text.ofString "-o" then
        set rest
        let second ← either fuel
        return first || second
      else return first
    | [] => return first

def both : (fuel : Nat) → Trial Bool
  | 0 => beyond
  | fuel + 1 => do
    let first ← single fuel
    match ← get with
    | word :: rest =>
      if word = Text.ofString "-a" then
        set rest
        let second ← both fuel
        return first && second
      else return first
    | [] => return first

def single : (fuel : Nat) → Trial Bool
  | 0 => beyond
  | fuel + 1 => do
    match ← get with
    | [] => beyond
    | word :: rest =>
      if word = Text.ofString "!" then
        set rest
        return !(← single fuel)
      else if word = Text.ofString "(" then
        set rest
        let holds ← either fuel
        match ← get with
        | found :: after =>
          if found = Text.ofString ")" then
            set after
            return holds
          else throw ("')' expected, found " ++ alwaysQuoted found)
        | [] => throw (Text.ofString "')' expected")
      else if (rest.head?).any isBinary && 2 ≤ rest.length then binary disk cwd
      else if looksUnary word then unary disk cwd
      else
        set rest
        return !word.isEmpty

end

/-- A test of a number of words. -/
def whole : (count : Nat) → Trial Bool
  | 0 => return false
  | count + 1 => do
    let words ← get
    let word := words.headD []
    let negates := word = Text.ofString "!"
    let fuel := 4 * words.length + 8
    let negated := do
      set (words.drop 1)
      return !(← whole count)
    match count with
    | 0 => return !(← next).isEmpty
    | 1 =>
      if negates then negated
      else if looksUnary word then unary disk cwd
      else beyond
    | 2 =>
      let second := words.getD 1 []
      if isBinary second then binary disk cwd
      else if negates then negated
      else if word = Text.ofString "(" && words.getD 2 [] = Text.ofString ")" then
        set ([] : List Text)
        return !second.isEmpty
      else if second = Text.ofString "-a" || second = Text.ofString "-o" then either disk cwd fuel
      else throw (alwaysQuoted second ++ ": binary operator expected")
    | 3 => if negates then negated else either disk cwd fuel
    | _ => either disk cwd fuel

def holds (words : List Text) : Except Text Bool := do
  let (found, left) ← ((whole disk cwd words.length).run words).run words
  match left with
  | [] => return found
  | extra :: _ => throw ("extra argument " ++ alwaysQuoted extra)

end

end Test

open Step

/-- Take a test, between brackets if `closed` says so. -/
def test (closed : Bool) (arguments : List Text) : Step Nat := do
  if closed && arguments.getLast? ≠ some (Text.ofString "]") then
    report "missing ']'"
    return 2
  match ← ask fun disk cwd => Test.holds disk cwd (if closed then arguments.dropLast else arguments) with
  | .ok found => return if found then 0 else 1
  | .error reason =>
    report reason
    return 2

end Tool

end StageParity.Script
