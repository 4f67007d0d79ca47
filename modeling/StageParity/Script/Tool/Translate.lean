import StageParity.Script.Pattern
import StageParity.Script.Tool.Show

/-!
# Other bytes in place of some

Sets of bytes given by ranges, classes and repetitions, and the tool that translates,
deletes or squeezes the bytes of such sets.
-/

namespace StageParity.Script

namespace Tool

open Step

/-- An element of a list of bytes. -/
inductive SetPart where
  | bytes (data : List UInt8)
  | cls (name : String)
  /-- A byte some number of times; as often as is needed if the number is 0. -/
  | repeated (byte : UInt8) (count : Nat)

def byteOf (g : Glyph) : UInt8 := (Glyph.encode g).headD 0

/-- The glyph at the start of a set, with its escape, and what follows. -/
def setGlyph : Text → Option (UInt8 × Text)
  | [] => none
  | .char '\\' :: [] => some (92, [])
  | .char '\\' :: g :: rest =>
    match escapeByte (g :: rest) with
    | (92, after) => if g = .char '\\' then some (92, after) else some (byteOf g, rest)
    | (byte, after) => if g = .char 'e' then some (byteOf g, rest) else some (byte, after)
  | g :: rest => some (byteOf g, rest)

def allByteValues : List UInt8 := (List.range 256).map UInt8.ofNat

def classBytes (name : String) : List UInt8 :=
  allByteValues.filter fun b => b < 128 && ((classOf? name).getD fun _ => false) (Char.ofNat b.toNat)

/-- The name of a class or the like at the start of a text, between brackets and a mark. -/
def bracketed? (mark : Char) (t : Text) : Option (Text × Text) :=
  match t with
  | .char '[' :: .char c :: rest =>
    if c ≠ mark then none
    else
      let name := rest.takeWhile (· ≠ .char mark)
      match rest.drop name.length with
      | .char m :: .char ']' :: after => if m = mark then some (name, after) else none
      | _ => none
  | _ => none

def repetition? (t : Text) : Option (SetPart × Text) :=
  match t with
  | .char '[' :: rest => do
    let (byte, rest) ← setGlyph rest
    match rest with
    | .char '*' :: rest =>
      let digits := rest.takeWhile Reading.isDigit
      match rest.drop digits.length with
      | .char ']' :: after =>
        let base := if digits.head? = some (.char '0') then 8 else 10
        some (.repeated byte (Arithmetic.digitsIn base digits), after)
      | _ => none
    | _ => none
  | _ => none

def setParts : (fuel : Nat) → Text → Except Text (List SetPart)
  | 0, _ => .ok []
  | fuel + 1, t =>
    match bracketed? ':' t, bracketed? '=' t, repetition? t with
    | some (name, after), _, _ => do
      let known := String.ofList (name.filterMap Glyph.char?)
      if (classOf? known).isNone then throw ("invalid character class " ++ alwaysQuoted name)
      return .cls known :: (← setParts fuel after)
    | none, some ([g], after), _ => do return .bytes [byteOf g] :: (← setParts fuel after)
    | none, _, some (part, after) => do return part :: (← setParts fuel after)
    | none, _, none =>
      match setGlyph t with
      | none => .ok []
      | some (low, .char '-' :: rest) =>
        match setGlyph rest with
        | none => .ok [.bytes [low, 45]]
        | some (high, after) =>
          if high < low then
            throw ("range-endpoints of '" ++ t.take (t.length - after.length) ++
              "' are in reverse collating sequence order")
          else do
            let range := allByteValues.filter fun b => low ≤ b && b ≤ high
            return .bytes range :: (← setParts fuel after)
      | some (byte, after) => do return .bytes [byte] :: (← setParts fuel after)

/-- The number of bytes in a part; a repetition without a count has none of its own. -/
def SetPart.size : SetPart → Nat
  | .bytes data => data.length
  | .cls name => (classBytes name).length
  | .repeated _ count => count

/-- The bytes of parts, the open repetitions of which fill up to a length. -/
def partBytes (length : Nat) (parts : List SetPart) : List UInt8 :=
  let fixed := parts.foldl (fun total part => total + part.size) 0
  parts.flatMap fun
    | .bytes data => data
    | .cls name => classBytes name
    | .repeated byte 0 => List.replicate (length - fixed) byte
    | .repeated byte count => List.replicate count byte

def setBytes (complement : Bool) (parts : List SetPart) : List UInt8 :=
  let data := partBytes 0 parts
  if complement then allByteValues.filter fun b => !data.contains b else data

/-- Leave out bytes of a set that repeat the byte before. -/
def squeezed (isIn : UInt8 → Bool) : (last : Option UInt8) → List UInt8 → List UInt8
  | _, [] => []
  | last, b :: rest =>
    if last = some b && isIn b then squeezed isIn last rest else b :: squeezed isIn (some b) rest

/-- A table of bytes from bytes to others; a later pair counts. -/
def tableOf (source target : List UInt8) : Array UInt8 :=
  (source.zip target).foldl (fun table pair => table.setIfInBounds pair.1.toNat pair.2) allByteValues.toArray

def translate (arguments : List Text) : Step Nat :=
  let spec : OptionSpec :=
    { OptionSpec.of "cCdst"
        [("complement", 'c'), ("delete", 'd'), ("squeeze-repeats", 's'), ("truncate-set1", 't')] with
      mixed := false }
  withOptions spec 1 arguments fun given => do
    let complement := given.has 'c' || given.has 'C'
    let deletes := given.has 'd'
    let squeezes := given.has 's'
    let most := if deletes && !squeezes then 1 else 2
    let least := if deletes == squeezes then 2 else 1
    match given.operands with
    | [] => misused 1 "missing operand"
    | first :: rest =>
      if given.operands.length < least then
        report ("missing operand after " ++ alwaysQuoted first)
        complain (if deletes then
            Text.ofString "Two strings must be given when both deleting and squeezing repeats."
          else "Two strings must be given when translating.")
        pointToHelp
        return 1
      else if most < given.operands.length then
        report ("extra operand " ++ alwaysQuoted (given.operands.getD most []))
        if given.operands.length = 2 then
          complain "Only one string may be given when deleting without squeezing repeats."
        pointToHelp
        return 1
      else
        let second := rest.head?
        match setParts (first.length + 1) first, second.map fun t => setParts (t.length + 1) t with
        | .error reason, _ | _, some (.error reason) =>
          report reason
          return 1
        | .ok parts, found =>
          let others : Option (List SetPart) := match found with
            | some (.ok parts) => some parts
            | _ => none
          let source := setBytes complement parts
          let isSource := fun (b : UInt8) => source.contains b
          let translates := !deletes && others.isSome
          let target := match others with
            | some others => partBytes source.length others
            | none => []
          let badClass := translates && (others.getD []).any fun
            | .cls name => name ≠ "upper" && name ≠ "lower"
            | _ => false
          if badClass then
            report "when translating, the only character classes that may appear in\nstring2 are 'upper' and 'lower'"
            return 1
          else if translates && target.isEmpty && !given.has 't' then
            report "when not truncating set1, string2 must be non-empty"
            return 1
          else
            match ← stream 0 with
            | .error errno =>
              report ("read error: " ++ errno.message)
              return 1
            | .ok data =>
            let filled := if given.has 't' then target
              else target ++ List.replicate (source.length - target.length) (target.getLast?.getD 0)
            let table := tableOf source filled
            let made := if translates then data.map fun b => table[b.toNat]?.getD b
              else if deletes then data.filter fun b => !isSource b else data
            let squeezeSet := match others with
              | some _ => target
              | none => source
            write (if squeezes then squeezed (fun b => squeezeSet.contains b) none made else made)
            return 0

end Tool

end StageParity.Script
