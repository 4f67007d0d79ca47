import StageParity.Script.Tool.Show

/-!
# Dumps of bytes

The bytes of files as numbers or characters, with their addresses.
-/

namespace StageParity.Script

namespace Tool

open Step

/-- How the bytes of a row are shown. -/
inductive DumpKind where
  | chars
  | names
  | octal
  | decimal
  | unsigned
  | hex
deriving DecidableEq

/-- How a row is shown: a kind, and the number of bytes in a unit. -/
structure DumpType where
  kind : DumpKind
  size : Nat

/-- The width of a unit, the blank before it included. -/
def DumpType.width (d : DumpType) : Nat :=
  match d.kind, d.size with
  | .chars, _ | .names, _ => 4
  | .octal, 1 => 4
  | .octal, 2 => 7
  | .octal, 4 => 12
  | .octal, _ => 23
  | .decimal, 1 => 5
  | .decimal, 2 => 7
  | .decimal, 4 => 12
  | .decimal, _ => 21
  | .unsigned, 1 => 4
  | .unsigned, 2 => 6
  | .unsigned, 4 => 11
  | .unsigned, _ => 21
  | .hex, n => 2 * n + 1

def littleEndian (data : List UInt8) : Nat := data.foldr (fun b n => 256 * n + b.toNat) 0

def zeroFilled (base width n : Nat) : Text :=
  let digits := Nat.toDigits base n
  Text.ofChars (List.replicate (width - digits.length) '0' ++ digits)

def controlNames : List String :=
  ["nul", "soh", "stx", "etx", "eot", "enq", "ack", "bel", "bs", "ht", "nl", "vt", "ff", "cr", "so", "si",
   "dle", "dc1", "dc2", "dc3", "dc4", "nak", "syn", "etb", "can", "em", "sub", "esc", "fs", "gs", "rs", "us",
   "sp"]

def DumpType.unit (d : DumpType) (data : List UInt8) : Text :=
  let n := littleEndian data
  let body : Text := match d.kind with
    | .chars =>
      let letters : List (Nat × String) :=
        [(0, "\\0"), (7, "\\a"), (8, "\\b"), (9, "\\t"), (10, "\\n"), (11, "\\v"), (12, "\\f"), (13, "\\r")]
      match letters.lookup n with
      | some text => text
      | none => if 32 ≤ n && n < 127 then Text.ofChars [Char.ofNat n] else zeroFilled 8 3 n
    | .names =>
      let n := n % 128
      if n = 127 then "del"
      else
        match controlNames[n]? with
        | some name => name
        | none => Text.ofChars [Char.ofNat n]
    | .octal => zeroFilled 8 (d.width - 1) n
    | .hex => zeroFilled 16 (d.width - 1) n
    | .unsigned => Text.ofNat n
    | .decimal => Text.ofInt (Int.bmod n (Nat.pow 2 (8 * d.size)))
  List.replicate (d.width - body.length) (.char ' ') ++ body

def unitsOf (size : Nat) : (fuel : Nat) → List UInt8 → List (List UInt8)
  | 0, _ => []
  | _, [] => []
  | fuel + 1, data => data.take size :: unitsOf size fuel (data.drop size)

def dumpTypes : (fuel : Nat) → Text → Option (List DumpType)
  | 0, _ => some []
  | _, [] => some []
  | fuel + 1, g :: rest => do
    let kind ← match g with
      | .char 'c' => some DumpKind.chars
      | .char 'a' => some .names
      | .char 'o' => some .octal
      | .char 'd' => some .decimal
      | .char 'u' => some .unsigned
      | .char 'x' => some .hex
      | _ => none
    if kind = .chars || kind = .names then
      return ⟨kind, 1⟩ :: (← dumpTypes fuel rest)
    let (size, rest) := match rest with
      | .char '1' :: rest | .char 'C' :: rest => (1, rest)
      | .char '2' :: rest | .char 'S' :: rest => (2, rest)
      | .char '4' :: rest | .char 'I' :: rest => (4, rest)
      | .char '8' :: rest | .char 'L' :: rest => (8, rest)
      | _ => (4, rest)
    return ⟨kind, size⟩ :: (← dumpTypes fuel rest)

def rowsOf (size : Nat) : (fuel : Nat) → (address : Nat) → List UInt8 → List (Nat × List UInt8)
  | 0, _, _ => []
  | _, _, [] => []
  | fuel + 1, address, data =>
    (address, data.take size) :: rowsOf size fuel (address + size) (data.drop size)

/-- The lines of a dump. A row that repeats the one before is left out, with a star for all
of them. -/
def dumpLines (shown : Nat × List UInt8 → List Text) (all : Bool) (size : Nat) :
    (before : Option (List UInt8)) → (starred : Bool) → List (Nat × List UInt8) → List Text
  | _, _, [] => []
  | before, starred, (address, row) :: rest =>
    if !all && before = some row && row.length = size && !rest.isEmpty then
      (if starred then [] else [Text.ofString "*"]) ++ dumpLines shown all size before true rest
    else shown (address, row) ++ dumpLines shown all size (some row) false rest

def dump (arguments : List Text) : Step Nat :=
  let spec := OptionSpec.of "abcdioxt:A:N:j:w:vhlfBDHILOXes"
    [("format", 't'), ("address-radix", 'A'), ("read-bytes", 'N'), ("skip-bytes", 'j'), ("width", 'w'),
     ("output-duplicates", 'v')]
  withOptions spec 1 arguments fun given => do
    let types := given.options.foldl (fun (found : Option (List DumpType)) (letter, value) => do
      let found ← found
      match letter with
      | 'a' => return found ++ [⟨.names, 1⟩]
      | 'b' => return found ++ [⟨.octal, 1⟩]
      | 'c' => return found ++ [⟨.chars, 1⟩]
      | 'd' => return found ++ [⟨.unsigned, 2⟩]
      | 'i' => return found ++ [⟨.decimal, 4⟩]
      | 'o' => return found ++ [⟨.octal, 2⟩]
      | 'x' => return found ++ [⟨.hex, 2⟩]
      | 't' => return found ++ (← dumpTypes (value.length + 1) value)
      | _ => return found) (some [])
    match types with
    | none =>
      report ("invalid character in type string " ++ alwaysQuoted ((given.value? 't').getD []))
      return 1
    | some types =>
      let types := if types.isEmpty then [⟨.octal, 2⟩] else types
      let (parts, fine) ← if given.operands.isEmpty then do
          match ← bytesOf "-" with
          | .ok data => pure ([(Text.ofString "-", data)], true)
          | .error errno =>
            report (alwaysQuoted "standard input" ++ ": " ++ errno.message)
            if errno = .badDescriptor then report ("standard input: " ++ errno.message)
            pure ([(Text.ofString "-", [])], false)
        else eachBytes given.operands
      if parts.isEmpty then return 1
      let data := parts.flatMap Prod.snd
      let number := fun (letter : Char) => (given.value? letter).bind amount?
      let skip := (number 'j').getD 0
      let data := data.drop skip
      let data := match number 'N' with
        | some most => data.take most
        | none => data
      let size := (number 'w').getD 16
      let address := fun (n : Nat) => match (given.value? 'A').map fun t => t.take 1 with
        | some [.char 'n'] => []
        | some [.char 'd'] => zeroFilled 10 7 n
        | some [.char 'x'] => zeroFilled 16 6 n
        | _ => zeroFilled 8 7 n
      let block := (types.map DumpType.size).foldl max 1
      let blockWidth := (types.map fun d => block / d.size * d.width).foldl max 0
      let shown := fun (item : Nat × List UInt8) =>
        types.zipIdx.map fun (d, i) =>
          let front := if i = 0 then address item.1 else List.replicate (address item.1).length (.char ' ')
          let units := (unitsOf d.size (item.2.length + 1) item.2).map fun unit =>
            let plain := d.unit unit
            List.replicate (blockWidth * d.size / block - d.width) (.char ' ') ++ plain
          front ++ units.flatten
      let rows := rowsOf size (data.length + 1) skip data
      (dumpLines shown (given.has 'v') size none false rows).forM writeLine
      let last := address (skip + data.length)
      if !last.isEmpty then writeLine last
      return if fine then 0 else 1

end Tool

end StageParity.Script
