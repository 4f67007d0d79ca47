import StageParity.Yaml.Cursor

/-!
# Binary data

Bytes written in groups of four characters of six bits each. Characters outside the
alphabet do not count, and signs of equality fill up a last group that is short.
-/

namespace StageParity.Yaml

namespace Binary

def sextet? (ch : Char) : Option Nat :=
  if 'A' ≤ ch && ch ≤ 'Z' then some (ch.toNat - 65)
  else if 'a' ≤ ch && ch ≤ 'z' then some (ch.toNat - 71)
  else if ch.isDigit then some (ch.toNat + 4)
  else if ch == '+' then some 62
  else if ch == '/' then some 63
  else none

/-- The sextets of a text, for a group that has `filled` of them and `pads` signs that fill
it up. A text may end where a group does; nothing after a group that is filled up counts. -/
def sextets? : (filled pads : Nat) → List Char → Option (List Nat)
  | filled, _, [] => if filled = 0 then some [] else none
  | filled, pads, ch :: rest =>
    if ch == '=' then
      if 2 ≤ filled then
        if 4 ≤ filled + pads + 1 then some [] else sextets? filled (pads + 1) rest
      else sextets? filled pads rest
    else
      match sextet? ch with
      | none => sextets? filled pads rest
      | some bits => (sextets? ((filled + 1) % 4) 0 rest).map (bits :: ·)

/-- The bytes of sextets: three for each four of them, and what is whole of the rest. -/
def bytes : List Nat → List UInt8
  | a :: b :: c :: d :: rest =>
    let n := ((a * 64 + b) * 64 + c) * 64 + d
    UInt8.ofNat (n / 65536) :: UInt8.ofNat (n / 256) :: UInt8.ofNat n :: bytes rest
  | [a, b, c] =>
    let n := (a * 64 + b) * 64 + c
    [UInt8.ofNat (n / 1024), UInt8.ofNat (n / 4)]
  | [a, b] => [UInt8.ofNat ((a * 64 + b) / 16)]
  | _ => []

def ofScalar (t : Text) : Except Fault (List UInt8) :=
  match t.chars? with
  | none => .error .malformed
  | some cs =>
    if !cs.all (fun ch => ch.toNat < 128) then .error .malformed
    else
      match sextets? 0 0 cs with
      | some found => .ok (bytes found)
      | none => .error .malformed

end Binary

end StageParity.Yaml
