import StageParity.Yaml.Token

/-!
# Tags

The type of a node. Plain scalars without a written tag get one from their form:
Boolean words, numbers in several bases, dates, the merge key and the empty value.
-/

namespace StageParity.Yaml

inductive Tag where
  | null
  | bool
  | int
  | float
  | binary
  | timestamp
  | omap
  | pairs
  | set
  | str
  | seq
  | map
  | merge
  | value
  | other
deriving DecidableEq

namespace Tag

def standard : String := "tag:yaml.org,2002:"

def named : List (String × Tag) :=
  [("null", .null), ("bool", .bool), ("int", .int), ("float", .float), ("binary", .binary),
   ("timestamp", .timestamp), ("omap", .omap), ("pairs", .pairs), ("set", .set), ("str", .str),
   ("seq", .seq), ("map", .map), ("merge", .merge), ("value", .value)]

def ofName (name : Text) : Tag :=
  match named.find? fun entry => Text.ofString (standard ++ entry.1) == name with
  | some entry => entry.2
  | none => .other

end Tag

namespace Form

/-- A text without a line break at its end, which the forms do not mind. -/
def withoutBreak (cs : List Char) : List Char :=
  if cs.getLast? == some '\n' then cs.dropLast else cs

def boolWords : List (String × Bool) :=
  [("yes", true), ("no", false), ("true", true), ("false", false), ("on", true), ("off", false)]

/-- The three ways of capitals in which a word counts. -/
def spellings (word : String) : List (List Char) :=
  let cs := word.toList
  [cs, cs.take 1 |>.map Char.toUpper |>.append (cs.drop 1), cs.map Char.toUpper]

def isBool (cs : List Char) : Bool := boolWords.any fun entry => (spellings entry.1).contains cs

def isNull (cs : List Char) : Bool := cs.isEmpty || cs == ['~'] || (spellings "null").contains cs

def isDigitOrLine (ch : Char) : Bool := ch.isDigit || ch == '_'

def unsigned : List Char → List Char
  | '+' :: rest => rest
  | '-' :: rest => rest
  | cs => cs

/-- What follows a digit, digits and underscores; nothing if there is no digit. -/
def afterNumber? : List Char → Option (List Char)
  | ch :: rest => if ch.isDigit then some (rest.dropWhile isDigitOrLine) else none
  | [] => none

/-- What follows the sixtieths `:dd` at the start of a text. -/
def afterSixtieths : (fuel : Nat) → List Char → List Char
  | 0, cs => cs
  | fuel + 1, cs =>
    match cs with
    | ':' :: a :: b :: rest =>
      if a.isDigit && b.isDigit && a ≤ '5' then afterSixtieths fuel rest
      else if a.isDigit then afterSixtieths fuel (b :: rest)
      else cs
    | [':', a] => if a.isDigit then [] else cs
    | _ => cs

def afterSixtieths? (cs : List Char) : Option (List Char) :=
  let rest := afterSixtieths cs.length cs
  if rest.length < cs.length then some rest else none

def isExponentOrEmpty : List Char → Bool
  | [] => true
  | e :: sign :: rest =>
    (e == 'e' || e == 'E') && (sign == '+' || sign == '-') && !rest.isEmpty && rest.all Char.isDigit
  | _ => false

def isFloat (cs : List Char) : Bool :=
  let bare := unsigned cs
  let plain :=
    match afterNumber? bare with
    | some ('.' :: rest) => isExponentOrEmpty (rest.dropWhile isDigitOrLine)
    | some rest =>
      match afterSixtieths? rest with
      | some ('.' :: places) => places.all isDigitOrLine
      | _ => false
    | none => false
  let fraction :=
    match cs with
    | '.' :: ch :: rest => ch.isDigit && isExponentOrEmpty (rest.dropWhile isDigitOrLine)
    | _ => false
  plain || fraction || [".inf", ".Inf", ".INF"].any (fun s => s.toList == bare) ||
    [".nan", ".NaN", ".NAN"].any (fun s => s.toList == cs)

def isInt (cs : List Char) : Bool :=
  match unsigned cs with
  | ['0'] => true
  | '0' :: rest =>
    (rest.all fun ch => ('0' ≤ ch && ch ≤ '7') || ch == '_') ||
      match rest with
      | 'b' :: digits => !digits.isEmpty && digits.all fun ch => ch == '0' || ch == '1' || ch == '_'
      | 'x' :: digits =>
        !digits.isEmpty && digits.all fun ch => (hexValue? ch).isSome || ch == '_'
      | _ => false
  | ch :: rest =>
    ch.isDigit &&
      let after := rest.dropWhile isDigitOrLine
      after.isEmpty || afterSixtieths? after == some []
  | [] => false

/-- The fields of a date, with a time of day and a zone if given. -/
structure Timestamp where
  year : Nat
  month : Nat
  day : Nat
  /-- Hour, minute, second and the digits after the point. -/
  time : Option (Nat × Nat × Nat × List Char)
  /-- Minutes east; nothing for no zone. -/
  zone : Option Int

/-- Up to `most` digits at the start of a text, at least `least`. -/
def digits? (least most : Nat) (cs : List Char) : Option (Nat × List Char) :=
  let found := (cs.take most).takeWhile Char.isDigit
  if least ≤ found.length then some (Decimal.digitsValue found, cs.drop found.length) else none

def expect? (ch : Char) : List Char → Option (List Char)
  | c :: rest => if c == ch then some rest else none
  | [] => none

def zone? (cs : List Char) : Option (Option Int) :=
  match cs.dropWhile fun ch => ch == ' ' || ch == '\t' with
  | [] => if cs.isEmpty then some none else none
  | ['Z'] => some (some 0)
  | sign :: rest => do
    if sign != '+' && sign != '-' then failure
    let (hours, rest) ← digits? 1 2 rest
    let minutes ←
      match rest with
      | [] => some 0
      | ':' :: rest => do
        let (minutes, rest) ← digits? 2 2 rest
        if rest.isEmpty then some minutes else none
      | _ => none
    let offset : Int := 60 * hours + minutes
    return some (if sign == '-' then -offset else offset)

def timestamp? (cs : List Char) : Option Timestamp := do
  let (year, rest) ← digits? 4 4 cs
  let rest ← expect? '-' rest
  let (month, rest) ← digits? 1 2 rest
  let rest ← expect? '-' rest
  let (day, rest) ← digits? 1 2 rest
  if rest.isEmpty then return ⟨year, month, day, none, none⟩
  let rest ←
    match rest with
    | 'T' :: rest => some rest
    | 't' :: rest => some rest
    | ch :: rest =>
      if ch == ' ' || ch == '\t' then some (rest.dropWhile fun ch => ch == ' ' || ch == '\t')
      else none
    | [] => none
  let (hour, rest) ← digits? 1 2 rest
  let rest ← expect? ':' rest
  let (minute, rest) ← digits? 2 2 rest
  let rest ← expect? ':' rest
  let (second, rest) ← digits? 2 2 rest
  let (fraction, rest) :=
    match rest with
    | '.' :: rest => (rest.takeWhile Char.isDigit, rest.dropWhile Char.isDigit)
    | _ => ([], rest)
  let zone ← zone? rest
  return ⟨year, month, day, some (hour, minute, second, fraction), zone⟩

/-- Whether a text is a date: with a time of day, or with all eight digits. -/
def isTimestamp (cs : List Char) : Bool :=
  match timestamp? cs with
  | some t => t.time.isSome || cs.length == 10
  | none => false

end Form

def Tag.ofForm (text : Text) : Tag :=
  match text.chars? with
  | none => .str
  | some given =>
    let cs := Form.withoutBreak given
    if Form.isBool cs then .bool
    else if Form.isFloat cs then .float
    else if Form.isInt cs then .int
    else if cs == ['<', '<'] then .merge
    else if Form.isNull cs && (given.isEmpty || !cs.isEmpty) then .null
    else if Form.isTimestamp cs then .timestamp
    else if cs == ['='] then .value
    else if cs == ['!'] || cs == ['&'] || cs == ['*'] then .other
    else .str

end StageParity.Yaml
