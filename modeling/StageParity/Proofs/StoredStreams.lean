import StageParity.Proofs.ByteExact
import StageParity.Proofs.Escalation
import StageParity.Yaml.Cursor

/-!
# Streams in report files

A report file keeps what a command wrote as quoted literals. In such a literal a character above
the basic plane is a pair of escapes, and a byte that did not decode is a single one, so a reader
has to tell from the escapes alone which of them belong together. Literals are read here by the
rules of their format, and the bytes of both streams come back: the escape of a byte is never taken
for the second half of a pair, since a first half is written for a character only, and then always
before its own second half.
-/

namespace StageParity

/-! ## Texts that have bytes -/

theorem Glyph.ofRank_rank (g : Glyph) : ofRank g.rank = g := by
  cases g with
  | char c =>
      have valid : c.toNat < 0xD800 ∨ 0xDFFF < c.toNat ∧ c.toNat < 0x110000 := Utf8.code_valid c
      rw [rank, ofRank, dif_neg (by omega), dif_neg (by omega), dif_neg (by omega), Char.ofNat_toNat]
  | stray low =>
      rw [rank, ofRank, dif_neg (by omega), dif_pos (by omega)]
      simp
  | half index =>
      rw [rank]
      by_cases early : index.val < 0x480
      · rw [if_pos early, ofRank, dif_pos (by omega)]
        simp
      · rw [if_neg early, ofRank, dif_neg (by omega), dif_neg (by omega), dif_pos (by omega)]
        simp

/-- Whether bytes stand for a glyph. -/
def Glyph.hasBytes : Glyph → Bool
  | .half _ => false
  | _ => true

namespace Text

/-- The bytes of a text, if every glyph of it has some. -/
def bytes? (t : Text) : Option (List UInt8) :=
  if t.all Glyph.hasBytes then some t.encode else none

theorem bytes?_eq_some_iff {t : Text} {bytes : List UInt8} :
    t.bytes? = some bytes ↔ t.all Glyph.hasBytes = true ∧ t.encode = bytes := by
  simp [bytes?]

theorem bytes?_append {s t : Text} {first second : List UInt8} (left : s.bytes? = some first)
    (right : t.bytes? = some second) : (s ++ t).bytes? = some (first ++ second) := by
  rw [bytes?_eq_some_iff] at left right ⊢
  refine ⟨?_, ?_⟩
  · rw [List.all_append, left.1, right.1]
    rfl
  · rw [Utf8.encode_append, left.2, right.2]

theorem bytes?_decode (bytes : List UInt8) : (decode bytes).bytes? = some bytes := by
  refine bytes?_eq_some_iff.mpr ⟨?_, Utf8.encode_decode bytes⟩
  rw [List.all_eq_true]
  intro g member
  cases g with
  | half index => exact absurd member (Utf8.half_notMem_decode bytes index)
  | _ => rfl

theorem Clean.bytes? {t : Text} (clean : t.Clean) : t.bytes? = some t.encode := by
  refine bytes?_eq_some_iff.mpr ⟨?_, rfl⟩
  rw [List.all_eq_true]
  intro g member
  have isChar := clean g member
  cases g with
  | char c => rfl
  | stray | half => cases isChar

end Text

/-! ## Reading literals -/

namespace Document

/-- What a literal is made of: characters, and sixteen-bit units in escapes. -/
inductive Sign where
  | char (c : Char)
  | unit (n : Nat)

/-- The character of an escape that names it by a letter or a mark. -/
def named? (c : Char) : Option Char :=
  if c = '"' ∨ c = '\\' ∨ c = '/' then some c
  else if c = 'b' then some '\x08'
  else if c = 'f' then some '\x0c'
  else if c = 'n' then some '\n'
  else if c = 'r' then some '\r'
  else if c = 't' then some '\t'
  else none

/-- The signs of a literal after its opening quote. The closing quote ends it, and control
characters are never written as they are. -/
def scan : List Char → Option (List Sign)
  | [] => none
  | c :: rest =>
    if c = '"' then if rest.isEmpty then some [] else none
    else if c = '\\' then
      match rest with
      | 'u' :: first :: second :: third :: fourth :: rest =>
        (Yaml.hexNumber? [first, second, third, fourth]).bind fun n =>
          (scan rest).map (.unit n :: ·)
      | escaped :: rest => (named? escaped).bind fun c => (scan rest).map (.char c :: ·)
      | [] => none
    else if c.toNat < 0x20 then none
    else (scan rest).map (.char c :: ·)

/-- Whether a unit is the first half of a pair. -/
def isHigh (n : Nat) : Bool := 0xD800 ≤ n && n < 0xDC00

/-- Whether a unit is the second half of a pair. -/
def isLow (n : Nat) : Bool := 0xDC00 ≤ n && n < 0xE000

/-- The text of signs. A first half right before a second half makes one character with it; any
other half stays as it is. -/
def fuse : List Sign → Text
  | [] => []
  | .char c :: rest => .char c :: fuse rest
  | .unit high :: .unit low :: rest =>
    if isHigh high && isLow low then
      .char (Char.ofNat (0x10000 + (high - 0xD800) * 0x400 + (low - 0xDC00))) :: fuse rest
    else .ofRank high :: fuse (.unit low :: rest)
  | .unit n :: rest => .ofRank n :: fuse rest

/-- The text that a literal stands for. -/
def readLiteral : List Char → Option Text
  | '"' :: rest => (scan rest).map fuse
  | _ => none

/-! ## Hexadecimal digits -/

theorem hexValue?_digitChar : ∀ n < 16, Yaml.hexValue? (Nat.digitChar n) = some n := by
  decide

theorem hexNumber?_concat (digits : List Char) (c : Char) :
    Yaml.hexNumber? (digits ++ [c]) =
      (Yaml.hexNumber? digits).bind fun n => (Yaml.hexValue? c).map (16 * n + ·) := by
  unfold Yaml.hexNumber?
  rw [List.foldlM_append]
  simp only [List.foldlM_cons, List.foldlM_nil, bind_pure]
  rfl

theorem hexNumber?_hexDigits (width n : Nat) :
    Yaml.hexNumber? (hexDigits width n) = some (n % Nat.pow 16 width) := by
  induction width generalizing n with
  | zero =>
      have none_ : n % Nat.pow 16 0 = 0 := Nat.mod_one n
      rw [none_]
      rfl
  | succ width ih =>
      have digit : Yaml.hexValue? (hexDigit n) = some (n % 16) :=
        hexValue?_digitChar _ (Nat.mod_lt n (by decide))
      have more : Nat.pow 16 (width + 1) = 16 * Nat.pow 16 width := Nat.mul_comm _ _
      rw [hexDigits, hexNumber?_concat, ih, digit, more, Nat.mod_mul]
      simp only [Option.bind_some, Option.map_some, Option.some.injEq]
      omega

/-! ## Reading back what is written -/

/-- The written characters are read as these signs, whatever follows. -/
def Spells (written : List Char) (signs : List Sign) : Prop :=
  ∀ rest, scan (written ++ rest) = (scan rest).map (signs ++ ·)

theorem Spells.append {first second : List Char} {before after : List Sign}
    (left : Spells first before) (right : Spells second after) :
    Spells (first ++ second) (before ++ after) := by
  intro rest
  rw [List.append_assoc, left, right, Option.map_map]
  congr 1
  funext more
  simp

theorem spells_unitEscape {n : Nat} (small : n < 0x10000) : Spells (unitEscape n) [.unit n] := by
  intro rest
  have four : hexDigits 4 n =
      [hexDigit (n / 16 / 16 / 16), hexDigit (n / 16 / 16), hexDigit (n / 16), hexDigit n] := rfl
  have value : Yaml.hexNumber? (hexDigits 4 n) = some (n % 0x10000) := hexNumber?_hexDigits 4 n
  rw [Nat.mod_eq_of_lt small, four] at value
  rw [unitEscape, four]
  simp [scan, value]

theorem spells_named {escaped c : Char} (names : named? escaped = some c) (notUnit : escaped ≠ 'u') :
    Spells ['\\', escaped] [.char c] := by
  intro rest
  rw [List.cons_append, List.singleton_append, scan.eq_def]
  simp [names, notUnit]

theorem spells_plain {c : Char} (notQuote : c ≠ '"') (notMark : c ≠ '\\') (graphic : 0x20 ≤ c.toNat) :
    Spells [c] [.char c] := by
  intro rest
  rw [List.singleton_append, scan.eq_def]
  simp [notQuote, notMark, Nat.not_lt.mpr graphic]

theorem fuse_unit {n : Nat} (single : isHigh n = false) (more : List Sign) :
    fuse (.unit n :: more) = .ofRank n :: fuse more := by
  cases more with
  | nil => rfl
  | cons next more => cases next <;> simp [fuse, single]

/-- The forms in which a character is written between quotes. -/
inductive Form (c : Char) : List Char → Prop where
  | named {escaped : Char} (names : named? escaped = some c) (notUnit : escaped ≠ 'u')
      (ascii : escaped.toNat < 0x80) : Form c ['\\', escaped]
  | plain (notQuote : c ≠ '"') (notMark : c ≠ '\\') (graphic : 0x20 ≤ c.toNat)
      (ascii : c.toNat < 0x80) : Form c [c]
  | unit (small : c.toNat < 0x10000) : Form c (unitEscape c.toNat)
  | pair (large : 0x10000 ≤ c.toNat) :
      Form c (unitEscape (0xD800 + (c.toNat - 0x10000) / 0x400) ++
        unitEscape (0xDC00 + (c.toNat - 0x10000) % 0x400))

theorem Form.ite {c : Char} {p : Prop} [Decidable p] {yes no : List Char} (holds : p → Form c yes)
    (fails : ¬ p → Form c no) : Form c (if p then yes else no) := by
  by_cases h : p
  · rw [if_pos h]
    exact holds h
  · rw [if_neg h]
    exact fails h

theorem form_escapeChar (c : Char) : Form c (escapeChar c) := by
  have named {d escaped : Char} (names : named? escaped = some d) (notUnit : escaped ≠ 'u')
      (ascii : escaped.toNat < 0x80) (same : c = d) : Form c ['\\', escaped] := by
    rw [← same] at names
    exact .named names notUnit ascii
  unfold escapeChar
  refine .ite (named rfl (by decide) (by decide)) fun notQuote => ?_
  refine .ite (named rfl (by decide) (by decide)) fun notMark => ?_
  refine .ite (named rfl (by decide) (by decide)) fun _ => ?_
  refine .ite (named rfl (by decide) (by decide)) fun _ => ?_
  refine .ite (named rfl (by decide) (by decide)) fun _ => ?_
  refine .ite (named rfl (by decide) (by decide)) fun _ => ?_
  refine .ite (named rfl (by decide) (by decide)) fun _ => ?_
  refine .ite (fun graphic => .plain notQuote notMark graphic.1 (by omega)) fun _ => ?_
  exact .ite .unit fun large => .pair (Nat.not_lt.mp large)

/-- A character is written as signs that make it up again, whatever signs follow. -/
theorem spells_escapeChar (c : Char) :
    ∃ signs, Spells (escapeChar c) signs ∧ ∀ more, fuse (signs ++ more) = .char c :: fuse more := by
  have valid : c.toNat < 0xD800 ∨ 0xDFFF < c.toNat ∧ c.toNat < 0x110000 := Utf8.code_valid c
  have form := form_escapeChar c
  generalize escapeChar c = written at form ⊢
  cases form with
  | named names notUnit => exact ⟨_, spells_named names notUnit, fun more => by simp [fuse]⟩
  | plain notQuote notMark graphic =>
      exact ⟨_, spells_plain notQuote notMark graphic, fun more => by simp [fuse]⟩
  | unit small =>
      refine ⟨_, spells_unitEscape small, fun more => ?_⟩
      have single : isHigh c.toNat = false := by
        simp only [isHigh, Bool.and_eq_false_iff, decide_eq_false_iff_not]
        omega
      have back : Glyph.ofRank c.toNat = .char c := Glyph.ofRank_rank (.char c)
      rw [List.singleton_append, fuse_unit single, back]
  | pair large =>
      refine ⟨_, (spells_unitEscape (by omega)).append (spells_unitEscape (by omega)),
        fun more => ?_⟩
      have high : isHigh (0xD800 + (c.toNat - 0x10000) / 0x400) = true := by
        simp only [isHigh, Bool.and_eq_true, decide_eq_true_eq]
        omega
      have low : isLow (0xDC00 + (c.toNat - 0x10000) % 0x400) = true := by
        simp only [isLow, Bool.and_eq_true, decide_eq_true_eq]
        omega
      have code : 0x10000 + (0xD800 + (c.toNat - 0x10000) / 0x400 - 0xD800) * 0x400 +
          (0xDC00 + (c.toNat - 0x10000) % 0x400 - 0xDC00) = c.toNat := by
        omega
      simp only [List.cons_append, List.nil_append, fuse, high, low, Bool.and_self, if_true]
      rw [code, Char.ofNat_toNat]

theorem spells_escapeGlyph {g : Glyph} (whole : g.hasBytes = true) :
    ∃ signs, Spells (escapeGlyph g) signs ∧ ∀ more, fuse (signs ++ more) = g :: fuse more := by
  cases g with
  | char c => exact spells_escapeChar c
  | stray low =>
      -- The unit of a byte is a second half, which no sign before it was left waiting for.
      refine ⟨_, spells_unitEscape (n := 0xDC80 + low.val) (by omega), fun more => ?_⟩
      have single : isHigh (0xDC80 + low.val) = false := by
        simp only [isHigh, Bool.and_eq_false_iff, decide_eq_false_iff_not]
        omega
      rw [List.singleton_append, fuse_unit single]
      exact congrArg (· :: fuse more) (Glyph.ofRank_rank (.stray low))
  | half index => cases whole

theorem spells_text {t : Text} (whole : t.all Glyph.hasBytes = true) :
    ∃ signs, Spells (t.flatMap escapeGlyph) signs ∧ fuse signs = t := by
  induction t with
  | nil => exact ⟨[], fun rest => by simp, rfl⟩
  | cons g t ih =>
      rw [List.all_cons, Bool.and_eq_true] at whole
      obtain ⟨first, spelled, fused⟩ := spells_escapeGlyph whole.1
      obtain ⟨later, spelledToo, same⟩ := ih whole.2
      refine ⟨first ++ later, ?_, ?_⟩
      · rw [List.flatMap_cons]
        exact spelled.append spelledToo
      · rw [fused, same]

theorem readLiteral_literal {t : Text} (whole : t.all Glyph.hasBytes = true) :
    readLiteral (literal t) = some t := by
  obtain ⟨signs, spelled, fused⟩ := spells_text whole
  have closed : scan ['"'] = some [] := rfl
  change (scan (t.flatMap escapeGlyph ++ ['"'])).map fuse = some t
  rw [spelled, closed, Option.map_some, Option.map_some, List.append_nil, fused]

/-- The bytes that a literal stands for. -/
def literalBytes? (written : List Char) : Option (List UInt8) :=
  (readLiteral written).bind Text.bytes?

theorem literalBytes?_literal {t : Text} {bytes : List UInt8} (has : t.bytes? = some bytes) :
    literalBytes? (literal t) = some bytes := by
  rw [literalBytes?, readLiteral_literal (Text.bytes?_eq_some_iff.mp has).1]
  exact has

/-! ## Literals are ASCII -/

theorem hexDigit_lt (n : Nat) : (hexDigit n).toNat < 0x80 := by
  have small : ∀ m < 16, (Nat.digitChar m).toNat < 0x80 := by decide
  exact small _ (Nat.mod_lt n (by decide))

theorem unitEscape_ascii (n : Nat) : ∀ c ∈ unitEscape n, c.toNat < 0x80 := by
  simp [unitEscape, hexDigits, hexDigit_lt]

theorem escapeChar_ascii (c : Char) : ∀ d ∈ escapeChar c, d.toNat < 0x80 := by
  have form := form_escapeChar c
  generalize escapeChar c = written at form ⊢
  cases form with
  | named _ _ ascii => exact List.forall_mem_cons.mpr ⟨by decide, by simpa using ascii⟩
  | plain _ _ _ ascii => simpa using ascii
  | unit => exact unitEscape_ascii _
  | pair => exact List.forall_mem_append.mpr ⟨unitEscape_ascii _, unitEscape_ascii _⟩

theorem literal_ascii (t : Text) : ∀ c ∈ literal t, c.toNat < 0x80 := by
  intro c member
  simp only [literal, List.cons_append, List.nil_append, List.mem_cons, List.mem_append,
    List.mem_flatMap, List.not_mem_nil, or_false] at member
  rcases member with rfl | ⟨g, -, written⟩ | rfl
  · decide
  · cases g with
    | char d => exact escapeChar_ascii d c written
    | stray | half => exact unitEscape_ascii _ c written
  · decide

/-! ## Places in a file -/

/-- A step into a tree: to a member of an object, or to an item of a list. -/
inductive Step where
  | member (key : String)
  | item (place : Nat)

/-- The value at the end of a path. -/
def at? : List Step → Document → Option Document
  | [], d => some d
  | .member key :: path, .object members => (members.lookup key).bind (at? path)
  | .item place :: path, .list items => items[place]?.bind (at? path)
  | _ :: _, _ => none

theorem renderItems_eq (depth : Nat) (items : List Document) :
    renderItems depth items = items.map (render depth) := by
  induction items with
  | nil => rfl
  | cons item items ih => rw [renderItems, ih, List.map_cons]

theorem renderMembers_eq (depth : Nat) (members : List (String × Document)) :
    renderMembers depth members =
      members.map fun entry => literal entry.1 ++ [':', ' '] ++ render depth entry.2 := by
  induction members with
  | nil => rfl
  | cons entry members ih => rw [renderMembers, ih, List.map_cons]

theorem infix_intercalate {sep entry : List Char} {entries : List (List Char)}
    (member : entry ∈ entries) : entry <:+: sep.intercalate entries := by
  induction entries with
  | nil => cases member
  | cons first entries ih =>
      cases entries with
      | nil =>
          have whole : sep.intercalate [first] = first := List.intercalate_singleton
          exact ⟨[], [], by simp [whole, List.mem_singleton.mp member]⟩
      | cons second entries =>
          rw [List.intercalate_cons_cons]
          rcases List.mem_cons.mp member with rfl | later
          · rw [List.append_assoc]
            exact List.infix_append [] _ _
          · exact (ih later).trans (List.suffix_append _ _).isInfix

theorem infix_bracketed {opening closing : Char} {depth : Nat} {entry : List Char}
    {entries : List (List Char)} (member : entry ∈ entries) :
    entry <:+: bracketed opening closing depth entries := by
  have filled : entries.isEmpty = false := by cases entries <;> simp_all
  have line : entry <:+: newLine (depth + 1) ++ entry := (List.suffix_append _ _).isInfix
  have placed : entry <:+: [','].intercalate (entries.map fun entry => newLine (depth + 1) ++ entry) :=
    line.trans (infix_intercalate (List.mem_map_of_mem member))
  rw [bracketed, filled, if_neg Bool.false_ne_true, List.append_assoc]
  exact placed.trans (List.infix_append _ _ _)

/-- The text of a tree holds the text of the value at the end of each path. -/
theorem infix_render {path : List Step} {d value : Document} (found : d.at? path = some value)
    (depth : Nat) : ∃ inner, render inner value <:+: render depth d := by
  induction path generalizing d depth with
  | nil =>
      cases found
      exact ⟨depth, List.infix_refl _⟩
  | cons step path ih =>
      cases step with
      | member key =>
          cases d with
          | object members =>
              obtain ⟨child, here, further⟩ := Option.bind_eq_some_iff.mp found
              obtain ⟨before, after, shape, -⟩ := List.lookup_eq_some_iff.mp here
              obtain ⟨inner, placed⟩ := ih further (depth + 1)
              have entry : literal key ++ [':', ' '] ++ render (depth + 1) child ∈
                  renderMembers (depth + 1) members := by
                rw [renderMembers_eq, shape]
                simp
              refine ⟨inner, placed.trans (.trans ?_ (infix_bracketed entry))⟩
              exact (List.suffix_append _ _).isInfix
          | _ => cases found
      | item place =>
          cases d with
          | list items =>
              obtain ⟨child, here, further⟩ := Option.bind_eq_some_iff.mp found
              obtain ⟨inner, placed⟩ := ih further (depth + 1)
              have entry : render (depth + 1) child ∈ renderItems (depth + 1) items := by
                rw [renderItems_eq]
                exact List.mem_map_of_mem (List.mem_of_getElem? here)
              exact ⟨inner, placed.trans (infix_bracketed entry)⟩
          | _ => cases found

end Document

/-- The bytes of the file of a report. -/
def Report.fileBytes (report : Report) : List UInt8 :=
  (Text.ofString (String.ofList report.document.print)).encode

/-- A literal stands in the file of a report at the end of a path, a byte for each character. -/
structure Report.Stores (report : Report) (path : List Document.Step) (written : List Char) :
    Prop where
  value : ∃ t, report.document.at? path = some (.text t) ∧ written = Document.literal t
  ascii : ∀ c ∈ written, c.toNat < 0x80
  stands : written.map (fun c => UInt8.ofNat c.toNat) <:+: report.fileBytes

theorem Text.encode_ofChars_ascii {cs : List Char} (ascii : ∀ c ∈ cs, c.toNat < 0x80) :
    (ofChars cs).encode = cs.map fun c => UInt8.ofNat c.toNat := by
  induction cs with
  | nil => rfl
  | cons c cs ih =>
      obtain ⟨small, later⟩ := List.forall_mem_cons.mp ascii
      have single : Glyph.encode (.char c) = [UInt8.ofNat c.toNat] :=
        if_pos (Nat.le_of_lt_succ small)
      have bytes : (ofChars (c :: cs)).encode = Glyph.encode (.char c) ++ (ofChars cs).encode := rfl
      rw [bytes, single, ih later]
      rfl

theorem Report.stores_of_at? {report : Report} {path : List Document.Step} {t : Text}
    (found : report.document.at? path = some (.text t)) :
    report.Stores path (Document.literal t) := by
  have ascii := Document.literal_ascii t
  refine ⟨⟨t, found, rfl⟩, ascii, ?_⟩
  obtain ⟨inner, before, after, shape⟩ := Document.infix_render found 0
  have printed : Text.ofString (String.ofList report.document.print) =
      Text.ofChars before ++ Text.ofChars (Document.literal t) ++ Text.ofChars after := by
    have literal : Document.render inner (.text t) = Document.literal t := rfl
    rw [Text.ofString, String.toList_ofList, Document.print, ← shape, literal, List.map_append,
      List.map_append]
    rfl
  rw [fileBytes, printed, Utf8.encode_append, Utf8.encode_append, Text.encode_ofChars_ascii ascii]
  exact List.infix_append _ _ _

/-- The path to a stream of the output of a stage in a result. -/
def Report.streamPath (place : Nat) (stage : Stage) (stream : String) : List Document.Step :=
  let output :=
    match stage with
    | .zero => "stage0_output"
    | .one => "stage1_output"
  [.member "results", .item place, .member output, .member stream]

theorem Report.at?_streamPath {report : Report} {place : Nat} {result : CheckResult} {stage : Stage}
    {captured : Captured} (recorded : report.results[place]? = some result)
    (kept : result.outputs.get stage = some captured) (stream : String) :
    report.document.at? (streamPath place stage stream) =
      captured.document.at? [.member stream] := by
  have results : report.document.at? (streamPath place stage stream) =
      ((report.results.map CheckResult.document)[place]?).bind
        (Document.at? (streamPath place stage stream).tail.tail) := rfl
  rw [results, List.getElem?_map, recorded]
  cases stage with
  | zero =>
      have output : result.outputs.zero = some captured := kept
      change (Document.ofOption Captured.document result.outputs.zero).at? _ = _
      rw [output]
      rfl
  | one =>
      have output : result.outputs.one = some captured := kept
      change (Document.ofOption Captured.document result.outputs.one).at? _ = _
      rw [output]
      rfl

/-! ## What an invocation keeps -/

namespace Text

theorem Clean.bytes?_append_eq_none {s : Text} (clean : s.Clean) {t : Text}
    (none_ : (s ++ t).bytes? = none) : t.bytes? = none := by
  cases has : t.bytes? with
  | none => rfl
  | some bytes =>
      rw [bytes?_append clean.bytes? has] at none_
      cases none_

theorem clean_ofFloatFixed (places : Nat) (x : Float) : (ofFloatFixed places x).Clean := by
  unfold ofFloatFixed
  split
  · exact clean_ofChars _
  · exact (clean_ofChars _).append (clean_ofChars _)
  · exact clean_ofChars _

theorem clean_quoted (t : Text) : t.quoted.Clean :=
  (clean_ofChars (Quoted.mark t :: t.flatMap (Quoted.escape (Quoted.mark t)))).append
    (clean_ofChars [Quoted.mark t])

end Text

theorem Errno.clean_message (errno : Errno) : errno.message.Clean := by
  unfold message
  split
  · exact Text.clean_ofChars _
  · exact (Text.clean_ofChars _).append (Text.clean_ofChars _)

theorem OsError.clean_onPath (errno : Errno) (path : Text) : (onPath errno path).message.Clean :=
  (((((Text.clean_ofChars _).append (Text.clean_ofChars _)).append
    (Text.clean_ofChars _)).append errno.clean_message).append
    (Text.clean_ofChars _)).append (Text.clean_quoted path)

/-- Only an error with a text of its own can have a message that no bytes stand for. -/
theorem OsError.own_text_of_no_bytes {error : OsError} (none_ : error.message.bytes? = none) :
    ∃ text : Text, text.bytes? = none ∧
      (error = .plain text ∨ ∃ errno, error = .described errno text) := by
  cases error with
  | onPath errno path =>
      rw [(clean_onPath errno path).bytes?] at none_
      cases none_
  | described errno text =>
      have number : (("[Errno " : Text) ++ Text.ofNat errno.code ++ ("] " : Text)).Clean :=
        ((Text.clean_ofChars _).append (Text.clean_ofChars _)).append (Text.clean_ofChars _)
      exact ⟨text, number.bytes?_append_eq_none none_, .inr ⟨errno, rfl⟩⟩
  | plain text => exact ⟨text, none_, .inl rfl⟩

/-- What a failed invocation adds to standard error. -/
def Outcome.failureText (outcome : Outcome) : Text :=
  match outcome.failure with
  | some failure => failure.message ++ "\n"
  | none => []

theorem Failure.clean_message {kind : FailureKind} {detail : Text} (clean : detail.Clean) :
    (Failure.message ⟨kind, detail⟩ ++ ("\n" : Text)).Clean :=
  ((((Text.clean_ofChars _).append (Text.clean_ofChars _)).append
    (Text.clean_ofChars _)).append clean).append (Text.clean_ofChars _)

/-- What the command that was started as the nth one wrote, on standard output and on standard
error. -/
def Launch.written (host : Host) (nth : Nat) (launch : Launch) : List UInt8 × List UInt8 :=
  match (host.react nth launch.invocation launch.disk).1 with
  | .error _ => ([], [])
  | .ok child =>
    let watch := Watch.run child launch.invocation.limit launch.invocation.grace
    (watch.stdout child, watch.stderr child)

namespace Run

variable {host : Host} {project : Project} {s t : Session}

theorem ofResult_watchedResult (request : Request) (limit elapsed : Float) (child : Child)
    (watch : Watch) :
    Outcome.ofResult (watchedResult request limit elapsed child watch) =
      if watch.timedOut then
        Outcome.failed ⟨.timedOut, "no exit after " ++ Text.ofFloatFixed 1 limit ++ "s"⟩
          (Text.decode (watch.stdout child)) (Text.decode (watch.stderr child)) elapsed
      else
        ⟨⟨Text.decode (watch.stdout child), Text.decode (watch.stderr child),
          (watchedResult request limit elapsed child watch).effectiveExitCode, elapsed⟩, none⟩ := rfl

theorem streams_watchedResult (request : Request) (limit elapsed : Float) (child : Child)
    (watch : Watch) :
    let outcome := Outcome.ofResult (watchedResult request limit elapsed child watch)
    outcome.captured.stdout = Text.decode (watch.stdout child) ∧
      outcome.captured.stderr = Text.decode (watch.stderr child) ++ outcome.failureText ∧
      outcome.failureText.Clean := by
  intro outcome
  have same : outcome = _ := ofResult_watchedResult request limit elapsed child watch
  cases late : watch.timedOut with
  | true =>
      rw [late, if_pos rfl] at same
      rw [same]
      refine ⟨rfl, List.append_assoc _ _ _, Failure.clean_message ?_⟩
      exact ((Text.clean_ofChars _).append (Text.clean_ofFloatFixed 1 limit)).append
        (Text.clean_ofChars _)
  | false =>
      rw [late, if_neg Bool.false_ne_true] at same
      rw [same]
      exact ⟨rfl, (List.append_nil _).symm, Text.clean_ofChars []⟩

theorem streams_launchFailure (request : Request) (limit elapsed : Float) (error : OsError) :
    let outcome := Outcome.ofResult (launchFailure request limit elapsed error)
    outcome.captured.stdout = [] ∧ outcome.captured.stderr = outcome.failureText ∧
      (outcome.failureText.bytes? = none → error.message.bytes? = none) := by
  refine ⟨rfl, rfl, fun none_ => ?_⟩
  cases has : error.message.bytes? with
  | none => rfl
  | some bytes =>
      have detail : ∃ bytes, Text.bytes? (if error.message.isEmpty then "launch failed"
          else error.message) = some bytes := by
        split
        · exact ⟨_, (Text.clean_ofChars _).bytes?⟩
        · exact ⟨bytes, has⟩
      obtain ⟨bytes, has⟩ := detail
      have opening : (("invocation failed (" : Text) ++
          (Outcome.launchFailureKind (.ofError error)).key ++ ("): " : Text)).Clean :=
        ((Text.clean_ofChars _).append (Text.clean_ofChars _)).append (Text.clean_ofChars _)
      have whole := Text.bytes?_append (Text.bytes?_append opening.bytes? has)
        (Text.clean_ofChars ['\n']).bytes?
      exact absurd (whole.symm.trans none_) (by simp)

/-- A command that gives a result was started once, and the result tells how it went. -/
theorem command_ok {request : Request} {listen : CommandEvent → Run Unit} {root : Path}
    {result : CommandResult} (talks : ∀ event, Talks (listen event))
    (place : request.cwd = some root)
    (ended : from_ (command host request listen) s = (.ok result, t)) :
    ∃ launch, t.launches = s.launches ++ [launch] ∧ launch.invocation.argv = request.argv ∧
      ((∃ error, (host.react s.launches.length launch.invocation launch.disk).1 =
            .error (.os error) ∧
          result = launchFailure request launch.invocation.limit (host.measured 0) error) ∨
        ∃ child, (host.react s.launches.length launch.invocation launch.disk).1 = .ok child ∧
          let watch := Watch.run child launch.invocation.limit launch.invocation.grace
          result = watchedResult request launch.invocation.limit (host.measured watch.clock) child
            watch) := by
  rcases from_command host talks place s with ⟨fault, -, stopped⟩ |
    ⟨cwd, sent, log, console, commandEvents, checkEvents, -, starts⟩
  · rw [stopped] at ended
    cases ended
  · refine ⟨⟨request.invocation host (some cwd), s.disk, sent⟩, ?_⟩
    dsimp only at starts ⊢
    cases reaction :
        (host.react s.launches.length (request.invocation host (some cwd)) s.disk).1 with
    | error fault =>
        rw [reaction] at starts
        cases fault with
        | os error =>
            rw [starts] at ended
            cases ended
            exact ⟨rfl, rfl, .inl ⟨error, rfl, rfl⟩⟩
        | _ =>
            rw [starts] at ended
            cases ended
    | ok child =>
        simp only [reaction] at starts
        rw [starts] at ended
        obtain ⟨_, u, passed, returned⟩ := from_bind_eq_ok ended
        cases returned
        refine ⟨?_, rfl, .inr ⟨child, rfl, rfl⟩⟩
        cases cut : (Watch.run child (request.invocation host (some cwd)).limit
            (request.invocation host (some cwd)).grace).cutBy with
        | none =>
            rw [cut] at passed
            cases passed
            rfl
        | some reason =>
            rw [cut] at passed
            obtain ⟨_, received, log, interrupted⟩ := from_interrupt reason
              { launched host s (request.invocation host (some cwd)) sent with
                log, console, commandEvents, checkEvents }
            have same := passed.symm.trans interrupted
            cases same
            rfl

/-- What an invocation asks of a command. -/
def invocationRequest (project : Project) (program : Path) (arguments : List Text) : Request where
  argv := program.text :: arguments
  domain := .artifactInvocation
  policy := Policy.standard .artifactInvocation
  cwd := some project.root
  bindings := none
  requested := project.layout.invocationLimit

/-- An invocation whose command has a result has the outcome of that result. -/
theorem from_invoke_of_command {program : Path} {arguments : List Text} {result : CommandResult}
    (ran : from_ (command host (invocationRequest project program arguments) fun _ => pure ()) s =
      (.ok result, t)) :
    ∃ log, from_ (invoke host project program arguments) s =
      (.ok (.ofResult result), { t with log }) := by
  have ended : from_ (invoke host project program arguments) s = _ := from_bind_ok ran _
  dsimp only at ended
  cases failure : (Outcome.ofResult result).failure with
  | some failure =>
      rw [failure] at ended
      exact ⟨_, ended⟩
  | none =>
      rw [failure] at ended
      exact ⟨t.log, ended⟩

/-- What an invocation keeps of both streams is what the command wrote, and after it the message of
a failure. Only the text that the system has for a refused start can be without bytes. -/
theorem invoke_ok {program : Path} {arguments : List Text} {outcome : Outcome}
    (invoked : from_ (invoke host project program arguments) s = (.ok outcome, t)) :
    ∃ launch, t.launches = s.launches ++ [launch] ∧
      outcome.captured.stdout = Text.decode (launch.written host s.launches.length).1 ∧
      outcome.captured.stderr =
        Text.decode (launch.written host s.launches.length).2 ++ outcome.failureText ∧
      (outcome.failureText.bytes? = none →
        ∃ error, (host.react s.launches.length launch.invocation launch.disk).1 =
            .error (.os error) ∧ error.message.bytes? = none) := by
  obtain ⟨result, u, ran, -⟩ := from_bind_eq_ok invoked
  obtain ⟨launch, launches, -, how⟩ := command_ok (fun _ => Talks.pure) rfl ran
  obtain ⟨log, ended⟩ := from_invoke_of_command ran
  cases invoked.symm.trans ended
  refine ⟨launch, launches, ?_⟩
  unfold Launch.written
  rcases how with ⟨error, refused, rfl⟩ | ⟨child, started, rfl⟩
  · rw [refused]
    obtain ⟨stdout, stderr, text⟩ := streams_launchFailure _ launch.invocation.limit
      (host.measured 0) error
    exact ⟨stdout, stderr, fun none_ => ⟨error, rfl, text none_⟩⟩
  · rw [started]
    obtain ⟨stdout, stderr, clean⟩ := streams_watchedResult _ launch.invocation.limit
      (host.measured (Watch.run child launch.invocation.limit launch.invocation.grace).clock) child
      (Watch.run child launch.invocation.limit launch.invocation.grace)
    refine ⟨stdout, stderr, fun none_ => ?_⟩
    rw [clean.bytes?] at none_
    cases none_

/-- A report that is saved is written as its file. -/
theorem saveReport_ok {path : Path} (saved : from_ (saveReport host path) s = (.ok (), t)) :
    ∃ disk : Disk, disk.writeFile host.cwd path s.report.fileBytes = .ok t.disk := by
  unfold saveReport at saved
  rw [from_get_bind] at saved
  obtain ⟨_, u, made, rest⟩ := from_bind_eq_ok saved
  obtain ⟨_, v, changed, logged⟩ := from_bind_eq_ok rest
  obtain ⟨disk, w, answered, stored⟩ := from_bind_eq_ok changed
  obtain ⟨written, rfl⟩ := ask_eq_ok answered
  cases stored
  cases logged
  exact ⟨_, written⟩

open Document (literalBytes?)

/-- **Report files keep the streams.** An output that an invocation kept stands in the file of a
report as two ASCII literals. Read by the rules of the format, they give back the bytes that the
command wrote, those of standard error with the message of a failure after them. That message has
bytes, unless the start was refused for a reason whose own text has none. -/
theorem stored_streams_lossless {program : Path} {arguments : List Text} {outcome : Outcome}
    {report : Report} {place : Nat} {result : CheckResult} {stage : Stage}
    (invoked : from_ (invoke host project program arguments) s = (.ok outcome, t))
    (recorded : report.results[place]? = some result)
    (kept : result.outputs.get stage = some outcome.captured) :
    ∃ launch stdout stderr,
      t.launches = s.launches ++ [launch] ∧
      report.Stores (Report.streamPath place stage "stdout") stdout ∧
      report.Stores (Report.streamPath place stage "stderr") stderr ∧
      literalBytes? stdout = some (launch.written host s.launches.length).1 ∧
      (∀ message, outcome.failureText.bytes? = some message →
        literalBytes? stderr = some ((launch.written host s.launches.length).2 ++ message)) ∧
      (outcome.failureText.bytes? = none →
        ∃ error, (host.react s.launches.length launch.invocation launch.disk).1 =
            .error (.os error) ∧
          ∃ text : Text, text.bytes? = none ∧
            (error = .plain text ∨ ∃ errno, error = .described errno text)) ∧
      ∀ path u v, u.report = report → from_ (saveReport host path) u = (.ok (), v) →
        ∃ disk : Disk, disk.writeFile host.cwd path report.fileBytes = .ok v.disk := by
  obtain ⟨launch, launches, stdout, stderr, message⟩ := invoke_ok invoked
  have out : report.document.at? (Report.streamPath place stage "stdout") =
      some (.text outcome.captured.stdout) := Report.at?_streamPath recorded kept "stdout"
  have err : report.document.at? (Report.streamPath place stage "stderr") =
      some (.text outcome.captured.stderr) := Report.at?_streamPath recorded kept "stderr"
  refine ⟨launch, _, _, launches, Report.stores_of_at? out, Report.stores_of_at? err, ?_, ?_, ?_, ?_⟩
  · rw [stdout]
    exact Document.literalBytes?_literal (Text.bytes?_decode _)
  · intro tail has
    rw [stderr]
    exact Document.literalBytes?_literal (Text.bytes?_append (Text.bytes?_decode _) has)
  · intro none_
    obtain ⟨error, refused, own⟩ := message none_
    exact ⟨error, refused, OsError.own_text_of_no_bytes own⟩
  · rintro path u v rfl saved
    exact saveReport_ok saved

/-- A child that writes a character above the basic plane, then bytes that do not decode, and does
not end by itself. -/
def garbled : Child :=
  { Child.quick with
    stdout := [0xF0, 0x9F, 0x98, 0x80, 0x80, 0xED, 0xA0, 0xBD]
    stderr := [0xF0, 0x9F]
    runtime := 1000 }

theorem written_garbled (nth : Nat) (launch : Launch) :
    launch.written (.always garbled) nth = (garbled.stdout, garbled.stderr) := by
  unfold Launch.written Watch.stdout Watch.stderr
  simp [Host.always, garbled, Child.quick]

theorem stored_streams_lossless_garbled :
    let project : Project := ⟨Path.ofText "/", .standard⟩
    let s := Session.start ⟨[]⟩ (Scratch.fresh none false)
    ∃ outcome t, from_ (invoke (.always garbled) project (Path.ofText "/cc") []) s = (.ok outcome, t) ∧
      let report := { Report.start "/" "noon" with
        results := [Comparison.check .version outcome outcome []] }
      ∃ stdout stderr,
        report.Stores (Report.streamPath 0 .one "stdout") stdout ∧
        report.Stores (Report.streamPath 0 .one "stderr") stderr ∧
        literalBytes? stdout = some [0xF0, 0x9F, 0x98, 0x80, 0x80, 0xED, 0xA0, 0xBD] ∧
        literalBytes? stderr = some ([0xF0, 0x9F] ++
          Text.encode "invocation failed (timed_out): no exit after 120.0s\n") := by
  intro project s
  let request := invocationRequest project (Path.ofText "/cc") []
  let host := Host.always garbled
  let invocation := request.invocation host (some project.root)
  let watch := Watch.run garbled invocation.limit invocation.grace
  have resolved : request.cwd.mapM (fun path => s.disk.resolve host.cwd path) =
      .ok (some project.root) := rfl
  have starts : (host.react s.launches.length invocation s.disk).1 = .ok garbled := rfl
  have quiet : ∀ event : CommandEvent, Talks ((fun _ => pure ()) event) := fun _ => Talks.pure
  obtain ⟨t, ran, -, -⟩ := from_command_uncut quiet resolved starts fun _ => rfl
  obtain ⟨log, ended⟩ := from_invoke_of_command ran
  let outcome := Outcome.ofResult (watchedResult request invocation.limit watch.clock garbled watch)
  refine ⟨outcome, _, ended, ?_⟩
  intro report
  have recorded : report.results[0]? = some (Comparison.check .version outcome outcome []) := rfl
  have kept : (Comparison.check .version outcome outcome []).outputs.get .one =
      some outcome.captured := rfl
  have message : outcome.failureText.bytes? =
      some (Text.encode "invocation failed (timed_out): no exit after 120.0s\n") := by
    decide +kernel
  obtain ⟨launch, stdout, stderr, -, out, err, outBytes, errBytes, -⟩ :=
    stored_streams_lossless ended recorded kept
  rw [written_garbled] at outBytes errBytes
  exact ⟨stdout, stderr, out, err, outBytes, errBytes _ message⟩

end Run

end StageParity
