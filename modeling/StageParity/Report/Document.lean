import StageParity.Decimal.Shortest
import StageParity.Report.Basic
import StageParity.Text.Quoted

/-!
# Report files

A report as a tree of named values, and the text of such a tree. The text is pure
ASCII: every other character is written as an escape, a character above the basic
plane as two of them, and an undecodable byte as a lone low surrogate.
-/

namespace StageParity

/-- A tree of named values. -/
inductive Document where
  | null
  | bool (b : Bool)
  | int (n : Int)
  | float (x : Float)
  | text (t : Text)
  | list (items : List Document)
  | object (members : List (String × Document))

namespace Document

def ofOption {α : Type} (f : α → Document) : Option α → Document
  | some a => f a
  | none => .null

def unitEscape (n : Nat) : List Char := ['\\', 'u'] ++ hexDigits 4 n

def escapeChar (c : Char) : List Char :=
  if c = '"' then ['\\', '"']
  else if c = '\\' then ['\\', '\\']
  else if c = '\n' then ['\\', 'n']
  else if c = '\r' then ['\\', 'r']
  else if c = '\t' then ['\\', 't']
  else if c = '\x08' then ['\\', 'b']
  else if c = '\x0c' then ['\\', 'f']
  else if 0x20 ≤ c.toNat ∧ c.toNat < 0x7F then [c]
  else if c.toNat < 0x10000 then unitEscape c.toNat
  else
    let n := c.toNat - 0x10000
    unitEscape (0xD800 + n / 0x400) ++ unitEscape (0xDC00 + n % 0x400)

def escapeGlyph : Glyph → List Char
  | .char c => escapeChar c
  | g => unitEscape g.rank

def literal (t : Text) : List Char := ['"'] ++ t.flatMap escapeGlyph ++ ['"']

def newLine (depth : Nat) : List Char := '\n' :: List.replicate (2 * depth) ' '

/-- Entries between brackets, each on a line of its own. -/
def bracketed (opening closing : Char) (depth : Nat) (entries : List (List Char)) : List Char :=
  if entries.isEmpty then [opening, closing]
  else
    [opening] ++ [','].intercalate (entries.map fun entry => newLine (depth + 1) ++ entry) ++
      newLine depth ++ [closing]

def number (x : Float) : List Char := ((Text.ofFloat .file x).filterMap Glyph.char?)

mutual

def render (depth : Nat) : Document → List Char
  | .null => "null".toList
  | .bool true => "true".toList
  | .bool false => "false".toList
  | .int n => (Text.ofInt n).filterMap Glyph.char?
  | .float x => number x
  | .text t => literal t
  | .list items => bracketed '[' ']' depth (renderItems (depth + 1) items)
  | .object members => bracketed '\x7b' '\x7d' depth (renderMembers (depth + 1) members)

def renderItems (depth : Nat) : List Document → List (List Char)
  | [] => []
  | item :: rest => render depth item :: renderItems depth rest

def renderMembers (depth : Nat) : List (String × Document) → List (List Char)
  | [] => []
  | (key, value) :: rest =>
    (literal key ++ [':', ' '] ++ render depth value) :: renderMembers depth rest

end

def print (d : Document) : List Char := render 0 d

end Document

def Captured.document (c : Captured) : Document :=
  .object [("stdout", .text c.stdout), ("stderr", .text c.stderr),
    ("exit_status", .int c.exitStatus), ("duration_seconds", .float c.duration)]

def Failure.document (f : Failure) : Document :=
  .object [("kind", .text f.kind.key), ("detail", .text f.detail)]

def CheckResult.document (r : CheckResult) : Document :=
  .object [("kind", .text r.kind.key), ("verdict", .text r.verdict.key), ("fatal", .bool r.fatal),
    ("stage0_output", .ofOption Captured.document r.outputs.zero),
    ("stage1_output", .ofOption Captured.document r.outputs.one),
    ("stage0_failure", .ofOption Failure.document r.failures.zero),
    ("stage1_failure", .ofOption Failure.document r.failures.one),
    ("stage0_hash", .text r.hashes.zero), ("stage1_hash", .text r.hashes.one),
    ("duration_ratio", .ofOption .float r.durationRatio), ("diff", .text r.diff),
    ("note", .text r.note)]

def Artifact.document (a : Artifact) : Document :=
  .object [("stage", .int a.stage.number), ("executable_path", .text a.path.text),
    ("built", .bool a.built), ("delegated", .bool a.delegated), ("build_log", .text a.log)]

def Report.document (r : Report) : Document :=
  .object [("project_root", .text r.projectRoot),
    ("overall_status", .ofOption (fun (s : Status) => .text s.key) r.status),
    ("stage0", .ofOption Artifact.document r.artifacts.zero),
    ("stage1", .ofOption Artifact.document r.artifacts.one),
    ("results", .list (r.results.map CheckResult.document)),
    ("fatal_errors", .list (r.fatalErrors.map .text)),
    ("cleanup_failures", .list (r.cleanupFailures.map .text)),
    ("started_at", .text r.startedAt),
    ("completed_at", .ofOption .text r.completedAt)]

end StageParity
