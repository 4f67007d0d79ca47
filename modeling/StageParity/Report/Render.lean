import StageParity.Report.Basic
import StageParity.Text.Blank

/-!
# Rendered reports

A report as styled text. What a child wrote is always indented, so that it cannot pass
for a line of the report itself.
-/

namespace StageParity

inductive Style where
  | blue
  | boldBlue
  | bold
  | green
  | boldGreen
  | yellow
  | dim
  | red
  | boldRed
  | cyan
deriving DecidableEq

def Style.name : Style → String
  | .blue => "blue"
  | .boldBlue => "bold blue"
  | .bold => "bold"
  | .green => "green"
  | .boldGreen => "bold green"
  | .yellow => "yellow"
  | .dim => "dim"
  | .red => "red"
  | .boldRed => "bold red"
  | .cyan => "cyan"

/-- Whether a glyph never reaches a terminal: bell, backspace, vertical tab, form feed and
carriage return. -/
def isDropped : Glyph → Bool
  | .char c => c = '\x07' || c = '\x08' || c = '\x0b' || c = '\x0c' || c = '\r'
  | _ => false

/-- The text without the glyphs that never reach a terminal. -/
def Text.shown (t : Text) : Text := t.filter fun g => !isDropped g

structure Piece where
  text : Text
  style : Option Style
deriving DecidableEq

namespace Piece

def plain (t : Text) : Piece := ⟨t.shown, none⟩

def styled (style : Style) (t : Text) : Piece := ⟨t.shown, some style⟩

def join (pieces : List Piece) : Text := pieces.flatMap Piece.text

/-- The styled parts of pieces that start at an offset, with the offsets of their ends. -/
def spans (start : Nat) : List Piece → List (Nat × Nat × Style)
  | [] => []
  | piece :: rest =>
    let stop := start + piece.text.length
    match piece.style with
    | some style => (start, stop, style) :: spans stop rest
    | none => spans stop rest

end Piece

namespace Report

def rule : Text := List.replicate 76 (.char '=')

def line (t : Text) : Text := t ++ [.char '\n']

def maxLines : Nat := 40

/-- The lines of a text that are shown; at least one, and a last one that counts those
left out. -/
def shownLines (body : Text) : List Text :=
  match body.printable.lines with
  | [] => [[]]
  | lines =>
    if maxLines < lines.length then
      lines.take maxLines ++ ["... (" ++ Text.ofNat (lines.length - maxLines) ++ " more lines)"]
    else lines

def block (margin : Text) (body : Text) : List Piece :=
  (shownLines body).map fun t => .plain (line (margin ++ t))

def outputMargin : Text := "    | "

def textMargin : Text := "    "

def artifactLine (stage : Stage) : Option Artifact → Text
  | none => stage.label ++ ": not built"
  | some artifact =>
    stage.label ++ ": " ++ artifact.path.name ++ " (" ++
      (if artifact.built then Text.ofString "built" else "not built") ++
      (if artifact.delegated then Text.ofString ", delegated to Stage 0" else []) ++ ")"

def verdictStyle : Verdict → Style
  | .identical => .green
  | .differs => .yellow
  | .skipped => .dim

def outputPieces (stage : Stage) (kind : CheckKind) (output : Captured) : List Piece :=
  .plain (line ("  " ++ stage.label ++ " (exit " ++ Text.ofInt output.exitStatus ++ ", " ++
      Text.ofFloatFixed 3 output.duration ++ "s):")) ::
    if kind.stdoutOnly then
      block outputMargin output.stdout ++
        if output.stderr.isEmpty then []
        else .styled .dim (line "    stderr:") :: block outputMargin output.stderr
    else block outputMargin (output.stdout ++ output.stderr)

def failurePiece (stage : Stage) (failure : Failure) : Piece :=
  .styled .red (line ("  " ++ stage.label ++ " invocation failed (" ++ failure.kind.key ++ "): " ++
    failure.detail))

def stagePieces (result : CheckResult) (stage : Stage) : List Piece :=
  (match result.outputs.get stage with
    | some output => outputPieces stage result.kind output
    | none => []) ++
    (match result.failures.get stage with
      | some failure => [failurePiece stage failure]
      | none => [])

def digestPieces (result : CheckResult) : List Piece :=
  if result.hashes.zero.isEmpty then []
  else Stage.all.map fun stage =>
    .styled .dim (line ("  " ++ stage.label ++ " sha256: " ++ result.hashes.get stage))

/-- How long stage one took against stage zero. -/
def ratioPieces (result : CheckResult) : List Piece :=
  match result.durationRatio with
  | some ratio =>
    [.styled .dim (line ("  Stage 1 / Stage 0 time: " ++ Text.ofFloatFixed 2 ratio ++ "x"))]
  | none => []

def diffPieces (result : CheckResult) : List Piece :=
  if result.verdict = .differs ∧ result.diff ≠ [] then
    .styled .yellow (line "  Differences:") :: block textMargin result.diff
  else []

def notePieces (result : CheckResult) : List Piece :=
  if result.note.isEmpty then [] else [.styled .cyan (line ("  Note: " ++ result.note))]

def bodyPieces (result : CheckResult) : List Piece :=
  if result.verdict = .skipped then [.styled .dim (line ("  Skipped: " ++ result.note))]
  else
    Stage.all.flatMap (stagePieces result) ++ digestPieces result ++ ratioPieces result ++
      diffPieces result ++ notePieces result

def position (kind : CheckKind) : Text :=
  "[" ++ Text.ofNat (kind.index + 1) ++ "/" ++ Text.ofNat CheckKind.order.length ++ "]"

def checkPieces (r : Report) (kind : CheckKind) : List Piece :=
  .styled .bold (position kind ++ " " ++ kind.title ++ ": ") ::
    match r.resultFor kind with
    | none => [.styled .dim (line "NOT RUN")]
    | some result =>
      .styled (verdictStyle result.verdict) result.verdict.capitals ::
        .plain [.char '\n'] :: bodyPieces result

/-- An error that kept the run from passing: its first line as an item, the others below. -/
def fatalPieces (message : Text) : List Piece :=
  let (first, rest) := message.splitFirst (.char '\n')
  .styled .red (line ("  - " ++ first)) ::
    match rest with
    | none | some [] => []
    | some rest => block textMargin rest

/-- The status that is shown; without one, the run counts as failed. -/
def shownStatus (r : Report) : Status := r.status.getD .fail

def statusStyle : Status → Style
  | .pass => .boldGreen
  | .fail => .boldRed

def headPieces (r : Report) : List Piece :=
  [.styled .blue (line rule), .styled .boldBlue (line "BOOTSTRAP VERIFICATION REPORT"),
    .styled .blue (line rule), .plain (line ("Project: " ++ r.projectRoot)),
    .plain (line (artifactLine .zero r.artifacts.zero)),
    .plain (line (artifactLine .one r.artifacts.one)), .plain (line [])]

def errorPieces (r : Report) : List Piece :=
  (if r.fatalErrors.isEmpty then []
    else .styled .boldRed "\nFatal errors:\n" :: r.fatalErrors.flatMap fatalPieces) ++
    (if r.cleanupFailures.isEmpty then []
      else .styled .yellow "\nCleanup warnings:\n" ::
        r.cleanupFailures.map fun message => .plain (line ("  - " ++ message)))

def bannerPieces (r : Report) : List Piece :=
  [.styled .blue (line ("\n" ++ rule)),
    .styled (statusStyle r.shownStatus)
      (line ("Bootstrap Verification: " ++ r.shownStatus.capitals)),
    .styled .blue (line rule)]

def pieces (r : Report) : List Piece :=
  headPieces r ++ CheckKind.order.flatMap (checkPieces r) ++ errorPieces r ++ bannerPieces r

def plainText (r : Report) : Text := Piece.join r.pieces

end Report

end StageParity
