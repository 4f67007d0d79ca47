import StageParity.Text.Glyph

/-!
# Switches

The switches of the command line, with their names and what the help says of them.
-/

namespace StageParity

inductive Switch where
  | help
  | workdir
  | verbose
  | report
  | version
deriving DecidableEq

namespace Switch

def program : String := "bootverify"

def release : String := "0.1.0"

def purpose : String := "Verify that a self-hosted Stage 1 compiler matches Stage 0"

def all : List Switch := [.help, .workdir, .verbose, .report, .version]

def names : Switch → List String
  | .help => ["-h", "--help"]
  | .workdir => ["--workdir", "-w"]
  | .verbose => ["--verbose", "-v"]
  | .report => ["--report"]
  | .version => ["--version"]

def placeholder? : Switch → Option String
  | .workdir => some "WORKDIR"
  | .report => some "REPORT"
  | .help | .verbose | .version => none

def takesValue (s : Switch) : Bool := s.placeholder?.isSome

def purposeOf : Switch → String
  | .help => "show this help message and exit"
  | .workdir => "Compiler project root to verify (default: current directory)"
  | .verbose => "Echo captured outputs as checks run and log at DEBUG level"
  | .report => "Also write the verification report as JSON to this path"
  | .version => "show program's version number and exit"

def withPlaceholder (s : Switch) (name : String) : String :=
  match s.placeholder? with
  | some placeholder => name ++ " " ++ placeholder
  | none => name

def brief (s : Switch) : String := "[" ++ s.withPlaceholder (s.names.headD "") ++ "]"

def header (s : Switch) : String := ", ".intercalate (s.names.map s.withPlaceholder)

def label (s : Switch) : String := "/".intercalate s.names

def table : List (Text × Switch) :=
  all.flatMap fun s => s.names.map fun name => (Text.ofString name, s)

def named? (name : Text) : Option Switch := table.lookup name

end Switch

end StageParity
