import StageParity.Check
import StageParity.Decimal.Read
import StageParity.Disk.Path
import StageParity.Process.Policy
import StageParity.Shell.Word
import StageParity.Yaml.Value

/-!
# Project layouts

Where the inputs of a run are found and what its outputs are called. A layout comes
from a mapping of settings; every setting that is not given has a standard value,
and some follow the name of the compiler.
-/

namespace StageParity

open Yaml (Value)

/-- The settings that are texts. -/
inductive TextField where
  | compiler
  | toolchain
  | builtBinary
  | selfHostedSource
  | sampleProgram
  | testDirName
  | installHint
deriving DecidableEq

namespace TextField

def all : List TextField :=
  [.compiler, .toolchain, .builtBinary, .selfHostedSource, .sampleProgram, .testDirName,
   .installHint]

def key : TextField → String
  | .compiler => "compiler"
  | .toolchain => "toolchain"
  | .builtBinary => "built_binary"
  | .selfHostedSource => "self_hosted_source"
  | .sampleProgram => "sample_program"
  | .testDirName => "test_dir_name"
  | .installHint => "toolchain_install_hint"

end TextField

def commandKey : String := "build_command"

def limitKey : Domain → String
  | .stageBuild => "build_timeout_seconds"
  | .artifactInvocation => "invocation_timeout_seconds"

/-- A valid setting. -/
inductive Setting where
  | text (field : TextField) (content : Text)
  | command (words : List Text)
  | limit (domain : Domain) (seconds : Option Float)
  /-- A setting that is not known. -/
  | extra (key value : Value)

/-- Why a mapping is no layout. -/
inductive LayoutError where
  | notText (key : String)
  | notNumber (key : String)
  | commandShape
  | commandEmpty
  | commandWords (error : Shell.SplitError)
  /-- A number is outside the range of floating-point numbers. -/
  | tooLarge
  | keyNotText
deriving DecidableEq

namespace LayoutError

def message : LayoutError → Text
  | .notText key => key ++ " must be a non-empty string"
  | .notNumber key => key ++ " must be a number"
  | .commandShape => "build_command must be a string or list of strings"
  | .commandEmpty => "build_command must not be empty"
  | .commandWords error => error.message
  | .tooLarge => "int too large to convert to float"
  | .keyNotText => ""

end LayoutError

def textValue? : Value → Option Text
  | .text t => some t
  | _ => none

namespace Setting

/-- The words of a build command, given as a text or as a list of texts. -/
def commandOf (value : Value) : Except LayoutError Setting := do
  let words ← match value with
    | .text t =>
      match Shell.splitWords t with
      | .ok words => pure words
      | .error error => throw (.commandWords error)
    | .list items =>
      match items.mapM textValue? with
      | some words => pure words
      | none => throw .commandShape
    | _ => throw .commandShape
  if words.isEmpty then throw .commandEmpty else return .command words

/-- A time limit: a number, or nothing for the limit of the domain. -/
def limitOf (domain : Domain) (value : Value) : Except LayoutError Setting :=
  match value with
  | .null => .ok (.limit domain none)
  | .float x => .ok (.limit domain (some x))
  | .int n =>
    match Decimal.ofInt? n with
    | some x => .ok (.limit domain (some x))
    | none => .error .tooLarge
  | _ => .error (.notNumber (limitKey domain))

/-- A text that must not be empty. -/
def textOf (field : TextField) (value : Value) : Except LayoutError Setting :=
  match textValue? value with
  | some (g :: rest) => .ok (.text field (g :: rest))
  | _ => .error (.notText field.key)

def ofPair (pair : Value × Value) : Except LayoutError Setting :=
  match textValue? pair.1 with
  | none => .ok (.extra pair.1 pair.2)
  | some key =>
    match TextField.all.find? fun field => Text.ofString field.key == key with
    | some field => textOf field pair.2
    | none =>
      if key = Text.ofString commandKey then commandOf pair.2
      else
        match [Domain.stageBuild, .artifactInvocation].find?
            fun domain => Text.ofString (limitKey domain) == key with
        | some domain => limitOf domain pair.2
        | none => .ok (.extra pair.1 pair.2)

def textFor? (field : TextField) : Setting → Option Text
  | .text f content => if f = field then some content else none
  | _ => none

def words? : Setting → Option (List Text)
  | .command words => some words
  | _ => none

def limitFor? (domain : Domain) : Setting → Option (Option Float)
  | .limit d seconds => if d = domain then some seconds else none
  | _ => none

def extra? : Setting → Option (Value × Value)
  | .extra key value => some (key, value)
  | _ => none

end Setting

structure Layout where
  compiler : Text
  toolchain : Text
  buildCommand : List Text
  builtBinary : Text
  selfHostedSource : Text
  sampleProgram : Text
  testDirName : Text
  buildLimit : Option Float
  invocationLimit : Option Float
  installHint : Text
  /-- The settings that are not known, in their order. -/
  extra : List (Value × Value)

namespace Layout

def binaryOf (compiler : Text) : Text := "target/release/" ++ compiler

def sourceOf (compiler : Text) : Text := compiler ++ "/src/main.ov"

def standardCompiler : Text := "oviec"

def standard : Layout where
  compiler := standardCompiler
  toolchain := "cargo"
  buildCommand := ["cargo", "build", "--release", "--workspace"].map Text.ofString
  builtBinary := binaryOf standardCompiler
  selfHostedSource := sourceOf standardCompiler
  sampleProgram := "examples/hello.ov"
  testDirName := "bootstrap_test"
  buildLimit := none
  invocationLimit := none
  installHint := "Install Rust: https://rustup.rs/"
  extra := []

def ofSettings (settings : List Setting) : Layout :=
  let text := fun (field : TextField) (fallback : Text) =>
    (settings.findSome? (Setting.textFor? field)).getD fallback
  let compiler := text .compiler standard.compiler
  { compiler
    toolchain := text .toolchain standard.toolchain
    buildCommand := (settings.findSome? Setting.words?).getD standard.buildCommand
    builtBinary := text .builtBinary (binaryOf compiler)
    selfHostedSource := text .selfHostedSource (sourceOf compiler)
    sampleProgram := text .sampleProgram standard.sampleProgram
    testDirName := text .testDirName standard.testDirName
    buildLimit := (settings.findSome? (Setting.limitFor? .stageBuild)).getD none
    invocationLimit := (settings.findSome? (Setting.limitFor? .artifactInvocation)).getD none
    installHint := text .installHint standard.installHint
    extra := settings.filterMap Setting.extra? }

/-- The layout of a mapping, the keys of which differ from one another. -/
def ofItems (items : List (Value × Value)) : Except LayoutError Layout := do
  let settings ← items.mapM Setting.ofPair
  let layout := ofSettings settings
  if layout.extra.all fun pair => (textValue? pair.1).isSome then return layout
  else throw .keyNotText

/-- A warning about unknown settings, if there are any, with their keys in order. -/
def unknownKeys? (layout : Layout) : Option Text :=
  if layout.extra.isEmpty then none
  else
    let keys := (layout.extra.filterMap fun pair => textValue? pair.1).mergeSort Text.le
    some ("Ignoring unknown layout keys: " ++ Text.join ", " keys)

def isStandard (l : Layout) : Bool :=
  l.compiler == standard.compiler && l.toolchain == standard.toolchain &&
    l.buildCommand == standard.buildCommand && l.builtBinary == standard.builtBinary &&
    l.selfHostedSource == standard.selfHostedSource && l.sampleProgram == standard.sampleProgram &&
    l.testDirName == standard.testDirName && l.buildLimit.isNone && l.invocationLimit.isNone &&
    l.installHint == standard.installHint

def stageName (l : Layout) (stage : Stage) : Text :=
  l.compiler ++ "_stage" ++ Text.ofNat stage.number

def resolve (root : Path) (relative : Text) : Path := root.child relative

end Layout

end StageParity
