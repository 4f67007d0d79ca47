import StageParity.Proofs.Artifacts
import StageParity.Proofs.ByteExact
import StageParity.Proofs.CommandText

/-!
# The script that stands in for stage one

A script is read by a shell, so it matters how the path of stage zero is written in it. A written
word is a row of pieces: safe characters, glyphs between single quotes, or a single quote between
double quotes (`Shell.Piece`). In none of them does a shell expand anything or end a word. The path
is such a row (`Shell.spells_quoteWord`), the rest of the script is the same for all paths, and what
is left on the disk is this script.
-/

namespace StageParity

namespace Shell

/-- A piece of a written word, and the glyphs that it stands for. -/
inductive Piece : Text → Text → Prop where
  | bare {word : Text} : word.all (fun g => g.char?.any isSafe) = true → Piece word word
  | single {word : Text} :
      .char '\'' ∉ word → Piece (.char '\'' :: (word ++ [.char '\''])) word
  | quote : Piece "\"'\"" "'"

/-- The written text is a row of pieces that together stand for the word. -/
inductive Spells : Text → Text → Prop where
  | nil : Spells [] []
  | cons {piece part written word : Text} :
      Piece piece part → Spells written word → Spells (piece ++ written) (part ++ word)

theorem Piece.spells {piece part : Text} (single : Piece piece part) : Spells piece part := by
  simpa using Spells.cons single .nil

theorem Piece.clean {piece part : Text} (single : Piece piece part) (clean : part.Clean) :
    piece.Clean := by
  cases single with
  | bare _ => exact clean
  | single _ =>
      have mark : Text.Clean [.char '\''] := by decide
      exact mark.append (clean.append mark)
  | quote => decide

theorem Spells.clean {written word : Text} (spells : Spells written word) (clean : word.Clean) :
    written.Clean := by
  induction spells with
  | nil => exact clean
  | cons piece _ ih =>
      have front := piece.clean fun g inside => clean g (List.mem_append_left _ inside)
      exact front.append (ih fun g inside => clean g (List.mem_append_right _ inside))

/-- Inside single quotes, the glyphs up to the first quote stand as they are, and the rest is a row
of pieces once the quotes are closed. -/
theorem exists_inQuotes (word : Text) :
    ∃ part more written, word = part ++ more ∧ .char '\'' ∉ part ∧ Spells written more ∧
      word.flatMap inQuotes ++ [.char '\''] = part ++ .char '\'' :: written := by
  induction word with
  | nil => exact ⟨[], [], [], rfl, by simp, .nil, rfl⟩
  | cons g word ih =>
      obtain ⟨part, more, written, whole, plain, spells, closed⟩ := ih
      rw [List.flatMap_cons, List.append_assoc, closed]
      by_cases mark : g = .char '\''
      · -- A quote ends the part: it is a piece of its own, and the next piece opens again.
        have row := Spells.cons .quote (.cons (.single plain) spells)
        rw [← whole] at row
        subst mark
        exact ⟨[], _, _, rfl, by simp, row, by simp [inQuotes, Text.ofString]⟩
      · refine ⟨g :: part, more, written, by simp [whole], ?_, spells, by simp [inQuotes, mark]⟩
        simp [plain, Ne.symm mark]

/-- A quoted word is spelled out piece by piece. -/
theorem spells_quoteWord (word : Text) : Spells (quoteWord word) word := by
  unfold quoteWord
  by_cases empty : word.isEmpty
  · rw [if_pos empty, List.isEmpty_iff.mp empty]
    have quotes : Piece "''" [] := .single List.not_mem_nil
    exact quotes.spells
  · rw [if_neg empty]
    by_cases safe : word.all (fun g => g.char?.any isSafe) = true
    · rw [if_pos safe]
      exact (Piece.bare safe).spells
    · rw [if_neg safe]
      obtain ⟨part, more, written, whole, plain, spells, closed⟩ := exists_inQuotes word
      have row := Spells.cons (.single plain) spells
      rw [← whole, List.cons_append, List.append_assoc, List.singleton_append, ← closed] at row
      exact row

end Shell

namespace Path

theorem head?_text_of_absolute {p : Path} (absolute : p.isAbsolute = true) :
    p.text.head? = some slash := by
  obtain ⟨anchor, names⟩ := p
  cases anchor with
  | relative => cases absolute
  | root => rfl
  | doubleRoot => rfl

theorem isAbsolute_absolute (place : List Text) (p : Path) :
    (absolute ⟨.root, place⟩ p).isAbsolute = true := by
  unfold absolute join
  by_cases rooted : p.isAbsolute = true
  · rw [if_pos rooted]
    exact rooted
  · rw [if_neg rooted]
    rfl

end Path

theorem Text.Clean.strays? {t : Text} (clean : t.Clean) : Disk.strays? t = none := by
  unfold Disk.strays?
  rw [List.dropWhile_eq_nil_iff.mpr clean]

theorem Disk.writeText_of_clean {d : Disk} {t : Text} (clean : t.Clean) (cwd : Location)
    (p : Path) :
    d.writeText cwd p t = match d.writeFile cwd p t.encode with
      | .ok after => (after, none)
      | .error fault => (d, some fault) := by
  cases written : d.writeFile cwd p t.encode with
  | ok after => simp [writeText, writeUnless, clean.strays?, written]
  | error fault => simp [writeText, writeUnless, clean.strays?, written]

theorem clean_delegationScript {path : Text} (clean : path.Clean) :
    (delegationScript path).Clean := by
  have head : delegationHead.Clean := (Text.clean_ofChars _).append (Text.clean_ofChars _)
  have verb : Text.Clean "exec " := by decide
  have rest : Text.Clean " \"$@\"\n" := by decide
  exact ((head.append verb).append ((Shell.spells_quoteWord path).clean clean)).append rest

/-- The last line of the script. -/
def delegationCommand (path : Text) : Text := "exec " ++ Shell.quoteWord path ++ " \"$@\"\n"

/-- The command of a script has three words, whatever the path. -/
theorem splitWords_delegationCommand (path : Text) :
    Shell.splitWords (delegationCommand path) = .ok ["exec", path, "$@"] := by
  have verb : ∀ rest, Shell.splitFrom .gap (Text.ofString "exec " ++ rest) = (do
      let words ← Shell.splitFrom .gap rest
      return Text.ofString "exec" :: words) := fun rest => rfl
  have arguments : Shell.splitFrom (.bare path.reverse) (Text.ofString " \"$@\"\n") =
      .ok [path.reverse.reverse, "$@"] := rfl
  rw [Shell.splitWords, delegationCommand, List.append_assoc, verb, Shell.splitFrom_quoteWord,
    arguments, List.reverse_reverse]
  rfl

namespace Run

variable {host : Host} {project : Project} {zero : Artifact} {target : Path} {script : Text}

/-- What happens after the script is in place. -/
def noteScript (host : Host) (project : Project) (zero : Artifact) (target : Path) :
    Run Artifact := do
  keepBuildLog host .one (delegationLog host project zero)
  return ⟨.one, target, true, delegationLog host project zero, true⟩

/-- A stage one without a source is this script: its bytes are the file at the target, which
everyone may run, and then only the log is kept. Where they cannot be written, the build fails and
the disk is as before. -/
structure Leaves (host : Host) (project : Project) (zero : Artifact) (target : Path)
    (script : Text) : Prop where
  written : ∀ s after, s.disk.writeFile host.cwd target script.encode = .ok after →
    ∃ marked : Disk, marked.RunsAs host.cwd target script.encode ∧
      from_ (delegate host project zero target) s =
        from_ (noteScript host project zero target)
          { s.said .warning (delegationMessage project) with disk := marked }
  refused : ∀ s fault, s.disk.writeFile host.cwd target script.encode = .error fault →
    ∃ stop, from_ (delegate host project zero target) s =
      (.error stop, s.said .warning (delegationMessage project))
  readBack : Text.decode script.encode = script

theorem leaves_delegationScript (clean : (delegatedPath host zero).Clean) :
    Leaves host project zero target (delegationScript (delegatedPath host zero)) := by
  have whole := clean_delegationScript clean
  refine ⟨fun s after written => ?_, fun s fault refused => ?_, ?_⟩
  · obtain ⟨marked, done, runs⟩ := Disk.runsAs_of_writeFile written
    have text : s.disk.writeText host.cwd target (delegationScript (delegatedPath host zero)) =
        (after, none) := by
      rw [Disk.writeText_of_clean whole, written]
    have put := from_putScript_ok (s := s.said .warning (delegationMessage project)) text done
    refine ⟨marked, runs, ?_⟩
    rw [from_delegate]
    exact from_bind_ok (from_buildPart_of_ok put _ _ _) _
  · have text : s.disk.writeText host.cwd target (delegationScript (delegatedPath host zero)) =
        (s.disk, some fault) := by
      rw [Disk.writeText_of_clean whole, refused]
    have stopped := from_putScript_error (s := s.said .warning (delegationMessage project)) text
    rw [from_delegate]
    cases fault with
    | os error => exact ⟨_, from_bind_error (from_buildPart_of_system stopped _ _ _) _⟩
    | _ =>
        exact ⟨_, from_bind_error (from_buildPart_of_foreign stopped (fun _ => by simp) _ _ _) _⟩
  · simpa using whole.decode_encode_append []

/-- The fixed lines of a script, all of which a shell skips. -/
def skippedLines : List Text :=
  ["#!/bin/sh", "# Delegation artifact: self-hosted source not available.",
    "# Forwards arguments, input, output and exit status to Stage 0 unchanged."]

theorem delegationHead_eq :
    delegationHead = skippedLines.flatMap fun line => line ++ Text.ofString "\n" := by
  have joined : ∀ a b, Text.ofString a ++ Text.ofString b = Text.ofString (a ++ b) := by
    simp [Text.ofString]
  simp only [skippedLines, delegationHead, List.flatMap_cons, List.flatMap_nil, List.append_nil,
    joined, String.reduceAppend]

theorem skippedLines_comment : ∀ line ∈ skippedLines, line.head? = some (.char '#') ∧
    .char '\n' ∉ line := by
  simp [skippedLines, Text.ofString]

/-- **The script names just stage zero.** Let the path of stage zero be text. The script that stands
in for stage one starts with three fixed lines, each a comment for the shell; the rest is one command
with the words `exec`, the path from the root, and the arguments between double quotes. The path is
spelled out in pieces that a shell takes as they are, and no glyph of it is outside of them. -/
theorem delegate_names_only_zero (host : Host) (project : Project) (zero : Artifact)
    (target : Path) (clean : (delegatedPath host zero).Clean) :
    let path := delegatedPath host zero
    let written := Shell.quoteWord path
    let command := "exec " ++ written ++ " \"$@\"\n"
    Leaves host project zero target
        ((skippedLines.flatMap fun line => line ++ Text.ofString "\n") ++ command) ∧
      (skippedLines.head? = some "#!/bin/sh" ∧
        ∀ line ∈ skippedLines, line.head? = some (.char '#') ∧ .char '\n' ∉ line) ∧
      Shell.Spells written path ∧
      Shell.splitWords command = .ok ["exec", path, "$@"] ∧
      path.head? = some Path.slash := by
  intro path written command
  refine ⟨?_, ⟨rfl, skippedLines_comment⟩, Shell.spells_quoteWord path, splitWords_delegationCommand path,
    Path.head?_text_of_absolute (Path.isAbsolute_absolute host.cwd zero.path)⟩
  have whole : delegationScript path = delegationHead ++ command := by
    simp only [delegationScript, command, written, List.append_assoc]
  rw [← delegationHead_eq, ← whole]
  exact leaves_delegationScript clean

/-- A stage zero whose path is full of what a shell would read otherwise. -/
def oddZero : Artifact := ⟨.zero, ⟨.relative, ["..", "a'b $c `d` \x7b\x7d\né"]⟩, true, [], false⟩

theorem delegate_names_only_zero_odd :
    let host := Host.always Child.quick
    let written := Text.ofString "'/a'\"'\"'b $c `d` \x7b\x7d\né'"
    (delegatedPath host oddZero).Clean ∧
      Leaves host plainProject oddZero (Path.ofText "/tmp/oviec_stage1")
        (delegationHead ++ ("exec " ++ written ++ " \"$@\"\n")) ∧
      Shell.splitWords ("exec " ++ written ++ " \"$@\"\n") =
        .ok ["exec", "/a'b $c `d` \x7b\x7d\né", "$@"] := by
  intro host written
  have named : delegatedPath host oddZero = "/a'b $c `d` \x7b\x7d\né" := by decide +kernel
  have spelled : Shell.quoteWord "/a'b $c `d` \x7b\x7d\né" = written := by decide +kernel
  have clean : (delegatedPath host oddZero).Clean := by rw [named]; exact Text.clean_ofChars _
  obtain ⟨leaves, -, -, words, -⟩ :=
    delegate_names_only_zero host plainProject oddZero (Path.ofText "/tmp/oviec_stage1") clean
  rw [named, spelled, ← delegationHead_eq] at leaves
  rw [named, spelled] at words
  exact ⟨clean, leaves, words⟩

end Run

end StageParity
