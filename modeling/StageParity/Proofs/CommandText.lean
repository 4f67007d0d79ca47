import StageParity.Proofs.LayoutSettings

/-!
# Command texts read back

Words are written one after the other with a blank between neighbours, each of them bare or in
single quotes, and a command text is cut by a machine that reads one glyph at a time. Started in
a gap, the machine reads a written word to its end and then stands outside quotes with just that
word in hand (`Shell.splitFrom_quoteWord`). So a command text gives its words back, and so does
a build command that is set to it.
-/

namespace StageParity

namespace Shell

variable {g : Glyph} {word : Text}

theorem ne_of_safe (safe : (g.char?.any isSafe) = true) (mark : Char) (special : isSafe mark = false) :
    g ≠ .char mark := by
  intro same
  rw [same] at safe
  exact Bool.false_ne_true (special.symm.trans safe)

theorem not_separates_of_safe (safe : (g.char?.any isSafe) = true) : separates g = false := by
  have space := ne_of_safe safe ' ' (by decide)
  have tab := ne_of_safe safe '\t' (by decide)
  have feed := ne_of_safe safe '\r' (by decide)
  have newline := ne_of_safe safe '\n' (by decide)
  simp [separates, space, tab, feed, newline]

theorem enter_of_safe (safe : (g.char?.any isSafe) = true) (word : Text) :
    enter word g = .bare (g :: word) := by
  rw [enter, if_neg (ne_of_safe safe '\\' (by decide)), if_neg (ne_of_safe safe '\'' (by decide)),
    if_neg (ne_of_safe safe '"' (by decide))]

/-- Safe glyphs go to the word in hand. -/
theorem splitFrom_bare_safe (safe : word.all (fun g => g.char?.any isSafe) = true)
    (before rest : Text) :
    splitFrom (.bare before) (word ++ rest) = splitFrom (.bare (word.reverse ++ before)) rest := by
  induction word generalizing before with
  | nil => rfl
  | cons g word ih =>
      rw [List.all_cons, Bool.and_eq_true] at safe
      have here : splitFrom (.bare before) (g :: (word ++ rest)) =
          splitFrom (.bare (g :: before)) (word ++ rest) := by
        rw [splitFrom, not_separates_of_safe safe.1, enter_of_safe safe.1]
        rfl
      rw [List.cons_append, here, ih safe.2, List.reverse_cons, List.append_assoc]
      rfl

/-- How a glyph is written between single quotes. -/
def inQuotes (g : Glyph) : Text := if g = .char '\'' then "'\"'\"'" else [g]

/-- A single quote is read by leaving the quotes, passing through double quotes, and coming
back. -/
theorem splitFrom_single_inQuotes (g : Glyph) (before rest : Text) :
    splitFrom (.single before) (inQuotes g ++ rest) = splitFrom (.single (g :: before)) rest := by
  by_cases quote : g = .char '\''
  · rw [inQuotes, if_pos quote, quote]
    rfl
  · rw [inQuotes, if_neg quote, List.singleton_append, splitFrom, if_neg quote]

theorem splitFrom_single (word before rest : Text) :
    splitFrom (.single before) (word.flatMap inQuotes ++ .char '\'' :: rest) =
      splitFrom (.bare (word.reverse ++ before)) rest := by
  induction word generalizing before with
  | nil => rw [List.flatMap_nil, List.nil_append, splitFrom, if_pos rfl]; rfl
  | cons g word ih =>
      rw [List.flatMap_cons, List.append_assoc, splitFrom_single_inQuotes, ih, List.reverse_cons,
        List.append_assoc]
      rfl

/-- From a gap a written word is read to its end. -/
theorem splitFrom_quoteWord (word rest : Text) :
    splitFrom .gap (quoteWord word ++ rest) = splitFrom (.bare word.reverse) rest := by
  cases word with
  | nil => rfl
  | cons g word =>
      by_cases safe : (g :: word).all (fun g => g.char?.any isSafe) = true
      · have bare : quoteWord (g :: word) = g :: word := by
          rw [quoteWord, if_pos safe]
          rfl
        rw [List.all_cons, Bool.and_eq_true] at safe
        have first : splitFrom .gap (g :: (word ++ rest)) = splitFrom (.bare [g]) (word ++ rest) := by
          rw [splitFrom, not_separates_of_safe safe.1, enter_of_safe safe.1]
          rfl
        rw [bare, List.cons_append, first, splitFrom_bare_safe safe.2, List.reverse_cons]
      · have quoted : quoteWord (g :: word) ++ rest =
            .char '\'' :: ((g :: word).flatMap inQuotes ++ .char '\'' :: rest) := by
          have form : quoteWord (g :: word) =
              .char '\'' :: (g :: word).flatMap inQuotes ++ [.char '\''] := by
            rw [quoteWord, if_neg safe]
            rfl
          rw [form, List.append_assoc, List.cons_append]
          rfl
        have opened : ∀ t, splitFrom .gap (.char '\'' :: t) = splitFrom (.single []) t := fun t => rfl
        rw [quoted, opened, splitFrom_single, List.append_nil]

theorem joinWords_cons (word next : Text) (words : List Text) :
    joinWords (word :: next :: words) =
      quoteWord word ++ .char ' ' :: joinWords (next :: words) := by
  simp only [joinWords, Text.join, List.map_cons, List.intercalate, List.intersperse_cons_cons,
    List.flatten_cons]
  rfl

/-- A command text gives its words back. -/
theorem splitWords_joinWords (words : List Text) : splitWords (joinWords words) = .ok words := by
  induction words with
  | nil => rfl
  | cons word words ih =>
      cases words with
      | nil =>
          have alone : joinWords [word] = quoteWord word ++ [] := by
            simp [joinWords, Text.join, List.intercalate]
          rw [splitWords, alone, splitFrom_quoteWord, splitFrom, List.reverse_reverse]
      | cons next words =>
          have blank : splitFrom (.bare word.reverse) (.char ' ' :: joinWords (next :: words)) =
              (do
                let words ← splitFrom .gap (joinWords (next :: words))
                return word.reverse.reverse :: words) := rfl
          rw [splitWords] at ih ⊢
          rw [joinWords_cons, splitFrom_quoteWord, blank, ih, List.reverse_reverse]
          rfl

end Shell

namespace Layout

open Yaml (Value)

/-- A build command set to the text of a command is that command, and a command without words is
refused as an empty one. -/
theorem buildCommand_of_joinWords (argv : List Text) :
    ofItems [(.text commandKey, .text (Shell.joinWords argv))] =
      if argv = [] then .error .commandEmpty else .ok { standard with buildCommand := argv } := by
  have read : Setting.ofPair (.text (commandKey : Text), .text (Shell.joinWords argv)) =
      Setting.wordsOf argv := by
    rw [Setting.ofPair_command, Setting.commandOf_text, Shell.splitWords_joinWords]
  by_cases empty : argv = []
  · have wrong : [(Value.text (commandKey : Text), Value.text (Shell.joinWords argv))].mapM
        Setting.ofPair = .error .commandEmpty := by
      apply mapM_cons_of_error
      rw [read, empty]
      rfl
    rw [ofItems_of_error wrong, if_pos empty]
  · have valid : [(Value.text (commandKey : Text), Value.text (Shell.joinWords argv))].mapM
        Setting.ofPair = .ok [.command argv] := by
      have some_ : argv.isEmpty = false := by simpa using empty
      rw [mapM_cons_of_ok (b := .command argv) (by rw [read, Setting.wordsOf, some_]; rfl)]
      rfl
    rw [ofItems_of_ok valid, if_neg empty]
    rfl

end Layout

end StageParity
