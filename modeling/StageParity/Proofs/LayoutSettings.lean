import StageParity.Layout.Basic
import Mathlib.Tactic.Common

/-!
# Settings that a layout accepts

A mapping is read pair by pair. A known key asks something of its value (`Setting.Fits`), and
the first value that does not fit rejects the mapping; unknown keys take any value. Two
rejections are told apart from the others, as they are not among the faults of a settings file
that a project recovers from: a time limit that no floating-point number comes close to
(`Layout.Oversized`), and an unknown key that is no text (`Layout.Unnamed`).
-/

namespace StageParity

open Yaml (Value)

/-- A partial inverse applied to a list gives the list that it came from. -/
theorem mapM_eq_some_iff {α β : Type} {f : α → Option β} {g : β → α}
    (inverse : ∀ {a b}, f a = some b ↔ a = g b) {xs : List α} {ys : List β} :
    xs.mapM f = some ys ↔ xs = ys.map g := by
  induction xs generalizing ys with
  | nil => cases ys <;> simp
  | cons x xs ih =>
    simp only [List.mapM_cons, Option.bind_eq_bind, Option.bind_eq_some_iff, inverse, ih,
      Option.pure_def, Option.some.injEq]
    cases ys <;> simp

theorem textValue?_eq_some {value : Value} {t : Text} :
    textValue? value = some t ↔ value = .text t := by
  cases value <;> simp [textValue?]

theorem Text.chars?_eq_some {t : Text} {cs : List Char} : t.chars? = some cs ↔ t = ofChars cs := by
  refine mapM_eq_some_iff fun {g c} => ?_
  cases g <;> simp [Glyph.char?]

namespace Setting

/-- What a known key asks of its value. Any value may stand for an unknown key. -/
structure Fits (key value : Value) : Prop where
  text : ∀ field : TextField, key = .text (field.key : Text) → ∃ g t, value = .text (g :: t)
  command : key = .text (commandKey : Text) →
    (∃ t words, value = .text t ∧ Shell.splitWords t = .ok words ∧ words ≠ []) ∨
      ∃ words, value = .list (words.map .text) ∧ words ≠ []
  limit : ∀ domain, key = .text (limitKey domain : Text) →
    value = .null ∨ (∃ x, value = .float x) ∨ ∃ n x, value = .int n ∧ Decimal.ofInt? n = some x

/-- A time limit that is a whole number out of the range of floating-point numbers. -/
def Oversized (key value : Value) : Prop :=
  ∃ domain n, key = .text (limitKey domain : Text) ∧ value = .int n ∧ Decimal.ofInt? n = none

/-- A key that names no setting. -/
structure Unknown (key : Value) : Prop where
  field : ∀ field : TextField, key ≠ .text (field.key : Text)
  command : key ≠ .text (commandKey : Text)
  limit : ∀ domain, key ≠ .text (limitKey domain : Text)

theorem ofPair_field (field : TextField) (value : Value) :
    ofPair (.text (field.key : Text), value) = textOf field value := by
  cases field <;> rfl

theorem ofPair_command (value : Value) :
    ofPair (.text (commandKey : Text), value) = commandOf value := rfl

theorem ofPair_limit (domain : Domain) (value : Value) :
    ofPair (.text (limitKey domain : Text), value) = limitOf domain value := by
  cases domain <;> rfl

/-- A key names one of the settings or is unknown. -/
theorem key_cases (key : Value) :
    (∃ field : TextField, key = .text (field.key : Text)) ∨ key = .text (commandKey : Text) ∨
      (∃ domain, key = .text (limitKey domain : Text)) ∨ Unknown key := by
  by_cases field : ∃ field : TextField, key = .text (field.key : Text)
  · exact .inl field
  by_cases command : key = .text (commandKey : Text)
  · exact .inr (.inl command)
  by_cases limit : ∃ domain, key = .text (limitKey domain : Text)
  · exact .inr (.inr (.inl limit))
  · exact .inr (.inr (.inr ⟨not_exists.mp field, command, not_exists.mp limit⟩))

theorem ofPair_unknown {key : Value} (unknown : Unknown key) (value : Value) :
    ofPair (key, value) = .ok (.extra key value) := by
  unfold ofPair
  cases named : textValue? key with
  | none => rfl
  | some t =>
    obtain rfl := textValue?_eq_some.mp named
    have noField : (TextField.all.find? fun field => Text.ofString field.key == t) = none := by
      refine List.find?_eq_none.mpr fun field _ same => unknown.field field ?_
      rw [beq_iff_eq.mp same]
    have noCommand : t ≠ Text.ofString commandKey := fun same => unknown.command (same ▸ rfl)
    have noLimit : ([Domain.stageBuild, .artifactInvocation].find?
        fun domain => Text.ofString (limitKey domain) == t) = none := by
      refine List.find?_eq_none.mpr fun domain _ same => unknown.limit domain ?_
      rw [beq_iff_eq.mp same]
    simp only [noField, if_neg noCommand, noLimit]

theorem textOf_ok_iff {field : TextField} {value : Value} :
    (∃ setting, textOf field value = .ok setting) ↔ ∃ g t, value = .text (g :: t) := by
  unfold textOf
  cases value with
  | text t => cases t <;> simp [textValue?]
  | _ => simp [textValue?]

/-- The words of a command, if there are any. -/
def wordsOf (words : List Text) : Except LayoutError Setting :=
  if words.isEmpty then .error .commandEmpty else .ok (.command words)

theorem commandOf_text (t : Text) :
    commandOf (.text t) = match Shell.splitWords t with
      | .ok words => wordsOf words
      | .error error => .error (.commandWords error) := by
  unfold commandOf
  dsimp only
  cases Shell.splitWords t <;> rfl

theorem commandOf_list (items : List Value) :
    commandOf (.list items) = match items.mapM textValue? with
      | some words => wordsOf words
      | none => .error .commandShape := by
  unfold commandOf
  dsimp only
  cases items.mapM textValue? <;> rfl

theorem wordsOf_ok_iff {words : List Text} :
    (∃ setting, wordsOf words = .ok setting) ↔ words ≠ [] := by
  unfold wordsOf
  cases words <;> simp

theorem commandOf_ok_iff {value : Value} :
    (∃ setting, commandOf value = .ok setting) ↔
      (∃ t words, value = .text t ∧ Shell.splitWords t = .ok words ∧ words ≠ []) ∨
        ∃ words, value = .list (words.map .text) ∧ words ≠ [] := by
  cases value with
  | text t =>
    rw [commandOf_text]
    cases split : Shell.splitWords t with
    | error error => simp [split]
    | ok words => simp [split, wordsOf_ok_iff]
  | list items =>
    rw [commandOf_list]
    cases split : items.mapM textValue? with
    | none =>
      have other : ∀ words : List Text, items ≠ words.map .text := fun words same => by
        simp [(mapM_eq_some_iff textValue?_eq_some).mpr same] at split
      simp [other]
    | some words =>
      simp only [wordsOf_ok_iff, reduceCtorEq, Value.list.injEq, false_and, exists_false, false_or,
        ← mapM_eq_some_iff textValue?_eq_some, split, Option.some.injEq, exists_eq_left']
  | _ => exact iff_of_false (fun ⟨_, ok⟩ => by cases ok) (by simp)

theorem limitOf_ok_iff {domain : Domain} {value : Value} :
    (∃ setting, limitOf domain value = .ok setting) ↔
      value = .null ∨ (∃ x, value = .float x) ∨
        ∃ n x, value = .int n ∧ Decimal.ofInt? n = some x := by
  cases value with
  | int n => cases range : Decimal.ofInt? n <;> simp [limitOf, range]
  | _ => simp [limitOf]

/-- A pair is a valid setting exactly when its value fits its key. -/
theorem ofPair_ok_iff {key value : Value} :
    (∃ setting, ofPair (key, value) = .ok setting) ↔ Fits key value := by
  constructor
  · intro valid
    refine ⟨?_, ?_, ?_⟩
    · rintro field rfl
      exact textOf_ok_iff.mp (ofPair_field field value ▸ valid)
    · rintro rfl
      exact commandOf_ok_iff.mp (ofPair_command value ▸ valid)
    · rintro domain rfl
      exact limitOf_ok_iff.mp (ofPair_limit domain value ▸ valid)
  · intro fits
    rcases key_cases key with ⟨field, rfl⟩ | rfl | ⟨domain, rfl⟩ | unknown
    · rw [ofPair_field]
      exact textOf_ok_iff.mpr (fits.text field rfl)
    · rw [ofPair_command]
      exact commandOf_ok_iff.mpr (fits.command rfl)
    · rw [ofPair_limit]
      exact limitOf_ok_iff.mpr (fits.limit domain rfl)
    · exact ⟨_, ofPair_unknown unknown value⟩

theorem textOf_error {field : TextField} {value : Value} {error : LayoutError}
    (wrong : textOf field value = .error error) : error = .notText field.key := by
  unfold textOf at wrong
  split at wrong
  · cases wrong
  · exact (Except.error.inj wrong).symm

theorem wordsOf_error {words : List Text} {error : LayoutError}
    (wrong : wordsOf words = .error error) : error = .commandEmpty := by
  unfold wordsOf at wrong
  split at wrong
  · exact (Except.error.inj wrong).symm
  · cases wrong

theorem commandOf_error {value : Value} {error : LayoutError}
    (wrong : commandOf value = .error error) :
    error = .commandShape ∨ error = .commandEmpty ∨ ∃ reason, error = .commandWords reason := by
  cases value with
  | text t =>
    rw [commandOf_text] at wrong
    split at wrong
    · exact .inr (.inl (wordsOf_error wrong))
    · exact .inr (.inr ⟨_, (Except.error.inj wrong).symm⟩)
  | list items =>
    rw [commandOf_list] at wrong
    split at wrong
    · exact .inr (.inl (wordsOf_error wrong))
    · exact .inl (Except.error.inj wrong).symm
  | _ => exact .inl (Except.error.inj wrong).symm

theorem limitOf_error {domain : Domain} {value : Value} {error : LayoutError}
    (wrong : limitOf domain value = .error error) :
    (error = .tooLarge ∧ ∃ n, value = .int n ∧ Decimal.ofInt? n = none) ∨
      error = .notNumber (limitKey domain) := by
  cases value with
  | int n =>
    cases range : Decimal.ofInt? n with
    | none => simp_all [limitOf]
    | some x => simp [limitOf, range] at wrong
  | _ => simp_all [limitOf]

/-- The fault of a pair lies in its value: it is too large only as an oversized time limit. -/
theorem ofPair_error {key value : Value} {error : LayoutError}
    (wrong : ofPair (key, value) = .error error) :
    error ≠ .keyNotText ∧ (error = .tooLarge → Oversized key value) := by
  rcases key_cases key with ⟨field, rfl⟩ | rfl | ⟨domain, rfl⟩ | unknown
  · rw [ofPair_field] at wrong
    obtain rfl := textOf_error wrong
    simp
  · rw [ofPair_command] at wrong
    rcases commandOf_error wrong with rfl | rfl | ⟨reason, rfl⟩ <;> simp
  · rw [ofPair_limit] at wrong
    obtain ⟨rfl, n, whole, range⟩ | rfl := limitOf_error wrong
    · exact ⟨by simp, fun _ => ⟨domain, n, rfl, whole, range⟩⟩
    · simp
  · simp [ofPair_unknown unknown] at wrong

/-- A pair is too large exactly when it is an oversized time limit. -/
theorem ofPair_tooLarge_iff {key value : Value} :
    ofPair (key, value) = .error .tooLarge ↔ Oversized key value := by
  constructor
  · exact fun wrong => (ofPair_error wrong).2 rfl
  · rintro ⟨domain, n, rfl, rfl, range⟩
    rw [ofPair_limit]
    simp [limitOf, range]

theorem ofPair_ne_keyNotText (pair : Value × Value) : ofPair pair ≠ .error .keyNotText :=
  fun wrong => (ofPair_error wrong).1 rfl

/-- An unknown setting keeps its pair, and a pair whose key is no text is unknown. -/
theorem extra?_of_ofPair {pair : Value × Value} {setting : Setting}
    (valid : ofPair pair = .ok setting) (unnamed : textValue? pair.1 = none) :
    setting.extra? = some pair := by
  obtain rfl : Setting.extra pair.1 pair.2 = setting := by simpa [ofPair, unnamed] using valid
  rfl

theorem textOf_ok {field : TextField} {value : Value} {setting : Setting}
    (valid : textOf field value = .ok setting) : setting.extra? = none := by
  unfold textOf at valid
  split at valid
  · obtain rfl := Except.ok.inj valid
    rfl
  · cases valid

theorem wordsOf_ok {words : List Text} {setting : Setting}
    (valid : wordsOf words = .ok setting) : setting.extra? = none := by
  unfold wordsOf at valid
  split at valid
  · cases valid
  · obtain rfl := Except.ok.inj valid
    rfl

theorem commandOf_ok {value : Value} {setting : Setting}
    (valid : commandOf value = .ok setting) : setting.extra? = none := by
  cases value with
  | text t =>
    rw [commandOf_text] at valid
    split at valid
    · exact wordsOf_ok valid
    · cases valid
  | list items =>
    rw [commandOf_list] at valid
    split at valid
    · exact wordsOf_ok valid
    · cases valid
  | _ => cases valid

theorem limitOf_ok {domain : Domain} {value : Value} {setting : Setting}
    (valid : limitOf domain value = .ok setting) : setting.extra? = none := by
  unfold limitOf at valid
  split at valid
  · obtain rfl := Except.ok.inj valid
    rfl
  · obtain rfl := Except.ok.inj valid
    rfl
  · split at valid
    · obtain rfl := Except.ok.inj valid
      rfl
    · cases valid
  · cases valid

theorem eq_of_extra? {pair given : Value × Value} {setting : Setting}
    (valid : ofPair pair = .ok setting) (extra : setting.extra? = some given) : given = pair := by
  obtain ⟨key, value⟩ := pair
  rcases key_cases key with ⟨field, rfl⟩ | rfl | ⟨domain, rfl⟩ | unknown
  · rw [ofPair_field] at valid
    simp [textOf_ok valid] at extra
  · rw [ofPair_command] at valid
    simp [commandOf_ok valid] at extra
  · rw [ofPair_limit] at valid
    simp [limitOf_ok valid] at extra
  · rw [ofPair_unknown unknown] at valid
    obtain rfl := Except.ok.inj valid
    exact (Option.some.inj extra).symm

end Setting

section

variable {ε α β : Type} {f : α → Except ε β}

theorem mapM_cons_of_error {x : α} {xs : List α} {error : ε} (first : f x = .error error) :
    (x :: xs).mapM f = .error error := by
  rw [List.mapM_cons, first]
  rfl

theorem mapM_cons_of_ok {x : α} {xs : List α} {b : β} (first : f x = .ok b) :
    (x :: xs).mapM f = (xs.mapM f).map (b :: ·) := by
  rw [List.mapM_cons, first]
  cases xs.mapM f <;> rfl

/-- A list of steps fails as the first of them that fails. -/
theorem mapM_eq_error_iff {xs : List α} {error : ε} :
    xs.mapM f = .error error ↔
      ∃ before x after, xs = before ++ x :: after ∧ (∀ y ∈ before, ∃ b, f y = .ok b) ∧
        f x = .error error := by
  induction xs with
  | nil => simp [pure, Except.pure]
  | cons x xs ih =>
    cases first : f x with
    | error other =>
      rw [mapM_cons_of_error first]
      constructor
      · intro same
        obtain rfl := Except.error.inj same
        exact ⟨[], x, xs, rfl, by simp, first⟩
      · rintro ⟨_ | ⟨z, before⟩, y, after, shape, passed, failed⟩
        · obtain ⟨rfl, -⟩ := List.cons.inj shape
          rw [Except.error.inj (first.symm.trans failed)]
        · obtain ⟨rfl, -⟩ := List.cons.inj shape
          simp [first] at passed
    | ok b =>
      rw [mapM_cons_of_ok first]
      constructor
      · intro failed
        obtain ⟨before, y, after, rfl, passed, failed⟩ := ih.mp (by
          cases rest : xs.mapM f with
          | error other => rw [rest] at failed; exact congrArg _ (Except.error.inj failed)
          | ok ys => rw [rest] at failed; cases failed)
        exact ⟨x :: before, y, after, rfl, by simpa [first] using passed, failed⟩
      · rintro ⟨_ | ⟨z, before⟩, y, after, shape, passed, failed⟩
        · obtain ⟨rfl, -⟩ := List.cons.inj shape
          simp [first] at failed
        · obtain ⟨rfl, rfl⟩ := List.cons.inj shape
          rw [ih.mpr ⟨before, y, after, rfl, fun w mem => passed w (.tail _ mem), failed⟩]
          rfl

/-- When all steps pass, their answers are those of the list. -/
theorem mem_of_mapM_eq_ok {xs : List α} {ys : List β} (passed : xs.mapM f = .ok ys) :
    ∀ y, y ∈ ys ↔ ∃ x ∈ xs, f x = .ok y := by
  induction xs generalizing ys with
  | nil =>
    obtain rfl : [] = ys := Except.ok.inj passed
    simp
  | cons x xs ih =>
    cases first : f x with
    | error => simp [mapM_cons_of_error first] at passed
    | ok b =>
      rw [mapM_cons_of_ok first] at passed
      cases rest : xs.mapM f with
      | error => simp [rest, Except.map] at passed
      | ok zs =>
        obtain rfl : b :: zs = ys := by simpa [rest, Except.map] using passed
        simp [first, ih rest, eq_comm]

theorem mapM_ok_iff {xs : List α} :
    (∃ ys, xs.mapM f = .ok ys) ↔ ∀ x ∈ xs, ∃ b, f x = .ok b := by
  induction xs with
  | nil => simp [pure, Except.pure]
  | cons x xs ih =>
    cases first : f x with
    | error => simp [mapM_cons_of_error first, first]
    | ok b =>
      rw [mapM_cons_of_ok first, List.forall_mem_cons, ← ih]
      cases xs.mapM f <;> simp [Except.map, first]

end

namespace Layout

/-- The first pair that does not fit is a time limit out of range. -/
def Oversized (items : List (Value × Value)) : Prop :=
  ∃ before key value after, items = before ++ (key, value) :: after ∧
    (∀ pair ∈ before, Setting.Fits pair.1 pair.2) ∧ Setting.Oversized key value

/-- All pairs fit, but some key is no text. -/
def Unnamed (items : List (Value × Value)) : Prop :=
  (∀ pair ∈ items, Setting.Fits pair.1 pair.2) ∧ ∃ pair ∈ items, textValue? pair.1 = none

/-- The layout of settings, if all the unknown ones have texts as keys. -/
def ofValid (settings : List Setting) : Except LayoutError Layout :=
  if (ofSettings settings).extra.all fun pair => (textValue? pair.1).isSome then
    .ok (ofSettings settings)
  else .error .keyNotText

theorem ofItems_of_ok {items : List (Value × Value)} {settings : List Setting}
    (valid : items.mapM Setting.ofPair = .ok settings) : ofItems items = ofValid settings := by
  unfold ofItems
  rw [valid]
  rfl

theorem ofItems_of_error {items : List (Value × Value)} {error : LayoutError}
    (wrong : items.mapM Setting.ofPair = .error error) : ofItems items = .error error := by
  unfold ofItems
  rw [wrong]
  rfl

theorem all_named_iff {items : List (Value × Value)} {settings : List Setting}
    (valid : items.mapM Setting.ofPair = .ok settings) :
    ((ofSettings settings).extra.all fun pair => (textValue? pair.1).isSome) = true ↔
      ∀ pair ∈ items, textValue? pair.1 ≠ none := by
  have members := mem_of_mapM_eq_ok valid
  have fits := mapM_ok_iff.mp ⟨_, valid⟩
  simp only [ofSettings, List.all_eq_true, List.mem_filterMap, Option.isSome_iff_ne_none]
  constructor
  · intro named pair mem unnamed
    obtain ⟨setting, ok⟩ := fits pair mem
    exact named pair ⟨setting, (members setting).mpr ⟨pair, mem, ok⟩,
      Setting.extra?_of_ofPair ok unnamed⟩ unnamed
  · rintro named pair ⟨setting, mem, extra⟩
    obtain ⟨given, within_, ok⟩ := (members setting).mp mem
    obtain rfl := Setting.eq_of_extra? ok extra
    exact named pair within_

theorem fits_iff_ok {items : List (Value × Value)} :
    (∀ pair ∈ items, Setting.Fits pair.1 pair.2) ↔
      ∃ settings, items.mapM Setting.ofPair = .ok settings := by
  rw [mapM_ok_iff]
  exact forall₂_congr fun _ _ => Setting.ofPair_ok_iff.symm

/-- A mapping is rejected for a key that is no text when nothing else is wrong with it. -/
theorem ofItems_keyNotText_iff {items : List (Value × Value)} :
    ofItems items = .error .keyNotText ↔ Unnamed items := by
  rw [Unnamed, fits_iff_ok]
  cases valid : items.mapM Setting.ofPair with
  | error error =>
    obtain ⟨_, pair, _, -, -, wrong⟩ := mapM_eq_error_iff.mp valid
    have other : error ≠ .keyNotText := fun same =>
      Setting.ofPair_ne_keyNotText pair (same ▸ wrong)
    simp [ofItems_of_error valid, other]
  | ok settings =>
    have named_iff := all_named_iff valid
    rw [ofItems_of_ok valid, ofValid]
    split
    · next named =>
      refine iff_of_false nofun fun ⟨_, pair, mem, unnamed⟩ => ?_
      exact named_iff.mp named pair mem unnamed
    · next unnamed =>
      refine iff_of_true rfl ⟨⟨_, rfl⟩, ?_⟩
      simpa using mt named_iff.mpr unnamed

/-- A mapping is rejected for a number that is too large when it is the first thing wrong. -/
theorem ofItems_tooLarge_iff {items : List (Value × Value)} :
    ofItems items = .error .tooLarge ↔ Oversized items := by
  have same : ofItems items = .error .tooLarge ↔
      items.mapM Setting.ofPair = .error .tooLarge := by
    cases valid : items.mapM Setting.ofPair with
    | error error => simp [ofItems_of_error valid]
    | ok settings =>
      rw [ofItems_of_ok valid, ofValid]
      split <;> simp
  rw [same, mapM_eq_error_iff]
  constructor
  · rintro ⟨before, ⟨key, value⟩, after, shape, passed, wrong⟩
    exact ⟨before, key, value, after, shape,
      fun pair mem => Setting.ofPair_ok_iff.mp (passed pair mem),
      Setting.ofPair_tooLarge_iff.mp wrong⟩
  · rintro ⟨before, key, value, after, shape, fits, oversized⟩
    exact ⟨before, (key, value), after, shape,
      fun pair mem => Setting.ofPair_ok_iff.mpr (fits pair mem),
      Setting.ofPair_tooLarge_iff.mpr oversized⟩

end Layout

end StageParity
