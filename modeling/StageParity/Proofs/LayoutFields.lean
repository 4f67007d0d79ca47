import StageParity.Proofs.LayoutSettings

/-!
# What a layout holds

A mapping is a layout exactly when every setting in it has a value of the right form and every
other key is a text (`Layout.Valid`). The layout then holds what the mapping gives, converted, and
standard values for the rest, two of which follow the compiler (`Layout.Holds`). Both are said by
membership alone, so the order of the pairs shows in the order of the unknown ones only.
-/

namespace StageParity

open Yaml (Value)

/-! ## Conversions -/

namespace Setting

/-- The words that a value stands for as a build command. -/
inductive Words : Value → List Text → Prop where
  | text {t : Text} {words : List Text} : Shell.splitWords t = .ok words → Words (.text t) words
  | list (words : List Text) : Words (.list (words.map .text)) words

/-- The limit that a value stands for. -/
inductive Limit : Value → Option Float → Prop where
  | null : Limit .null none
  | float (x : Float) : Limit (.float x) (some x)
  | int {n : Int} {x : Float} : Decimal.ofInt? n = some x → Limit (.int n) (some x)

theorem Words.unique {value : Value} {a b : List Text} (one : Words value a)
    (two : Words value b) : a = b := by
  generalize same : value = value' at two
  cases one with
  | text split =>
      cases two with
      | text split' =>
          cases same
          exact Except.ok.inj (split.symm.trans split')
      | list => cases same
  | list =>
      cases two with
      | text => cases same
      | list => exact (List.map_inj_right fun _ _ => Value.text.inj).mp (Value.list.inj same)

theorem Limit.unique {value : Value} {a b : Option Float} (one : Limit value a)
    (two : Limit value b) : a = b := by
  cases one with
  | null => cases two; rfl
  | float => cases two; rfl
  | int range =>
      cases two with
      | int range' => exact range.symm.trans range'

/-- The keys that name settings. -/
def knownKeys : List Text :=
  TextField.all.map (fun field => Text.ofString field.key) ++
    [commandKey, limitKey .stageBuild, limitKey .artifactInvocation].map Text.ofString

/-- Whether a key names a setting. -/
def isKnown (key : Value) : Bool := (textValue? key).any knownKeys.contains

theorem isKnown_iff {t : Text} : isKnown (.text t) = true ↔ t ∈ knownKeys := by
  simp [isKnown, textValue?]

theorem isKnown_text (field : TextField) : isKnown (.text (field.key : Text)) = true := by
  have member : field ∈ TextField.all := by cases field <;> simp [TextField.all]
  exact isKnown_iff.mpr (List.mem_append_left _ (List.mem_map_of_mem member))

theorem isKnown_command : isKnown (.text (commandKey : Text)) = true :=
  isKnown_iff.mpr (List.mem_append_right _ List.mem_cons_self)

theorem isKnown_limit (domain : Domain) : isKnown (.text (limitKey domain : Text)) = true := by
  refine isKnown_iff.mpr (List.mem_append_right _ (List.mem_map_of_mem ?_))
  cases domain <;> simp

theorem isKnown_eq_false_iff {key : Value} : isKnown key = false ↔ Unknown key := by
  constructor
  · intro unknown
    refine ⟨?_, ?_, ?_⟩
    · rintro field rfl
      exact absurd (isKnown_text field) (by rw [unknown]; decide)
    · rintro rfl
      exact absurd isKnown_command (by rw [unknown]; decide)
    · rintro domain rfl
      exact absurd (isKnown_limit domain) (by rw [unknown]; decide)
  · intro unknown
    cases key with
    | text t =>
        have field : ∀ field : TextField, t ≠ Text.ofString field.key := fun field same =>
          unknown.field field (congrArg Value.text same)
        have command : t ≠ Text.ofString commandKey := fun same =>
          unknown.command (congrArg Value.text same)
        have limit : ∀ domain, t ≠ Text.ofString (limitKey domain) := fun domain same =>
          unknown.limit domain (congrArg Value.text same)
        simp [isKnown, textValue?, knownKeys, TextField.all, field, command, limit]
    | _ => rfl

/-! ## What a valid pair is -/

theorem eq_of_textOf {field : TextField} {value : Value} {setting : Setting}
    (valid : textOf field value = .ok setting) :
    ∃ t, t ≠ [] ∧ value = .text t ∧ setting = .text field t := by
  unfold textOf at valid
  split at valid
  · rename_i g rest named
    cases valid
    exact ⟨g :: rest, List.cons_ne_nil g rest, textValue?_eq_some.mp named, rfl⟩
  · cases valid

theorem eq_of_wordsOf {words : List Text} {setting : Setting}
    (valid : wordsOf words = .ok setting) : words ≠ [] ∧ setting = .command words := by
  unfold wordsOf at valid
  split at valid
  · cases valid
  · rename_i some_
    cases valid
    exact ⟨by simpa using some_, rfl⟩

theorem eq_of_commandOf {value : Value} {setting : Setting}
    (valid : commandOf value = .ok setting) :
    ∃ words, words ≠ [] ∧ Words value words ∧ setting = .command words := by
  cases value with
  | text t =>
      rw [commandOf_text] at valid
      split at valid
      · rename_i words split_
        obtain ⟨some_, rfl⟩ := eq_of_wordsOf valid
        exact ⟨words, some_, .text split_, rfl⟩
      · cases valid
  | list items =>
      rw [commandOf_list] at valid
      split at valid
      · rename_i words split_
        obtain ⟨some_, rfl⟩ := eq_of_wordsOf valid
        obtain rfl := (mapM_eq_some_iff textValue?_eq_some).mp split_
        exact ⟨words, some_, .list words, rfl⟩
      · cases valid
  | _ => cases valid

theorem eq_of_limitOf {domain : Domain} {value : Value} {setting : Setting}
    (valid : limitOf domain value = .ok setting) :
    ∃ seconds, Limit value seconds ∧ setting = .limit domain seconds := by
  unfold limitOf at valid
  split at valid
  · cases valid
    exact ⟨none, .null, rfl⟩
  · rename_i x
    cases valid
    exact ⟨some x, .float x, rfl⟩
  · split at valid
    · rename_i x range
      cases valid
      exact ⟨some x, .int range, rfl⟩
    · cases valid
  · cases valid

/-- A valid pair is a setting with its converted value, or unknown. -/
inductive Reads : Value × Value → Setting → Prop where
  | text {field : TextField} {t : Text} :
      t ≠ [] → Reads (.text (field.key : Text), .text t) (.text field t)
  | command {value : Value} {words : List Text} :
      words ≠ [] → Words value words → Reads (.text (commandKey : Text), value) (.command words)
  | limit {domain : Domain} {value : Value} {seconds : Option Float} :
      Limit value seconds → Reads (.text (limitKey domain : Text), value) (.limit domain seconds)
  | extra {key value : Value} : Unknown key → Reads (key, value) (.extra key value)

theorem reads_of_ofPair {pair : Value × Value} {setting : Setting}
    (valid : ofPair pair = .ok setting) : Reads pair setting := by
  obtain ⟨key, value⟩ := pair
  rcases key_cases key with ⟨field, rfl⟩ | rfl | ⟨domain, rfl⟩ | unknown
  · rw [ofPair_field] at valid
    obtain ⟨t, some_, rfl, rfl⟩ := eq_of_textOf valid
    exact .text some_
  · rw [ofPair_command] at valid
    obtain ⟨words, some_, given, rfl⟩ := eq_of_commandOf valid
    exact .command some_ given
  · rw [ofPair_limit] at valid
    obtain ⟨seconds, given, rfl⟩ := eq_of_limitOf valid
    exact .limit given
  · rw [ofPair_unknown unknown] at valid
    cases valid
    exact .extra unknown

end Setting

/-! ## Mappings and layouts -/

namespace Layout

variable {items others : List (Value × Value)} {settings : List Setting} {layout other : Layout}
  {key : String} {value : Value}

/-- No text is the key of two pairs. -/
def Distinct (items : List (Value × Value)) : Prop :=
  items.Pairwise fun p q => ∀ t : Text, ¬ (p.1 = .text t ∧ q.1 = .text t)

/-- The mapping has the value under the key. -/
def Maps (items : List (Value × Value)) (key : String) (value : Value) : Prop :=
  (.text (key : Text), value) ∈ items

/-- The mapping has nothing under the key. -/
def Lacks (items : List (Value × Value)) (key : String) : Prop := ∀ value, ¬ Maps items key value

/-- Every setting of the mapping has a value of the right form, and every other key is a text. -/
structure Valid (items : List (Value × Value)) : Prop where
  text : ∀ (field : TextField) (value : Value), Maps items field.key value →
    ∃ t, t ≠ [] ∧ value = .text t
  command : ∀ value, Maps items commandKey value → ∃ words, words ≠ [] ∧ Setting.Words value words
  limit : ∀ (domain : Domain) (value : Value), Maps items (limitKey domain) value →
    ∃ seconds, Setting.Limit value seconds
  unknown : ∀ pair ∈ items, Setting.isKnown pair.1 = false → ∃ t, pair.1 = .text t

/-- The content of a text setting. -/
def text (layout : Layout) : TextField → Text
  | .compiler => layout.compiler
  | .toolchain => layout.toolchain
  | .builtBinary => layout.builtBinary
  | .selfHostedSource => layout.selfHostedSource
  | .sampleProgram => layout.sampleProgram
  | .testDirName => layout.testDirName
  | .installHint => layout.installHint

/-- The time limit of a domain. -/
def limit (layout : Layout) : Domain → Option Float
  | .stageBuild => layout.buildLimit
  | .artifactInvocation => layout.invocationLimit

/-- The layout holds what the mapping gives, and standard values for the rest. -/
structure Holds (items : List (Value × Value)) (layout : Layout) : Prop where
  text : ∀ (field : TextField) (t : Text), Maps items field.key (.text t) → layout.text field = t
  command : ∀ value words, Maps items commandKey value → Setting.Words value words →
    layout.buildCommand = words
  limit : ∀ (domain : Domain) (value : Value) (seconds : Option Float),
    Maps items (limitKey domain) value → Setting.Limit value seconds →
    layout.limit domain = seconds
  /-- Two paths follow a compiler that is given. -/
  binary : ∀ compiler : Text, Maps items TextField.compiler.key (.text compiler) →
    Lacks items TextField.builtBinary.key →
    layout.builtBinary = Text.ofString "target/release/" ++ compiler
  source : ∀ compiler : Text, Maps items TextField.compiler.key (.text compiler) →
    Lacks items TextField.selfHostedSource.key →
    layout.selfHostedSource = compiler ++ Text.ofString "/src/main.ov"
  textElse : ∀ field : TextField, Lacks items field.key →
    (field = .builtBinary ∨ field = .selfHostedSource → Lacks items TextField.compiler.key) →
    layout.text field = standard.text field
  commandElse : Lacks items commandKey → layout.buildCommand = standard.buildCommand
  limitElse : ∀ domain : Domain, Lacks items (limitKey domain) → layout.limit domain = none
  extra : layout.extra = items.filter fun pair => !Setting.isKnown pair.1

/-! ## Acceptance -/

theorem fits_of_valid (valid : Valid items) : ∀ pair ∈ items, Setting.Fits pair.1 pair.2 := by
  rintro ⟨key, value⟩ member
  refine ⟨?_, ?_, ?_⟩
  · rintro field rfl
    obtain ⟨t, some_, rfl⟩ := valid.text field value member
    obtain ⟨g, rest, rfl⟩ := List.exists_cons_of_ne_nil some_
    exact ⟨g, rest, rfl⟩
  · rintro rfl
    obtain ⟨words, some_, given⟩ := valid.command value member
    cases given with
    | text split => exact .inl ⟨_, words, rfl, split, some_⟩
    | list => exact .inr ⟨words, rfl, some_⟩
  · rintro domain rfl
    obtain ⟨seconds, given⟩ := valid.limit domain value member
    cases given with
    | null => exact .inl rfl
    | float x => exact .inr (.inl ⟨x, rfl⟩)
    | int range => exact .inr (.inr ⟨_, _, rfl, range⟩)

theorem valid_of_fits (fits : ∀ pair ∈ items, Setting.Fits pair.1 pair.2)
    (named : ∀ pair ∈ items, textValue? pair.1 ≠ none) : Valid items := by
  refine ⟨?_, ?_, ?_, ?_⟩
  · intro field value member
    obtain ⟨g, rest, rfl⟩ := (fits _ member).text field rfl
    exact ⟨g :: rest, List.cons_ne_nil g rest, rfl⟩
  · intro value member
    rcases (fits _ member).command rfl with ⟨t, words, same, split, some_⟩ | ⟨words, same, some_⟩
    · cases same
      exact ⟨words, some_, .text split⟩
    · cases same
      exact ⟨words, some_, .list words⟩
  · intro domain value member
    rcases (fits _ member).limit domain rfl with same | ⟨x, same⟩ | ⟨n, x, same, range⟩
    · cases same
      exact ⟨none, .null⟩
    · cases same
      exact ⟨some x, .float x⟩
    · cases same
      exact ⟨some x, .int range⟩
  · intro pair member _
    obtain ⟨t, same⟩ := Option.ne_none_iff_exists'.mp (named pair member)
    exact ⟨t, textValue?_eq_some.mp same⟩

theorem named_of_valid (valid : Valid items) : ∀ pair ∈ items, textValue? pair.1 ≠ none := by
  rintro ⟨key, value⟩ member unnamed
  have unknown : Setting.isKnown key = false := by
    unfold Setting.isKnown
    rw [unnamed]
    rfl
  obtain ⟨t, same⟩ := valid.unknown _ member unknown
  rw [textValue?_eq_some.mpr same] at unnamed
  cases unnamed

/-- A mapping is accepted exactly when it is valid. -/
theorem ofItems_ok_iff : (∃ layout, ofItems items = .ok layout) ↔ Valid items := by
  constructor
  · rintro ⟨layout, accepted⟩
    cases read : items.mapM Setting.ofPair with
    | error error =>
        rw [ofItems_of_error read] at accepted
        cases accepted
    | ok settings =>
        rw [ofItems_of_ok read] at accepted
        unfold ofValid at accepted
        split at accepted
        · rename_i named
          exact valid_of_fits (fits_iff_ok.mpr ⟨settings, read⟩) ((all_named_iff read).mp named)
        · cases accepted
  · intro valid
    obtain ⟨settings, read⟩ := fits_iff_ok.mp (fits_of_valid valid)
    refine ⟨ofSettings settings, ?_⟩
    rw [ofItems_of_ok read, ofValid, if_pos ((all_named_iff read).mpr (named_of_valid valid))]

/-- An accepted mapping is read pair by pair. -/
theorem settings_of_ofItems (accepted : ofItems items = .ok layout) :
    ∃ settings, items.mapM Setting.ofPair = .ok settings ∧ layout = ofSettings settings := by
  cases read : items.mapM Setting.ofPair with
  | error error =>
      rw [ofItems_of_error read] at accepted
      cases accepted
  | ok settings =>
      rw [ofItems_of_ok read] at accepted
      unfold ofValid at accepted
      split at accepted
      · exact ⟨settings, rfl, (Except.ok.inj accepted).symm⟩
      · cases accepted

/-! ## Fields -/

theorem eq_of_maps {a b : Value} (distinct : Distinct items) (one : Maps items key a)
    (two : Maps items key b) : a = b := by
  induction items with
  | nil => cases one
  | cons pair items ih =>
      obtain ⟨apart, later⟩ := List.pairwise_cons.mp distinct
      rcases List.mem_cons.mp one with first | first
      · rcases List.mem_cons.mp two with second | second
        · exact (Prod.mk.inj (first.trans second.symm)).2
        · exact absurd ⟨congrArg Prod.fst first.symm, rfl⟩ (apart _ second key)
      · rcases List.mem_cons.mp two with second | second
        · exact absurd ⟨congrArg Prod.fst second.symm, rfl⟩ (apart _ first key)
        · exact ih later first second

/-- A part of the settings that one key decides is what that key gives. -/
theorem findSome?_of_maps {γ : Type} {view : Setting → Option γ} {c : γ}
    (distinct : Distinct items) (read : items.mapM Setting.ofPair = .ok settings)
    (only : ∀ {pair setting c}, Setting.Reads pair setting → view setting = some c →
      pair.1 = .text (key : Text))
    (given : Maps items key value)
    (shows : ∀ setting, Setting.ofPair (.text (key : Text), value) = .ok setting →
      view setting = some c) :
    settings.findSome? view = some c := by
  have members := mem_of_mapM_eq_ok read
  obtain ⟨setting, valid⟩ := mapM_ok_iff.mp ⟨settings, read⟩ _ given
  have there : setting ∈ settings := (members setting).mpr ⟨_, given, valid⟩
  cases found : settings.findSome? view with
  | none =>
      have hidden := List.findSome?_eq_none_iff.mp found setting there
      rw [shows setting valid] at hidden
      cases hidden
  | some c' =>
      obtain ⟨setting', member, shown⟩ := List.exists_of_findSome?_eq_some found
      obtain ⟨⟨key', value'⟩, within_, valid'⟩ := (members setting').mp member
      obtain rfl : key' = .text (key : Text) := only (Setting.reads_of_ofPair valid') shown
      obtain rfl : value' = value := eq_of_maps distinct within_ given
      rw [← shown, shows setting' valid']

theorem findSome?_of_lacks {γ : Type} {view : Setting → Option γ}
    (read : items.mapM Setting.ofPair = .ok settings)
    (only : ∀ {pair setting c}, Setting.Reads pair setting → view setting = some c →
      pair.1 = .text (key : Text))
    (lacks : Lacks items key) : settings.findSome? view = none := by
  refine List.findSome?_eq_none_iff.mpr fun setting member => ?_
  obtain ⟨⟨key', value⟩, within_, valid⟩ := (mem_of_mapM_eq_ok read setting).mp member
  cases shown : view setting with
  | none => rfl
  | some c =>
      obtain rfl : key' = .text (key : Text) := only (Setting.reads_of_ofPair valid) shown
      exact absurd within_ (lacks value)

theorem key_of_textFor? {field : TextField} {pair : Value × Value} {setting : Setting} {t : Text}
    (reads : Setting.Reads pair setting) (shown : setting.textFor? field = some t) :
    pair.1 = .text (field.key : Text) := by
  cases reads with
  | @text other content some_ =>
      by_cases same : other = field
      · rw [same]
      · simp [Setting.textFor?, same] at shown
  | _ => cases shown

theorem key_of_words? {pair : Value × Value} {setting : Setting} {words : List Text}
    (reads : Setting.Reads pair setting) (shown : setting.words? = some words) :
    pair.1 = .text (commandKey : Text) := by
  cases reads with
  | command => rfl
  | _ => cases shown

theorem key_of_limitFor? {domain : Domain} {pair : Value × Value} {setting : Setting}
    {seconds : Option Float} (reads : Setting.Reads pair setting)
    (shown : setting.limitFor? domain = some seconds) :
    pair.1 = .text (limitKey domain : Text) := by
  cases reads with
  | @limit other value given =>
      by_cases same : other = domain
      · rw [same]
      · simp [Setting.limitFor?, same] at shown
  | _ => cases shown

theorem filterMap_extra? (read : items.mapM Setting.ofPair = .ok settings) :
    settings.filterMap Setting.extra? = items.filter fun pair => !Setting.isKnown pair.1 := by
  induction items generalizing settings with
  | nil =>
      cases read
      rfl
  | cons pair items ih =>
      cases first : Setting.ofPair pair with
      | error error =>
          rw [mapM_cons_of_error first] at read
          cases read
      | ok setting =>
          rw [mapM_cons_of_ok first] at read
          cases rest : items.mapM Setting.ofPair with
          | error error =>
              rw [rest] at read
              cases read
          | ok later =>
              rw [rest] at read
              cases read
              rw [List.filterMap_cons, List.filter_cons, ih rest]
              cases Setting.reads_of_ofPair first with
              | @text field t => rw [Setting.isKnown_text]; rfl
              | command => rw [Setting.isKnown_command]; rfl
              | @limit domain => rw [Setting.isKnown_limit]; rfl
              | extra unknown => rw [Setting.isKnown_eq_false_iff.mpr unknown]; rfl

/-- What a text setting falls back to. -/
def standardText (compiler : Text) : TextField → Text
  | .builtBinary => binaryOf compiler
  | .selfHostedSource => sourceOf compiler
  | field => standard.text field

theorem text_ofSettings (settings : List Setting) (field : TextField) :
    (ofSettings settings).text field =
      (settings.findSome? (Setting.textFor? field)).getD
        (standardText (ofSettings settings).compiler field) := by
  cases field <;> rfl

theorem limit_ofSettings (settings : List Setting) (domain : Domain) :
    (ofSettings settings).limit domain =
      (settings.findSome? (Setting.limitFor? domain)).getD none := by
  cases domain <;> rfl

theorem text_of_maps {field : TextField} {t : Text} (distinct : Distinct items)
    (read : items.mapM Setting.ofPair = .ok settings) (given : Maps items field.key (.text t)) :
    (ofSettings settings).text field = t := by
  rw [text_ofSettings, findSome?_of_maps distinct read key_of_textFor? given]
  · rfl
  · intro setting valid
    rw [Setting.ofPair_field] at valid
    obtain ⟨content, -, same, rfl⟩ := Setting.eq_of_textOf valid
    cases same
    exact if_pos rfl

theorem text_of_lacks {field : TextField} (read : items.mapM Setting.ofPair = .ok settings)
    (lacks : Lacks items field.key) :
    (ofSettings settings).text field = standardText (ofSettings settings).compiler field := by
  rw [text_ofSettings, findSome?_of_lacks read key_of_textFor? lacks]
  rfl

theorem holds_of_ofItems (distinct : Distinct items) (accepted : ofItems items = .ok layout) :
    Holds items layout := by
  obtain ⟨settings, read, rfl⟩ := settings_of_ofItems accepted
  have compilerOf : ∀ compiler, Maps items TextField.compiler.key (.text compiler) →
      (ofSettings settings).compiler = compiler := fun _ given => text_of_maps distinct read given
  refine ⟨fun field t => text_of_maps distinct read, ?_, ?_, ?_, ?_, ?_, ?_, ?_, ?_⟩
  · intro value words given means
    have found : settings.findSome? Setting.words? = some words := by
      refine findSome?_of_maps distinct read key_of_words? given fun setting valid => ?_
      rw [Setting.ofPair_command] at valid
      obtain ⟨words', -, means', rfl⟩ := Setting.eq_of_commandOf valid
      rw [means'.unique means]
      rfl
    exact congrArg (Option.getD · _) found
  · intro domain value seconds given means
    rw [limit_ofSettings, findSome?_of_maps distinct read key_of_limitFor? given]
    · rfl
    · intro setting valid
      rw [Setting.ofPair_limit] at valid
      obtain ⟨seconds', means', rfl⟩ := Setting.eq_of_limitOf valid
      rw [means'.unique means]
      exact if_pos rfl
  · intro compiler given lacks
    rw [← compilerOf compiler given]
    exact text_of_lacks read lacks
  · intro compiler given lacks
    rw [← compilerOf compiler given]
    exact text_of_lacks read lacks
  · intro field lacks derived
    have standardCompiler : Lacks items TextField.compiler.key →
        (ofSettings settings).compiler = standard.compiler := text_of_lacks read
    rw [text_of_lacks read lacks]
    cases field with
    | builtBinary => rw [standardCompiler (derived (.inl rfl))]; rfl
    | selfHostedSource => rw [standardCompiler (derived (.inr rfl))]; rfl
    | _ => rfl
  · intro lacks
    exact congrArg (Option.getD · _) (findSome?_of_lacks read key_of_words? lacks)
  · intro domain lacks
    rw [limit_ofSettings, findSome?_of_lacks read key_of_limitFor? lacks]
    rfl
  · exact filterMap_extra? read

/-! ## The order of pairs -/

theorem maps_or_lacks (items : List (Value × Value)) (key : String) :
    (∃ value, Maps items key value) ∨ Lacks items key := by
  by_cases given : ∃ value, Maps items key value
  · exact .inl given
  · exact .inr (not_exists.mp given)

theorem Valid.of_perm (valid : Valid items) (perm : others.Perm items) : Valid others where
  text field value given := valid.text field value (perm.mem_iff.mp given)
  command value given := valid.command value (perm.mem_iff.mp given)
  limit domain value given := valid.limit domain value (perm.mem_iff.mp given)
  unknown pair member := valid.unknown pair (perm.mem_iff.mp member)

theorem Distinct.of_perm (distinct : Distinct items) (perm : others.Perm items) :
    Distinct others :=
  perm.symm.pairwise distinct fun apart t same => apart t same.symm

theorem Lacks.of_perm (lacks : Lacks items key) (perm : others.Perm items) : Lacks others key :=
  fun value given => lacks value (perm.mem_iff.mp given)

variable (valid : Valid items) (perm : others.Perm items) (holds : Holds items layout)
  (holds' : Holds others other)

include valid perm holds holds'

theorem text_eq_of_perm (field : TextField) : other.text field = layout.text field := by
  rcases maps_or_lacks items field.key with ⟨value, given⟩ | lacks
  · obtain ⟨t, -, rfl⟩ := valid.text field value given
    rw [holds.text field t given, holds'.text field t (perm.mem_iff.mpr given)]
  rcases maps_or_lacks items TextField.compiler.key with ⟨value, given⟩ | free
  · obtain ⟨compiler, -, rfl⟩ := valid.text .compiler value given
    have given' : Maps others TextField.compiler.key (.text compiler) := perm.mem_iff.mpr given
    cases field with
    | builtBinary =>
        exact (holds'.binary compiler given' (lacks.of_perm perm)).trans
          (holds.binary compiler given lacks).symm
    | selfHostedSource =>
        exact (holds'.source compiler given' (lacks.of_perm perm)).trans
          (holds.source compiler given lacks).symm
    | _ => rw [holds.textElse _ lacks (by simp), holds'.textElse _ (lacks.of_perm perm) (by simp)]
  · rw [holds.textElse field lacks fun _ => free,
      holds'.textElse field (lacks.of_perm perm) fun _ => free.of_perm perm]

theorem buildCommand_eq_of_perm : other.buildCommand = layout.buildCommand := by
  rcases maps_or_lacks items commandKey with ⟨value, given⟩ | lacks
  · obtain ⟨words, -, means⟩ := valid.command value given
    rw [holds.command value words given means,
      holds'.command value words (perm.mem_iff.mpr given) means]
  · rw [holds.commandElse lacks, holds'.commandElse (lacks.of_perm perm)]

theorem limit_eq_of_perm (domain : Domain) : other.limit domain = layout.limit domain := by
  rcases maps_or_lacks items (limitKey domain) with ⟨value, given⟩ | lacks
  · obtain ⟨seconds, means⟩ := valid.limit domain value given
    rw [holds.limit domain value seconds given means,
      holds'.limit domain value seconds (perm.mem_iff.mpr given) means]
  · rw [holds.limitElse domain lacks, holds'.limitElse domain (lacks.of_perm perm)]

/-- The order of the pairs shows in the order of the unknown ones only. -/
theorem Holds.eq_of_perm :
    other = { layout with extra := other.extra } ∧ other.extra.Perm layout.extra := by
  have text := text_eq_of_perm valid perm holds holds'
  have limit := limit_eq_of_perm valid perm holds holds'
  refine ⟨?_, ?_⟩
  · have command := buildCommand_eq_of_perm valid perm holds holds'
    cases other
    cases layout
    congr
    · exact text .compiler
    · exact text .toolchain
    · exact text .builtBinary
    · exact text .selfHostedSource
    · exact text .sampleProgram
    · exact text .testDirName
    · exact limit .stageBuild
    · exact limit .artifactInvocation
    · exact text .installHint
  · rw [holds.extra, holds'.extra]
    exact perm.filter _

omit valid perm holds holds'

/-- **Layout validation.** For a mapping without repeated keys: it is accepted exactly when each
setting has a value of the right form and each other key is a text; the layout then holds the given
values, converted, and the standard ones for the rest, where two paths follow a given compiler; and
rearranging the pairs changes neither whether it is accepted nor anything in the layout but the
order of the unknown pairs. -/
theorem ofItems_exact (distinct : Distinct items) :
    ((∃ layout, ofItems items = .ok layout) ↔ Valid items) ∧
    (∀ layout, ofItems items = .ok layout → Holds items layout) ∧
    ∀ others : List (Value × Value), others.Perm items →
      ((∃ layout, ofItems others = .ok layout) ↔ ∃ layout, ofItems items = .ok layout) ∧
      ∀ layout other, ofItems items = .ok layout → ofItems others = .ok other →
        other = { layout with extra := other.extra } ∧ other.extra.Perm layout.extra := by
  refine ⟨ofItems_ok_iff, fun layout => holds_of_ofItems distinct, fun others perm => ⟨?_, ?_⟩⟩
  · rw [ofItems_ok_iff, ofItems_ok_iff]
    exact ⟨fun valid => valid.of_perm perm.symm, fun valid => valid.of_perm perm⟩
  · intro layout other accepted accepted'
    exact Holds.eq_of_perm (ofItems_ok_iff.mp ⟨layout, accepted⟩) perm
      (holds_of_ofItems distinct accepted) (holds_of_ofItems (distinct.of_perm perm) accepted')

/-- Settings with the compiler after a path that it does not decide, and unknown ones between. -/
def mixedItems : List (Value × Value) :=
  [(.text (Text.ofString "built_binary"), .text (Text.ofString "out/cc")),
   (.text (Text.ofString "owner"), .int 3),
   (.text (Text.ofString "compiler"), .text (Text.ofString "cc")),
   (.text (Text.ofString "build_command"), .text (Text.ofString "make 'a b'")),
   (.text (Text.ofString "build_timeout_seconds"), .null),
   (.text (Text.ofString "shell"), .bool true)]

theorem ofItems_exact_mixed :
    Distinct mixedItems ∧ ∃ layout other,
      ofItems mixedItems = .ok layout ∧ ofItems mixedItems.reverse = .ok other ∧
      Holds mixedItems layout ∧ layout.builtBinary = Text.ofString "out/cc" ∧
      layout.selfHostedSource = Text.ofString "cc/src/main.ov" ∧
      other = { layout with extra := layout.extra.reverse } := by
  have distinct : Distinct mixedItems := by simp [Distinct, mixedItems, Text.ofString]
  obtain ⟨-, holds, rearranged⟩ := ofItems_exact distinct
  obtain ⟨layout, accepted⟩ : ∃ layout, ofItems mixedItems = .ok layout := ⟨_, rfl⟩
  obtain ⟨other, accepted'⟩ : ∃ other, ofItems mixedItems.reverse = .ok other := ⟨_, rfl⟩
  obtain ⟨same, -⟩ := (rearranged mixedItems.reverse mixedItems.reverse_perm).2 layout other
    accepted accepted'
  refine ⟨distinct, layout, other, accepted, accepted', holds layout accepted, ?_, ?_, ?_⟩
  · cases accepted
    rfl
  · cases accepted
    rfl
  · rw [same]
    cases accepted
    cases accepted'
    rfl

end Layout

end StageParity
