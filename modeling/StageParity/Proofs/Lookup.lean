import StageParity.Disk.Change

/-!
# Looking up paths

`Disk.Leads` tells where following names leads, one step at a time, and holds exactly when
the walk ends there. From it come the facts about a disk that has changed: entries that are
gone can only make a path lead nowhere (`Disk.Sheds`), and new entries leave every path that
led somewhere where it was (`Disk.Grows`).
-/

namespace StageParity

namespace Path

/-- A path whose names all stand for something: none is empty or a single dot. -/
def Proper (p : Path) : Prop := ∀ name ∈ p.names, ¬ (name = [] ∨ name = here)

theorem proper_ofText (t : Text) : (ofText t).Proper := by
  intro name member
  have kept := (List.mem_filter.mp member).2
  simp only [Bool.and_eq_true, Bool.not_eq_true', List.isEmpty_eq_false_iff,
    decide_eq_true_eq] at kept
  rintro (rfl | rfl)
  · exact kept.1 rfl
  · exact kept.2 rfl

theorem Proper.child {p : Path} (proper : p.Proper) (t : Text) : (p.child t).Proper := by
  intro name member
  unfold Path.child join at member
  split at member
  · exact proper_ofText t name member
  · rcases List.mem_append.mp member with first | second
    · exact proper name first
    · exact proper_ofText t name second

end Path

namespace Disk

/-! ## Entries -/

@[simp] theorem get?_nil (d : Disk) : d.get? [] = some (.directory 0o755) := rfl

theorem lookup_filter_not (gone : Location → Bool) (entries : List (Location × Entry))
    (spot : Location) :
    (entries.filter fun item => !gone item.1).lookup spot =
      if gone spot then none else entries.lookup spot := by
  induction entries with
  | nil => simp
  | cons item entries ih =>
      obtain ⟨place, entry⟩ := item
      by_cases same : spot = place
      · subst same
        cases removed : gone spot with
        | true => simp [removed, ih]
        | false => simp [removed]
      · have other : (spot == place) = false := beq_eq_false_iff_ne.mpr same
        cases removed : gone place with
        | true => simp [removed, ih, List.lookup_cons, other]
        | false => simp [removed, ih, List.lookup_cons, other]

theorem get?_removeIf (d : Disk) (gone : Location → Bool) {spot : Location} (low : spot ≠ []) :
    (d.removeIf gone).get? spot = if gone spot then none else d.get? spot := by
  simp only [get?, removeIf, low, if_false]
  exact lookup_filter_not gone d.entries spot

theorem get?_put (d : Disk) (place : Location) (entry : Entry) (spot : Location) :
    (d.put place entry).get? spot =
      if spot = place ∧ place ≠ [] then some entry else d.get? spot := by
  unfold put get?
  by_cases top : spot = []
  · subst top
    simp only [if_true]
    split
    · rename_i same
      exact absurd same.1.symm same.2
    · rfl
  · by_cases same : spot = place
    · subst same
      simp [top]
    · have other : (spot == place) = false := beq_eq_false_iff_ne.mpr same
      simp only [top, same, false_and, if_false, List.lookup_cons, other]
      have kept := lookup_filter_not (fun item => decide (item = place)) d.entries spot
      simpa [same] using kept

/-! ## Where names lead -/

/-- A directory that may be passed through. -/
def Passable (d : Disk) (place : Location) : Prop :=
  ∃ mode, d.get? place = some (.directory mode) ∧ mode &&& Entry.passBit ≠ 0

/-- A name that stands for an entry of a directory. -/
structure Plain (name : Text) : Prop where
  notUp : name ≠ Path.up
  notEmpty : name ≠ []
  notHere : name ≠ Path.here
  short : (Text.encode name).length ≤ maxName

/-- Following the names from the first location, through at most that many symbolic links,
leads to the spot. -/
inductive Leads (d : Disk) (aim : Aim) : Nat → Location → List Text → Spot → Prop where
  | done {links : Nat} {place : Location} {entry : Entry} :
      d.get? place = some entry → Leads d aim links place [] (.found place entry)
  | up {links : Nat} {place : Location} {rest : List Text} {spot : Spot} :
      d.Passable place → Leads d aim links place.dropLast rest spot →
      Leads d aim links place (Path.up :: rest) spot
  | stay {links : Nat} {place : Location} {name : Text} {rest : List Text} {spot : Spot} :
      d.Passable place → name = [] ∨ name = Path.here → Leads d aim links place rest spot →
      Leads d aim links place (name :: rest) spot
  | enter {links : Nat} {place : Location} {name : Text} {rest : List Text} {spot : Spot}
      {entry : Entry} :
      d.Passable place → Plain name → d.get? (place ++ [name]) = some entry →
      entry.isLink = false → Leads d aim links (place ++ [name]) rest spot →
      Leads d aim links place (name :: rest) spot
  | jump {links : Nat} {place : Location} {name target : Text} {rest : List Text} {spot : Spot} :
      d.Passable place → Plain name → d.get? (place ++ [name]) = some (.link target) →
      ¬ (rest = [] ∧ aim = .entry) →
      Leads d aim links (origin place (Path.ofText target)) (Path.stepsOf target ++ rest) spot →
      Leads d aim (links + 1) place (name :: rest) spot
  | link {links : Nat} {place : Location} {name target : Text} :
      d.Passable place → Plain name → d.get? (place ++ [name]) = some (.link target) →
      aim = .entry →
      Leads d aim links place [name] (.found (place ++ [name]) (.link target))
  | vacant {links : Nat} {place : Location} {name : Text} {rest : List Text} :
      d.Passable place → Plain name → d.get? (place ++ [name]) = none →
      rest = [] ∨ rest = [[]] ∧ aim ≠ .file →
      Leads d aim links place (name :: rest) (.vacant place name)

/-- How a walk goes on after a symbolic link. -/
def jumpOf (d : Disk) (aim : Aim) : Nat → Location → List Text → Except Errno Spot
  | 0 => fun _ _ => .error .tooManyLinks
  | links + 1 => d.walk aim links

theorem walk_eq (d : Disk) (aim : Aim) (links : Nat) :
    d.walk aim links = d.follow aim (d.jumpOf aim links) := by
  cases links <;> rfl

theorem leads_of_follow {d : Disk} {aim : Aim} {links : Nat}
    {jump : Location → List Text → Except Errno Spot}
    (jumps : ∀ place names spot, jump place names = .ok spot →
      ∃ fewer, links = fewer + 1 ∧ d.Leads aim fewer place names spot)
    {place : Location} {names : List Text} {spot : Spot}
    (ended : d.follow aim jump place names = .ok spot) : d.Leads aim links place names spot := by
  induction names generalizing place with
  | nil =>
      unfold follow at ended
      split at ended
      · cases ended
        exact .done ‹_›
      · cases ended
  | cons name rest ih =>
      unfold follow at ended
      split at ended
      · cases ended
      · cases ended
      · cases ended
      · rename_i mode here
        split at ended
        · cases ended
        · rename_i pass
          have passable : d.Passable place := ⟨mode, here, pass⟩
          split at ended
          · rename_i isUp
            subst isUp
            exact .up passable (ih ended)
          · rename_i notUp
            split at ended
            · rename_i stays
              exact .stay passable (by simpa using stays) (ih ended)
            · rename_i moves
              split at ended
              · cases ended
              · rename_i short
                simp only [Bool.or_eq_true, decide_eq_true_eq, not_or] at moves
                have plain : Plain name := ⟨notUp, moves.1, moves.2, Nat.le_of_not_lt short⟩
                dsimp only at ended
                split at ended
                · rename_i free
                  split at ended
                  · cases ended
                    exact .vacant passable plain free (.inl ‹_›)
                  · split at ended
                    · split at ended
                      · cases ended
                      · cases ended
                        exact .vacant passable plain free (.inr ⟨‹_›, ‹_›⟩)
                    · cases ended
                · rename_i target held
                  split at ended
                  · rename_i last
                    simp only [Bool.and_eq_true, decide_eq_true_eq] at last
                    obtain ⟨ends, wanted⟩ := last
                    subst ends
                    cases ended
                    exact .link passable plain held wanted
                  · rename_i goesOn
                    simp only [Bool.and_eq_true, decide_eq_true_eq] at goesOn
                    obtain ⟨fewer, more, leads⟩ := jumps _ _ _ ended
                    subst more
                    exact .jump passable plain held goesOn leads
                · exact .enter passable plain ‹_› rfl (ih ended)
                · exact .enter passable plain ‹_› rfl (ih ended)

theorem leads_of_walk {d : Disk} {aim : Aim} {links : Nat} {place : Location} {names : List Text}
    {spot : Spot} (ended : d.walk aim links place names = .ok spot) :
    d.Leads aim links place names spot := by
  induction links generalizing place names spot with
  | zero =>
      refine leads_of_follow ?_ ended
      intro place names spot stopped
      cases stopped
  | succ links ih =>
      refine leads_of_follow ?_ ended
      intro place names spot jumped
      exact ⟨links, rfl, ih jumped⟩

section Steps

variable {d : Disk} {aim : Aim} {links : Nat} {place : Location} {name : Text} {rest : List Text}

theorem walk_up (passable : d.Passable place) :
    d.walk aim links place (Path.up :: rest) = d.walk aim links place.dropLast rest := by
  obtain ⟨mode, here, pass⟩ := passable
  simp [walk_eq, follow, here, pass]

theorem walk_stay (passable : d.Passable place) (stays : name = [] ∨ name = Path.here) :
    d.walk aim links place (name :: rest) = d.walk aim links place rest := by
  obtain ⟨mode, here, pass⟩ := passable
  have notUp : name ≠ Path.up := by rcases stays with rfl | rfl <;> decide
  simp [walk_eq, follow, here, pass, notUp, stays]

/-- What following a plain name comes to. -/
theorem walk_plain (passable : d.Passable place) (plain : Plain name) :
    d.walk aim links place (name :: rest) =
      match d.get? (place ++ [name]) with
      | none =>
        if rest = [] then .ok (.vacant place name)
        else if rest = [[]] then
          if aim = .file then .error .isDirectory else .ok (.vacant place name)
        else .error .notFound
      | some (.link target) =>
        if rest = [] ∧ aim = .entry then .ok (.found (place ++ [name]) (.link target))
        else d.jumpOf aim links (origin place (Path.ofText target)) (Path.stepsOf target ++ rest)
      | some (.directory _) | some (.file _ _) => d.walk aim links (place ++ [name]) rest := by
  obtain ⟨mode, here, pass⟩ := passable
  have short := Nat.not_lt_of_le plain.short
  cases held : d.get? (place ++ [name]) with
  | none => simp [walk_eq, follow, here, pass, plain.notUp, plain.notEmpty, plain.notHere, short, held]
  | some entry =>
      cases entry <;>
        simp [walk_eq, follow, here, pass, plain.notUp, plain.notEmpty, plain.notHere, short, held]

theorem walk_enter {entry : Entry} (passable : d.Passable place) (plain : Plain name)
    (held : d.get? (place ++ [name]) = some entry) (solid : entry.isLink = false) :
    d.walk aim links place (name :: rest) = d.walk aim links (place ++ [name]) rest := by
  rw [walk_plain passable plain, held]
  cases entry with
  | directory mode => rfl
  | file mode data => rfl
  | link target => cases solid

theorem walk_jump {target : Text} (passable : d.Passable place) (plain : Plain name)
    (held : d.get? (place ++ [name]) = some (.link target))
    (goesOn : ¬ (rest = [] ∧ aim = .entry)) :
    d.walk aim (links + 1) place (name :: rest) =
      d.walk aim links (origin place (Path.ofText target)) (Path.stepsOf target ++ rest) := by
  rw [walk_plain passable plain, held]
  exact if_neg goesOn

theorem walk_of_leads {spot : Spot} {names : List Text}
    (leads : d.Leads aim links place names spot) : d.walk aim links place names = .ok spot := by
  induction leads with
  | done here => rw [walk_eq, follow, here]
  | up passable _ ih => rw [walk_up passable, ih]
  | stay passable stays _ ih => rw [walk_stay passable stays, ih]
  | enter passable plain held solid _ ih => rw [walk_enter passable plain held solid, ih]
  | jump passable plain held goesOn _ ih => rw [walk_jump passable plain held goesOn, ih]
  | link passable plain held wanted =>
      rw [walk_plain passable plain, held]
      exact if_pos ⟨rfl, wanted⟩
  | vacant passable plain free last =>
      rw [walk_plain passable plain, free]
      rcases last with rfl | ⟨rfl, wanted⟩
      · exact if_pos rfl
      · simp [wanted]

/-- The walk ends well exactly where the names lead. -/
theorem walk_eq_ok_iff {spot : Spot} {names : List Text} :
    d.walk aim links place names = .ok spot ↔ d.Leads aim links place names spot :=
  ⟨leads_of_walk, walk_of_leads⟩

/-- Names that lead to a directory can be taken first, and what follows them from there. -/
theorem walk_append {names : List Text} {top : Location} {mode : Nat}
    (leads : d.Leads .entry links place names (.found top (.directory mode))) :
    ∃ fewer, ∀ aim rest, d.walk aim links place (names ++ rest) = d.walk aim fewer top rest := by
  generalize ending : Spot.found top (.directory mode) = spot at leads
  induction leads with
  | @done links place entry here =>
      cases ending
      exact ⟨links, fun aim rest => rfl⟩
  | up passable _ ih =>
      obtain ⟨fewer, same⟩ := ih ending
      exact ⟨fewer, fun aim rest => (walk_up passable).trans (same aim rest)⟩
  | stay passable stays _ ih =>
      obtain ⟨fewer, same⟩ := ih ending
      exact ⟨fewer, fun aim rest => (walk_stay passable stays).trans (same aim rest)⟩
  | enter passable plain held solid _ ih =>
      obtain ⟨fewer, same⟩ := ih ending
      exact ⟨fewer, fun aim rest => (walk_enter passable plain held solid).trans (same aim rest)⟩
  | @jump links place name target between spot passable plain held goesOn _ ih =>
      obtain ⟨fewer, same⟩ := ih ending
      refine ⟨fewer, fun aim rest => ?_⟩
      have further : ¬ (between ++ rest = [] ∧ aim = .entry) := by
        rintro ⟨empty, _⟩
        exact goesOn ⟨(List.append_eq_nil_iff.mp empty).1, rfl⟩
      rw [List.cons_append, walk_jump passable plain held further, ← List.append_assoc]
      exact same aim rest
  | link => cases ending
  | vacant => cases ending

end Steps

/-! ## What stands where names lead -/

namespace Leads

variable {d : Disk} {aim : Aim} {links : Nat} {place : Location} {names : List Text} {spot : Spot}

theorem get?_of_found {end_ : Location} {entry : Entry}
    (leads : d.Leads aim links place names (.found end_ entry)) : d.get? end_ = some entry := by
  generalize ending : Spot.found end_ entry = spot at leads
  induction leads with
  | done here => cases ending; exact here
  | up _ _ ih => exact ih ending
  | stay _ _ _ ih => exact ih ending
  | enter _ _ _ _ _ ih => exact ih ending
  | jump _ _ _ _ _ ih => exact ih ending
  | link _ _ held => cases ending; exact held
  | vacant => cases ending

theorem of_vacant {directory : Location} {name : Text}
    (leads : d.Leads aim links place names (.vacant directory name)) :
    d.Passable directory ∧ Plain name ∧ d.get? (directory ++ [name]) = none := by
  generalize ending : Spot.vacant directory name = spot at leads
  induction leads with
  | done => cases ending
  | up _ _ ih => exact ih ending
  | stay _ _ _ ih => exact ih ending
  | enter _ _ _ _ _ ih => exact ih ending
  | jump _ _ _ _ _ ih => exact ih ending
  | link => cases ending
  | vacant passable plain free => cases ending; exact ⟨passable, plain, free⟩

/-- Names that end in the name of an entry do not lead to the root. -/
theorem ne_nil_of_found {end_ : Location} {entry : Entry} {last : Text}
    (leads : d.Leads .entry links place names (.found end_ entry))
    (ends : names.getLast? = some last) (notUp : last ≠ Path.up)
    (moves : ¬ (last = [] ∨ last = Path.here)) : end_ ≠ [] := by
  generalize ending : Spot.found end_ entry = spot at leads
  induction leads with
  | done => cases ends
  | @up links place rest spot _ _ ih =>
      cases rest with
      | nil => exact absurd (Option.some.inj ends).symm notUp
      | cons name rest => exact ih (by rwa [List.getLast?_cons_cons] at ends) ending
  | @stay links place name rest spot _ stays _ ih =>
      cases rest with
      | nil => exact absurd (Option.some.inj ends ▸ stays) moves
      | cons name rest => exact ih (by rwa [List.getLast?_cons_cons] at ends) ending
  | @enter links place name rest spot inner _ _ _ _ next ih =>
      cases rest with
      | nil =>
          cases next
          cases ending
          simp
      | cons name rest => exact ih (by rwa [List.getLast?_cons_cons] at ends) ending
  | @jump links place name target rest spot _ _ _ goesOn _ ih =>
      cases rest with
      | nil => exact absurd ⟨rfl, rfl⟩ goesOn
      | cons name rest =>
          refine ih ?_ ending
          rw [List.getLast?_cons_cons] at ends
          rw [List.getLast?_append, ends]
          rfl
  | link => cases ending; simp
  | vacant => cases ending

end Leads

/-! ## Paths -/

/-- A path that can be looked for. -/
structure Nameable (p : Path) : Prop where
  named : misnamed? p = none
  short : (Text.encode p.text).length ≤ maxPath

theorem locate_eq_ok_iff {d : Disk} {cwd : Location} {aim : Aim} {p : Path} {spot : Spot} :
    d.locate cwd aim p = .ok spot ↔
      Nameable p ∧ d.Leads aim maxLinks (origin cwd p) p.names spot := by
  unfold locate locateSteps
  rw [List.append_nil, ← walk_eq_ok_iff]
  cases named : misnamed? p with
  | some fault => exact ⟨nofun, fun ⟨nameable, _⟩ => nomatch named.symm.trans nameable.named⟩
  | none =>
      by_cases long : maxPath < (Text.encode p.text).length
      · simp only [if_pos long]
        exact ⟨nofun, fun ⟨nameable, _⟩ => absurd long (Nat.not_lt_of_le nameable.short)⟩
      · simp only [if_neg long]
        have nameable : Nameable p := ⟨named, Nat.le_of_not_lt long⟩
        cases d.walk aim maxLinks (origin cwd p) p.names with
        | error errno => exact ⟨nofun, fun ⟨_, ended⟩ => nomatch ended⟩
        | ok other =>
            refine ⟨fun same => ⟨nameable, ?_⟩, fun ⟨_, same⟩ => ?_⟩
            · cases same
              rfl
            · cases same
              rfl

/-! ## Fewer entries -/

/-- The second disk is the first one without some of its entries. -/
def Sheds (d after : Disk) : Prop := ∀ spot, after.get? spot = d.get? spot ∨ after.get? spot = none

theorem Sheds.refl (d : Disk) : d.Sheds d := fun _ => .inl rfl

theorem Sheds.trans {first second third : Disk} (one : first.Sheds second)
    (two : second.Sheds third) : first.Sheds third := by
  intro spot
  rcases two spot with same | gone
  · rw [same]
    exact one spot
  · exact .inr gone

theorem sheds_removeIf (d : Disk) (gone : Location → Bool) : d.Sheds (d.removeIf gone) := by
  intro spot
  by_cases top : spot = []
  · subst top
    exact .inl rfl
  · rw [get?_removeIf d gone top]
    split
    · exact .inr rfl
    · exact .inl rfl

/-- A walk that ends nowhere. -/
def Lost (result : Except Errno Spot) : Prop :=
  result = .error .notFound ∨ ∃ directory name, result = .ok (.vacant directory name)

theorem follow_of_sheds {d after : Disk} {aim : Aim} (sheds : d.Sheds after) (wanted : aim ≠ .file)
    {jump jump' : Location → List Text → Except Errno Spot}
    (jumps : ∀ place names, jump' place names = jump place names ∨ Lost (jump' place names))
    (place : Location) (names : List Text) :
    after.follow aim jump' place names = d.follow aim jump place names ∨
      Lost (after.follow aim jump' place names) := by
  induction names generalizing place with
  | nil =>
      unfold follow
      rcases sheds place with same | gone
      · rw [same]
        exact .inl rfl
      · rw [gone]
        exact .inr (.inl rfl)
  | cons name rest ih =>
      unfold follow
      rcases sheds place with same | gone
      · rw [same]
        rcases d.get? place with _ | (mode | _ | _)
        · exact .inl rfl
        · dsimp only
          split
          · exact .inl rfl
          · split
            · exact ih _
            · split
              · exact ih _
              · split
                · exact .inl rfl
                · rcases sheds (place ++ [name]) with kept | removed
                  · rw [kept]
                    rcases d.get? (place ++ [name]) with _ | (_ | _ | _)
                    · exact .inl rfl
                    · exact ih _
                    · exact ih _
                    · dsimp only
                      split
                      · exact .inl rfl
                      · exact jumps _ _
                  · rw [removed]
                    refine .inr ?_
                    dsimp only
                    split
                    · exact .inr ⟨_, _, rfl⟩
                    · split
                      · exact .inr ⟨_, _, rfl⟩
                      · exact .inl rfl
        · exact .inl rfl
        · exact .inl rfl
      · rw [gone]
        exact .inr (.inl rfl)

/-- When entries are gone, a walk ends as before or nowhere. -/
theorem walk_of_sheds {d after : Disk} {aim : Aim} (sheds : d.Sheds after) (wanted : aim ≠ .file)
    (links : Nat) (place : Location) (names : List Text) :
    after.walk aim links place names = d.walk aim links place names ∨
      Lost (after.walk aim links place names) := by
  induction links generalizing place names with
  | zero => exact follow_of_sheds sheds wanted (fun _ _ => .inl rfl) place names
  | succ links ih => exact follow_of_sheds sheds wanted ih place names

/-! ## More entries -/

/-- What an entry may turn into while its disk grows: it stays of its kind, a link points
where it did, and a directory that may be passed may still be. -/
def Grown : Entry → Entry → Prop
  | .directory mode, .directory more => mode &&& Entry.passBit ≠ 0 → more &&& Entry.passBit ≠ 0
  | .file _ _, .file _ _ => True
  | .link target, .link other => other = target
  | _, _ => False

theorem Grown.refl (entry : Entry) : Grown entry entry := by
  cases entry with
  | directory mode => exact id
  | file mode data => trivial
  | link target => rfl

theorem Grown.trans {first second third : Entry} (one : Grown first second)
    (two : Grown second third) : Grown first third := by
  cases first <;> cases second <;> cases third <;> simp_all [Grown]

theorem Grown.isLink_eq {entry more : Entry} (grown : Grown entry more) :
    more.isLink = entry.isLink := by
  cases entry <;> cases more <;> first | rfl | cases grown

/-- The second disk has the entries of the first one, and perhaps more. -/
def Grows (d after : Disk) : Prop :=
  ∀ spot entry, d.get? spot = some entry → ∃ more, after.get? spot = some more ∧ Grown entry more

theorem Grows.refl (d : Disk) : d.Grows d := fun _ entry held => ⟨entry, held, Grown.refl entry⟩

theorem Grows.trans {first second third : Disk} (one : first.Grows second)
    (two : second.Grows third) : first.Grows third := by
  intro spot entry held
  obtain ⟨more, kept, grown⟩ := one spot entry held
  obtain ⟨most, still, further⟩ := two spot more kept
  exact ⟨most, still, grown.trans further⟩

theorem grows_put_of_none {d : Disk} {place : Location} (free : d.get? place = none)
    (entry : Entry) : d.Grows (d.put place entry) := by
  intro spot old held
  refine ⟨old, ?_, Grown.refl old⟩
  rw [get?_put, if_neg]
  · exact held
  · rintro ⟨rfl, _⟩
    rw [free] at held
    cases held

theorem grows_put_of_grown {d : Disk} {place : Location} {entry more : Entry}
    (held : d.get? place = some entry) (grown : Grown entry more) : d.Grows (d.put place more) := by
  intro spot old present
  rw [get?_put]
  split
  · rename_i same
    rw [same.1, held] at present
    cases present
    exact ⟨more, rfl, grown⟩
  · exact ⟨old, present, Grown.refl old⟩

theorem Passable.of_grows {d after : Disk} {place : Location} (passable : d.Passable place)
    (grows : d.Grows after) : after.Passable place := by
  obtain ⟨mode, here, pass⟩ := passable
  obtain ⟨more, kept, grown⟩ := grows place _ here
  cases more with
  | directory mode' => exact ⟨mode', kept, grown pass⟩
  | file mode' data => cases grown
  | link target => cases grown

/-- Names that led to an entry still lead to it when the disk has grown. -/
theorem Leads.of_grows {d after : Disk} {aim : Aim} {links : Nat} {place : Location}
    {names : List Text} {end_ : Location} {entry : Entry} (grows : d.Grows after)
    (leads : d.Leads aim links place names (.found end_ entry)) :
    ∃ more, Grown entry more ∧ after.Leads aim links place names (.found end_ more) := by
  generalize ending : Spot.found end_ entry = spot at leads
  induction leads with
  | @done links place old here =>
      cases ending
      obtain ⟨more, kept, grown⟩ := grows _ _ here
      exact ⟨more, grown, .done kept⟩
  | up passable _ ih =>
      obtain ⟨more, grown, leads⟩ := ih ending
      exact ⟨more, grown, .up (passable.of_grows grows) leads⟩
  | stay passable stays _ ih =>
      obtain ⟨more, grown, leads⟩ := ih ending
      exact ⟨more, grown, .stay (passable.of_grows grows) stays leads⟩
  | enter passable plain held solid _ ih =>
      obtain ⟨more, grown, leads⟩ := ih ending
      obtain ⟨inner, kept, same⟩ := grows _ _ held
      exact ⟨more, grown, .enter (passable.of_grows grows) plain kept (same.isLink_eq ▸ solid) leads⟩
  | jump passable plain held goesOn _ ih =>
      obtain ⟨more, grown, leads⟩ := ih ending
      obtain ⟨inner, kept, same⟩ := grows _ _ held
      cases inner with
      | directory mode => cases same
      | file mode data => cases same
      | link target =>
          cases same
          exact ⟨more, grown, .jump (passable.of_grows grows) plain kept goesOn leads⟩
  | link passable plain held wanted =>
      cases ending
      obtain ⟨inner, kept, same⟩ := grows _ _ held
      cases inner with
      | directory mode => cases same
      | file mode data => cases same
      | link target =>
          cases same
          exact ⟨_, Grown.refl _, .link (passable.of_grows grows) plain kept wanted⟩
  | vacant => cases ending

/-- Names that led to a free name lead to the directory that was put there. -/
theorem Leads.of_put {d after : Disk} {aim : Aim} {links : Nat} {place directory : Location}
    {names : List Text} {name : Text} {mode : Nat} (grows : d.Grows after)
    (put : after.get? (directory ++ [name]) = some (.directory mode))
    (pass : mode &&& Entry.passBit ≠ 0)
    (leads : d.Leads aim links place names (.vacant directory name)) :
    after.Leads aim links place names (.found (directory ++ [name]) (.directory mode)) := by
  generalize ending : Spot.vacant directory name = spot at leads
  induction leads with
  | done => cases ending
  | up passable _ ih => exact .up (passable.of_grows grows) (ih ending)
  | stay passable stays _ ih => exact .stay (passable.of_grows grows) stays (ih ending)
  | enter passable plain held solid _ ih =>
      obtain ⟨inner, kept, same⟩ := grows _ _ held
      exact .enter (passable.of_grows grows) plain kept (same.isLink_eq ▸ solid) (ih ending)
  | jump passable plain held goesOn _ ih =>
      obtain ⟨inner, kept, same⟩ := grows _ _ held
      cases inner with
      | directory mode => cases same
      | file mode data => cases same
      | link target =>
          cases same
          exact .jump (passable.of_grows grows) plain kept goesOn (ih ending)
  | link => cases ending
  | vacant passable plain free last =>
      cases ending
      refine .enter (passable.of_grows grows) plain put rfl ?_
      rcases last with rfl | ⟨rfl, _⟩
      · exact .done put
      · exact .stay ⟨mode, put, pass⟩ (.inl rfl) (.done put)

theorem makeDirectory_eq_ok {d after : Disk} {cwd : Location} {p : Path} {mode : Nat}
    (made : d.makeDirectory cwd p mode = .ok after) :
    ∃ directory name, d.locate cwd .entry p = .ok (.vacant directory name) ∧
      after = d.put (directory ++ [name]) (.directory mode) := by
  unfold makeDirectory at made
  rcases found : d.locate cwd .entry p with fault | (⟨place, entry⟩ | ⟨directory, name⟩)
  · rw [found] at made
    cases made
  · rw [found] at made
    cases made
  · rw [found] at made
    change d.add p directory name (.directory mode) = .ok after at made
    unfold add at made
    split at made
    · cases made
      exact ⟨directory, name, rfl, rfl⟩
    · cases made

end Disk

end StageParity
