import Mathlib.Data.List.Basic
import Replug.Files.Access

/-!
# Ways through files

`Leads` tells by rules where names lead from a location and through at most how many links, and it is
the same as following them.  So what becomes of a way when files change is an induction on the way:
directories and links that stay keep every way to a directory, and a location that gets an entry is
where the ways end that led to it before.
-/

set_option autoImplicit false

namespace Replug.Files

/-! ## Locations -/

theorem lookup_filter_ne {place other : Location} (differs : other ≠ place)
    (entries : List (Location × Entry)) :
    (entries.filter fun e => e.1 ≠ place).lookup other = entries.lookup other := by
  induction entries with
  | nil => rfl
  | cons e entries ih =>
      rw [List.filter_cons]
      split
      · rw [List.lookup_cons, List.lookup_cons, ih]
      · next dropped =>
          have here : e.1 = place := by simpa using dropped
          have passed : (other == e.1) = false := by simpa [here] using differs
          rw [ih, List.lookup_cons, passed]

theorem at?_put_of_ne {place other : Location} (differs : other ≠ place) (files : Files)
    (entry : Entry) : (files.put place entry).at? other = files.at? other := by
  have passed : (other == place) = false := by simpa using differs
  unfold at?
  split
  · rfl
  · simp only [put, List.lookup_cons, passed, lookup_filter_ne differs]

/-! ## Ways -/

def Destination.place : Destination → Location
  | .found place _ => place
  | .vacant directory name => directory ++ [name]

/-- A location has a directory that a way may go through. -/
structure Passes (files : Files) (place : Location) : Prop where
  directory : files.at? place = some .directory
  free : (files.termsAt place).passing = none

theorem enter_eq_ok_iff {files : Files} {place : Location} :
    files.enter place = .ok () ↔ Passes files place := by
  unfold enter
  constructor
  · intro goes
    split at goes
    · cases goes
    · next directory =>
        split at goes
        · cases goes
        · next free => exact ⟨directory, free⟩
    · cases goes
  · rintro ⟨directory, free⟩
    simp [directory, free]

/-- A name may be entered from a location: names may be looked for there, and the name is none that
goes up and not too long. -/
structure Enters (files : Files) (place : Location) (name : Bytes) : Prop where
  inside : Passes files place
  named : name ≠ Path.above
  short : name.length ≤ longestName

/-- Names lead from a location to a destination, through fewer than so many links. -/
inductive Leads (files : Files) : Nat → Location → List Bytes → Destination → Prop
  | arrived {links : Nat} {place : Location} {entry : Entry}
    (here : files.at? place = some entry) : Leads files (links + 1) place [] (.found place entry)
  | up {links : Nat} {place : Location} {rest : List Bytes} {d : Destination}
    (inside : Passes files place) (later : Leads files (links + 1) (up place) rest d) :
    Leads files (links + 1) place (Path.above :: rest) d
  | down {links : Nat} {place : Location} {name : Bytes} {rest : List Bytes} {entry : Entry}
    {d : Destination} (enters : Enters files place name)
    (next : files.at? (place ++ [name]) = some entry) (noLink : ∀ target, entry ≠ .link target)
    (later : Leads files (links + 1) (place ++ [name]) rest d) :
    Leads files (links + 1) place (name :: rest) d
  | link {links : Nat} {place : Location} {name : Bytes} {rest : List Bytes} {target : Path}
    {d : Destination} (enters : Enters files place name)
    (next : files.at? (place ++ [name]) = some (.link target))
    (later : Leads files links (if target.isAbsolute then [] else place) (steps target ++ rest) d) :
    Leads files (links + 1) place (name :: rest) d
  | vacant {links : Nat} {place : Location} {name : Bytes} (enters : Enters files place name)
    (free : files.at? (place ++ [name]) = none) :
    Leads files (links + 1) place [name] (.vacant place name)

theorem Passes.mono {files files' : Files} {place : Location} (passes : Passes files place)
    (terms : files'.terms = files.terms)
    (directories : ∀ place, files.at? place = some .directory → files'.at? place = some .directory) :
    Passes files' place :=
  ⟨directories place passes.directory, by rw [termsAt, terms]; exact passes.free⟩

theorem Enters.mono {files files' : Files} {place : Location} {name : Bytes}
    (enters : Enters files place name) (terms : files'.terms = files.terms)
    (directories : ∀ place, files.at? place = some .directory → files'.at? place = some .directory) :
    Enters files' place name :=
  ⟨enters.inside.mono terms directories, enters.named, enters.short⟩

variable {files files' : Files} {links : Nat} {place : Location} {names : List Bytes}
  {d : Destination}

theorem leads_of_along (names : List Bytes)
    (follow : ∀ place names, walk files links place names = .ok d → Leads files links place names d)
    (goes : along files (walk files links) place names = .ok d) :
    Leads files (links + 1) place names d := by
  induction names generalizing place with
  | nil =>
      simp only [along] at goes
      split at goes
      · next entry here =>
          cases goes
          exact .arrived here
      · cases goes
  | cons name rest ih =>
      simp only [along] at goes
      split at goes
      · cases goes
      · next entered =>
          have inside : Passes files place := enter_eq_ok_iff.mp entered
          split at goes
          · next above =>
              rw [above]
              exact .up inside (ih goes)
          · next named =>
              split at goes
              · cases goes
              · next notLong =>
                  have enters : Enters files place name := ⟨inside, named, Nat.le_of_not_lt notLong⟩
                  split at goes
                  · next target next => exact .link enters next (follow _ _ goes)
                  · next entry noLink next => exact .down enters next noLink (ih goes)
                  · next free =>
                      split at goes
                      · next last =>
                          cases goes
                          rw [List.isEmpty_iff.mp last]
                          exact .vacant enters free
                      · cases goes

theorem leads_of_walk (goes : walk files links place names = .ok d) :
    Leads files links place names d := by
  induction links generalizing place names with
  | zero => cases goes
  | succ links ih => exact leads_of_along names (fun _ _ => ih) goes

theorem Leads.walk (leads : Leads files links place names d) :
    walk files links place names = .ok d := by
  induction leads with
  | arrived here => simp [Files.walk, along, here]
  | up inside later ih => simpa [Files.walk, along, enter_eq_ok_iff.mpr inside] using ih
  | @down links place name rest entry d enters next noLink later ih =>
      obtain ⟨inside, named, short⟩ := enters
      have entered := enter_eq_ok_iff.mpr inside
      have notLong : ¬ longestName < name.length := Nat.not_lt.mpr short
      cases entry with
      | link target => exact absurd rfl (noLink target)
      | directory => simpa [Files.walk, along, entered, named, notLong, next] using ih
      | file content runnable => simpa [Files.walk, along, entered, named, notLong, next] using ih
      | device gives => simpa [Files.walk, along, entered, named, notLong, next] using ih
  | @link links place name rest target d enters next later ih =>
      obtain ⟨inside, named, short⟩ := enters
      have entered := enter_eq_ok_iff.mpr inside
      have notLong : ¬ longestName < name.length := Nat.not_lt.mpr short
      simpa [Files.walk, along, entered, named, notLong, next] using ih
  | @vacant links place name enters free =>
      obtain ⟨inside, named, short⟩ := enters
      have entered := enter_eq_ok_iff.mpr inside
      have notLong : ¬ longestName < name.length := Nat.not_lt.mpr short
      simp [Files.walk, along, entered, named, notLong, free]

namespace Leads

theorem there {target : Location} {entry : Entry}
    (leads : Leads files links place names (.found target entry)) :
    files.at? target = some entry := by
  generalize ends : Destination.found target entry = d at leads
  induction leads with
  | arrived here =>
      cases ends
      exact here
  | up inside later ih => exact ih ends
  | down enters next noLink later ih => exact ih ends
  | link enters next later ih => exact ih ends
  | vacant enters free => cases ends

theorem free {directory : Location} {name : Bytes}
    (leads : Leads files links place names (.vacant directory name)) :
    files.at? (directory ++ [name]) = none := by
  generalize ends : Destination.vacant directory name = d at leads
  induction leads with
  | arrived here => cases ends
  | up inside later ih => exact ih ends
  | down enters next noLink later ih => exact ih ends
  | link enters next later ih => exact ih ends
  | vacant enters isFree =>
      cases ends
      exact isFree

theorem starts_inside {directory : Location}
    (leads : Leads files links place names (.found directory .directory)) :
    files.at? place = some .directory := by
  cases leads with
  | arrived here => exact here
  | up inside later => exact inside.directory
  | down enters => exact enters.inside.directory
  | link enters => exact enters.inside.directory

theorem stays {directory : Location} (terms : files'.terms = files.terms)
    (directories : ∀ place, files.at? place = some .directory → files'.at? place = some .directory)
    (onward : ∀ place target, files.at? place = some (.link target) →
      files'.at? place = some (.link target))
    (leads : Leads files links place names (.found directory .directory)) :
    Leads files' links place names (.found directory .directory) := by
  generalize ends : Destination.found directory .directory = d at leads
  induction leads with
  | arrived here =>
      cases ends
      exact .arrived (directories _ here)
  | up inside later ih => exact .up (inside.mono terms directories) (ih ends)
  | down enters next noLink later ih =>
      subst ends
      have entered := directories _ later.starts_inside
      exact .down (enters.mono terms directories) entered (by simp) (ih rfl)
  | link enters next later ih =>
      exact .link (enters.mono terms directories) (onward _ _ next) (ih ends)
  | vacant enters free => cases ends

/-- A location that is no directory and no link gets an entry: then that is what every way leads to
that led there before. -/
theorem settles {target : Location} {entry : Entry} (terms : files'.terms = files.terms)
    (noLink : ∀ path, entry ≠ .link path)
    (others : ∀ place, place ≠ target → files'.at? place = files.at? place)
    (notInside : files.at? target ≠ some .directory)
    (notOnward : ∀ path, files.at? target ≠ some (.link path))
    (here : files'.at? target = some entry) (leads : Leads files links place names d)
    (ends : d.place = target) : Leads files' links place names (.found target entry) := by
  have keepsDirectory : ∀ place, files.at? place = some .directory →
      files'.at? place = some .directory := by
    intro place inside
    rw [others place (by rintro rfl; exact notInside inside), inside]
  induction leads with
  | arrived arrived =>
      cases ends
      exact .arrived here
  | up inside later ih => exact .up (inside.mono terms keepsDirectory) (ih ends)
  | @down _ place name _ _ _ enters next noLink' later ih =>
      -- The way may come to the location here, and then it ends here: it was no directory.
      by_cases isTarget : place ++ [name] = target
      · exact .down (enters.mono terms keepsDirectory) (isTarget ▸ here) noLink (ih ends)
      · exact .down (enters.mono terms keepsDirectory) (others _ isTarget ▸ next) noLink' (ih ends)
  | @link _ place name _ _ _ enters next later ih =>
      have other : place ++ [name] ≠ target := by
        rintro rfl
        exact notOnward _ next
      exact .link (enters.mono terms keepsDirectory) (others _ other ▸ next) (ih ends)
  | @vacant _ place name enters free =>
      cases ends
      exact .down (enters.mono terms keepsDirectory) here noLink (.arrived here)

end Leads

end Replug.Files
