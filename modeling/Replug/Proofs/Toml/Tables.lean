import Replug.Toml.Tree

/-!
# Plain tables put together

What a section of bare entries becomes in the tree of a document, as long as no name comes twice.
-/

set_option autoImplicit false

namespace Replug.Toml

/-! ## Values by name -/

section Lookup

variable {β : Type} {entries : List (String × β)} {name : String}

theorem ne_of_fresh (fresh : name ∉ entries.map Prod.fst) {e : String × β} (member : e ∈ entries) :
    e.1 ≠ name := fun same => fresh (same ▸ List.mem_map_of_mem member)

theorem lookup_fresh (fresh : name ∉ entries.map Prod.fst) : entries.lookup name = none := by
  rw [List.lookup_eq_none_iff]
  intro e member
  have other := (ne_of_fresh fresh member).symm
  simpa using other

theorem mem_of_lookup {value : β} (found : entries.lookup name = some value) :
    (name, value) ∈ entries := by
  obtain ⟨before, after, split, -⟩ := List.lookup_eq_some_iff.mp found
  simp [split]

theorem lookup_of_mem (distinct : (entries.map Prod.fst).Nodup) {e : String × β}
    (member : e ∈ entries) : entries.lookup e.1 = some e.2 := by
  induction entries with
  | nil => cases member
  | cons first entries ih =>
      obtain ⟨fresh, others⟩ := List.nodup_cons.mp distinct
      rcases List.mem_cons.mp member with rfl | later
      · exact List.lookup_cons_self
      · have differs := ne_of_fresh fresh later
        obtain ⟨name, value⟩ := first
        have unequal : (e.1 == name) = false := beq_eq_false_iff_ne.mpr differs
        simp only [List.lookup_cons, unequal]
        exact ih others later

end Lookup

theorem find?_fresh (es : Entries) (name : String) (fresh : name ∉ es.map Prod.fst) :
    es.find? name = none := lookup_fresh fresh

theorem find?_other {name name' : String} (other : name' ≠ name) (node : Node) (es : Entries) :
    Entries.find? ((name, node) :: es) name' = es.find? name' := by
  have unequal : (name' == name) = false := beq_eq_false_iff_ne.mpr other
  simp only [Entries.find?, List.lookup_cons, unequal]

/-! ## Lines -/

/-- A line of a section: its key, where its value stands, and the value. -/
abbrev Line := Key × Span × Scalar

def Line.entry (line : Line) : Entry := ([line.1], .scalar line.2.1 line.2.2)

def Line.node (line : Line) : String × Node := (line.1.name, .leaf line.2.1 line.2.2)

theorem addEntry_fresh (key : Key) (node : Node) (origin : Origin) (es : Entries)
    (plain : origin ≠ .dotted) (fresh : es.find? key.name = none) :
    addEntry [key] node origin es = some (es.append key.name node) := by
  simp [addEntry, splitLast?, changeAt, plain, fresh]

theorem addEntries_lines (origin : Origin) (plain : origin ≠ .dotted) (lines : List Line)
    (es : Entries) (distinct : (es.map Prod.fst ++ lines.map fun line => line.1.name).Nodup) :
    addEntries origin (lines.map Line.entry) es = some (es ++ lines.map Line.node) := by
  induction lines generalizing es with
  | nil => simp [addEntries]
  | cons line lines ih =>
    have fresh : line.1.name ∉ es.map Prod.fst := by
      intro member
      exact (List.nodup_append.mp distinct).2.2 _ member line.1.name (by simp) rfl
    have distinctTail : ((es.append line.1.name line.node.2).map Prod.fst ++
        lines.map fun line => line.1.name).Nodup := by
      simpa [Entries.append] using distinct
    have added := addEntry_fresh line.1 line.node.2 origin es plain (find?_fresh es _ fresh)
    have rest := ih _ distinctTail
    simp only [List.map_cons, Line.entry, addEntries, Value.toNode, Option.bind_eq_bind,
      Option.bind_some]
    simp only [Line.node] at added rest ⊢
    rw [added, Option.bind_some]
    simpa [Entries.append] using rest

theorem place_fresh (key : Key) (span : Span) (entries : List Entry) (es inner : Entries)
    (fresh : es.find? key.name = none) (put : addEntries .header entries [] = some inner) :
    Section.place es ⟨[key], span, false, entries⟩ =
      some (es.append key.name
        (.table (Section.stretch ⟨[key], span, false, entries⟩) .header inner)) := by
  simp [Section.place, splitLast?, changeAt, Section.placeIn, fresh, put]

end Replug.Toml
