import Mathlib.Data.List.Nodup
import Replug.Proofs.Toml.Reading
import Replug.Proofs.Toml.Tables

/-!
# Sound trees

In the tree of a document no table has a name twice, at any depth, and every whole number fits into
64 bits with a sign.  Each way to change a table keeps this, so putting a document together keeps it
as well.
-/

set_option autoImplicit false

namespace Replug.Toml

inductive Node.Sound : Node → Prop where
  | leaf {span : Span} {value : Scalar} (fits : value.Fits) : Sound (.leaf span value)
  | list {span : Span} {items : List Node} (all : ∀ item ∈ items, item.Sound) :
    Sound (.list span items)
  | tables {span : Span} {items : List Node} (all : ∀ item ∈ items, item.Sound) :
    Sound (.tables span items)
  | table {span : Span} {origin : Origin} {entries : Entries}
    (distinct : (entries.map Prod.fst).Nodup) (all : ∀ e ∈ entries, Sound e.2) :
    Sound (.table span origin entries)

structure Entries.Sound (es : Entries) : Prop where
  distinct : (es.map Prod.fst).Nodup
  all : ∀ e ∈ es, e.2.Sound

theorem Entries.Sound.table {es : Entries} (sound : es.Sound) (span : Span) (origin : Origin) :
    Node.Sound (.table span origin es) := .table sound.distinct sound.all

theorem Node.Sound.entries {span : Span} {origin : Origin} {es : Entries}
    (sound : Node.Sound (.table span origin es)) : Entries.Sound es := by
  cases sound with
  | table distinct all => exact ⟨distinct, all⟩

namespace Entries

theorem Sound.nil : Entries.Sound [] := ⟨by simp, by simp⟩

theorem not_mem_of_find? {es : Entries} {name : String} (fresh : es.find? name = none) :
    name ∉ es.map Prod.fst := by
  intro member
  obtain ⟨e, inside, rfl⟩ := List.mem_map.mp member
  have other := List.lookup_eq_none_iff.mp fresh e inside
  simp at other

variable {es : Entries} {name : String} {node : Node}

theorem Sound.found (sound : es.Sound) (found : es.find? name = some node) : node.Sound :=
  sound.all (name, node) (mem_of_lookup found)

theorem Sound.append (sound : es.Sound) (fresh : es.find? name = none) (more : node.Sound) :
    (es.append name node).Sound := by
  constructor
  · simp only [Entries.append, List.map_append, List.map_cons, List.map_nil]
    refine List.nodup_append.mpr ⟨sound.distinct, by simp, ?_⟩
    intro first before last isLast same
    rw [List.mem_singleton] at isLast
    subst isLast same
    exact not_mem_of_find? fresh before
  · intro e member
    rcases List.mem_append.mp member with before | last
    · exact sound.all e before
    · rw [List.mem_singleton] at last
      subst last
      exact more

theorem Sound.replace (sound : es.Sound) (other : node.Sound) : (es.replace name node).Sound := by
  have sameNames : (es.replace name node).map Prod.fst = es.map Prod.fst := by
    rw [Entries.replace, List.map_map]
    apply List.map_congr_left
    intro e member
    by_cases named : e.1 = name
    · simp [named]
    · simp [named]
  constructor
  · rw [sameNames]
    exact sound.distinct
  · intro e member
    obtain ⟨e', inside, rfl⟩ := List.mem_map.mp member
    by_cases named : e'.1 = name
    · simpa [named] using other
    · simpa [named] using sound.all e' inside

theorem Sound.erase (sound : es.Sound) (name : String) : (es.erase name).Sound := by
  constructor
  · exact (List.filter_sublist.map Prod.fst).nodup sound.distinct
  · intro e member
    exact sound.all e (List.mem_filter.mp member).1

theorem find?_erase (es : Entries) (name : String) : (es.erase name).find? name = none := by
  apply find?_fresh
  intro member
  obtain ⟨e, inside, rfl⟩ := List.mem_map.mp member
  have other := (List.mem_filter.mp inside).2
  simp at other

end Entries

/-! ## Changes -/

def KeepsSound (change : Entries → Option Entries) : Prop :=
  ∀ es es', es.Sound → change es = some es' → es'.Sound

theorem changeAt_keepsSound (reach : Reach) {change : Origin → Entries → Option Entries}
    (keeps : ∀ origin, KeepsSound (change origin)) (path : List Key) (origin : Origin) :
    KeepsSound (changeAt reach change path origin) := by
  induction path generalizing origin with
  | nil => exact keeps origin
  | cons key path ih =>
      intro es es' sound changed
      simp only [changeAt] at changed
      split at changed
      · next fresh =>
          obtain ⟨inner, made, same⟩ := Option.bind_eq_some_iff.mp changed
          cases same
          exact sound.append fresh ((ih _ _ inner .nil made).table _ _)
      · next span before inner found =>
          split at changed
          · obtain ⟨inner', made, same⟩ := Option.bind_eq_some_iff.mp changed
            cases same
            exact sound.replace ((ih _ _ inner' (sound.found found).entries made).table _ _)
          · cases changed
      · next span items found =>
          have allItems : ∀ item ∈ items, item.Sound := by
            cases sound.found found with
            | tables all => exact all
          split at changed
          · next last before inner isLast =>
              obtain ⟨inner', made, same⟩ := Option.bind_eq_some_iff.mp changed
              cases same
              have soundLast := allItems _ (List.mem_of_getLast? isLast)
              have madeSound := (ih _ _ inner' soundLast.entries made).table last before
              refine sound.replace (.tables fun item member => ?_)
              rcases List.mem_append.mp member with earlier | isNew
              · exact allItems item ((List.dropLast_sublist items).subset earlier)
              · rw [List.mem_singleton] at isNew
                subst isNew
                exact madeSound
          · cases changed
      · cases changed
      · cases changed

theorem addEntry_keepsSound (path : List Key) {node : Node} (sound : node.Sound) (origin : Origin) :
    KeepsSound (addEntry path node origin) := by
  intro es es' before added
  simp only [addEntry, Option.bind_eq_bind, Option.bind_eq_some_iff] at added
  obtain ⟨⟨front, last⟩, -, changed⟩ := added
  refine changeAt_keepsSound .byPoints (fun origin es es' before put => ?_) front origin es es'
    before changed
  split at put
  · cases put
  · split at put
    · cases put
    · next fresh =>
        cases put
        exact before.append fresh sound

/-! ## Documents -/

mutual

theorem Value.toNode_sound : ∀ (v : Value), v.Fits → ∀ node, v.toNode = some node → node.Sound
  | .scalar span s, fits, node, made => by
      cases made
      cases fits with
      | scalar fits => exact .leaf fits
  | .array span items, fits, node, made => by
      obtain ⟨nodes, each, rfl⟩ := Option.map_eq_some_iff.mp made
      cases fits with
      | array all => exact .list (itemNodes_sound items all nodes each)
  | .inlineTable span entries, fits, node, made => by
      obtain ⟨es, each, rfl⟩ := Option.map_eq_some_iff.mp made
      cases fits with
      | inlineTable all => exact (entryNodes_sound entries all [] es .nil each).table span .inline

theorem itemNodes_sound : ∀ (items : List Value), (∀ item ∈ items, item.Fits) →
    ∀ nodes, itemNodes items = some nodes → ∀ node ∈ nodes, node.Sound
  | [], _, nodes, each => by
      cases each
      simp
  | v :: vs, fits, nodes, each => by
      simp only [itemNodes, Option.bind_eq_bind, Option.bind_eq_some_iff] at each
      obtain ⟨node, made, others, rest, same⟩ := each
      cases same
      have allFit := List.forall_mem_cons.mp fits
      exact List.forall_mem_cons.mpr
        ⟨v.toNode_sound allFit.1 node made, itemNodes_sound vs allFit.2 others rest⟩

theorem entryNodes_sound : ∀ (entries : List Entry), (∀ e ∈ entries, e.2.Fits) →
    ∀ es es', es.Sound → entryNodes entries es = some es' → es'.Sound
  | [], _, es, es', before, each => by
      cases each
      exact before
  | (path, v) :: rest, fits, es, es', before, each => by
      simp only [entryNodes, Option.bind_eq_bind, Option.bind_eq_some_iff] at each
      obtain ⟨node, made, between, added, later⟩ := each
      have allFit := List.forall_mem_cons.mp fits
      have sound := v.toNode_sound allFit.1 node made
      exact entryNodes_sound rest allFit.2 between es'
        (addEntry_keepsSound path sound .inline es between before added) later

end

theorem addEntries_keepsSound (origin : Origin) (entries : List Entry)
    (fits : ∀ e ∈ entries, e.2.Fits) : KeepsSound (addEntries origin entries) := by
  induction entries with
  | nil =>
      intro es es' before added
      cases added
      exact before
  | cons e rest ih =>
      intro es es' before added
      simp only [addEntries, Option.bind_eq_bind, Option.bind_eq_some_iff] at added
      obtain ⟨node, made, between, put, later⟩ := added
      have allFit := List.forall_mem_cons.mp fits
      have sound := e.2.toNode_sound allFit.1 node made
      exact ih allFit.2 between es'
        (addEntry_keepsSound e.1 sound origin es between before put) later

theorem placeIn_keepsSound (s : Section) (fits : ∀ e ∈ s.entries, e.2.Fits) (last : Key) :
    KeepsSound (s.placeIn last) := by
  intro es es' before placed
  have fill : ∀ inner inner', Entries.Sound inner →
      addEntries .header s.entries inner = some inner' → Entries.Sound inner' :=
    addEntries_keepsSound .header s.entries fits
  unfold Section.placeIn at placed
  split at placed
  · next fresh =>
      obtain ⟨inner, put, same⟩ := Option.bind_eq_some_iff.mp placed
      cases same
      exact before.append fresh ((fill [] inner .nil put).table _ _)
  · next span inner notItem found =>
      obtain ⟨inner', put, same⟩ := Option.bind_eq_some_iff.mp placed
      cases same
      exact (before.erase _).append (Entries.find?_erase es _)
        ((fill inner inner' (before.found found).entries put).table _ _)
  · next fresh =>
      obtain ⟨inner, put, same⟩ := Option.bind_eq_some_iff.mp placed
      cases same
      have item := (fill [] inner .nil put).table s.stretch .header
      exact before.append fresh (.tables (by simpa using item))
  · next span items isItem found =>
      obtain ⟨inner, put, same⟩ := Option.bind_eq_some_iff.mp placed
      cases same
      have item := (fill [] inner .nil put).table s.stretch .header
      refine before.replace (.tables fun other member => ?_)
      rcases List.mem_append.mp member with earlier | isNew
      · cases before.found found with
        | tables all => exact all other earlier
      · rw [List.mem_singleton] at isNew
        subst isNew
        exact item
  · cases placed

theorem place_keepsSound (s : Section) (fits : ∀ e ∈ s.entries, e.2.Fits) :
    KeepsSound fun es => Section.place es s := by
  intro es es' before placed
  simp only [Section.place, Option.bind_eq_bind, Option.bind_eq_some_iff] at placed
  obtain ⟨⟨front, last⟩, -, changed⟩ := placed
  exact changeAt_keepsSound .byHeader (fun _ => placeIn_keepsSound s fits last) front .header es es'
    before changed

theorem foldlM_keepsSound (sections : List Section)
    (fits : ∀ s ∈ sections, ∀ e ∈ s.entries, e.2.Fits) :
    KeepsSound fun es => sections.foldlM Section.place es := by
  induction sections with
  | nil =>
      intro es es' before placed
      cases placed
      exact before
  | cons s rest ih =>
      intro es es' before placed
      simp only [List.foldlM_cons, Option.bind_eq_bind, Option.bind_eq_some_iff] at placed
      obtain ⟨between, first, later⟩ := placed
      have allFit := List.forall_mem_cons.mp fits
      exact ih allFit.2 between es' (place_keepsSound s allFit.1 es between before first) later

theorem Document.tree?_sound (d : Document) (fits : d.Fits) (root : Entries)
    (made : d.tree? = some root) : root.Sound := by
  simp only [Document.tree?, Option.bind_eq_bind, Option.bind_eq_some_iff] at made
  obtain ⟨es, top, sections⟩ := made
  have before := addEntries_keepsSound .header d.top fits.top [] es .nil top
  exact foldlM_keepsSound d.sections fits.sections es root before sections

theorem parse?_sound (text : String) (root : Entries) (parsed : parse? text = some root) :
    root.Sound := by
  simp only [parse?, Option.bind_eq_bind, Option.bind_eq_some_iff] at parsed
  obtain ⟨d, read, tree⟩ := parsed
  exact d.tree?_sound (document?_fits _ d read) root tree

end Replug.Toml
