import Mathlib
import Replug.Proofs.Settings.Overlay

/-!
# Saying the same differently

Two root tables say the same about the settings if one can be made from the other by moving entries,
by adding and removing what has no meaning here, by writing a section as an array or as a table, and
by writing values elsewhere in the text.  They give the same settings, or neither gives any.
-/

set_option autoImplicit false

namespace Replug.Settings

open Toml

/-! ## The same values, elsewhere in the text -/

mutual

inductive Alike : Node → Node → Prop where
  | leaf {span span' : Span} (value : Scalar) : Alike (.leaf span value) (.leaf span' value)
  | list {span span' : Span} {items items' : List Node} (each : List.Forall₂ Alike items items') :
    Alike (.list span items) (.list span' items')
  | tables {span span' : Span} {items items' : List Node} (each : List.Forall₂ Alike items items') :
    Alike (.tables span items) (.tables span' items')
  | table {span span' : Span} {origin origin' : Origin} {es es' : Entries}
    (each : EntriesAlike es es') : Alike (.table span origin es) (.table span' origin' es')

inductive EntriesAlike : Entries → Entries → Prop where
  | nil : EntriesAlike [] []
  | cons (name : String) {node node' : Node} {es es' : Entries} (first : Alike node node')
    (others : EntriesAlike es es') : EntriesAlike ((name, node) :: es) ((name, node') :: es')

end

theorem EntriesAlike.zip_names (names : List String) {items items' : List Node}
    (alike : List.Forall₂ Alike items items') :
    EntriesAlike (names.zip items) (names.zip items') := by
  induction alike generalizing names with
  | nil =>
      rw [List.zip_nil_right]
      exact .nil
  | cons first others ih =>
      cases names with
      | nil => exact .nil
      | cons name names => exact .cons name first (ih names)

theorem Alike.named?_rel (names : List String) {node node' : Node} (alike : Alike node node') :
    Option.Rel EntriesAlike (named? names node) (named? names node') := by
  cases alike with
  | leaf value =>
      cases value with
      | moment => exact .some .nil
      | _ => exact .none
  | list each => exact .some (.zip_names names each)
  | tables each => exact .some (.zip_names names each)
  | table each => exact .some each

theorem effect_congr {α : Type} {name : String} {read : Node → Except Mismatch α}
    {put : Settings → α → Settings} {node node' : Node}
    (same : (read node).toOption = (read node').toOption) :
    Field.effect (name, fun node s => do return put s (← read node)) node =
      Field.effect (name, fun node s => do return put s (← read node)) node' := by
  funext s
  rw [effect_write, effect_write, same]

theorem Alike.effect_eq {node node' : Node} (alike : Alike node node') :
    ∀ f ∈ generalFields ++ usbipFields, Field.effect f node = Field.effect f node' := by
  have texts : textOf? node = textOf? node' := by
    cases alike with
    | leaf value => cases value <;> rfl
    | _ => rfl
  have numbers : numberOf? node = numberOf? node' := by
    cases alike with
    | leaf value =>
        cases value with
        | integer n => cases n <;> rfl
        | _ => rfl
    | _ => rfl
  have sameText : (text node).toOption = (text node').toOption := by
    rw [text_toOption, text_toOption, texts]
  have samePath : (path node).toOption = (path node').toOption := by
    rw [path_toOption, path_toOption, texts]
  have sameWord : (word node).toOption = (word node').toOption := by
    rw [word_toOption, word_toOption, numbers]
  simp only [generalFields, usbipFields, List.cons_append, List.nil_append, List.forall_mem_cons,
    List.not_mem_nil, false_implies, implies_true, and_true]
  exact ⟨effect_congr sameText, effect_congr samePath, effect_congr sameWord, effect_congr sameWord⟩

/-- Fields that do not look at where their values stand. -/
def Blind (fields : List Field) : Prop :=
  ∀ f ∈ fields, ∀ node node', Alike node node' → Field.effect f node = Field.effect f node'

theorem applyEntries_alike {fields : List Field} (blind : Blind fields) {es es' : Entries}
    (alike : EntriesAlike es es') (s : Settings) :
    (applyEntries fields es s).toOption = (applyEntries fields es' s).toOption := by
  induction es generalizing es' s with
  | nil =>
      cases alike
      rfl
  | cons e es ih =>
      cases alike with
      | @cons name node node' _ rest first others =>
          cases known : fields.lookup name with
          | none =>
              simp only [applyEntries, known]
              exact ih others s
          | some change =>
              have effect := congrFun (blind (name, change) (mem_of_lookup known) node node' first) s
              simp only [Field.effect] at effect
              simp only [applyEntries, known, toOption_bind, effect]
              exact congrArg _ (funext (ih others))

theorem applySection_alike {fields : List Field} (distinct : (fields.map Prod.fst).Nodup)
    (blind : Blind fields) (expected : Expected) {node node' : Node} (alike : Alike node node')
    (s : Settings) : (applySection fields expected node s).toOption =
      (applySection fields expected node' s).toOption := by
  rw [applySection_named rfl distinct, applySection_named rfl distinct]
  have named := alike.named?_rel (fields.map Prod.fst)
  generalize named? (fields.map Prod.fst) node = o at named ⊢
  generalize named? (fields.map Prod.fst) node' = o' at named ⊢
  cases named with
  | none => rfl
  | some entries => exact applyEntries_alike blind entries s

/-! ## Restatements -/

/-- One way to write a section for another; the names are those of its fields. -/
inductive SectionRestated (names : List String) : Node → Node → Prop where
  | permuted {span span' : Span} {origin origin' : Origin} {es es' : Entries} (moved : es.Perm es') :
    SectionRestated names (.table span origin es) (.table span' origin' es')
  | extended {span span' : Span} {origin origin' : Origin} {es : Entries} {name : String}
    (other : name ∉ names) (node : Node) :
    SectionRestated names (.table span origin es) (.table span' origin' ((name, node) :: es))
  | lengthened {span span' : Span} {items : List Node} (full : names.length ≤ items.length)
    (more : List Node) : SectionRestated names (.list span items) (.list span' (items ++ more))
  | named {span span' : Span} {origin : Origin} (items : List Node) :
    SectionRestated names (.list span items) (.table span' origin (names.zip items))
  | underHeaders {span span' : Span} (items : List Node) :
    SectionRestated names (.list span items) (.tables span' items)

inductive Restated : Entries → Entries → Prop where
  | permuted {root root' : Entries} (moved : root.Perm root') : Restated root root'
  | extended {root : Entries} {name : String} (other : name ∉ ["general", "usbip"]) (node : Node) :
    Restated root ((name, node) :: root)
  | general {root : Entries} {node node' : Node} (restated : SectionRestated generalNames node node') :
    Restated (("general", node) :: root) (("general", node') :: root)
  | usbip {root : Entries} {node node' : Node}
    (restated : SectionRestated usbipNames node node') :
    Restated (("usbip", node) :: root) (("usbip", node') :: root)
  | alike {root root' : Entries} (each : EntriesAlike root root') : Restated root root'

/-- Any number of restatements, back and forth, between root tables that documents could have. -/
def SaysSame : Entries → Entries → Prop :=
  Relation.EqvGen fun root root' => root.Sound ∧ root'.Sound ∧ Restated root root'

theorem find?_perm {es es' : Entries} (moved : es.Perm es') (distinct : (es.map Prod.fst).Nodup)
    (name : String) : es.find? name = es'.find? name := by
  have sameNames := moved.map Prod.fst
  cases found : es.find? name with
  | none =>
      have absent := mt sameNames.mem_iff.mpr (Entries.not_mem_of_find? found)
      exact (find?_fresh es' name absent).symm
  | some node =>
      have member := moved.mem_iff.mp (mem_of_lookup found)
      exact (lookup_of_mem (sameNames.nodup_iff.mp distinct) member).symm

theorem settled?_restated {fields : List Field} {names : List String}
    (isNames : fields.map Prod.fst = names) (distinct : names.Nodup) {node node' : Node}
    (sound : node.Sound) (restated : SectionRestated names node node') :
    settled? fields names node = settled? fields names node' := by
  have isName : ∀ f ∈ fields, f.1 ∈ names := fun f member => isNames ▸ List.mem_map_of_mem member
  cases restated with
  | permuted moved =>
      have same := funext (find?_perm moved sound.entries.distinct)
      simp only [settled?, named?, Option.map_some, same]
  | @extended _ _ _ _ es name other node =>
      refine congrArg some (settle_congr fun f member => ?_)
      have differs : f.1 ≠ name := fun same => other (same ▸ isName f member)
      rw [find?_other differs]
  | @lengthened _ _ items full more =>
      refine congrArg some (settle_congr fun f member => ?_)
      obtain ⟨place, named⟩ := List.getElem?_of_mem (isName f member)
      have inside : place < items.length :=
        Nat.lt_of_lt_of_le (List.getElem?_eq_some_iff.mp named).1 full
      rw [find?_zip distinct named, find?_zip distinct named, List.getElem?_append_left inside]
  | named items => rfl
  | underHeaders items => rfl

theorem blind_general : Blind generalFields :=
  fun f member _ _ alike => alike.effect_eq f (List.mem_append_left _ member)

theorem blind_usbip : Blind usbipFields :=
  fun f member _ _ alike => alike.effect_eq f (List.mem_append_right _ member)

theorem blind_sections : Blind sections := by
  simp only [Blind, sections, List.forall_mem_cons, List.not_mem_nil, false_implies, implies_true,
    and_true]
  constructor
  · intro node node' alike
    exact funext (applySection_alike independent_general.distinct blind_general .general alike)
  · intro node node' alike
    exact funext (applySection_alike independent_usbip.distinct blind_usbip .usbip alike)

theorem applySection_restated {fields : List Field} (names : List String)
    (isNames : fields.map Prod.fst = names) (ind : Independent fields) {node node' : Node}
    (sound : node.Sound) (sound' : node'.Sound) (restated : SectionRestated names node node')
    (expected : Expected) (s : Settings) :
    (applySection fields expected node s).toOption =
      (applySection fields expected node' s).toOption := by
  rw [applySection_toOption names isNames ind sound, applySection_toOption names isNames ind sound',
    settled?_restated isNames (isNames ▸ ind.distinct) sound restated]

theorem ofTable_section {f : Field} (known : f ∈ sections) {node node' : Node} (root : Entries)
    (same : ∀ s, (f.2 node s).toOption = (f.2 node' s).toOption) :
    (ofTable ((f.1, node) :: root)).toOption = (ofTable ((f.1, node') :: root)).toOption := by
  have distinct := independent_sections.distinct
  rw [ofTable, ofTable, applyEntries_field distinct known, applyEntries_field distinct known,
    toOption_bind, toOption_bind, same]

theorem ofTable_restated {root root' : Entries} (sound : root.Sound) (sound' : root'.Sound)
    (restated : Restated root root') : (ofTable root).toOption = (ofTable root').toOption := by
  cases restated with
  | permuted moved =>
      have same := funext (find?_perm moved sound.distinct)
      rw [ofTable, ofTable, applyEntries_eq_settle independent_sections root sound.distinct,
        applyEntries_eq_settle independent_sections root' sound'.distinct, same]
  | extended other node => rw [ofTable, ofTable, applyEntries_other other]
  | @general _ node node' restated =>
      have first := sound.all ("general", node) List.mem_cons_self
      have second := sound'.all ("general", node') List.mem_cons_self
      exact ofTable_section List.mem_cons_self _ (applySection_restated generalNames rfl
        independent_general first second restated .general)
  | @usbip _ node node' restated =>
      have first := sound.all ("usbip", node) List.mem_cons_self
      have second := sound'.all ("usbip", node') List.mem_cons_self
      exact ofTable_section (List.mem_cons_of_mem _ List.mem_cons_self) _ (applySection_restated
        usbipNames rfl independent_usbip first second restated .usbip)
  | alike each => exact applyEntries_alike blind_sections each default

theorem ofTable_saysSame {root root' : Entries} (same : SaysSame root root') :
    (ofTable root).toOption = (ofTable root').toOption := by
  induction same with
  | rel root root' step => exact ofTable_restated step.1 step.2.1 step.2.2
  | refl root => rfl
  | symm root root' _ ih => exact ih.symm
  | trans root between root' _ _ first second => exact first.trans second

/-- An array whose values are named is as sound as before. -/
theorem sound_named {names : List String} (distinct : names.Nodup) {items : List Node} {span : Span}
    (sound : Node.Sound (.list span items)) (span' : Span) (origin : Origin) :
    Node.Sound (.table span' origin (names.zip items)) := by
  cases sound with
  | list all =>
      refine .table ((zip_names_sublist names items).nodup distinct) fun e member => ?_
      exact all e.2 (List.of_mem_zip member).2

/-! ## Texts -/

theorem ofToml_toOption {content : String} {root : Entries} (parsed : parse? content = some root)
    (home : Bytes) : (ofToml home content).toOption =
      (ofTable root).toOption.bind fun s => (s.expanded home).checked.toOption := by
  simp only [ofToml, parsed]
  cases ofTable root with
  | error m => rfl
  | ok s => rfl

/-- A document gives settings exactly if its sections and values are of their kinds, and then it
gives each value over its default one, with the client's path expanded and the settings checked.
Any other document with a root table is refused for a value of the wrong kind.  Documents that say
the same differently give the same settings, or none of them gives any. -/
theorem ofToml_lays_over_default (content : String) (root : Entries)
    (parsed : parse? content = some root) :
    ((∃ s, ofTable root = .ok s) ↔ WellShaped IsSection root) ∧
    (∀ s, ofTable root = .ok s →
      Overlays root s ∧ ∀ home, ofToml home content = (s.expanded home).checked) ∧
    (¬ WellShaped IsSection root →
      ∃ m, ∀ home, ofToml home content = .error (.mismatch m content.toList)) ∧
    ∀ root', SaysSame root root' →
      (ofTable root').toOption = (ofTable root).toOption ∧
      ∀ content', parse? content' = some root' →
        ∀ home, (ofToml home content').toOption = (ofToml home content).toOption := by
  have sound := parse?_sound content root parsed
  refine ⟨ofTable_isOk_iff sound, ?_, ?_, ?_⟩
  · intro s isOk
    refine ⟨overlays_of_ofTable sound isOk, fun home => ?_⟩
    simp only [ofToml, parsed, isOk]
  · intro misshapen
    cases decoded : ofTable root with
    | error m =>
        refine ⟨m, fun home => ?_⟩
        simp only [ofToml, parsed, decoded]
    | ok s => exact absurd ((ofTable_isOk_iff sound).mp ⟨s, decoded⟩) misshapen
  · intro root' same
    have sameTable := (ofTable_saysSame same).symm
    refine ⟨sameTable, fun content' parsed' home => ?_⟩
    rw [ofToml_toOption parsed', ofToml_toOption parsed, sameTable]

def arrayForm : String := "usbip = ['/u', 7]"

def arrayRoot : Entries := [("usbip", .list ⟨9, 0⟩ [.leaf ⟨8, 4⟩ (.text "/u"),
  .leaf ⟨2, 1⟩ (.integer 7)])]

def tableForm : String := "[usbip]\nprogram = '/u'\nmax_delay = 7"

def tableRoot : Entries := [("usbip", .table ⟨36, 0⟩ .header [
  ("program", .leaf ⟨18, 14⟩ (.text "/u")), ("max_delay", .leaf ⟨1, 0⟩ (.integer 7))])]

theorem ofToml_lays_over_default_array :
    parse? arrayForm = some arrayRoot ∧ parse? tableForm = some tableRoot ∧
    SaysSame arrayRoot tableRoot ∧
    ofToml [] arrayForm = .ok ⟨"info", Path.ofString "/u", 7, 65535⟩ ∧
    (ofToml [] tableForm).toOption = (ofToml [] arrayForm).toOption := by
  have parsed : parse? arrayForm = some arrayRoot := by cbv
  have parsed' : parse? tableForm = some tableRoot := by cbv
  have sound := parse?_sound _ _ parsed
  have sound' := parse?_sound _ _ parsed'
  -- The values are first named where they stand, and then put where the table has them.
  have between : Entries.Sound [("usbip", .table ⟨36, 0⟩ .header
      (usbipNames.zip [.leaf ⟨8, 4⟩ (.text "/u"), .leaf ⟨2, 1⟩ (.integer 7)]))] := by
    have array := sound.all _ List.mem_cons_self
    exact ⟨by decide, List.forall_mem_singleton.mpr (sound_named (by decide) array ⟨36, 0⟩ .header)⟩
  have same : SaysSame arrayRoot tableRoot := by
    refine .trans _ _ _ (.rel _ _ ⟨sound, between, .usbip (.named _)⟩)
      (.rel _ _ ⟨between, sound', .alike ?_⟩)
    exact .cons _ (.table (.cons _ (.leaf _) (.cons _ (.leaf _) .nil))) .nil
  obtain ⟨-, decoded, -, restated⟩ := ofToml_lays_over_default arrayForm arrayRoot parsed
  refine ⟨parsed, parsed', same, ?_, (restated tableRoot same).2 tableForm parsed' []⟩
  exact (decoded _ rfl).2 []

/-- A time of day in the place of a section counts as an empty section, though it is no table and no
array. -/
theorem moment_counts_as_section :
    parse? "general = 07:32:00" = some [("general", .leaf ⟨8, 0⟩ .moment)] ∧
    ofTable [("general", .leaf ⟨8, 0⟩ .moment)] = .ok default ∧
    ¬ ((∃ s, ofTable [("general", .leaf ⟨8, 0⟩ .moment)] = .ok s) ↔
      WellShaped IsCompound [("general", .leaf ⟨8, 0⟩ .moment)]) := by
  have decoded : ofTable [("general", .leaf ⟨8, 0⟩ .moment)] = .ok default := rfl
  refine ⟨by cbv, decoded, fun claimed => ?_⟩
  exact ((claimed.mp ⟨default, decoded⟩).general _ rfl).1

end Replug.Settings
