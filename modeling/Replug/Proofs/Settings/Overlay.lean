import Replug.Proofs.Settings.Changes
import Replug.Proofs.Toml.Soundness

/-!
# Values over defaults

Which root tables give settings, and which settings they give: every value that is given stands over
the default one, whether its section is a table or an array.  Only the kinds of the four values and
of the two sections are looked at.
-/

set_option autoImplicit false

namespace Replug.Settings

open Toml

/-! ## Shapes -/

def fieldAt (place : Nat) (name : String) : Node → Option Node
  | .table _ _ es => Entries.find? es name
  | .list _ items | .tables _ items => items[place]?
  | .leaf _ _ => none

def IsText : Node → Prop
  | .leaf _ (.text _) => True
  | _ => False

def IsCount : Node → Prop
  | .leaf _ (.integer n) => 0 ≤ n
  | _ => False

def IsCompound : Node → Prop
  | .leaf _ _ => False
  | _ => True

def IsMoment : Node → Prop
  | .leaf _ .moment => True
  | _ => False

/-- What may stand in the place of a section: a table, an array, or a date or time, which has no
fields. -/
def IsSection (node : Node) : Prop := IsCompound node ∨ IsMoment node

/-- Root tables whose sections are of a certain kind and whose four values, where they are given,
are of their own kinds. -/
structure WellShaped (mayBeSection : Node → Prop) (root : Entries) : Prop where
  general : ∀ node, root.find? "general" = some node → mayBeSection node ∧
    ∀ v, fieldAt 0 "log_level" node = some v → IsText v
  usbip : ∀ node, root.find? "usbip" = some node → mayBeSection node ∧
    (∀ v, fieldAt 0 "program" node = some v → IsText v) ∧
    (∀ v, fieldAt 1 "max_delay" node = some v → IsCount v) ∧
    ∀ v, fieldAt 2 "count" node = some v → IsCount v

/-! ## Values -/

def textOf? : Node → Option String
  | .leaf _ (.text t) => some t
  | _ => none

def numberOf? : Node → Option Nat
  | .leaf _ (.integer (.ofNat n)) => some n
  | _ => none

/-- The value that a root table gives for a field of a section. -/
def given (root : Entries) (name : String) (place : Nat) (field : String) : Option Node :=
  (root.find? name).bind (fieldAt place field)

structure Overlays (root : Entries) (s : Settings) : Prop where
  logLevel : s.logLevel = ((given root "general" 0 "log_level").bind textOf?).getD default.logLevel
  program : s.program =
    (((given root "usbip" 0 "program").bind textOf?).map Path.ofString).getD default.program
  maxDelay : s.maxDelay.toNat =
    ((given root "usbip" 1 "max_delay").bind numberOf?).getD default.maxDelay.toNat
  count : s.count.toNat = ((given root "usbip" 2 "count").bind numberOf?).getD default.count.toNat

/-! ## A value where one is given -/

/-- A change that calls for a kind of value and leads to a result, over a value that may be given. -/
theorem elim_eq_some_iff (change : Node → Settings → Option Settings) {ok : Node → Prop}
    (result : Settings → Option Node → Settings) (absent : ∀ s, result s none = s) (o : Option Node)
    (each : ∀ node, o = some node → ∀ s s',
      change node s = some s' ↔ ok node ∧ s' = result s (some node)) (s s' : Settings) :
    o.elim (some s) (change · s) = some s' ↔ (∀ node, o = some node → ok node) ∧ s' = result s o := by
  cases o with
  | none => simp [absent, eq_comm]
  | some node => simpa using each node rfl s s'

theorem text_toOption (node : Node) : (text node).toOption = textOf? node := by
  cases node with
  | leaf span value => cases value <;> rfl
  | _ => rfl

theorem path_toOption (node : Node) : (path node).toOption = (textOf? node).map Path.ofString := by
  cases node with
  | leaf span value => cases value <;> rfl
  | _ => rfl

theorem word_toOption (node : Node) : (word node).toOption = (numberOf? node).map UInt64.ofNat := by
  cases node with
  | leaf span value =>
      cases value with
      | integer n => cases n <;> rfl
      | _ => rfl
  | _ => rfl

theorem isText_iff (node : Node) : IsText node ↔ (textOf? node).isSome := by
  cases node with
  | leaf span value => cases value <;> simp [IsText, textOf?]
  | _ => simp [IsText, textOf?]

theorem isCount_iff (node : Node) : IsCount node ↔ (numberOf? node).isSome := by
  cases node with
  | leaf span value =>
      cases value with
      | integer n => cases n <;> simp [IsCount, numberOf?]
      | _ => simp [IsCount, numberOf?]
  | _ => simp [IsCount, numberOf?]

/-- A field over a value that may be given: without one it keeps what the settings had. -/
theorem given_write {α : Type} (field : String) (put : Settings → α → Settings)
    {read : Node → Except Mismatch α} {get : Settings → α} {got : Node → Option α} {ok : Node → Prop}
    (putSame : ∀ s, put s (get s) = s) (reads : ∀ node, (read node).toOption = got node)
    (isOk : ∀ node, ok node ↔ (got node).isSome) (o : Option Node) (s s' : Settings) :
    o.elim (some s) (Field.effect (field, fun node s => do return put s (← read node)) · s) = some s' ↔
      (∀ node, o = some node → ok node) ∧ s' = put s ((o.bind got).getD (get s)) := by
  refine elim_eq_some_iff _ (fun s o => put s ((o.bind got).getD (get s))) putSame o ?_ s s'
  intro node _ s s'
  rw [effect_write, reads, isOk, Option.bind_some]
  cases got node with
  | none => simp
  | some a => simp [eq_comm]

def pathOf? (node : Node) : Option Path := (textOf? node).map Path.ofString

def wordOf? (node : Node) : Option UInt64 := (numberOf? node).map UInt64.ofNat

variable {value : String → Option Node} {s s' : Settings}

theorem settle_general : settle generalFields value s = some s' ↔
    (∀ v, value "log_level" = some v → IsText v) ∧
    s' = { s with logLevel := ((value "log_level").bind textOf?).getD s.logLevel } := by
  simp only [generalFields, settle, Option.bind_fun_some]
  exact given_write "log_level" (fun s t => { s with logLevel := t }) (fun _ => rfl) text_toOption
    isText_iff _ s s'

theorem settle_usbip : settle usbipFields value s = some s' ↔
    ((∀ v, value "program" = some v → IsText v) ∧ (∀ v, value "max_delay" = some v → IsCount v) ∧
      ∀ v, value "count" = some v → IsCount v) ∧
    s' = { s with
      program := ((value "program").bind pathOf?).getD s.program
      maxDelay := ((value "max_delay").bind wordOf?).getD s.maxDelay
      count := ((value "count").bind wordOf?).getD s.count } := by
  have isPath : ∀ node, IsText node ↔ (pathOf? node).isSome := by
    intro node
    rw [isText_iff, pathOf?, Option.isSome_map]
  have isWord : ∀ node, IsCount node ↔ (wordOf? node).isSome := by
    intro node
    rw [isCount_iff, wordOf?, Option.isSome_map]
  have program := given_write "program" (fun s p => { s with program := p })
    (fun _ => rfl) path_toOption isPath (value "program")
  have maxDelay := given_write "max_delay" (fun s n => { s with maxDelay := n })
    (fun _ => rfl) word_toOption isWord (value "max_delay")
  have count := given_write "count" (fun s n => { s with count := n })
    (fun _ => rfl) word_toOption isWord (value "count")
  simp only [usbipFields, settle, Option.bind_fun_some, Option.bind_eq_some_iff, program, maxDelay,
    count]
  constructor
  · rintro ⟨m, ⟨isProgram, rfl⟩, m', ⟨isDelay, rfl⟩, isCount, rfl⟩
    exact ⟨⟨isProgram, isDelay, isCount⟩, rfl⟩
  · rintro ⟨⟨isProgram, isDelay, isCount⟩, rfl⟩
    exact ⟨_, ⟨isProgram, rfl⟩, _, ⟨isDelay, rfl⟩, isCount, rfl⟩

/-! ## A section where one is given -/

theorem find?_zip {names : List String} (distinct : names.Nodup) {place : Nat} {name : String}
    (named : names[place]? = some name) (items : List Node) :
    Entries.find? (names.zip items) name = items[place]? := by
  induction names generalizing place items with
  | nil => simp at named
  | cons first names ih =>
      cases items with
      | nil => rfl
      | cons node items =>
          obtain ⟨fresh, others⟩ := List.nodup_cons.mp distinct
          cases place with
          | zero =>
              cases named
              exact List.lookup_cons_self
          | succ place =>
              have member : name ∈ names := List.mem_of_getElem? named
              have differs : (name == first) = false :=
                beq_eq_false_iff_ne.mpr fun same => fresh (same ▸ member)
              have later := ih others named items
              simpa [Entries.find?, List.lookup_cons, differs] using later

theorem named?_isSome (names : List String) (node : Node) :
    (named? names node).isSome ↔ IsSection node := by
  cases node with
  | leaf span value => cases value <;> simp [named?, IsSection, IsCompound, IsMoment]
  | _ => simp [named?, IsSection, IsCompound]

theorem find?_named {names : List String} (distinct : names.Nodup) {node : Node} {es : Entries}
    (named : named? names node = some es) (place : Nat) {name : String}
    (isName : names[place]? = some name) : es.find? name = fieldAt place name node := by
  cases node with
  | leaf span value => cases value <;> cases named; rfl
  | list span items =>
      cases named
      exact find?_zip distinct isName items
  | tables span items =>
      cases named
      exact find?_zip distinct isName items
  | table span origin entries =>
      cases named
      rfl

theorem zip_names_sublist (names : List String) (items : List Node) :
    ((names.zip items).map Prod.fst).Sublist names := by
  induction names generalizing items with
  | nil => exact List.Sublist.refl []
  | cons name names ih =>
      cases items with
      | nil => exact List.nil_sublist _
      | cons node items => exact (ih items).cons_cons name

theorem named?_distinct {names : List String} (distinct : names.Nodup) {node : Node}
    (sound : node.Sound) {es : Entries} (named : named? names node = some es) :
    (es.map Prod.fst).Nodup := by
  have zipped : ∀ items : List Node, ((names.zip items).map Prod.fst).Nodup := fun items =>
    (zip_names_sublist names items).nodup distinct
  cases node with
  | leaf span value =>
      cases value <;> cases named
      exact List.nodup_nil
  | list span items =>
      cases named
      exact zipped items
  | tables span items =>
      cases named
      exact zipped items
  | table span origin entries =>
      cases named
      exact sound.entries.distinct

theorem applySection_toOption {fields : List Field} (names : List String)
    (isNames : fields.map Prod.fst = names) (ind : Independent fields) {node : Node}
    (sound : node.Sound) (expected : Expected) (s : Settings) :
    (applySection fields expected node s).toOption =
      (settled? fields names node).bind fun change => change s := by
  have distinct : names.Nodup := isNames ▸ ind.distinct
  rw [applySection_named isNames distinct, settled?]
  cases named : named? names node with
  | none => rfl
  | some es => exact applyEntries_eq_settle ind es (named?_distinct distinct sound named) s

theorem applySection_general {node : Node} (sound : node.Sound) (s s' : Settings) :
    (applySection generalFields .general node s).toOption = some s' ↔
      (IsSection node ∧ ∀ v, fieldAt 0 "log_level" node = some v → IsText v) ∧
      s' = { s with logLevel := ((fieldAt 0 "log_level" node).bind textOf?).getD s.logLevel } := by
  have distinct : generalNames.Nodup := by decide
  rw [applySection_toOption generalNames rfl independent_general sound, settled?,
    ← named?_isSome generalNames]
  cases named : named? generalNames node with
  | none => simp
  | some es =>
      have logLevel := find?_named distinct named 0 rfl
      simp [settle_general, logLevel]

theorem applySection_usbip {node : Node} (sound : node.Sound) (s s' : Settings) :
    (applySection usbipFields .usbip node s).toOption = some s' ↔
      (IsSection node ∧ (∀ v, fieldAt 0 "program" node = some v → IsText v) ∧
        (∀ v, fieldAt 1 "max_delay" node = some v → IsCount v) ∧
        ∀ v, fieldAt 2 "count" node = some v → IsCount v) ∧
      s' = { s with
        program := ((fieldAt 0 "program" node).bind pathOf?).getD s.program
        maxDelay := ((fieldAt 1 "max_delay" node).bind wordOf?).getD s.maxDelay
        count := ((fieldAt 2 "count" node).bind wordOf?).getD s.count } := by
  have distinct : usbipNames.Nodup := by decide
  rw [applySection_toOption usbipNames rfl independent_usbip sound, settled?,
    ← named?_isSome usbipNames]
  cases named : named? usbipNames node with
  | none => simp
  | some es =>
      have program := find?_named distinct named 0 rfl
      have maxDelay := find?_named distinct named 1 rfl
      have count := find?_named distinct named 2 rfl
      simp [settle_usbip, program, maxDelay, count]

/-! ## The root table -/

def overlay (root : Entries) : Settings where
  logLevel := ((given root "general" 0 "log_level").bind textOf?).getD default.logLevel
  program := ((given root "usbip" 0 "program").bind pathOf?).getD default.program
  maxDelay := ((given root "usbip" 1 "max_delay").bind wordOf?).getD default.maxDelay
  count := ((given root "usbip" 2 "count").bind wordOf?).getD default.count

theorem ofTable_eq_ok_iff {root : Entries} (sound : root.Sound) :
    ofTable root = .ok s ↔ WellShaped IsSection root ∧ s = overlay root := by
  have general := elim_eq_some_iff (Field.effect ("general", applySection generalFields .general))
    (fun s o => { s with
      logLevel := ((o.bind (fieldAt 0 "log_level")).bind textOf?).getD s.logLevel })
    (fun _ => rfl) (root.find? "general") fun node found => applySection_general (sound.found found)
  have usbip := elim_eq_some_iff (Field.effect ("usbip", applySection usbipFields .usbip))
    (fun s o => { s with
      program := ((o.bind (fieldAt 0 "program")).bind pathOf?).getD s.program
      maxDelay := ((o.bind (fieldAt 1 "max_delay")).bind wordOf?).getD s.maxDelay
      count := ((o.bind (fieldAt 2 "count")).bind wordOf?).getD s.count })
    (fun _ => rfl) (root.find? "usbip") fun node found => applySection_usbip (sound.found found)
  rw [← toOption_eq_some_iff, ofTable,
    applyEntries_eq_settle independent_sections root sound.distinct]
  simp only [sections, settle, Option.bind_fun_some, Option.bind_eq_some_iff, general, usbip]
  -- The second section starts from what the first one made of the default settings.
  constructor
  · rintro ⟨m, ⟨isGeneral, rfl⟩, isUsbip, rfl⟩
    exact ⟨⟨isGeneral, isUsbip⟩, rfl⟩
  · rintro ⟨⟨isGeneral, isUsbip⟩, rfl⟩
    exact ⟨_, ⟨isGeneral, rfl⟩, isUsbip, rfl⟩

/-! ## Numbers -/

theorem sound_fieldAt {node v : Node} (sound : node.Sound) {place : Nat} {name : String}
    (found : fieldAt place name node = some v) : v.Sound := by
  cases sound with
  | leaf fits => cases found
  | list all => exact all v (List.mem_of_getElem? found)
  | tables all => exact all v (List.mem_of_getElem? found)
  | table distinct all => exact all (name, v) (mem_of_lookup found)

theorem numberOf?_small {node : Node} (sound : node.Sound) {n : Nat} (isNumber : numberOf? node = some n) :
    n < 0x8000000000000000 := by
  unfold numberOf? at isNumber
  split at isNumber
  · cases isNumber
    cases sound with
    | leaf fits =>
        simp only [Scalar.Fits, fitsWord, Bool.and_eq_true, decide_eq_true_eq, Int.ofNat_eq_natCast]
          at fits
        omega
  · cases isNumber

theorem word_given {root : Entries} (sound : root.Sound) (name : String) (place : Nat) (field : String)
    (n : UInt64) (small : n.toNat < 0x8000000000000000) :
    (((given root name place field).bind wordOf?).getD n).toNat =
        ((given root name place field).bind numberOf?).getD n.toNat ∧
      ((given root name place field).bind numberOf?).getD n.toNat < 0x8000000000000000 := by
  cases isGiven : given root name place field with
  | none => simpa using small
  | some v =>
      obtain ⟨node, found, value⟩ := Option.bind_eq_some_iff.mp isGiven
      have soundValue := sound_fieldAt (sound.found found) value
      cases isNumber : numberOf? v with
      | none => simpa [wordOf?, isNumber] using small
      | some m =>
          have below := numberOf?_small soundValue isNumber
          refine ⟨?_, by simpa [isNumber] using below⟩
          simp only [wordOf?, isNumber, Option.bind_some, Option.map_some, Option.getD_some]
          exact UInt64.toNat_ofNat_of_lt' (by simp only [UInt64.size]; omega)

theorem overlays_overlay {root : Entries} (sound : root.Sound) : Overlays root (overlay root) where
  logLevel := rfl
  program := by
    simp only [overlay]
    cases (given root "usbip" 0 "program") with
    | none => rfl
    | some v => cases textOf? v <;> rfl
  maxDelay := (word_given sound "usbip" 1 "max_delay" default.maxDelay (by decide)).1
  count := (word_given sound "usbip" 2 "count" default.count (by decide)).1

theorem ofTable_isOk_iff {root : Entries} (sound : root.Sound) :
    (∃ s, ofTable root = .ok s) ↔ WellShaped IsSection root := by
  constructor
  · rintro ⟨s, isOk⟩
    exact ((ofTable_eq_ok_iff sound).mp isOk).1
  · intro shaped
    exact ⟨overlay root, (ofTable_eq_ok_iff sound).mpr ⟨shaped, rfl⟩⟩

theorem overlays_of_ofTable {root : Entries} (sound : root.Sound) {s : Settings}
    (isOk : ofTable root = .ok s) : Overlays root s := by
  obtain ⟨-, rfl⟩ := (ofTable_eq_ok_iff sound).mp isOk
  exact overlays_overlay sound

/-- The numbers that a document gives are small enough to be written in one. -/
theorem overlays_small {root : Entries} (sound : root.Sound) {s : Settings} (overlaid : Overlays root s) :
    s.maxDelay.toNat < 0x8000000000000000 ∧ s.count.toNat < 0x8000000000000000 := by
  rw [overlaid.maxDelay, overlaid.count]
  exact ⟨(word_given sound "usbip" 1 "max_delay" default.maxDelay (by decide)).2,
    (word_given sound "usbip" 2 "count" default.count (by decide)).2⟩

end Replug.Settings
