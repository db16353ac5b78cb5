import Mathlib.Data.List.Nodup
import Replug.Proofs.Toml.Tables
import Replug.Settings.Reading

/-!
# Changes in any order

The entries of a table change the settings one after the other, in the order in which they stand.
Where no name comes twice and no field writes what another one writes, the same comes of it as of
taking the fields in their own order and looking the value of each one up.  An array is a table
whose values are named by the fields in their order.
-/

set_option autoImplicit false

namespace Replug.Settings

open Toml

/-- What a field makes of the settings, if its value is of the right kind. -/
def Field.effect (f : Field) (node : Node) (s : Settings) : Option Settings := (f.2 node s).toOption

theorem toOption_bind {ε α β : Type} (x : Except ε α) (next : α → Except ε β) :
    (x >>= next).toOption = x.toOption.bind fun a => (next a).toOption := by
  cases x with
  | error e => rfl
  | ok a => rfl

theorem toOption_eq_some_iff {ε α : Type} {x : Except ε α} {a : α} :
    x.toOption = some a ↔ x = .ok a := by
  cases x with
  | error e => simp [Except.toOption]
  | ok b => simp [Except.toOption]

/-! ## Changes that can be swapped -/

/-- Two changes after which it does not show which of them came first. -/
def Swaps (c d : Settings → Option Settings) : Prop := ∀ s, (c s).bind d = (d s).bind c

namespace Swaps

variable {c d e : Settings → Option Settings}

theorem symm (swap : Swaps c d) : Swaps d c := fun s => Eq.symm (swap s)

theorem keep : Swaps some d := fun s => (Option.bind_fun_some (d s)).symm

theorem refuse : Swaps (fun _ => none) d := fun s => (Option.bind_fun_none (d s)).symm

theorem andThen (first : Swaps c e) (second : Swaps d e) : Swaps (fun s => (c s).bind d) e := by
  intro s
  calc ((c s).bind d).bind e
      = (c s).bind fun m => (d m).bind e := Option.bind_assoc ..
    _ = (c s).bind fun m => (e m).bind d := by simp only [second _]
    _ = ((c s).bind e).bind d := (Option.bind_assoc ..).symm
    _ = ((e s).bind c).bind d := by rw [first s]
    _ = (e s).bind fun m => (c m).bind d := Option.bind_assoc ..

theorem elim (given : Option Node) {change : Node → Settings → Option Settings}
    (each : ∀ node, Swaps (change node) e) : Swaps (fun s => given.elim (some s) (change · s)) e := by
  cases given with
  | none => exact keep
  | some node => exact each node

end Swaps

/-! ## Fields in their own order -/

def settle : List Field → (String → Option Node) → Settings → Option Settings
  | [], _, s => some s
  | f :: fields, given, s => ((given f.1).elim (some s) (f.effect · s)).bind (settle fields given)

structure Independent (fields : List Field) : Prop where
  distinct : (fields.map Prod.fst).Nodup
  swap : fields.Pairwise fun f f' => ∀ node node', Swaps (f.effect node) (f'.effect node')

theorem Independent.tail {f : Field} {fields : List Field} (ind : Independent (f :: fields)) :
    Independent fields := ⟨(List.nodup_cons.mp ind.distinct).2, (List.pairwise_cons.mp ind.swap).2⟩

variable {fields : List Field}

theorem settle_nothing (fields : List Field) (s : Settings) :
    settle fields (fun _ => none) s = some s := by
  induction fields with
  | nil => rfl
  | cons f fields ih => simpa [settle] using ih

theorem settle_congr {given given' : String → Option Node}
    (same : ∀ f ∈ fields, (given f.1).map f.effect = (given' f.1).map f.effect) :
    settle fields given = settle fields given' := by
  induction fields with
  | nil => rfl
  | cons f fields ih =>
      have later := ih fun f' member => same f' (List.mem_cons_of_mem f member)
      have first := same f List.mem_cons_self
      have step : ∀ (o : Option Node) (s : Settings), o.elim (some s) (f.effect · s) =
          (o.map f.effect).elim (some s) (· s) := by
        intro o s
        cases o <;> rfl
      funext s
      simp only [settle, later, step, first]

/-- It makes no difference whether a field is settled among the others or before them. -/
theorem settle_insert (ind : Independent fields) {f : Field} (member : f ∈ fields) {node : Node}
    {given given' : String → Option Node} (absent : given f.1 = none) (put : given' f.1 = some node)
    (others : ∀ name, name ≠ f.1 → given' name = given name) (s : Settings) :
    settle fields given' s = (f.effect node s).bind (settle fields given) := by
  induction fields generalizing s with
  | nil => cases member
  | cons h fields ih =>
      have fresh := (List.nodup_cons.mp ind.distinct).1
      rcases List.mem_cons.mp member with rfl | later
      · have rest : settle fields given' = settle fields given := by
          refine settle_congr fun f' inside => ?_
          rw [others _ (ne_of_fresh fresh inside)]
        have skipped : settle (f :: fields) given = settle fields given := by
          funext m
          simp only [settle, absent, Option.elim_none, Option.bind_some]
        rw [skipped]
        simp only [settle, put, Option.elim_some, rest]
      · have differs := (ne_of_fresh fresh later).symm
        -- The first field is another one, and lets the inserted change pass to its front.
        have swap : Swaps (fun s => (given h.1).elim (some s) (h.effect · s)) (f.effect node) :=
          .elim _ fun node' => (List.pairwise_cons.mp ind.swap).1 f later node' node
        have settled := funext (ih ind.tail later)
        calc settle (h :: fields) given' s
            = ((given h.1).elim (some s) (h.effect · s)).bind fun m =>
                (f.effect node m).bind (settle fields given) := by
              simp only [settle, others _ differs, settled]
          _ = (((given h.1).elim (some s) (h.effect · s)).bind (f.effect node)).bind
                (settle fields given) := (Option.bind_assoc ..).symm
          _ = ((f.effect node s).bind fun m => (given h.1).elim (some m) (h.effect · m)).bind
                (settle fields given) := by rw [swap s]
          _ = (f.effect node s).bind (settle (h :: fields) given) := Option.bind_assoc ..

/-! ## Entries in the order in which they stand -/

theorem applyEntries_other {name : String} (other : name ∉ fields.map Prod.fst) (node : Node)
    (es : Entries) (s : Settings) :
    applyEntries fields ((name, node) :: es) s = applyEntries fields es s := by
  have absent : fields.lookup name = none := lookup_fresh other
  simp only [applyEntries, absent]

theorem applyEntries_field (distinct : (fields.map Prod.fst).Nodup) {f : Field} (member : f ∈ fields)
    (node : Node) (es : Entries) (s : Settings) :
    applyEntries fields ((f.1, node) :: es) s = f.2 node s >>= applyEntries fields es := by
  simp only [applyEntries, lookup_of_mem distinct member]

theorem applyEntries_eq_settle (ind : Independent fields) (es : Entries)
    (distinct : (es.map Prod.fst).Nodup) (s : Settings) :
    (applyEntries fields es s).toOption = settle fields es.find? s := by
  induction es generalizing s with
  | nil => exact (settle_nothing fields s).symm
  | cons e es ih =>
      obtain ⟨name, node⟩ := e
      obtain ⟨fresh, others⟩ := List.nodup_cons.mp distinct
      by_cases known : name ∈ fields.map Prod.fst
      · obtain ⟨f, member, rfl⟩ := List.mem_map.mp known
        have absent := find?_fresh es f.1 fresh
        have put : Entries.find? ((f.1, node) :: es) f.1 = some node := List.lookup_cons_self
        rw [applyEntries_field ind.distinct member, toOption_bind,
          settle_insert ind member absent put fun _ other => find?_other other node es]
        exact congrArg (Field.effect f node s).bind (funext (ih others))
      · rw [applyEntries_other known, ih others]
        refine congrFun (settle_congr fun f member => ?_) s
        rw [find?_other (ne_of_fresh known member)]

theorem applyEntries_swaps (es : Entries) {d : Settings → Option Settings}
    (each : ∀ f ∈ fields, ∀ node, Swaps (f.effect node) d) :
    Swaps (fun s => (applyEntries fields es s).toOption) d := by
  induction es with
  | nil => exact .keep
  | cons e es ih =>
      obtain ⟨name, node⟩ := e
      cases known : fields.lookup name with
      | none => simpa only [applyEntries, known] using ih
      | some change =>
          have first := each (name, change) (mem_of_lookup known) node
          simp only [applyEntries, known, toOption_bind]
          exact first.andThen ih

/-! ## Arrays as tables -/

/-- The values that a section gives by name.  Those of an array have the names in their order. -/
def named? (names : List String) : Node → Option Entries
  | .table _ _ es => some es
  | .list _ items | .tables _ items => some (names.zip items)
  | .leaf _ .moment => some []
  | .leaf _ _ => none

def settled? (fields : List Field) (names : List String) (node : Node) :
    Option (Settings → Option Settings) :=
  (named? names node).map fun es => settle fields es.find?

theorem applyItems_eq_zip (distinct : (fields.map Prod.fst).Nodup) {rest : List Field}
    (part : rest ⊆ fields) (items : List Node) (s : Settings) :
    applyItems rest items s = applyEntries fields ((rest.map Prod.fst).zip items) s := by
  -- The names are looked up among all fields, while the induction is on those that are left.
  induction rest generalizing items s with
  | nil => simp [applyItems, applyEntries]
  | cons f rest ih =>
      cases items with
      | nil => simp [applyItems, applyEntries]
      | cons node items =>
          obtain ⟨inside, others⟩ := List.cons_subset.mp part
          rw [List.map_cons, List.zip_cons_cons, applyEntries_field distinct inside]
          simp only [applyItems, ih others]

theorem applySection_named {names : List String} (isNames : fields.map Prod.fst = names)
    (distinct : names.Nodup) (expected : Expected) (node : Node) (s : Settings) :
    applySection fields expected node s =
      (named? names node).elim (.error ⟨node, expected⟩) (applyEntries fields · s) := by
  subst isNames
  cases node with
  | leaf span value => cases value <;> rfl
  | list span items => exact applyItems_eq_zip distinct (List.Subset.refl fields) items s
  | tables span items => exact applyItems_eq_zip distinct (List.Subset.refl fields) items s
  | table span origin es => rfl

/-! ## The fields of the two sections -/

theorem effect_write {α : Type} (name : String) (read : Node → Except Mismatch α)
    (put : Settings → α → Settings) (node : Node) (s : Settings) :
    Field.effect (name, fun node s => do return put s (← read node)) node s =
      (read node).toOption.map (put s) := by
  cases isRead : read node with
  | error m => simp [Field.effect, isRead, bind, Except.bind, Except.toOption]
  | ok a => simp [Field.effect, isRead, bind, Except.bind, pure, Except.pure, Except.toOption]

/-- Fields that write different parts of the settings can be swapped. -/
theorem swaps_write {α β : Type} {name name' : String} {read : Node → Except Mismatch α}
    {read' : Node → Except Mismatch β} {put : Settings → α → Settings}
    {put' : Settings → β → Settings} (apart : ∀ s a b, put' (put s a) b = put (put' s b) a)
    (node node' : Node) :
    Swaps (Field.effect (name, fun node s => do return put s (← read node)) node)
      (Field.effect (name', fun node s => do return put' s (← read' node)) node') := by
  intro s
  simp only [funext (effect_write name read put node), funext (effect_write name' read' put' node')]
  cases (read node).toOption with
  | none => cases (read' node').toOption <;> rfl
  | some a =>
      cases (read' node').toOption with
      | none => rfl
      | some b => exact congrArg some (apart s a b)

theorem fields_swap : (generalFields ++ usbipFields).Pairwise fun f f' =>
    ∀ node node', Swaps (f.effect node) (f'.effect node') := by
  simp only [generalFields, usbipFields, List.cons_append, List.nil_append, List.pairwise_cons,
    List.forall_mem_cons, List.Pairwise.nil, List.not_mem_nil, false_implies, implies_true, and_true]
  exact ⟨⟨swaps_write fun _ _ _ => rfl, swaps_write fun _ _ _ => rfl, swaps_write fun _ _ _ => rfl⟩,
    ⟨swaps_write fun _ _ _ => rfl, swaps_write fun _ _ _ => rfl⟩, swaps_write fun _ _ _ => rfl⟩

def generalNames : List String := ["log_level"]

def usbipNames : List String := ["program", "max_delay", "count"]

theorem independent_general : Independent generalFields :=
  ⟨by decide, (List.pairwise_append.mp fields_swap).1⟩

theorem independent_usbip : Independent usbipFields :=
  ⟨by decide, (List.pairwise_append.mp fields_swap).2.1⟩

theorem applySection_swaps (expected : Expected) (node : Node) {d : Settings → Option Settings}
    (ind : Independent fields) (each : ∀ f ∈ fields, ∀ node, Swaps (f.effect node) d) :
    Swaps (fun s => (applySection fields expected node s).toOption) d := by
  simp only [applySection_named rfl ind.distinct]
  cases named? (fields.map Prod.fst) node with
  | none => exact .refuse
  | some es => exact applyEntries_swaps es each

theorem independent_sections : Independent sections := by
  refine ⟨by decide, ?_⟩
  have across := (List.pairwise_append.mp fields_swap).2.2
  simp only [sections, List.pairwise_cons, List.forall_mem_cons, List.Pairwise.nil, List.not_mem_nil,
    false_implies, implies_true, and_true]
  intro general usbip
  refine applySection_swaps _ general independent_general fun f isGeneral node => Swaps.symm ?_
  exact applySection_swaps _ usbip independent_usbip fun f' isUsbip node' =>
    (across f isGeneral f' isUsbip node node').symm

end Replug.Settings
