import Replug.Shell.Text

/-!
# Forms

Forms that a text may have: a star stands for any text, a question mark for any character, and
characters between square brackets for one of them.  Characters of a form that were quoted stand for
themselves.
-/

set_option autoImplicit false

namespace Replug.Shell

inductive Slot where
  | exactly (c : Char)
  | anyText
  | anyChar
  /-- One of the characters between the bounds of some ranges, or none of them. -/
  | among (isIn : Bool) (ranges : List (Char × Char))
  deriving DecidableEq, Repr

abbrev Form := List Slot

/-- A character of a form before it is read, and whether it stands for itself. -/
structure Mark where
  quoted : Bool
  char : Char
  deriving DecidableEq, Repr

def Mark.means (m : Mark) (c : Char) : Bool := !m.quoted && m.char = c

/-- The ranges up to the bracket that closes them, and what follows it.  `first` says that a
bracket here would be one of the characters. -/
def rangesIn : Nat → Bool → List Mark → Option (List (Char × Char) × List Mark)
  | 0, _, _ => none
  | _, _, [] => none
  | fuel + 1, first, m :: ms =>
    if m.means ']' && !first then some ([], ms)
    else
      let one := (rangesIn fuel false ms).map fun (rs, rest) => ((m.char, m.char) :: rs, rest)
      match ms with
      | dash :: last :: rest =>
        if dash.means '-' && !last.means ']' then
          (rangesIn fuel false rest).map fun (rs, rest) => ((m.char, last.char) :: rs, rest)
        else one
      | _ => one

def amongIn (ms : List Mark) : Option (Slot × List Mark) :=
  let isOut := match ms with
    | m :: _ => m.means '!' || m.means '^'
    | [] => false
  (rangesIn (ms.length + 1) true (if isOut then ms.drop 1 else ms)).map fun (rs, rest) =>
    (.among (!isOut) rs, rest)

def formOf : Nat → List Mark → Form
  | 0, _ => []
  | _, [] => []
  | fuel + 1, m :: ms =>
    if m.means '*' then .anyText :: formOf fuel ms
    else if m.means '?' then .anyChar :: formOf fuel ms
    else if m.means '[' then
      match amongIn ms with
      | some (slot, rest) => slot :: formOf fuel rest
      | none => .exactly m.char :: formOf fuel ms
    else if m.means '\\' then
      match ms with
      | n :: rest => .exactly n.char :: formOf fuel rest
      | [] => [.exactly m.char]
    else .exactly m.char :: formOf fuel ms

def Form.ofMarks (ms : List Mark) : Form := formOf (ms.length + 1) ms

def Slot.takes (slot : Slot) (c : Char) : Bool :=
  match slot with
  | .exactly d => c == d
  | .anyText | .anyChar => true
  | .among isIn ranges => isIn == ranges.any fun r => decide (r.1 ≤ c) && decide (c ≤ r.2)

def hasForm : Form → Text → Bool
  | [], t => t.isEmpty
  | .anyText :: f, [] => hasForm f []
  | .anyText :: f, c :: cs => hasForm f (c :: cs) || hasForm (.anyText :: f) cs
  | _ :: _, [] => false
  | slot :: f, c :: cs => slot.takes c && hasForm f cs
termination_by f t => (f.length, t.length)

def withoutFront (longest : Bool) (f : Form) (t : Text) : Text :=
  let counts := List.range (t.length + 1)
  let counts := if longest then counts.reverse else counts
  match counts.find? fun n => hasForm f (t.take n) with
  | some n => t.drop n
  | none => t

def withoutBack (longest : Bool) (f : Form) (t : Text) : Text :=
  let counts := List.range (t.length + 1)
  let counts := if longest then counts else counts.reverse
  match counts.find? fun n => hasForm f (t.drop n) with
  | some n => t.take n
  | none => t

end Replug.Shell
