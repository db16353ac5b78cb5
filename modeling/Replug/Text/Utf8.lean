/-!
# Bytes and the text they spell

Paths, arguments and file contents are byte strings that need not be text.  `Bytes.text?` is the
strict reading as UTF-8; `Bytes.display` is the reading for messages, which puts one U+FFFD in
place of every maximal piece that begins no character.
-/

set_option autoImplicit false

namespace Replug

/-- A byte string, as the operating system stores names and contents. -/
abbrev Bytes := List UInt8

namespace Bytes

def ofString (s : String) : Bytes := s.toUTF8.data.toList

def text? (b : Bytes) : Option String := String.fromUTF8? ⟨b.toArray⟩

/-- A character whose first bytes have been read: the bits so far, how many continuation bytes are
still due, and the range in which the next one must lie. -/
structure Begun where
  bits : Nat
  due : Nat
  low : Nat
  high : Nat

inductive Lead where
  | whole (c : Char)
  | begins (b : Begun)
  | stray

/-- The role of a byte at the start of a character.  The ranges of the second byte leave out
overlong forms, surrogates and code points above U+10FFFF. -/
def lead (byte : UInt8) : Lead :=
  let n := byte.toNat
  if n < 0x80 then .whole (Char.ofNat n)
  else if n < 0xC2 then .stray
  else if n < 0xE0 then .begins ⟨n - 0xC0, 1, 0x80, 0xBF⟩
  else if n = 0xE0 then .begins ⟨0, 2, 0xA0, 0xBF⟩
  else if n = 0xED then .begins ⟨0xD, 2, 0x80, 0x9F⟩
  else if n < 0xF0 then .begins ⟨n - 0xE0, 2, 0x80, 0xBF⟩
  else if n = 0xF0 then .begins ⟨0, 3, 0x90, 0xBF⟩
  else if n < 0xF4 then .begins ⟨n - 0xF0, 3, 0x80, 0xBF⟩
  else if n = 0xF4 then .begins ⟨4, 3, 0x80, 0x8F⟩
  else .stray

def replacement : Char := '\uFFFD'

/-- The characters shown for the bytes, given the character that is under way.  A byte that cannot
continue it ends the broken piece and is read again as the start of the next. -/
def shown : Option Begun → Bytes → List Char
  | none, [] => []
  | some _, [] => [replacement]
  | begun, byte :: rest =>
    let fresh (_ : Unit) : List Char :=
      match lead byte with
      | .whole c => c :: shown none rest
      | .begins b => shown (some b) rest
      | .stray => replacement :: shown none rest
    match begun with
    | none => fresh ()
    | some b =>
      if b.low ≤ byte.toNat ∧ byte.toNat ≤ b.high then
        let bits := b.bits * 64 + byte.toNat % 64
        if b.due ≤ 1 then Char.ofNat bits :: shown none rest
        else shown (some ⟨bits, b.due - 1, 0x80, 0xBF⟩) rest
      else replacement :: fresh ()

def display (b : Bytes) : String := String.ofList (shown none b)

end Bytes

end Replug
