import Replug.Text.Signless

/-!
# Texts in quotes

How a message quotes a text that it found: between double quotes, and with everything spelled out
that a reader could not see or could take for something else.
-/

set_option autoImplicit false

namespace Replug.Text

def spelledOut (c : Char) : List Char :=
  ['\\', 'u', '\x7b'] ++ Nat.toDigits 16 c.toNat ++ ['\x7d']

def quotedChar (c : Char) : List Char :=
  if c = '"' then ['\\', '"']
  else if c = '\\' then ['\\', '\\']
  else if c = '\n' then ['\\', 'n']
  else if c = '\r' then ['\\', 'r']
  else if c = '\t' then ['\\', 't']
  else if c = '\x00' then ['\\', '0']
  else if c.toNat < 0x20 || c.toNat = 0x7F then spelledOut c
  else if c.toNat < 0x80 then [c]
  else if isSignless c || isMerging c then spelledOut c
  else [c]

def inQuotes (s : String) : String :=
  "\"" ++ String.ofList (s.toList.flatMap quotedChar) ++ "\""

end Replug.Text
