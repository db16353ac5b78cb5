import Replug.Shell.State

/-!
# Arithmetic

The value of an arithmetic expression: whole numbers of 64 bits, variables, the usual operators with
their precedence, choices, and assignments.  What need not be known is not computed: no variable is
set there, and no division by zero is noticed.
-/

set_option autoImplicit false

namespace Replug.Shell.Sum

inductive Item where
  | number (n : Int)
  | name (t : Text)
  | op (s : String)
  | finish
  deriving DecidableEq, Repr

def operators : List String := [
  "<<=", ">>=", "<<", ">>", "<=", ">=", "==", "!=", "&&", "||", "+=", "-=", "*=", "/=", "%=", "&=",
  "^=", "|=", "<", ">", "+", "-", "*", "/", "%", "&", "^", "|", "!", "~", "?", ":", "=", "(", ")"]

/-- How tightly an operator with two sides binds: the less the tighter. -/
def precedence? (op : String) : Option Nat :=
  match op with
  | "*" | "/" | "%" => some 0
  | "+" | "-" => some 1
  | "<<" | ">>" => some 2
  | "<" | "<=" | ">" | ">=" => some 3
  | "==" | "!=" => some 4
  | "&" => some 5
  | "^" => some 6
  | "|" => some 7
  | _ => none

/-- The operator that an assignment carries out first, if an item is the sign of one. -/
def assigning? : Item → Option String
  | .op "=" => some ""
  | .op s =>
    if s.length ≥ 2 && s.endsWith "=" && (precedence? s).isNone then some (s.dropEnd 1).toString
    else none
  | _ => none

structure Progress where
  rest : Text
  script : State

abbrev Part (α : Type) := StateT Progress (Except String) α

def wrapped (n : Int) : Int :=
  (n + 0x8000000000000000) % 0x10000000000000000 - 0x8000000000000000

def truth (b : Bool) : Int := if b then 1 else 0

def take : Part Item := do
  let t := (← get).rest.dropWhile isBlank
  let leave (rest : Text) (i : Item) : Part Item := do
    modify fun p => { p with rest := rest }
    return i
  match t with
  | [] => leave [] .finish
  | c :: cs =>
    if c.isDigit then
      let (n, rest) := leadingNumber t
      leave rest (.number (clamped n))
    else if startsName c then
      leave (cs.dropWhile isNameChar) (.name (c :: cs.takeWhile isNameChar))
    else
      match operators.find? fun op => op.toList.isPrefixOf t with
      | some op => leave (t.drop op.length) (.op op)
      | none => leave cs (.op (String.singleton c))

def coming : Part Item := do
  let before ← get
  let i ← take
  set before
  return i

def valueOf (name : Text) : Part Int := do
  let s := (← get).script
  let t := (s.parameter? name).getD []
  let (n, rest) := leadingInteger t
  if rest.all isBlank then return n else throw ("Illegal number: " ++ t.string)

def result (op : String) (a b : Int) : Part Int :=
  let bits (f : Nat → Nat → Nat) : Int :=
    f (a % 0x10000000000000000).toNat (b % 0x10000000000000000).toNat
  let places := (b % 64).toNat
  match op with
  | "*" => return wrapped (a * b)
  | "/" => if b = 0 then throw "division by zero" else return wrapped (Int.tdiv a b)
  | "%" => if b = 0 then throw "division by zero" else return Int.tmod a b
  | "+" => return wrapped (a + b)
  | "-" => return wrapped (a - b)
  | "<<" => return wrapped (a * Int.pow 2 places)
  | ">>" => return a / Int.pow 2 places
  | "<" => return truth (decide (a < b))
  | "<=" => return truth (decide (a ≤ b))
  | ">" => return truth (decide (b < a))
  | ">=" => return truth (decide (b ≤ a))
  | "==" => return truth (a == b)
  | "!=" => return truth (a != b)
  | "&" => return wrapped (bits (· &&& ·))
  | "^" => return wrapped (bits (· ^^^ ·))
  | "|" => return wrapped (bits (· ||| ·))
  | _ => return b

/-- A number, a variable, an expression in parentheses, or one of these with a sign.  `whole` reads
a whole expression.  `idle` says that the value need not be known. -/
def primary (whole : Bool → Part Int) : Nat → Bool → Part Int
  | 0, _ => throw "expecting primary"
  | fuel + 1, idle => do
    match ← take with
    | .number n => return n
    | .name t => if idle then return 0 else valueOf t
    | .op "(" =>
      let n ← whole idle
      match ← take with
      | .op ")" => return n
      | _ => throw "expecting ')'"
    | .op "+" => primary whole fuel idle
    | .op "-" => return wrapped (-(← primary whole fuel idle))
    | .op "!" => return truth ((← primary whole fuel idle) == 0)
    | .op "~" => return -(← primary whole fuel idle) - 1
    | _ => throw "expecting primary"

def tighter? (bound : Nat) : Part (Option (String × Nat)) := do
  match ← coming with
  | .op s => return (precedence? s).bind fun p => if p < bound then some (s, p) else none
  | _ => return none

def binaryFrom (operand : Bool → Part Int) : Nat → Nat → Bool → Int → Part Int
  | 0, _, _, a => return a
  | fuel + 1, bound, idle, a => do
    match ← tighter? bound with
    | none => return a
    | some (op, p) =>
      let _ ← take
      let b ← operand idle
      let b ← binaryFrom operand fuel p idle b
      binaryFrom operand fuel bound idle (← if idle then pure b else result op a b)

def binary (operand : Bool → Part Int) (fuel : Nat) (idle : Bool) : Part Int := do
  binaryFrom operand fuel 8 idle (← operand idle)

def allOf (operand : Bool → Part Int) : Nat → Bool → Part Int
  | 0, _ => throw "expecting primary"
  | fuel + 1, idle => do
    let a ← binary operand (fuel + 1) idle
    if (← coming) = .op "&&" then
      let _ ← take
      let b ← allOf operand fuel (idle || a == 0)
      return truth (a != 0 && b != 0)
    else return a

def anyOf (operand : Bool → Part Int) : Nat → Bool → Part Int
  | 0, _ => throw "expecting primary"
  | fuel + 1, idle => do
    let a ← allOf operand (fuel + 1) idle
    if (← coming) = .op "||" then
      let _ ← take
      let b ← anyOf operand fuel (idle || a != 0)
      return truth (a != 0 || b != 0)
    else return a

def chosen (whole : Bool → Part Int) (operand : Bool → Part Int) : Nat → Bool → Part Int
  | 0, _ => throw "expecting primary"
  | fuel + 1, idle => do
    let a ← anyOf operand (fuel + 1) idle
    if (← coming) = .op "?" then
      let _ ← take
      let b ← whole (idle || a == 0)
      if (← take) ≠ .op ":" then throw "expecting ':'"
      let c ← chosen whole operand fuel (idle || a != 0)
      return if a != 0 then b else c
    else return a

def assignment? : Part (Option (Text × String)) := do
  let before ← get
  match ← take with
  | .name t =>
    match assigning? (← coming) with
    | some op =>
      let _ ← take
      return some (t, op)
    | none =>
      set before
      return none
  | _ =>
    set before
    return none

def expression : Nat → Bool → Part Int
  | 0, _ => throw "expecting primary"
  | fuel + 1, idle => do
    match ← assignment? with
    | some (name, op) =>
      let n ← expression fuel idle
      if idle then return n
      else
        let n ← if op.isEmpty then pure n else result op (← valueOf name) n
        modify fun p => { p with script := p.script.set name (integerText n) }
        return n
    | none =>
      let whole := expression fuel
      chosen whole (primary whole (fuel + 1)) (fuel + 1) idle

def evaluate (t : Text) (s : State) : Except String (Int × State) :=
  let all : Part Int := do
    let n ← expression (t.length + 1) false
    match ← coming with
    | .finish => return n
    | _ => throw "expecting EOF"
  match all ⟨t, s⟩ with
  | .ok (n, p) => .ok (n, p.script)
  | .error e =>
    .error (if e.startsWith "Illegal number" then e
      else "arithmetic expression: " ++ e ++ ": \"" ++ t.string ++ "\"")

end Replug.Shell.Sum
