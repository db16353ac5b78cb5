import Replug.Text.Utf8

/-!
# Paths

A path is a byte string cut into segments by slashes.  Nothing here looks at a file: what a path
leads to is said in `Replug.Files.Lookup`.  The parent of a path keeps its spelling, so messages
that name a parent show what was typed.
-/

set_option autoImplicit false

namespace Replug

/-- A path name: any bytes, text or not. -/
structure Path where
  bytes : Bytes
  deriving DecidableEq, Repr

namespace Path

def slash : UInt8 := 0x2F

def here : Bytes := [0x2E]

def above : Bytes := [0x2E, 0x2E]

def ofString (s : String) : Path := ⟨Bytes.ofString s⟩

instance : Coe String Path := ⟨ofString⟩

def text? (p : Path) : Option String := p.bytes.text?

def display (p : Path) : String := p.bytes.display

def isEmpty (p : Path) : Bool := p.bytes.isEmpty

def isAbsolute (p : Path) : Bool := p.bytes.head? == some slash

def segments : Bytes → List Bytes
  | [] => [[]]
  | b :: rest =>
    if b = slash then [] :: segments rest
    else match segments rest with
      | [] => [[b]]
      | s :: more => (b :: s) :: more

def joinSegments (pieces : List Bytes) : Bytes := [slash].intercalate pieces

/-- A segment that moves nowhere: an empty one, or a single dot. -/
def isIdle (segment : Bytes) : Bool := segment.isEmpty || segment == here

/-- The pieces without the idle ones at the end. -/
def dropIdleEnd (pieces : List Bytes) : List Bytes :=
  (pieces.reverse.dropWhile isIdle).reverse

def join (p : Path) (name : String) : Path :=
  let tail := Bytes.ofString name
  match p.bytes.getLast? with
  | none => ⟨tail⟩
  | some last => ⟨p.bytes ++ (if last = slash then tail else slash :: tail)⟩

/-- The path without its last name, in its own spelling; a single name has the empty path as its
parent, and neither the root nor the empty path has any. -/
def parent? (p : Path) : Option Path :=
  let pieces := segments p.bytes
  let cut (head : Bytes) (above : List Bytes) : Path :=
    match dropIdleEnd above with
    | [] => ⟨head⟩
    | rest =>
      let between := if head.isEmpty || head == [slash] then [] else [slash]
      ⟨head ++ between ++ joinSegments rest⟩
  let headed (head : Bytes) (body : List Bytes) (whole : Option Path) : Option Path :=
    match (dropIdleEnd body).reverse with
    | [] => whole
    | _ :: above => some (cut head above.reverse)
  if p.isAbsolute then headed [slash] pieces.tail none
  else match pieces with
    | first :: body =>
      if first = here then headed here body (some ⟨[]⟩) else headed [] pieces none
    | [] => none

/-- A path spelled `~`, or starting with `~/`, begins at the home directory.  Only text is read
this way, and only when there is a home directory and it is text itself; an empty one is none.  The
rest of the path is left as it is. -/
def expandHome (home : Bytes) (p : Path) : Path :=
  match p.text?, home.text? with
  | some _, some _ =>
    match p.bytes with
    | 0x7E :: rest =>
      if !home.isEmpty && (rest.isEmpty || rest.head? == some slash) then ⟨home ++ rest⟩ else p
    | _ => p
  | _, _ => p

end Path

end Replug
