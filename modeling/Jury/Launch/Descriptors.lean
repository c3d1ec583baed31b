import Jury.Fault

/-!
# Descriptors

The descriptors that a program is started with. Each open one has a direction, and a place in a
file where it reads or writes next; two names for one descriptor share that place. Devices that
fail are descriptors whose reads or writes fail. A program that gives a descriptor up closes it:
nothing can be read from it or written to it any more, and what its file holds stays.
-/

namespace Jury.Launch

/-- The directions that a descriptor is open for. -/
inductive Access where
  | readOnly
  | writeOnly
  | readWrite
  deriving DecidableEq, Repr

def Access.allows : Access → Direction → Bool
  | readWrite, _ => true
  | readOnly, .read => true
  | writeOnly, .write => true
  | _, _ => false

/-- An open descriptor: the bytes of its file, the place of the next read or write, and the
failures, if there are any, of the reads behind these bytes and of all writes. -/
structure OpenFile where
  access : Access
  content : List UInt8 := []
  position : Nat := 0
  readFault : Option IoFault := none
  writeFault : Option IoFault := none
  deriving DecidableEq, Repr

namespace OpenFile

/-- The bytes that reading brings. -/
def rest (f : OpenFile) : List UInt8 :=
  f.content.drop f.position

/-- Moves on over bytes that were read. -/
def skip (f : OpenFile) (count : Nat) : OpenFile :=
  { f with position := f.position + count }

/-- Whether a write goes well. Writing nothing always does. -/
def accepts (f : OpenFile) (bytes : List UInt8) : Bool :=
  f.writeFault.isNone || bytes.isEmpty

/-- Writes bytes over those at the place of the next write, and beyond the end. Writing nothing
leaves the file as it is. -/
def write (f : OpenFile) (bytes : List UInt8) : OpenFile :=
  if f.writeFault.isSome || bytes.isEmpty then f
  else
    let gap := List.replicate (f.position - f.content.length) 0
    { f with
      content := f.content.take f.position ++ gap ++ bytes ++
        f.content.drop (f.position + bytes.length)
      position := f.position + bytes.length }

end OpenFile

/-- The descriptors that a program was given, by number, and the numbers of those that it has
closed. -/
structure Descriptors where
  entries : List (Int × OpenFile) := []
  closed : List Int := []
  deriving DecidableEq, Repr

namespace Descriptors

def get? (d : Descriptors) (number : Int) : Option OpenFile :=
  if number ∈ d.closed then none else d.entries.lookup number

/-- What the file of a descriptor holds, open or closed. -/
def content (d : Descriptors) (number : Int) : List UInt8 :=
  ((d.entries.lookup number).map (·.content)).getD []

def close (d : Descriptors) (numbers : List Int) : Descriptors :=
  { d with closed := numbers ++ d.closed }

def modify (d : Descriptors) (number : Int) (change : OpenFile → OpenFile) : Descriptors :=
  if number ∈ d.closed then d
  else
    { d with
      entries := d.entries.map fun (n, f) => if n = number then (n, change f) else (n, f) }

def accepts (d : Descriptors) (number : Int) (bytes : List UInt8) : Bool :=
  (d.get? number).any (·.accepts bytes)

def write (d : Descriptors) (number : Int) (bytes : List UInt8) : Descriptors :=
  d.modify number (·.write bytes)

def check (d : Descriptors) (number : Int) (direction : Direction) :
    Except DescriptorFault Unit :=
  if number < 0 then .error (.negative number)
  else
    match d.get? number with
    | none => .error (.closed number)
    | some file =>
      if file.access.allows direction then .ok () else .error (.notOpenFor number direction)

end Descriptors

end Jury.Launch
