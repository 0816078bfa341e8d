import DecoderHost.Text.Numeral

/-!
Bit fields whose bits have names. Several names may share a bit, a name may stand for several bits or
for none, and a value may hold bits that no name covers.

A value is listed by walking the names in the order of their declaration: a name is listed when it has a
bit, all its bits are set in the value, and at least one of them is not yet listed. What is left is the
unnamed rest.
-/

namespace DecoderHost

/-- A name for some bits of a field. -/
structure Flag (width : Nat) where
  name : String
  bits : BitVec width
  deriving DecidableEq, Repr

namespace Flag

variable {width : Nat}

/-- The bits that any name covers. -/
def union (flags : List (Flag width)) : BitVec width :=
  flags.foldr (fun flag rest => flag.bits ||| rest) 0

/-- Walk the names over `source`, of which `rest` is not listed yet; the listed names come back with
what is left of the rest. -/
def walk (source : BitVec width) : List (Flag width) → BitVec width → List (Flag width) × BitVec width
  | [], rest => ([], rest)
  | flag :: flags, rest =>
    if flag.bits &&& source = flag.bits ∧ flag.bits &&& rest ≠ 0 then
      let (listed, left) := walk source flags (rest &&& ~~~flag.bits)
      (flag :: listed, left)
    else walk source flags rest

/-- The names listed for a value. -/
def listed (flags : List (Flag width)) (value : BitVec width) : List (Flag width) :=
  (walk value flags value).1

/-- The bits of a value that no listed name covers. -/
def unnamed (flags : List (Flag width)) (value : BitVec width) : BitVec width :=
  (walk value flags value).2

/-- The parts of a value: the bits of each listed name, then the unnamed rest unless it is zero. -/
def parts (flags : List (Flag width)) (value : BitVec width) : List (BitVec width) :=
  (listed flags value).map Flag.bits ++
    if unnamed flags value = 0 then [] else [unnamed flags value]

/-- The value with the bits that no name covers dropped. -/
def truncate (flags : List (Flag width)) (value : BitVec width) : BitVec width :=
  value &&& union flags

/-- The value itself when names cover all its bits. -/
def exactly? (flags : List (Flag width)) (value : BitVec width) : Option (BitVec width) :=
  if truncate flags value = value then some value else none

/-- Does the value hold all bits of another? -/
def holds (value other : BitVec width) : Bool := other &&& value == other

/-- Do two values share a bit? -/
def meets (value other : BitVec width) : Bool := value &&& other != 0

/-- The bits of a value that another lacks. -/
def less (value other : BitVec width) : BitVec width := value &&& ~~~other

/-- Does the value hold every named bit? -/
def isFull (flags : List (Flag width)) (value : BitVec width) : Bool := holds value (union flags)

/-- The named bits that the value lacks. -/
def complement (flags : List (Flag width)) (value : BitVec width) : BitVec width :=
  truncate flags (~~~value)

/-- The first declared name with this spelling. -/
def named? (flags : List (Flag width)) (name : String) : Option (BitVec width) :=
  (flags.find? fun flag => flag.name == name).map Flag.bits

/-- The names of a value joined by a bar, the unnamed rest last as one hexadecimal number; an empty
value is written `0x0`. -/
def describe (flags : List (Flag width)) (value : BitVec width) : String :=
  let names := (listed flags value).map Flag.name
  let rest := unnamed flags value
  if value = 0 then "0x0"
  else " | ".intercalate (names ++ if rest = 0 then [] else [Text.hexAddress rest.toNat])

end Flag

end DecoderHost
