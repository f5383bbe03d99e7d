/-
Values the wire contract is built from: UTF-8 text with its byte ceiling,
and checked geometry (`xenoteer-protocol/src/geometry.rs`).

A Rust `String` is its list of scalar values, whose order by code point is
`String`'s order by bytes. A check on every byte that only ASCII bytes pass
is a check on every character.
-/
import Xenoteer.Coordinator.Types

namespace Xenoteer

/-! ## Text -/

abbrev Text := List Char

namespace Text

/-- `String::len`: bytes of the UTF-8 encoding. -/
def byteLen (t : Text) : Nat := (t.map Char.utf8Size).sum

/-- `str::split(separator)`: never empty, `[[]]` for the empty text. -/
def split (separator : Char) : Text → List Text
  | [] => [[]]
  | c :: t =>
    if c = separator then [] :: split separator t
    else match split separator t with
      | [] => [[c]]
      | word :: words => (c :: word) :: words

/-- `str::contains(needle)` for a text. -/
def containsText (needle : Text) : Text → Bool
  | [] => needle.isEmpty
  | c :: t => needle.isPrefixOf (c :: t) || containsText needle t

end Text

/-- `byte.is_ascii_alphanumeric()`. -/
def isAsciiAlphanumeric (c : Char) : Bool :=
  ('0' ≤ c && c ≤ '9') || ('a' ≤ c && c ≤ 'z') || ('A' ≤ c && c ≤ 'Z')

/-- `byte.is_ascii_digit() || matches!(byte, b'a'..=b'f')`. -/
def isLowerHexDigit (c : Char) : Bool := ('0' ≤ c && c ≤ '9') || ('a' ≤ c && c ≤ 'f')

/-- `char::is_control`: the category `Cc`. -/
def isControl (c : Char) : Bool := c.toNat < 0x20 || (0x7f ≤ c.toNat && c.toNat < 0xa0)

def hasDuplicates {α} [DecidableEq α] (values : List α) : Bool := !decide values.Nodup

/-- One digit of `{:x}`. -/
def lowerHexDigit (n : Nat) : Char := Char.ofNat (if n < 10 then '0'.toNat + n else 'a'.toNat + (n - 10))

/-- `{:08x}` of a `u32`. -/
def lowerHex8 (x : UInt32) : Text :=
  [7, 6, 5, 4, 3, 2, 1, 0].map fun i => lowerHexDigit (x.toNat / 16 ^ i % 16)

/-! ## Floating point

An `f64` is its 64 bits; the model only compares numbers and asks whether
they are finite. -/

structure F64 where
  bits : BitVec 64
deriving DecidableEq

namespace F64

def exponent (x : F64) : Nat := x.bits.toNat / 2 ^ 52 % 2 ^ 11

def mantissa (x : F64) : Nat := x.bits.toNat % 2 ^ 52

def isFinite (x : F64) : Bool := x.exponent ≠ 0x7ff

def isNaN (x : F64) : Bool := x.exponent = 0x7ff && x.mantissa ≠ 0

/-- The bits below the sign order the numbers of one sign by magnitude; both
zeros have key 0. -/
def key (x : F64) : Int :=
  let magnitude : Int := x.bits.toNat % 2 ^ 63
  if x.bits.msb then -magnitude else magnitude

/-- `a <= b`: false when one of them is not a number. -/
def le (a b : F64) : Bool := !a.isNaN && !b.isNaN && a.key ≤ b.key

/-- `a < b`. -/
def lt (a b : F64) : Bool := !a.isNaN && !b.isNaN && a.key < b.key

end F64

/-! ## Geometry -/

def i32Max : Int := 2147483647

inductive GeometryError where
  | emptySize
  | coordinateOverflow
deriving DecidableEq

structure Point where
  x : Int32
  y : Int32

structure Size where
  width : UInt32
  height : UInt32

namespace Size

def validate (s : Size) : Except GeometryError Unit :=
  if s.width = 0 ∨ s.height = 0 then .error .emptySize else .ok ()

def new (width height : UInt32) : Except GeometryError Size := do
  let value : Size := ⟨width, height⟩
  value.validate
  return value

end Size

structure Rect where
  x : Int32
  y : Int32
  width : UInt32
  height : UInt32
deriving DecidableEq

namespace Rect

/-- Non-empty, and the inclusive end coordinates fit `i32`. -/
def validate (r : Rect) : Except GeometryError Unit := do
  let _ ← Size.new r.width r.height
  let endX := r.x.toInt + r.width.toNat - 1
  let endY := r.y.toInt + r.height.toNat - 1
  if i32Max < endX ∨ i32Max < endY then throw .coordinateOverflow

def origin (r : Rect) : Point := ⟨r.x, r.y⟩

def size (r : Rect) : Except GeometryError Size := Size.new r.width r.height

end Rect

/-- The reference frame of a geometry value. -/
inductive CoordinateSpace where
  | rootPhysical
  | windowClient
  | windowFrame
  | atspiScreen
deriving DecidableEq

end Xenoteer
