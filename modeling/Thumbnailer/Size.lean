/-
This file holds the shapes that the stages hand to each other: sizes, regions, quarter turns, the
number format of a band of samples, and how an image's bands are read as colour. Axes are 32-bit
words, so sums of them can wrap; the functions that add axes say why theirs do not.
-/

namespace Thumbnailer

structure Size where
  width : UInt32
  height : UInt32
  deriving DecidableEq, Repr

namespace Size

def swap (size : Size) : Size :=
  { width := size.height, height := size.width }

/-- The largest size within both. -/
def meet (first second : Size) : Size :=
  { width := min first.width second.width, height := min first.height second.height }

/-- An axis after an integer reduction, counting a partial step as a whole one. -/
def reduceAxis (axis shrink : UInt32) : UInt32 :=
  UInt32.ofNat ((axis.toNat + shrink.toNat - 1) / shrink.toNat)

/-- The size after an integer reduction of both axes; a factor of zero reduces nothing. -/
def reduce (size : Size) (shrink : UInt32) : Size :=
  { width := reduceAxis size.width (max shrink 1)
    height := reduceAxis size.height (max shrink 1) }

def area (size : Size) : Nat :=
  size.width.toNat * size.height.toNat

def text (size : Size) : String :=
  toString size.width ++ "x" ++ toString size.height

@[simp]
theorem swap_swap (size : Size) : size.swap.swap = size := rfl

end Size

structure Region where
  left : UInt32
  top : UInt32
  width : UInt32
  height : UInt32
  deriving DecidableEq, Repr

namespace Region

def size (region : Region) : Size :=
  { width := region.width, height := region.height }

/-- Whether the region lies within an image of this size. -/
def Inside (region : Region) (size : Size) : Prop :=
  region.left.toNat + region.width.toNat ≤ size.width.toNat ∧
    region.top.toNat + region.height.toNat ≤ size.height.toNat

instance (region : Region) (size : Size) : Decidable (region.Inside size) :=
  inferInstanceAs (Decidable (_ ∧ _))

/-- Size and offset, as in `800x600+10+20`. -/
def text (region : Region) : String :=
  region.size.text ++ "+" ++ toString region.left ++ "+" ++ toString region.top

end Region

/-- A clockwise rotation by quarter turns. -/
inductive Turn where
  | none
  | quarter
  | half
  | threeQuarters
  deriving DecidableEq, Repr

namespace Turn

def degrees : Turn → Nat
  | .none => 0
  | .quarter => 90
  | .half => 180
  | .threeQuarters => 270

def apply (turn : Turn) (size : Size) : Size :=
  match turn with
  | .none | .half => size
  | .quarter | .threeQuarters => size.swap

end Turn

/-- The number format of each band of an image. -/
inductive Band where
  | byte
  | word
  | float
  deriving DecidableEq, Repr

namespace Band

def all : List Band :=
  [.byte, .word, .float]

def name : Band → String
  | .byte => "u8"
  | .word => "u16"
  | .float => "f32"

end Band

/-- How an image's bands are read as colour. -/
inductive Interpretation where
  /-- Standard colour in bytes, to which every picture is brought. -/
  | srgb
  /-- Colour in words. -/
  | rgb16
  /-- Grey in bytes. -/
  | bw
  /-- Grey in words. -/
  | grey16
  /-- Colour in floating point. -/
  | scrgb
  deriving DecidableEq, Repr

namespace Interpretation

def all : List Interpretation :=
  [.srgb, .rgb16, .bw, .grey16, .scrgb]

def name : Interpretation → String
  | .srgb => "srgb"
  | .rgb16 => "rgb16"
  | .bw => "bw"
  | .grey16 => "grey16"
  | .scrgb => "scrgb"

end Interpretation

end Thumbnailer
