/-
This file reads orientation tags. A tag from 1 to 8 names one of the eight ways to hold a picture:
a clockwise turn followed by a mirroring from left to right, or neither. Any other number means
that the picture is stored as it is seen.
-/

import Thumbnailer.Geometry

namespace Thumbnailer

namespace Orientation

/-- The clockwise turn a tag asks for. -/
def turn (tag : UInt8) : Turn :=
  if tag = 3 ∨ tag = 4 then .half
  else if tag = 5 ∨ tag = 6 then .quarter
  else if tag = 7 ∨ tag = 8 then .threeQuarters
  else .none

/-- Whether a tag asks for mirroring after the turn. -/
def mirrored (tag : UInt8) : Bool :=
  tag = 2 || tag = 4 || tag = 5 || tag = 7

/-- The appearance of an image of this stored size under a tag. -/
def appearance (stored : Size) (tag : UInt8) (hasAlpha : Bool) : Appearance :=
  { size := (turn tag).apply stored
    turn := turn tag
    mirrored := mirrored tag
    hasAlpha := hasAlpha }

end Orientation

end Thumbnailer
