/-
This file holds what one request asks for: a resize mode, a target box, a gravity, whether the
picture may grow, and the format to write. Each choice is read from a token in any letter case.
A box is acceptable for FILL and CROP only with both axes given, and for FIT with at least one;
an axis of zero is one that was not given.
-/

import Thumbnailer.Format

namespace Thumbnailer

/-- How the picture is mapped onto the target box. -/
inductive ResizeMode where
  /-- Scale to fit inside the box. -/
  | fit
  /-- Scale to cover the box, then crop what overflows. -/
  | fill
  /-- Crop without scaling. -/
  | crop
  deriving DecidableEq, Repr

namespace ResizeMode

def name : ResizeMode → String
  | .fit => "fit"
  | .fill => "fill"
  | .crop => "crop"

def ofToken? (token : String) : Option ResizeMode :=
  match lowerCase token with
  | "fit" => some .fit
  | "fill" => some .fill
  | "crop" => some .crop
  | _ => none

end ResizeMode

/-- Which part of the picture survives a crop. -/
inductive Gravity where
  | center
  | north
  | east
  | south
  | west
  /-- The most salient part. -/
  | smart
  deriving DecidableEq, Repr

namespace Gravity

def name : Gravity → String
  | .center => "center"
  | .north => "north"
  | .east => "east"
  | .south => "south"
  | .west => "west"
  | .smart => "smart"

def code : Gravity → String
  | .center => "ce"
  | .north => "no"
  | .east => "ea"
  | .south => "so"
  | .west => "we"
  | .smart => "sm"

def ofToken? (token : String) : Option Gravity :=
  match lowerCase token with
  | "ce" | "center" => some .center
  | "no" | "north" => some .north
  | "ea" | "east" => some .east
  | "so" | "south" => some .south
  | "we" | "west" => some .west
  | "sm" | "smart" => some .smart
  | _ => none

end Gravity

/-- Quality of lossy encoding. -/
structure Quality where
  value : UInt32
  one_le : 1 ≤ value := by decide
  le_hundred : value ≤ 100 := by decide
  deriving DecidableEq

namespace Quality

/-- The quality nearest to a number. -/
def ofNumber (number : UInt32) : Quality :=
  if low : number < 1 then
    { value := 1 }
  else if high : 100 < number then
    { value := 100 }
  else
    { value := number
      one_le := UInt32.not_lt.1 low
      le_hundred := UInt32.not_lt.1 high }

/-- The quality used when none is asked for. -/
def standard : Quality := { value := 80 }

end Quality

/-- The rule that a target box breaks. -/
inductive BoxRule where
  | bothAxes
  | someAxis
  deriving DecidableEq, Repr

def BoxRule.text : BoxRule → String
  | .bothAxes => "fill and crop require both width and height"
  | .someAxis => "fit requires width or height"

inductive OptionsError where
  | unknownResize (token : String)
  | unknownGravity (token : String)
  | unknownFormat (token : String)
  | invalidBox (width height : UInt32) (rule : BoxRule)
  deriving DecidableEq

def OptionsError.message : OptionsError → String
  | .unknownResize token => "unknown resize mode: " ++ token
  | .unknownGravity token => "unknown gravity: " ++ token
  | .unknownFormat token => "unknown image format: " ++ token
  | .invalidBox width height rule =>
    "invalid target size " ++ toString width ++ "x" ++ toString height ++ ": " ++ rule.text

structure Options where
  resize : ResizeMode
  width : UInt32
  height : UInt32
  gravity : Gravity := .center
  /-- Whether the picture may grow beyond its own size. -/
  enlarge : Bool := false
  format : Format
  deriving DecidableEq

namespace Options

/-- The rule for boxes under a mode that the target box breaks, if it breaks one. -/
def brokenRule? (options : Options) : Option BoxRule :=
  match options.resize with
  | .fit => if options.width = 0 ∧ options.height = 0 then some .someAxis else none
  | .fill | .crop => if options.width = 0 ∨ options.height = 0 then some .bothAxes else none

/-- Check the target box against the resize mode. -/
def validate (options : Options) : Except OptionsError Unit :=
  match options.brokenRule? with
  | none => .ok ()
  | some rule => .error (.invalidBox options.width options.height rule)

end Options

/-! ### Tokens -/

/-- The resize mode a token names; a token that names none is reported in lower case. -/
def ResizeMode.parse (token : String) : Except OptionsError ResizeMode :=
  match ResizeMode.ofToken? token with
  | some mode => .ok mode
  | none => .error (.unknownResize (lowerCase token))

/-- The gravity a token names; a token that names none is reported in lower case. -/
def Gravity.parse (token : String) : Except OptionsError Gravity :=
  match Gravity.ofToken? token with
  | some gravity => .ok gravity
  | none => .error (.unknownGravity (lowerCase token))

/-- The format a token names; a token that names none is reported in lower case. -/
def Format.parse (token : String) : Except OptionsError Format :=
  match Format.ofToken? token with
  | some format => .ok format
  | none => .error (.unknownFormat (lowerCase token))

end Thumbnailer
