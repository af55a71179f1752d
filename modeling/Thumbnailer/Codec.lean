/-
This file holds what is left to codecs and resampling kernels, and one codec that keeps it simple:
a container of raw samples behind the signature of its format. Its header tells the size, the
colour type, the orientation tag and whether the samples follow. Reading a lossy format, and
resampling, keep the size and the colour type and forget the samples. Data that is cut short, or
that goes on too long, is refused.
-/

import Thumbnailer.Format
import Thumbnailer.Options
import Thumbnailer.Raster.Convert

namespace Thumbnailer

/-- An image as it comes out of a decoder. -/
structure Decoded where
  raster : Raster
  orientation : UInt8
  deriving DecidableEq

/-- Reading, writing and resampling of images. Each is a function of what it is given. -/
structure Codec where
  decode : Bytes → Format → Except String Decoded
  encode : Raster → Format → Quality → Except String Bytes
  /-- Resampling when a source is decoded at reduced size. -/
  reduce : Raster → Size → Raster
  /-- Resampling when an image is scaled. -/
  resample : Raster → Size → Raster

namespace Container

/-- A number in a fixed count of bytes, the least significant first. -/
def numberBytes (count number : Nat) : Bytes :=
  (List.range count).map fun place => UInt8.ofNat (number >>> (8 * place))

/-- The number in bytes, the least significant first. -/
def bytesNumber : Bytes → Nat
  | [] => 0
  | byte :: rest => byte.toNat + 256 * bytesNumber rest

/-- The bytes of the samples. -/
def sampleBytes (band : Band) (pixels : Array Pixel) : Bytes :=
  pixels.toList.flatMap fun pixel =>
    pixel.flatMap fun sample => numberBytes band.bytes sample.toNat

/-- An image in the container of a format. The last byte marks the end. -/
def pack (format : Format) (raster : Raster) (orientation : UInt16) : Bytes :=
  format.signature ++
    UInt8.ofNat (Colour.all.idxOf raster.colour) ::
      (if raster.pixels.isSome then 1 else 0) ::
        numberBytes 4 raster.size.width.toNat ++ numberBytes 4 raster.size.height.toNat ++
    numberBytes 2 orientation.toNat ++
    (match raster.pixels with
      | none => []
      | some pixels => sampleBytes raster.colour.band pixels) ++
    [0x2E]

/-- The pixels of a run of samples. -/
def unpackPixels (size : Size) (colour : Colour) (samples : Array UInt8) : Array Pixel :=
  let width := colour.band.bytes
  Array.ofFn fun place : Fin size.area =>
    (List.range colour.channels).map fun channel =>
      let start := (place.val * colour.channels + channel) * width
      let bytes := (List.range width).map fun offset => samples.getD (start + offset) 0
      UInt32.ofNat (bytesNumber bytes)

/-- The tag that counts: one from 1 to 8; any other reads as 1. -/
def knownOrientation (tag : Nat) : UInt8 :=
  if 1 ≤ tag ∧ tag ≤ 8 then UInt8.ofNat tag else 1

/-- What reading a format leaves of the stored image: JPEG forgets the samples, GIF the colour type
as well. -/
def remembered (raster : Raster) : Format → Raster
  | .png | .webp => raster
  | .jpeg => .unknown raster.size raster.colour
  | .gif => .unknown raster.size .rgba8

def unpack (data : Bytes) (format : Format) : Except String Decoded :=
  if format.signature.isPrefixOf data then
    match data.drop format.signature.length with
    | colourByte :: known :: rest =>
      let size : Size :=
        { width := UInt32.ofNat (bytesNumber (rest.take 4))
          height := UInt32.ofNat (bytesNumber ((rest.drop 4).take 4)) }
      let orientation := knownOrientation (bytesNumber ((rest.drop 8).take 2))
      let samples := (rest.drop 10).toArray
      match Colour.all[colourByte.toNat]? with
      | none => .error "unknown colour type"
      | some colour =>
        let raster := Raster.unknown size colour
        let expected := if known = 1 then raster.byteCount else 0
        let stored :=
          if known = 1 then { raster with pixels := some (unpackPixels size colour samples) }
          else raster
        if samples.size = expected + 1 ∧ samples.back? = some 0x2E then
          .ok { raster := remembered stored format, orientation := orientation }
        else
          .error "unexpected end of data"
    | _ => .error "unexpected end of data"
  else
    .error ("not " ++ format.name ++ " data")

/-- The longest axis a format can be written with. -/
def longestAxis : Format → UInt32
  | .jpeg => 65535
  | .webp => 16383
  | .png | .gif => 4294967295

/-- The image that a reader of the written data sees: lossy formats keep the size only, and PNG
has no floating point. -/
def written (raster : Raster) : Format → Raster
  | .png => if raster.colour.band = .float then raster.convert .rgba16 else raster
  | .webp => .unknown raster.size (.chromatic raster.colour.hasAlpha .byte)
  | .jpeg | .gif => .unknown raster.size .rgb8

def encode (raster : Raster) (format : Format) (_ : Quality) : Except String Bytes :=
  let longest := longestAxis format
  if format = .gif then
    .error "gif encoding is not supported"
  else if longest < raster.size.width ∨ longest < raster.size.height then
    .error (if format = .webp then "webp: VP8_ENC_ERROR_BAD_DIMENSION" else "image is too large")
  else
    .ok (pack format (written raster format) 0)

/-- The codec of raw containers. Resampled pixels are unknown. -/
def codec : Codec :=
  { decode := unpack
    encode := encode
    reduce := fun raster size => .unknown size raster.colour
    resample := fun raster size => .unknown size raster.colour }

end Container

end Thumbnailer
