/-
This file names decoded images by what they were decoded from: the digest of the encoded data, the
format it was read as and the reduction at which it was read. The data comes first and carries no
length, so the parts are told apart from the far end.
-/

import Thumbnailer.Digest.Sha256
import Thumbnailer.Format

namespace Thumbnailer.Cache

/-- The four bytes of a word, the least significant first. -/
def littleEndian (word : UInt32) : Bytes :=
  [word.toUInt8, (word >>> 8).toUInt8, (word >>> 16).toUInt8, (word >>> 24).toUInt8]

/-- The bytes that are digested into a key. -/
def keyMaterial (data : Bytes) (format : Format) (shrink : UInt32) : Bytes :=
  data ++ (0 :: format.name.toUTF8.toList) ++ littleEndian shrink

/-- The name of an image decoded from this data, as this format, at this reduction. -/
def key (data : Bytes) (format : Format) (shrink : UInt32) : String :=
  Sha256.hexadecimal (Sha256.digest (keyMaterial data format shrink))

end Thumbnailer.Cache
