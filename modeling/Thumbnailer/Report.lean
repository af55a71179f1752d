/-
This file writes what people read: the capabilities of an engine, as lines and as JSON, the events
of a batch, and its summary. Everything is a list of lines or a text; nothing is printed here.
-/

import Thumbnailer.Batch.Event
import Thumbnailer.Cache.Basic
import Thumbnailer.Capabilities
import Thumbnailer.Decimal

namespace Thumbnailer.Report

/-- Lines below a heading are moved in by four places. -/
def indented (line : String) : String :=
  "    " ++ line

def formatList (formats : List Format) : String :=
  if formats.isEmpty then "none" else ", ".intercalate (formats.map Format.name)

def capabilityLines (capabilities : Capabilities) : List String :=
  ["Decode", indented (formatList capabilities.decodable),
    "Encode", indented (formatList capabilities.encodable),
    "Smart crop", indented (if capabilities.smartCrop then "available" else "unavailable")]

/-- A list of formats as JSON, one to a line inside an object. -/
def formatArray (formats : List Format) : String :=
  if formats.isEmpty then "[]"
  else
    let lines := formats.map fun format => "    \"" ++ format.name ++ "\""
    "[\n" ++ ",\n".intercalate lines ++ "\n  ]"

/-- The capabilities as a JSON object over several lines. -/
def capabilityJson (capabilities : Capabilities) : String :=
  "\x7b\n  \"decode\": " ++ formatArray capabilities.decodable ++
    ",\n  \"encode\": " ++ formatArray capabilities.encodable ++
    ",\n  \"smart_crop\": " ++ (if capabilities.smartCrop then "true" else "false") ++ "\n\x7d"

def eventLines : Batch.Event → List String
  | .processed source output size elapsed =>
    [source.display ++ " → " ++ output.display ++ " (" ++ toString size ++ " bytes, " ++
      toString elapsed.milliseconds ++ "ms)"]
  | .failed source error => [source.display, indented ("Error: " ++ error)]

/-- A span in seconds: whole seconds and the fraction beyond them are rounded each. -/
def seconds (span : Duration) : Float :=
  (UInt64.ofNat (span.nanoseconds / 1000000000)).toFloat +
    (UInt64.ofNat (span.nanoseconds % 1000000000)).toFloat / 1000000000

/-- The summary of a batch after an empty line, and what the decode cache did, if that is told. -/
def summaryLines (summary : Batch.Summary) (cache : Option CacheStatistics) : List String :=
  ["", toString summary.processed ++ " processed, " ++ toString summary.failed ++ " failed in " ++
      Decimal.fixed 2 (seconds summary.elapsed) ++ "s"] ++
    cache.toList.map fun statistics => "Decode cache: " ++ statistics.text

end Thumbnailer.Report
