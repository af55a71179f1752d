/-
This file says where the output of a source lies. A source below the input directory has the names
of some directories between that directory and its own name. The output has, after the components of
the output directory, the same names of directories, and one name more: the stem of the source as
text, a dot and the extension of the format. Nothing in it leads upwards, so that it lies below the
output directory. Two sources come to the same output exactly if they lie in the same directory and
their stems are the same as text.
-/

import Thumbnailer.Proofs.Batch.Assignment
import Thumbnailer.Proofs.Components
import Thumbnailer.Proofs.Slashes

namespace Thumbnailer

/-- A path lies below another, in directories of these names and under a name of its own. -/
def Path.Below (base path : Path) (directories : List Bytes) (name : Bytes) : Prop :=
  path.components = base.components ++ directories.map .name ++ [.name name]

namespace Batch

/-! ### Names of outputs -/

/-- The name of the output of a source with this stem. -/
def outputName (stem : Bytes) (format : Format) : String :=
  Utf8.decodeLossy stem ++ "." ++ format.extension

theorem encode_outputName (stem : Bytes) (format : Format) :
    Utf8.encode (outputName stem format) =
      Utf8.encode (Utf8.decodeLossy stem) ++ 0x2E :: Utf8.encode format.extension := by
  have dot : Utf8.encode "." = [0x2E] := by decide +kernel
  unfold outputName
  rw [Utf8.encode_append, Utf8.encode_append, dot, List.append_assoc, List.singleton_append]

theorem encode_extension (format : Format) :
    0x2F ∉ Utf8.encode format.extension ∧ 3 ≤ (Utf8.encode format.extension).length := by
  cases format <;> decide +kernel

/-- With its dot and extension, what a stem is as text is one name. -/
theorem components_outputName {stem : Bytes} (whole : 0x2F ∉ stem) (format : Format) :
    (Path.ofString (outputName stem format)).components =
      [.name (Utf8.encode (outputName stem format))] := by
  obtain ⟨plain, long⟩ := encode_extension format
  have length : 4 ≤ (Utf8.encode (outputName stem format)).length := by
    rw [encode_outputName, List.length_append, List.length_cons]
    omega
  refine Path.components_of_name ?_ ?_ ?_ ?_
  · rw [encode_outputName, List.mem_append, List.mem_cons, not_or, not_or]
    exact ⟨Utf8.slash_notMem_decodeLossy whole, by decide, plain⟩
  all_goals
    intro short
    rw [short] at length
    exact absurd length (by decide)

theorem encode_outputName_inj {first second : Bytes} {format : Format} :
    Utf8.encode (outputName first format) = Utf8.encode (outputName second format) ↔
      Utf8.decodeLossy first = Utf8.decodeLossy second := by
  rw [encode_outputName, encode_outputName, List.append_left_inj]
  exact ⟨Utf8.encode_injective, congrArg Utf8.encode⟩

/-! ### Places of outputs -/

theorem components_join_names {path next : Path} (names : List Bytes)
    (named : next.components = names.map .name) :
    (path.join next).components = path.components ++ names.map .name := by
  rw [Path.components_join, named] <;> rw [named, List.mem_map] <;> rintro ⟨_, _, other⟩ <;>
    cases other

/-- An output lies below the output directory as its source does below the input directory. -/
theorem below_outputPath {source input : Path} {directories : List Bytes} {name : Bytes}
    (below : input.Below source directories name) (output : Path) (format : Format) :
    ∃ stem, source.stem? = some stem ∧
      output.Below (outputPath source input output format) directories
        (Utf8.encode (outputName stem format)) := by
  have stem : source.stem? = some ((Path.splitName name).1.getD name) := by
    unfold Path.stem?
    rw [Path.fileName?_of_components below]
    rfl
  have whole : 0x2F ∉ (Path.splitName name).1.getD name := by
    have named : .name name ∈ source.components := below ▸ List.mem_concat_self
    exact fun member => Path.slash_notMem_of_name named (Path.mem_of_mem_stem member)
  obtain ⟨relative, found, parts⟩ :=
    Path.exists_relative (below.trans (List.append_assoc _ _ _))
  obtain ⟨parent, above, names⟩ := Path.exists_parent parts nofun
  refine ⟨_, stem, ?_⟩
  unfold outputPath Path.Below
  rw [found, Option.bind_some, above, Option.getD_some, stem, Option.map_some, Option.getD_some]
  show ((output.join parent).join (Path.ofString (outputName _ format))).components = _
  rw [components_join_names [_] (components_outputName whole format),
    components_join_names directories names]
  rfl

/-- Outputs mirror the places of their sources, and two sources come to the same output only if they
lie in the same directory and their stems are the same as text. -/
theorem mirrors_outputPath {first second input : Path}
    {firstDirectories secondDirectories : List Bytes} {firstName secondName : Bytes}
    (firstBelow : input.Below first firstDirectories firstName)
    (secondBelow : input.Below second secondDirectories secondName) (output : Path)
    (format : Format) :
    ∃ firstStem secondStem, first.stem? = some firstStem ∧ second.stem? = some secondStem ∧
      output.Below (outputPath first input output format) firstDirectories
        (Utf8.encode (outputName firstStem format)) ∧
      ((outputPath first input output format).sameAs (outputPath second input output format) =
          true ↔
        firstDirectories = secondDirectories ∧
          Utf8.decodeLossy firstStem = Utf8.decodeLossy secondStem) := by
  obtain ⟨firstStem, firstIs, firstOutput⟩ := below_outputPath firstBelow output format
  obtain ⟨secondStem, secondIs, secondOutput⟩ := below_outputPath secondBelow output format
  refine ⟨firstStem, secondStem, firstIs, secondIs, firstOutput, ?_⟩
  unfold Path.Below at firstOutput secondOutput
  rw [Path.sameAs_iff, firstOutput, secondOutput, List.append_assoc, List.append_assoc,
    List.append_right_inj, List.append_singleton_inj,
    List.map_inj_right fun _ _ same => Component.name.inj same, Component.name.injEq,
    encode_outputName_inj]

/-- Two sources whose names are no text, written with slashes and dots that mean nothing, come to
the same output. -/
theorem mirrors_outputPath_untidy :
    let first : Path := { bytes := [0x69, 0x6E, 0x2F, 0x2F, 0x73, 0x2F, 0xFF, 0x2E, 0x61] }
    let second : Path :=
      { bytes := [0x69, 0x6E, 0x2F, 0x2E, 0x2F, 0x73, 0x2F, 0xFE, 0x2E, 0x62, 0x2F] }
    (Path.ofString "in").Below first [[0x73]] [0xFF, 0x2E, 0x61] ∧
      (Path.ofString "in").Below second [[0x73]] [0xFE, 0x2E, 0x62] ∧
      (outputPath first (.ofString "in") (.ofString "out/") .png).sameAs
        (outputPath second (.ofString "in") (.ofString "out/") .png) = true := by
  intro first second
  have firstBelow : (Path.ofString "in").Below first [[0x73]] [0xFF, 0x2E, 0x61] := by
    unfold Path.Below
    decide +kernel
  have secondBelow : (Path.ofString "in").Below second [[0x73]] [0xFE, 0x2E, 0x62] := by
    unfold Path.Below
    decide +kernel
  refine ⟨firstBelow, secondBelow, ?_⟩
  obtain ⟨firstStem, secondStem, firstIs, secondIs, -, same⟩ :=
    mirrors_outputPath firstBelow secondBelow (.ofString "out/") .png
  refine same.2 ⟨rfl, ?_⟩
  obtain rfl : [0xFF] = firstStem := Option.some.inj firstIs
  obtain rfl : [0xFE] = secondStem := Option.some.inj secondIs
  decide +kernel

end Batch

end Thumbnailer
