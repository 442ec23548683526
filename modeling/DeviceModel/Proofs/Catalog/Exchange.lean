import DeviceModel.Command.Basic
import DeviceModel.Proofs.Catalog.Order
import DeviceModel.Proofs.DataType
import DeviceModel.Proofs.Json.Reading

/-!
# Catalogs read back

A descriptor is written as a record of four fields. Its suffix is read back whatever characters it
consists of, its type because every type has a name of its own, and its bounds because they are
integers of 64 bits (`Descriptor.ofDocument?_echo`). So the list of the descriptors of a catalog is
read back from every text that is read as the catalog (`descriptorsOfText?_of_echo`), which are the
one on one line and the one over several lines.

The main statement is `reimport_toJson`: what is read back makes a catalog again, which answers
everything as the one that was written.
-/

namespace DeviceModel

open Json

namespace Descriptor

/-- A record of a text and three other fields. -/
theorem ofDocument?_table (suffix : String) (type least greatest : Document) :
    ofDocument? (.table [("suffix", .text suffix), ("type", type), ("valid_min", least),
      ("valid_max", greatest)]) = do
        let dataType ← DataType.ofDocument? type
        let least ← least.int64?
        let greatest ← greatest.int64?
        return ⟨suffix, dataType, least, greatest⟩ :=
  rfl

theorem ofDocument?_echo (descriptor : Descriptor) :
    ofDocument? descriptor.toJson.echo = some descriptor := by
  show ofDocument? (.table [("suffix", .text descriptor.suffix),
    ("type", .text descriptor.dataType.name), ("valid_min", (integer descriptor.least.toInt).echo),
    ("valid_max", (integer descriptor.greatest.toInt).echo)]) = _
  rw [echo_int64, echo_int64, ofDocument?_table, DataType.ofDocument?_name]
  simp only [Document.int64?, fitInt64?_toInt]
  rfl

theorem depth_toJson (descriptor : Descriptor) : descriptor.toJson.depth = 1 :=
  rfl

end Descriptor

namespace Catalog

/-- The descriptors that a JSON text lists. -/
def descriptorsOfText? (s : String) : Option (List Descriptor) :=
  (Document.ofJsonText? s).bind descriptorsOfDocument?

theorem descriptorsOfDocument?_echo (catalog : Catalog) :
    descriptorsOfDocument? catalog.toJson.echo = some catalog.descriptors := by
  rw [toJson, echo]
  show (echoItems (catalog.descriptors.map Descriptor.toJson)).mapM Descriptor.ofDocument? = _
  rw [mapM_echoItems fun descriptor _ => descriptor.ofDocument?_echo, List.map_id']

theorem depth_toJson (catalog : Catalog) : catalog.toJson.depth ≤ depthLimit := by
  have items : depthOfItems (catalog.descriptors.map Descriptor.toJson) ≤ 1 := by
    refine depthOfItems_le_iff.mpr ?_
    intro item mem
    obtain ⟨descriptor, _, rfl⟩ := List.mem_map.mp mem
    exact Nat.le_of_eq descriptor.depth_toJson
  exact Nat.le_trans (Nat.succ_le_succ items) (by decide)

theorem descriptorsOfText?_of_echo {catalog : Catalog} {s : String}
    (read : Document.ofJsonText? s = some catalog.toJson.echo) :
    descriptorsOfText? s = some catalog.descriptors := by
  rw [descriptorsOfText?, read, Option.bind_some, descriptorsOfDocument?_echo]

/-- The text over several lines is read back, also with blanks after it. -/
theorem descriptorsOfText?_prettyText (catalog : Catalog) (blanks : List Char)
    (blank : ∀ c ∈ blanks, isSpace c = true) :
    descriptorsOfText? (catalog.toJson.prettyText ++ String.ofList blanks) =
      some catalog.descriptors :=
  descriptorsOfText?_of_echo (Document.ofJsonText?_prettyText catalog.depth_toJson blanks blank)

/-- **A catalog survives being written and read.** Its text on one line, the one over several lines
and what the program prints list the same descriptors in the same order, with suffixes of any
characters and bounds of 64 bits. They make a catalog again, and it classifies every key, finds
every attribute and reports every ambiguous pair as the catalog that was written. -/
theorem reimport_toJson (catalog : Catalog) :
    descriptorsOfText? catalog.toJson.text = some catalog.descriptors ∧
    descriptorsOfText? catalog.toJson.prettyText = some catalog.descriptors ∧
    (∀ model config, Command.installCatalog config = .ok catalog →
      ∃ printed, (Command.catalog model true).output config = .ok printed ∧
        descriptorsOfText? printed = some catalog.descriptors) ∧
    ∃ again, ofDescriptors catalog.descriptors = .ok again ∧
      (∀ key, again.lookup? key = catalog.lookup? key) ∧
      (∀ suffix, again.get? suffix = catalog.get? suffix) ∧
      (∀ dataType suffix, again.find? dataType suffix = catalog.find? dataType suffix) ∧
      again.ambiguousSuffixes = catalog.ambiguousSuffixes := by
  refine ⟨?_, ?_, ?_, ?_⟩
  · exact descriptorsOfText?_of_echo (Document.ofJsonText?_text catalog.depth_toJson)
  · have read := catalog.descriptorsOfText?_prettyText [] (List.forall_mem_nil _)
    rwa [String.ofList_nil, String.append_empty] at read
  · intro model config installed
    refine ⟨Command.line catalog.toJson.prettyText, ?_, ?_⟩
    · rw [Command.output, installed]
      rfl
    · exact catalog.descriptorsOfText?_prettyText ['\n'] (List.forall_mem_singleton.mpr rfl)
  · have again : ofDescriptors catalog.descriptors = .ok catalog := ofDescriptors_eq_ok_iff.mpr rfl
    exact ⟨catalog, again, fun _ => rfl, fun _ => rfl, fun _ _ => rfl, rfl⟩

end Catalog

end DeviceModel
