import Subgraph.Proofs.Config.Layers
import Subgraph.Proofs.FileTree
import Subgraph.Proofs.Yaml.RoundTrip

namespace Subgraph

namespace Utf8

theorem decodeFrom_ascii {c : Char} (ascii : c.toNat < 0x80) (position : Nat) (rest : List UInt8) :
    decodeFrom position (String.utf8EncodeChar c ++ rest) = (decodeFrom (position + 1) rest).map (c :: ·) := by
  have byte : String.utf8EncodeChar c = [UInt8.ofNat c.toNat] := if_pos (Nat.le_of_lt_succ ascii)
  have value : (UInt8.ofNat c.toNat).toNat = c.toNat := UInt8.toNat_ofNat_of_lt' (Nat.lt_trans ascii (by decide))
  have lead : lead? (UInt8.ofNat c.toNat) = some ⟨0, c.toNat, 0x80, 0xBF⟩ := by
    rw [lead?, value]
    exact if_pos ascii
  rw [byte, List.singleton_append, decodeFrom, lead]
  dsimp only [readRest?]
  rw [Char.ofNat_toNat]

theorem decodeFrom_encode {text : List Char} (ascii : ∀ c ∈ text, c.toNat < 0x80) (position : Nat) :
    decodeFrom position (text.flatMap String.utf8EncodeChar) = .ok text := by
  induction text generalizing position with
  | nil => rw [List.flatMap_nil, decodeFrom]
  | cons c text ih =>
    obtain ⟨first, later⟩ := List.forall_mem_cons.mp ascii
    rw [List.flatMap_cons, decodeFrom_ascii first, ih later]
    rfl

theorem decode_encode {text : String} (ascii : ∀ c ∈ text.toList, c.toNat < 0x80) :
    decode (encode text) = .ok text := by
  rw [decode, encode, decodeFrom_encode ascii]
  exact congrArg Except.ok (String.ofList_toList (s := text))

end Utf8

theorem Text.unifyLineEnds_eq_self {text : List Char} (feeds : '\r' ∉ text) : unifyLineEnds text = text := by
  induction text with
  | nil => rfl
  | cons c text ih =>
    have other : c ≠ '\r' := (List.ne_of_not_mem_cons feeds).symm
    rw [unifyLineEnds, if_neg other, ih (List.not_mem_of_not_mem_cons feeds)]
    rintro _ rfl _
    exact other rfl

namespace FileTree

variable {tree after : FileTree} {path : Path}

/-- A file can be written at a path: it leads into a directory, and not to one. -/
def IsWritable (tree : FileTree) (path : Path) : Prop :=
  ∃ place, tree.place? path = .ok place ∧ tree.node? place ≠ some .directory ∧
    tree.node? (Place.parent place) = some .directory

theorem checkParent_eq_ok {place : Place} :
    tree.checkParent place = .ok () ↔ tree.node? (Place.parent place) = some .directory := by
  rw [checkParent]
  cases tree.node? (Place.parent place) with
  | none => exact iff_of_false nofun nofun
  | some node =>
    cases node with
    | file content => exact iff_of_false nofun nofun
    | directory => exact iff_of_true rfl rfl

/-- What a file is to hold does not decide whether it can be written. -/
theorem write_isOk_iff {content : List UInt8} :
    (∃ after, tree.write path content = .ok after) ↔ tree.IsWritable path := by
  constructor
  · rintro ⟨after, written⟩
    rw [write, reportAt_eq_ok] at written
    cases leads : tree.place? path with
    | error obstacle => simp [leads, bind, Except.bind] at written
    | ok place =>
      simp only [leads, bind, Except.bind] at written
      split at written
      · cases written
      · rename_i other
        split at written
        · cases written
        · rename_i inside
          exact ⟨place, leads, other, checkParent_eq_ok.mp inside⟩
  · rintro ⟨place, leads, other, inside⟩
    have parent := checkParent_eq_ok.mpr inside
    refine ⟨tree.put place (.file content), reportAt_eq_ok.mpr ?_⟩
    simp only [leads, bind, Except.bind, parent]
    rfl

theorem read_of_write {content : List UInt8} (written : tree.write path content = .ok after) :
    after.read path = .ok content := by
  obtain ⟨place, leads, other, rfl⟩ := write_eq_ok written
  have inner := isOuter_of_node? other
  have keeps : KeepsDirectories tree (tree.put place (.file content)) := by
    intro home directory
    have elsewhere : home ≠ place := by
      rintro rfl
      exact other directory
    rw [node?_put inner, if_neg elsewhere, directory]
  have found : (tree.put place (.file content)).nodeAt path = .ok (.file content) := by
    rw [nodeAt, place?_of_keeps keeps leads]
    simp only [bind, Except.bind, node?_put inner, if_true]
    rfl
  rw [read, found]
  rfl

/-- The text of a file that holds the encoding of a plain text. -/
theorem readText_of_read {text : String} (held : tree.read path = .ok (Utf8.encode text))
    (plain : ∀ c ∈ text.toList, c.toNat < 0x80 ∧ c ≠ '\r') : tree.readText path = .ok text := by
  have feeds : '\r' ∉ text.toList := fun inside => (plain '\r' inside).2 rfl
  have unified : Text.onChars Text.unifyLineEnds text = text := by
    rw [Text.onChars, Text.unifyLineEnds_eq_self feeds, String.ofList_toList]
  rw [readText, held]
  change (do let text ← (Utf8.decode (Utf8.encode text)).mapError TextFault.encoding
             return Text.onChars Text.unifyLineEnds text) = _
  rw [Utf8.decode_encode fun c inside => (plain c inside).1]
  exact congrArg Except.ok unified

end FileTree

namespace Config

/-- The path of a template is a text, if there is one. -/
def IsTextual (config : Config) : Prop :=
  config.templatePath = none ∨ ∃ path, config.templatePath = some (.text path)

theorem lined_toEntries {config : Config} (textual : config.IsTextual) : Yaml.Lined config.toEntries := by
  have names : config.toEntries.map (·.1) = keys.map Yaml.Scalar.text := rfl
  have plain : (keys.all fun key => Yaml.Writer.style key.toList == .plain) = true := by decide +kernel
  refine ⟨?_, fun entry member => ?_, fun entry member => ?_⟩
  · rw [names]
    decide
  · have listed : entry.1 ∈ config.toEntries.map (·.1) := List.mem_map_of_mem member
    rw [names] at listed
    obtain ⟨key, known, same⟩ := List.mem_map.mp listed
    exact ⟨key, same.symm, eq_of_beq (List.all_eq_true.mp plain key known)⟩
  · simp only [toEntries, List.mem_cons, List.not_mem_nil, or_false] at member
    rcases member with rfl | rfl | rfl
    · rcases textual with none | ⟨path, text⟩
      · exact .inl (by rw [none]; rfl)
      · exact .inr ⟨path, by rw [text]; rfl⟩
    · exact .inr ⟨_, rfl⟩
    · exact .inr ⟨_, rfl⟩

theorem exists_of_readText {tree : FileTree} {path : Path} {text : String} (read : tree.readText path = .ok text) :
    tree.exists? path = true := by
  unfold FileTree.readText FileTree.read at read
  unfold FileTree.exists?
  cases found : tree.nodeAt path with
  | error obstacle =>
    rw [found] at read
    cases read
  | ok node => rfl

theorem load_save {config : Config} (textual : config.IsTextual)
    (settled : ofEntries config.toEntries = .ok config) {tree after : FileTree} {path : String}
    (saved : config.save tree path = .ok after) : load after path = .ok (some config) := by
  have lined := lined_toEntries textual
  have read : Yaml.read config.text = .ok (.map config.toEntries) := Yaml.read_write lined (by simp [toEntries])
  have written : ∀ c ∈ config.text.toList, Yaml.IsWritten c := by
    rw [text, Yaml.toList_write (by simp [toEntries])]
    exact lined.written
  have plain : ∀ c ∈ config.text.toList, c.toNat < 0x80 ∧ c ≠ '\r' := by
    intro c inside
    have code := (written c inside).code
    refine ⟨by omega, ?_⟩
    rintro rfl
    exact absurd code (by decide)
  have text := FileTree.readText_of_read (FileTree.read_of_write saved) plain
  have there : Host.exists? after (Path.ofString path) = .ok true := congrArg Except.ok (exists_of_readText text)
  have held : Host.readText after (Path.ofString path) = .ok (.ok config.text) := congrArg Except.ok text
  have yaml : Host.readYaml after config.text = .ok (.ok (.map config.toEntries)) := by
    change Except.ok ((Yaml.read config.text).mapError (·.message)) = _
    rw [read]
    rfl
  simp only [load, there, held, parse, yaml, settled]
  rfl

/-- The entries of a configuration settle into it again. Saved wherever a file can be written, it is loaded
as it was, whatever texts it has. -/
theorem saved_loads_back {entries : Yaml.Entries} {config : Config} (made : ofEntries entries = .ok config) :
    ofEntries config.toEntries = .ok config ∧
      (config.IsTextual → ∀ tree path,
        ((∃ after, config.save tree path = .ok after) ↔ tree.IsWritable (Path.ofString path)) ∧
          ∀ after, config.save tree path = .ok after → load after path = .ok (some config)) := by
  have settled : ofEntries config.toEntries = .ok config := (ofEntries_toEntries_update made []).trans made
  exact ⟨settled, fun textual tree path =>
    ⟨FileTree.write_isOk_iff, fun after saved => load_save textual settled saved⟩⟩

theorem saved_loads_back_marked : ∃ config after,
    ofEntries [(.text "output_dir", .text "- no: 'ü'\n # \"~\" "), (.text "template_path", .text "null")] =
        .ok config ∧
      config.outputDir = "- no: 'ü'\n # \"~\" " ∧ config.templatePath = some (.text "null") ∧
      config.save {} "graphql.yaml" = .ok after ∧ load after "graphql.yaml" = .ok (some config) := by
  have made :
      ofEntries [(.text "output_dir", .text "- no: 'ü'\n # \"~\" "), (.text "template_path", .text "null")] =
      .ok { templatePath := some (.text "null"), outputDir := "- no: 'ü'\n # \"~\" " } :=
    ofEntries_eq_ok_iff.mpr ⟨by decide +kernel, rfl, by decide +kernel, rfl⟩
  have writable : FileTree.IsWritable {} (Path.ofString "graphql.yaml") :=
    ⟨["graphql.yaml"], by decide +kernel, by decide, by decide⟩
  obtain ⟨saves, loads⟩ := (saved_loads_back made).2 (.inr ⟨"null", rfl⟩) {} "graphql.yaml"
  obtain ⟨after, saved⟩ := saves.mpr writable
  exact ⟨_, after, made, rfl, rfl, saved, loads after saved⟩

end Config

end Subgraph
