import SourceTrace.Document.Decode
import SourceTrace.Document.Encode
import SourceTrace.Proofs.Document.Lookup
import SourceTrace.Proofs.Json.RoundTrip
import SourceTrace.Proofs.Mappings.RoundTrip

/-!
# Documents are read back

The JSON text of a document is read back as a document with the same file, sources, names and
contents, and with the same segments except for what the mappings do not say. All lookups agree, and
the text of the document that was read is the text that was written.
-/
namespace SourceTrace

namespace Json

open Text.Utf8 (encode)

/-- The number of the version is read back. -/
theorem reads_version :
    Reads (toString Document.version).toList (.number ⟨false, [3], none, none⟩) := by
  have bytes : encode (toString Document.version).toList = [0x33] := by decide
  refine ⟨⟨0x33, [], bytes, by decide, by decide⟩, ?_⟩
  intro fuel rest enough ends
  cases fuel with
  | zero => omega
  | succ fuel =>
    rw [bytes, List.singleton_append, readTree?, skipSpace_cons (by decide)]
    obtain ⟨b, more, rfl, rfl | rfl | rfl⟩ := ends
    · rfl
    · rfl
    · rfl

/-- Trees of texts and nulls, for texts that may be missing. -/
theorem exists_reads_quoteOrNull (text : Option String) :
    ∃ tree, Reads (quoteOrNull text) tree ∧
      Reader.nullable Reader.string tree = some text := by
  cases text with
  | none => exact ⟨.null, reads_null, rfl⟩
  | some text =>
    obtain ⟨pieces, read, same⟩ := reads_quote text
    exact ⟨.text pieces, read, by simp [Reader.nullable, Reader.string, same]⟩

theorem exists_reads_all {α : Type} {write : α → List Char} {holds : α → Tree → Prop}
    (each : ∀ value, ∃ tree, Reads (write value) tree ∧ holds value tree) (values : List α) :
    ∃ trees, Reads (array (values.map write)) (.array trees) ∧ List.Forall₂ holds values trees := by
  obtain ⟨trees, reads, all⟩ : ∃ trees, List.Forall₂ Reads (values.map write) trees ∧
      List.Forall₂ holds values trees := by
    induction values with
    | nil => exact ⟨[], .nil, .nil⟩
    | cons value rest ih =>
      obtain ⟨tree, reads, here⟩ := each value
      obtain ⟨trees, others, all⟩ := ih
      exact ⟨tree :: trees, .cons reads others, .cons here all⟩
  exact ⟨trees, reads_array reads, all⟩

theorem list_eq_some {α : Type} {reader : Reader α} {values : List α} {trees : List Tree}
    (read : List.Forall₂ (fun value tree => reader tree = some value) values trees) :
    Reader.list reader (.array trees) = some values := by
  have all : trees.mapM reader = some values := by
    induction read with
    | nil => rfl
    | cons head _ ih => simp [List.mapM_cons, head, ih]
  exact all

/-- A text may stand where anything may. -/
theorem anything_text {pieces : List Piece} {text : String} (same : text? pieces = some text)
    {outer : Nat} (shallow : outer ≤ 127) :
    Reader.anything outer (.text pieces) = some (.text pieces) := by
  simp [Reader.anything, Tree.isValue, Tree.depth, same, shallow]

end Json

/-- What is read back of a name. -/
structure ReadName (name : String) (tree : Json.Tree) : Prop where
  anything_eq : Json.Reader.anything 2 tree = some tree
  nameText_eq : nameText tree = name

theorem exists_readName (name : String) :
    ∃ tree, Json.Reads (Json.quote name) tree ∧ ReadName name tree := by
  obtain ⟨pieces, read, same⟩ := Json.reads_quote name
  exact ⟨.text pieces, read, Json.anything_text same (by decide), by simp [nameText, same]⟩

theorem readNames {names : List String} {trees : List Json.Tree}
    (read : List.Forall₂ ReadName names trees) :
    Json.Reader.list (Json.Reader.anything 2) (.array trees) = some trees ∧
      trees.map nameText = names := by
  constructor
  · refine Json.list_eq_some ?_
    induction read with
    | nil => exact .nil
    | cons head _ ih => exact .cons head.anything_eq ih
  · induction read with
    | nil => rfl
    | cons head _ ih => rw [List.map_cons, head.nameText_eq, ih]

/-- The fields of the record of a document, when the optional ones may be missing. -/
theorem putAll?_record (version sources names mappings : Json.Tree)
    (file contents : Option Json.Tree) :
    Json.Fields.putAll? RawMap.keys (List.replicate RawMap.keys.length none)
      ([("version", version)] ++ file.toList.map (fun tree => ("file", tree)) ++
        [("sources", sources)] ++ contents.toList.map (fun tree => ("sourcesContent", tree)) ++
        [("names", names), ("mappings", mappings)]) =
      some [some version, file, some sources, none, contents, some names, some mappings] := by
  cases file <;> cases contents <;> rfl

/-- A written member and the key and tree that it is read as. -/
def ReadField (member : String × List Char) (value : String × Json.Tree) : Prop :=
  member.1 = value.1 ∧ Json.Reads member.2 value.2

/-- The reader of lists of texts that may be missing. -/
abbrev readTexts : Json.Reader (List (Option String)) :=
  Json.Reader.list (Json.Reader.nullable Json.Reader.string)

theorem exists_readTexts (texts : List (Option String)) :
    ∃ tree, Json.Reads (Json.array (texts.map Json.quoteOrNull)) tree ∧
      Json.optional readTexts (some tree) = some (some texts) := by
  obtain ⟨trees, read, all⟩ := Json.exists_reads_all Json.exists_reads_quoteOrNull texts
  refine ⟨.array trees, read, ?_⟩
  have listed : readTexts (.array trees) = some texts := Json.list_eq_some all
  simp [Json.optional, Json.withDefault, Json.Reader.nullable, listed]

/-- The name of the generated file, if there is one. -/
theorem exists_readFile (file : Option String) :
    ∃ tree : Option Json.Tree,
      List.Forall₂ ReadField (file.toList.map fun file => ("file", Json.quote file))
        (tree.toList.map fun tree => ("file", tree)) ∧
      Json.optional (Json.Reader.anything 1) tree = some tree ∧ tree.map fileText = file := by
  cases file with
  | none => exact ⟨none, .nil, rfl, rfl⟩
  | some file =>
    obtain ⟨pieces, read, same⟩ := Json.reads_quote file
    refine ⟨some (.text pieces), .cons ⟨rfl, read⟩ .nil, ?_, ?_⟩
    · simp [Json.optional, Json.withDefault, Json.Reader.nullable,
        Json.anything_text same (show 1 ≤ 127 by decide)]
    · simp [fileText, same]

/-- The contents of the sources, if the document carries any. -/
theorem exists_readContents (doc : Document) :
    ∃ tree : Option Json.Tree,
      List.Forall₂ ReadField
        (if doc.contents.isSome then
          [("sourcesContent", Json.array (doc.sourceContents.map Json.quoteOrNull))]
        else []) (tree.toList.map fun tree => ("sourcesContent", tree)) ∧
      Json.optional readTexts tree =
        some (if doc.contents.isSome then some doc.sourceContents else none) := by
  cases doc.contents.isSome with
  | false => exact ⟨none, .nil, rfl⟩
  | true =>
    obtain ⟨tree, read, same⟩ := exists_readTexts doc.sourceContents
    exact ⟨some tree, .cons ⟨rfl, read⟩ .nil, same⟩

/-- The record that the JSON text of a document is read as. -/
structure ReadRecord (doc : Document) (raw : RawMap) : Prop where
  version : raw.version = some Document.version
  file : raw.file.map fileText = doc.file
  sources : raw.sources = some (doc.sources.map some)
  sourceRoot : raw.sourceRoot = none
  contents : raw.contents = if doc.contents.isSome then some doc.sourceContents else none
  names : (raw.names.getD []).map nameText = doc.names
  mappings : raw.mappings = some (String.ofList (Mappings.encode doc))

theorem encodeBytes_eq (doc : Document) :
    doc.encodeBytes = Text.Utf8.encode (Json.object doc.members) := by
  rw [Document.encodeBytes, Text.Utf8.bytes, Document.encode, String.toList_ofList]

theorem exists_readRecord (doc : Document) :
    ∃ raw, (Json.parse? doc.encodeBytes).bind RawMap.read? = some raw ∧ ReadRecord doc raw := by
  obtain ⟨file, fileRead, fileField, fileSame⟩ := exists_readFile doc.file
  obtain ⟨contents, contentsRead, contentsField⟩ := exists_readContents doc
  obtain ⟨sources, sourcesRead, sourcesField⟩ := exists_readTexts (doc.sources.map some)
  obtain ⟨names, namesRead, namesSame⟩ := Json.exists_reads_all exists_readName doc.names
  obtain ⟨namesField, namesText⟩ := readNames namesSame
  obtain ⟨pieces, mappingsRead, mappingsText⟩ :=
    Json.reads_quote (String.ofList (Mappings.encode doc))
  have read : List.Forall₂ ReadField doc.members
      ([("version", .number ⟨false, [3], none, none⟩)] ++
        file.toList.map (fun tree => ("file", tree)) ++
        [("sources", sources)] ++ contents.toList.map (fun tree => ("sourcesContent", tree)) ++
        [("names", .array names), ("mappings", .text pieces)]) := by
    refine List.rel_append (List.rel_append (List.rel_append (List.rel_append ?_ fileRead) ?_)
      contentsRead) ?_
    · exact .cons ⟨rfl, Json.reads_version⟩ .nil
    · rw [List.map_map] at sourcesRead
      exact .cons ⟨rfl, sourcesRead⟩ .nil
    · exact .cons ⟨rfl, namesRead⟩ (.cons ⟨rfl, mappingsRead⟩ .nil)
  have some : doc.members ≠ [] := by simp [Document.members]
  obtain ⟨trees, parsed, fields⟩ := Json.parse?_record read some
  have record := fields RawMap.keys (List.replicate RawMap.keys.length none)
  rw [putAll?_record] at record
  have versionField : Json.optional Json.Reader.natural32
      (.some (.number ⟨false, [3], none, none⟩)) = .some (.some 3) := by decide
  have namesRecord : Json.optional (Json.Reader.list (Json.Reader.anything 2))
      (.some (.array names)) = .some (.some names) := by
    simp [Json.optional, Json.withDefault, Json.Reader.nullable, namesField]
  have mappingsRecord : Json.optional Json.Reader.string (.some (.text pieces)) =
      .some (.some (String.ofList (Mappings.encode doc))) := by
    simp [Json.optional, Json.withDefault, Json.Reader.nullable, Json.Reader.string, mappingsText]
  have rootRecord : Json.optional Json.Reader.string none = .some none := rfl
  refine ⟨⟨.some 3, file, .some (doc.sources.map .some), none,
    if doc.contents.isSome then .some doc.sourceContents else none, .some names,
    .some (String.ofList (Mappings.encode doc))⟩, ?_,
    ⟨rfl, fileSame, rfl, rfl, rfl, namesText, rfl⟩⟩
  rw [encodeBytes_eq, parsed, Option.bind_some, RawMap.read?]
  simp only [Json.Fields.of?, record, Option.bind_eq_bind, Option.bind_some, versionField,
    fileField, sourcesField, rootRecord, contentsField, namesRecord, mappingsRecord]
  rfl

theorem withoutGuard_encodeBytes (doc : Document) :
    withoutGuard doc.encodeBytes = .ok doc.encodeBytes := by
  rw [encodeBytes_eq, Json.encode_object]
  rfl

theorem length_sourceContents (doc : Document) :
    doc.sourceContents.length = doc.sources.length := by
  simp [Document.sourceContents]

namespace Mappings

@[simp] theorem reread_line (names : Nat) (before : List Segment) (segment : Segment) :
    (reread names before segment).line = segment.line := by
  unfold reread
  split <;> rfl

@[simp] theorem reread_column (names : Nat) (before : List Segment) (segment : Segment) :
    (reread names before segment).column = segment.column := by
  unfold reread
  split <;> rfl

/-- What is read back of a segment leads to the same source position. -/
theorem sourcePosition?_reread {doc read : Document} (sources : read.sources = doc.sources)
    (names : read.names = doc.names) (before : List Segment) (segment : Segment) :
    read.sourcePosition? (reread doc.names.length before segment) =
      doc.sourcePosition? segment := by
  cases mapped : segment.source with
  | none => simp [Document.sourcePosition?, Document.segmentSource?, reread, mapped]
  | some id =>
    have named : read.segmentName? (reread doc.names.length before segment) =
        doc.segmentName? segment := by
      cases name : segment.name with
      | none => simp [Document.segmentName?, reread, mapped, name]
      | some number =>
        by_cases known : number < doc.names.length
        · simp [Document.segmentName?, reread, mapped, name, known, Document.name?, names,
            Option.filter]
        · simp [Document.segmentName?, reread, mapped, name, known, Document.name?, Option.filter]
    rw [Document.sourcePosition?, named, Document.sourcePosition?]
    simp [Document.segmentSource?, Document.source?, reread, mapped, sources]

end Mappings

theorem forall₂_mapIdx {α β : Type} {related : α → β → Prop} (list : List α)
    {change : Nat → α → β} (each : ∀ index a, related a (change index a)) :
    List.Forall₂ related list (list.mapIdx change) := by
  induction list generalizing change with
  | nil => exact .nil
  | cons a rest ih =>
    rw [List.mapIdx_cons]
    exact .cons (each 0 a) (ih fun index => each (index + 1))

namespace Document

/-- The segments of a document as they are read back. -/
def rereadSegments (doc : Document) : List Segment :=
  doc.segments.mapIdx fun index segment =>
    Mappings.reread doc.names.length (doc.segments.take index) segment

/-- A document as it is read back. -/
def reloaded (doc : Document) : Document :=
  ofParts doc.file doc.rereadSegments doc.names doc.sources
    (if doc.contents.isSome then some doc.sourceContents else none)

/-- The document of a record that was read back. -/
theorem ofRaw_readRecord {doc : Document} {raw : RawMap} (read : ReadRecord doc raw)
    (mappings : Mappings.decode (Mappings.encode doc) doc.sources.length doc.names.length =
      .ok doc.rereadSegments) : ofRaw raw = .ok doc.reloaded := by
  have sources : (raw.sources.getD []).map (·.getD "") = doc.sources := by
    rw [read.sources, Option.getD_some, List.map_map]
    simp
  unfold ofRaw reloaded
  simp only [read.version, read.names, read.mappings, sources, read.file, read.contents,
    read.sourceRoot, rootedSources, Option.getD_some, String.toList_ofList, mappings]
  cases doc.contents.isSome with
  | false => rfl
  | true => simp [length_sourceContents]

theorem decode_encodeBytes_eq {doc : Document} (order : doc.InOrder)
    (fits : ∀ segment ∈ doc.segments, segment.Fits)
    (known : ∀ segment ∈ doc.segments, ∀ id ∈ segment.source, id < doc.sources.length) :
    decode doc.encodeBytes = .ok doc.reloaded := by
  obtain ⟨raw, parsed, record⟩ := exists_readRecord doc
  have mappings := Mappings.decode_encode order.lines_sorted fits known
  rw [decode, withoutGuard_encodeBytes]
  simp only [Except.mapError, Mappings.ok_bind, parsed]
  exact ofRaw_readRecord record mappings

/-- The segments that are read back stand in the order of the written ones. -/
theorem InOrder.reloaded_segments {doc : Document} (order : doc.InOrder) :
    doc.reloaded.segments = doc.rereadSegments := by
  refine Sorting.sort_eq_self doc.rereadSegments (Segment.sorted_of_places ?_ order.sorted)
  exact forall₂_mapIdx doc.segments fun index segment => ⟨by simp, by simp⟩

theorem reloaded_inOrder (doc : Document) : doc.reloaded.InOrder := ofParts_inOrder _ _ _ _ _

theorem InOrder.lookup?_reloaded {doc : Document} (order : doc.InOrder) (line column : Nat) :
    doc.reloaded.lookup? line column = doc.lookup? line column := by
  refine order.lookup?_eq doc.reloaded_inOrder ?_ line column
  rw [order.reloaded_segments]
  exact forall₂_mapIdx doc.segments fun index segment =>
    ⟨by simp, by simp, Mappings.sourcePosition?_reread rfl rfl _ segment⟩

theorem sourceContents_reloaded (doc : Document) :
    doc.reloaded.sourceContents = doc.sourceContents := by
  unfold sourceContents
  refine List.map_congr_left ?_
  intro id member
  have listed : id < doc.sources.length := List.mem_range.mp member
  cases carried : doc.contents with
  | none => simp [content?, reloaded, ofParts, carried]
  | some contents =>
    simp [content?, reloaded, ofParts, carried, sourceContents, listed]

theorem contents_reloaded (doc : Document) :
    doc.reloaded.contents.isSome = doc.contents.isSome := by
  unfold reloaded ofParts
  cases doc.contents.isSome <;> rfl

theorem InOrder.encode_reloaded {doc : Document} (order : doc.InOrder) :
    doc.reloaded.encode = doc.encode := by
  have mappings : Mappings.encode doc.reloaded = Mappings.encode doc := by
    rw [Mappings.encode, order.reloaded_segments]
    refine Mappings.encodeFrom_congr ?_ _ _ _
    exact forall₂_mapIdx doc.segments fun index segment =>
      ⟨by simp, fun cursor => Mappings.differences_reread _ cursor _ segment⟩
  rw [encode, encode, members, members, mappings, contents_reloaded, sourceContents_reloaded]
  rfl

end Document

/-- The JSON text of a document is read back as a document with the same file, sources, names and
contents. Its segments are the same, except that one that maps nothing loses its name and gets the
source position of the last segment before it that maps something, and that names which the document
does not have are gone. All lookups agree, and so does the text. -/
theorem decode_encodeBytes {doc : Document} (order : doc.InOrder)
    (fits : ∀ segment ∈ doc.segments, segment.Fits)
    (known : ∀ segment ∈ doc.segments, ∀ id ∈ segment.source, id < doc.sources.length) :
    ∃ read, Document.decode doc.encodeBytes = .ok read ∧
      read.file = doc.file ∧ read.sources = doc.sources ∧ read.names = doc.names ∧
      read.contents.isSome = doc.contents.isSome ∧ read.sourceContents = doc.sourceContents ∧
      read.baseDir = none ∧
      read.segments = (doc.segments.mapIdx fun index segment =>
        Mappings.reread doc.names.length (doc.segments.take index) segment) ∧
      (∀ line column, read.lookup? line column = doc.lookup? line column) ∧
      read.encode = doc.encode := by
  exact ⟨doc.reloaded, Document.decode_encodeBytes_eq order fits known, rfl, rfl, rfl,
    doc.contents_reloaded, doc.sourceContents_reloaded, rfl, order.reloaded_segments,
    order.lookup?_reloaded, order.encode_reloaded⟩

/-- A document with an unmapped segment that carries a name and a source position, and with a name
that it does not list. -/
def loose : Document :=
  Document.ofParts (some "out.js")
    [⟨0, 0, 1, 2, some 0, some 5⟩, ⟨0, 4, 9, 9, none, some 0⟩, ⟨2, 1, 0, 0, some 1, some 0⟩]
    ["f"] ["a.ts", "b.ts"] (some [some "x", none])

theorem decode_loose : ∃ read, Document.decode loose.encodeBytes = .ok read ∧
    read.segments =
      [⟨0, 0, 1, 2, some 0, none⟩, ⟨0, 4, 1, 2, none, none⟩, ⟨2, 1, 0, 0, some 1, some 0⟩] ∧
    read.encode = loose.encode := by
  have fits : ∀ segment ∈ loose.segments, segment.Fits := by
    intro segment member
    have listed : segment ∈ [⟨0, 0, 1, 2, some 0, some 5⟩, ⟨0, 4, 9, 9, none, some 0⟩,
        ⟨2, 1, 0, 0, some 1, some 0⟩] := member
    simp only [List.mem_cons, List.not_mem_nil, or_false] at listed
    rcases listed with rfl | rfl | rfl
    · exact ⟨by decide, by decide, by decide, by decide, by decide, by decide⟩
    · exact ⟨by decide, by decide, by decide, by decide, by decide, by decide⟩
    · exact ⟨by decide, by decide, by decide, by decide, by decide, by decide⟩
  obtain ⟨read, decoded, _, _, _, _, _, _, segments, _, written⟩ :=
    decode_encodeBytes (Document.ofParts_inOrder _ _ _ _ _) fits (by decide)
  exact ⟨read, decoded, segments.trans (by decide), written⟩

end SourceTrace
