import SourceTrace.Proofs.Document.RoundTrip
import SourceTrace.Proofs.Document.WellFormed
import SourceTrace.Proofs.FileTree.Writing
import SourceTrace.Proofs.Reference.Carried

/-!
# Artifacts keep their code and their map

An artifact that is written to another place comes back with the same code and with its document
seen from there, however the document is attached: in a file next to it, or in the reference with
either encoding.
-/
namespace SourceTrace

/-- Segments that agree in everything but the source position of one that maps nothing. -/
structure Segment.Agrees (left right : Segment) : Prop where
  line : left.line = right.line
  column : left.column = right.column
  source : left.source = right.source
  name : left.name = right.name
  sourceLine : left.source ≠ none → left.sourceLine = right.sourceLine
  sourceColumn : left.source ≠ none → left.sourceColumn = right.sourceColumn

/-- A segment whose source and name have 32-bit numbers. -/
structure Segment.Numbered (segment : Segment) : Prop where
  source : ∀ id ∈ segment.source, id < Mappings.limit
  name : ∀ id ∈ segment.name, id < Mappings.limit

theorem Segment.InBounds.fits {sources names : Nat} {segment : Segment}
    (inBounds : segment.InBounds sources names) (numbered : segment.Numbered) : segment.Fits :=
  ⟨inBounds.line, inBounds.column, inBounds.sourceLine, inBounds.sourceColumn, numbered.source,
    numbered.name⟩

theorem Mappings.reread_agrees {sources names : Nat} (before : List Segment) {segment : Segment}
    (refers : segment.Refers sources names) : (reread names before segment).Agrees segment := by
  cases mapped : segment.source with
  | none =>
    have unnamed := refers.unnamed mapped
    constructor <;> simp [reread, mapped, unnamed]
  | some id =>
    have named : segment.name.filter (· < names) = segment.name := by
      cases name : segment.name with
      | none => rfl
      | some number => simp [Option.filter, refers.name number name]
    constructor <;> simp [reread, mapped, named]

namespace Document

/-- Documents that agree in everything but the directory and the source positions of segments that
map nothing. -/
structure Agrees (left right : Document) : Prop where
  file : left.file = right.file
  sources : left.sources = right.sources
  names : left.names = right.names
  contents : left.contents = right.contents
  segments : List.Forall₂ Segment.Agrees left.segments right.segments

theorem sourceContents_eq {doc : Document} {contents : List (Option String)}
    (carried : doc.contents = some contents) (all : contents.length = doc.sources.length) :
    doc.sourceContents = contents := by
  refine List.ext_getElem? fun id => ?_
  by_cases listed : id < doc.sources.length
  · have inside : id < contents.length := by omega
    simp [sourceContents, content?, carried, listed, inside]
  · simp [sourceContents, listed, all]

/-- Nothing that was decoded is lost when it is written and read back. -/
theorem Decoded.reloaded_agrees {doc : Document} (decoded : doc.Decoded) :
    doc.reloaded.Agrees doc := by
  refine ⟨rfl, rfl, rfl, ?_, ?_⟩
  · cases carried : doc.contents with
    | none => simp [reloaded, ofParts, carried]
    | some contents =>
      have all := decoded.contents_length contents carried
      simp [reloaded, ofParts, carried, sourceContents_eq carried all]
  · rw [decoded.inOrder.reloaded_segments]
    refine List.forall₂_iff_get.mpr ⟨by simp [rereadSegments], ?_⟩
    intro index inside listed
    simp only [rereadSegments, List.get_eq_getElem, List.getElem_mapIdx]
    exact Mappings.reread_agrees _
      (decoded.inBounds _ (List.getElem_mem listed)).toRefers

/-- A decoded document is read back from its bytes. -/
theorem Decoded.read_back {doc : Document} (decoded : doc.Decoded)
    (numbered : ∀ segment ∈ doc.segments, segment.Numbered) :
    decode doc.encodeBytes = .ok doc.reloaded := by
  refine decode_encodeBytes_eq decoded.inOrder (fun segment member => ?_) fun segment member =>
    (decoded.inBounds segment member).source
  exact (decoded.inBounds segment member).fits (numbered segment member)

end Document

namespace FileTree

/-- Writes texts to files, one after another. -/
def writeAll (tree : FileTree) (files : List (Path × String)) : Except FileError FileTree :=
  files.foldlM (fun tree (path, text) => tree.writeText path text) tree

end FileTree

/-- A text that lacks a character of the needle does not hold it. -/
theorem Text.contains_eq_false {needle text : List Char} {c : Char} (inside : c ∈ needle)
    (lacking : c ∉ text) : Text.contains needle text = false := by
  have cut : ∀ text before following, cutAt? needle text = some (before, following) → c ∈ text := by
    intro text
    induction text with
    | nil =>
      intro before following found
      unfold cutAt? at found
      split at found
      · next empty =>
        rw [List.isEmpty_iff.mp empty] at inside
        cases inside
      · cases found
    | cons d rest ih =>
      intro before following found
      unfold cutAt? at found
      split at found
      · next starts =>
        rw [(after?_eq_some_iff _ _ _).mp starts]
        exact List.mem_append_left _ inside
      · obtain ⟨⟨front, behind⟩, further, -⟩ := Option.map_eq_some_iff.mp found
        exact List.mem_cons_of_mem d (ih front behind further)
  unfold Text.contains
  cases found : cutAt? needle text with
  | none => rfl
  | some parts => exact absurd (cut text parts.1 parts.2 found) lacking

theorem FileAction.run_writeText_bind {α : Type} {tree after : FileTree} {path : Path}
    {text : String} {next : Unit → FileAction α} (written : tree.writeText path text = .ok after) :
    (writeText path text >>= next).run.run tree = (next ()).run.run after := by
  have done : (writeText path text).run.run tree = (.ok (), after) := by
    simp only [writeText, change, ExceptT.run, ExceptT.mk, StateT.run, written]
  simp only [ExceptT.run_bind, StateT.run_bind, done]
  rfl

namespace Artifact

/-- The URL by which a file refers to its map. -/
def mapUrl (dest : Path) (embedding : Embedding) (document : Document) : String :=
  match embedding with
  | .linked => dest.fileName?.getD "" ++ ".map"
  | .inlineBase64 => DataUrl.encode .base64 document
  | .inlinePercent => DataUrl.encode .percent document

/-- The text that is written for an artifact. -/
def embeddedText (artifact : Artifact) (dest : Path) (embedding : Embedding) : String :=
  closeLine artifact.code ++ referenceLine dest
    (mapUrl dest embedding (artifact.document.rebase (dest.parent?.getD ⟨""⟩)))

/-- The files that are written for an artifact, in this order. -/
def embeddedFiles (artifact : Artifact) (dest : Path) (embedding : Embedding) :
    List (Path × String) :=
  let dir := dest.parent?.getD ⟨""⟩
  let document := artifact.document.rebase dir
  let file := (dest, artifact.embeddedText dest embedding)
  match embedding with
  | .linked => [(dir / mapUrl dest .linked document, document.encode), file]
  | _ => [file]

/-- Writing an artifact writes its files and then reads the last one. -/
theorem writeTo_eq {artifact : Artifact} {dest : Path} {embedding : Embedding}
    {tree after : FileTree}
    (written : tree.writeAll (artifact.embeddedFiles dest embedding) = .ok after) :
    (artifact.writeTo dest embedding).run.run tree =
      (ofText after dest (artifact.embeddedText dest embedding), after) := by
  cases embedding with
  | linked =>
    obtain ⟨middle, first, written⟩ := exists_of_bind_eq_ok written
    obtain ⟨last, second, written⟩ := exists_of_bind_eq_ok written
    cases written
    simp only [writeTo, pure_bind]
    exact (FileAction.run_writeText_bind first).trans (FileAction.run_writeText_bind second)
  | inlineBase64 =>
    obtain ⟨last, only, written⟩ := exists_of_bind_eq_ok written
    cases written
    simp only [writeTo, pure_bind]
    exact FileAction.run_writeText_bind only
  | inlinePercent =>
    obtain ⟨last, only, written⟩ := exists_of_bind_eq_ok written
    cases written
    simp only [writeTo, pure_bind]
    exact FileAction.run_writeText_bind only

/-- A file name that can stand in a reference with `.map` behind it: it is not taken for a data URL,
and nothing of it is trimmed or cut off. -/
structure IsLinkable (name : String) : Prop where
  noScheme : DataUrl.isDataUrl name = false
  first : ∀ c ∈ name.toList.head?, Text.isBlank c = false
  plain : ∀ c ∈ name.toList, c ≠ '\n' ∧ c ≠ '?' ∧ c ≠ '#'

theorem IsLinkable.noScheme_map {name : String} (linkable : IsLinkable name) :
    DataUrl.isDataUrl (name ++ ".map") = false := by
  have noScheme := linkable.noScheme
  unfold DataUrl.isDataUrl DataUrl.afterScheme? at noScheme ⊢
  rw [String.toList_append]
  by_cases long : 5 ≤ name.toList.length
  · rw [List.take_append_of_le_length long]
    split
    · next scheme =>
      rw [if_pos scheme] at noScheme
      cases noScheme
    · rfl
  · -- a shorter name leaves the dot among the first characters, where the scheme has none
    have dot : '.' ∈ (name.toList ++ ".map".toList).take 5 := by
      obtain ⟨room, left⟩ : ∃ room, 5 - name.toList.length = room + 1 :=
        ⟨5 - name.toList.length - 1, by omega⟩
      rw [List.take_append, left]
      exact List.mem_append_right _ List.mem_cons_self
    split
    · next scheme =>
      have same : ((name.toList ++ ".map".toList).take 5).map Char.toLower =
          "data:".toList.map Char.toLower := by simpa [Text.sameIgnoringCase] using scheme
      have listed := List.mem_map_of_mem (f := Char.toLower) dot
      rw [same] at listed
      exact absurd listed (by decide)
    · rfl

theorem IsLinkable.solid_map {name : String} (linkable : IsLinkable name) (some : name ≠ "") :
    Text.Solid (name ++ ".map").toList := by
  refine ⟨?_, ⟨name.toList ++ ['.', 'm', 'a'], 'p', by simp, by decide⟩, ?_⟩
  · obtain ⟨c, rest, same⟩ := List.exists_cons_of_ne_nil (show name.toList ≠ [] by simpa using some)
    exact ⟨c, rest ++ ".map".toList, by simp [same], linkable.first c (by simp [same])⟩
  · have plain := linkable.plain '\n'
    simp only [String.toList_append, List.mem_append, not_or]
    exact ⟨fun member => (plain member).1 rfl, by decide⟩

theorem isName_map {name : String} (isName : Path.IsName name) : Path.IsName (name ++ ".map") := by
  have longer : 4 ≤ (name ++ ".map").toList.length := by
    rw [String.toList_append, List.length_append]
    exact Nat.le_add_left 4 _
  refine ⟨⟨?_, ?_, ?_⟩, ?_⟩
  · rintro same
    rw [same] at longer
    exact absurd longer (by decide)
  · rintro same
    rw [same] at longer
    exact absurd longer (by decide)
  · rw [String.toList_append, List.mem_append, not_or]
    exact ⟨isName.no_slash, by decide⟩
  · rintro same
    rw [same] at longer
    exact absurd longer (by decide)

/-- The file that a reference by name links to. -/
theorem path?_map {name : String} (linkable : IsLinkable name) (isName : Path.IsName name)
    (dest : Path) :
    (Reference.mk (name ++ ".map") false).path? dest =
      some ((dest.parent?.getD ⟨""⟩) / (name ++ ".map")) := by
  have noAddress : Text.contains "://".toList (name ++ ".map").toList = false := by
    refine Text.contains_eq_false (show '/' ∈ "://".toList by decide) ?_
    exact (isName_map isName).no_slash
  have kept : (name ++ ".map").toList.takeWhile (fun c => c != '?' && c != '#') =
      (name ++ ".map").toList := by
    refine List.takeWhile_eq_self_iff.mpr ?_
    intro c member
    rw [String.toList_append] at member
    rcases List.mem_append.mp member with inside | behind
    · have plain := linkable.plain c inside
      simp [plain.2.1, plain.2.2]
    · have plain : ".map".toList.all (fun c => c != '?' && c != '#') = true := by decide
      exact List.all_eq_true.mp plain c behind
  simp only [Reference.path?, Reference.isEmbedded, linkable.noScheme_map, noAddress, Bool.or_self,
    Bool.false_eq_true, ↓reduceIte, kept, String.ofList_toList]

theorem closeLine_of_whole {code : String} (whole : Text.Whole code.toList) :
    closeLine code = code := by
  unfold closeLine
  refine if_pos ?_
  rcases whole with none | ⟨front, same⟩
  · have empty : code = "" := by simpa using none
    simp [empty]
  · simp [same]

section

variable {artifact : Artifact} {dest : Path} {embedding : Embedding}

/-- The document as it is seen from the directory of the new place. -/
def moved (artifact : Artifact) (dest : Path) : Document :=
  artifact.document.rebase (dest.parent?.getD ⟨""⟩)

theorem embeddedText_eq (dest : Path) (embedding : Embedding) (made : artifact.Made) :
    Text.Whole artifact.code.toList ∧
      artifact.embeddedText dest embedding = String.ofList (artifact.code.toList ++
        (referenceText dest (mapUrl dest embedding (artifact.moved dest)).toList ++ ['\n'])) := by
  have whole : Text.Whole artifact.code.toList := Reference.codeOf_whole made.spec.referred
  refine ⟨whole, ?_⟩
  rw [← String.toList_inj, embeddedText, closeLine_of_whole whole, String.toList_append,
    toList_referenceLine, String.toList_ofList]
  rfl

/-- A URL that a line can hold is found again behind the code. -/
theorem locate?_embeddedText (made : artifact.Made)
    (solid : Text.Solid (mapUrl dest embedding (artifact.moved dest)).toList) :
    Reference.locate? (artifact.embeddedText dest embedding) =
      some ⟨mapUrl dest embedding (artifact.moved dest), false⟩ := by
  obtain ⟨whole, text⟩ := embeddedText_eq dest embedding made
  rw [text, Reference.locate?_append_line whole (referenceText_inside _ solid)
    (ofLine?_referenceText solid), String.ofList_toList]

theorem codeOf_embeddedText (made : artifact.Made)
    (solid : Text.Solid (mapUrl dest embedding (artifact.moved dest)).toList) :
    Reference.codeOf (artifact.embeddedText dest embedding) = artifact.code := by
  obtain ⟨whole, text⟩ := embeddedText_eq dest embedding made
  rw [text, Reference.codeOf_append_line whole (referenceText_inside _ solid)
    (ofLine?_referenceText solid), String.ofList_toList]

/-- Every URL that is written can stand in a line. -/
theorem solid_mapUrl {name : String} (named : dest.fileName? = some name)
    (linkable : IsLinkable name) (embedding : Embedding) (doc : Document) :
    Text.Solid (mapUrl dest embedding doc).toList := by
  cases embedding with
  | linked =>
    have isName := (Path.endsIn_of_fileName? named).1
    simpa [mapUrl, named] using linkable.solid_map isName.ne_empty
  | inlineBase64 => exact DataUrl.solid_encode .base64 doc
  | inlinePercent => exact DataUrl.solid_encode .percent doc

theorem moved_decoded (made : artifact.Made) (dest : Path) : (artifact.moved dest).Decoded :=
  made.spec.decoded.rebase _

/-- The artifact of a text whose reference carries the map. -/
theorem ofText_carried {reference : Reference} {encoding : DataUrl.Encoding} {bytes : List UInt8}
    {read : Document} {text : String} (tree : FileTree)
    (located : Reference.locate? text = some reference) (carried : reference.isEmbedded = true)
    (payload : DataUrl.payload reference.url = .ok (encoding, bytes))
    (decoded : Document.decode bytes = .ok read) :
    ofText tree dest text = .ok {
      path := dest, text, document := read.setBaseDir dest.parent?
      embedding := Embedding.ofEncoding encoding, mapPath := none } := by
  simp only [ofText, located, carried, payload, ↓reduceIte, Mappings.ok_bind, decoded]
  rfl

/-- The artifact of a text whose reference links to the map. -/
theorem ofText_linked {reference : Reference} {bytes : List UInt8} {read : Document}
    {text : String} {tree : FileTree} {mapPath : Path}
    (located : Reference.locate? text = some reference) (apart : reference.isEmbedded = false)
    (linked : reference.path? dest = some mapPath) (holds : tree.read mapPath = .ok bytes)
    (decoded : Document.decode bytes = .ok read) :
    ofText tree dest text = .ok {
      path := dest, text, document := read.setBaseDir mapPath.parent?
      embedding := .linked, mapPath := some mapPath } := by
  simp only [ofText, located, apart, linked, holds, Except.mapError, Bool.false_eq_true, ↓reduceIte,
    Mappings.ok_bind, decoded]
  rfl

/-- What is read back behind an artifact that was written. -/
structure Embedded (artifact : Artifact) (dest : Path) (embedding : Embedding) (read : Artifact) :
    Prop where
  path_eq : read.path = dest
  text_eq : read.text = artifact.embeddedText dest embedding
  embedding_eq : read.embedding = embedding
  document_eq : read.document = (artifact.moved dest).reloaded.setBaseDir dest.parent?

theorem exists_embedded (made : artifact.Made)
    (numbered : ∀ segment ∈ artifact.document.segments, segment.Numbered) {name : String}
    (named : dest.fileName? = some name) (linkable : IsLinkable name) {tree after : FileTree}
    (done : tree.writeAll (artifact.embeddedFiles dest embedding) = .ok after) :
    ∃ read, ofText after dest (artifact.embeddedText dest embedding) = .ok read ∧
      artifact.Embedded dest embedding read := by
  have solid := solid_mapUrl named linkable embedding (artifact.moved dest)
  have located := locate?_embeddedText made solid
  have decoded := (moved_decoded made dest).read_back numbered
  cases embedding with
  | linked =>
    have ends := Path.endsIn_of_fileName? named
    have mapName := isName_map ends.1
    obtain ⟨dir, parent⟩ := Path.exists_parent? named
    have url : mapUrl dest .linked (artifact.moved dest) = name ++ ".map" := by
      simp [mapUrl, named]
    have linked := path?_map linkable ends.1 dest
    rw [url] at located
    rw [parent, Option.getD_some] at linked
    obtain ⟨middle, first, done⟩ := exists_of_bind_eq_ok done
    obtain ⟨last, second, done⟩ := exists_of_bind_eq_ok done
    cases done
    have holds : after.read (dir / (name ++ ".map")) = .ok (artifact.moved dest).encodeBytes := by
      have place : dest.parent?.getD ⟨""⟩ / mapUrl dest .linked (artifact.moved dest) =
          dir / (name ++ ".map") := by rw [url, parent, Option.getD_some]
      have written : tree.write (dir / (name ++ ".map")) (artifact.moved dest).encodeBytes =
          .ok middle := place ▸ first
      have apart : name ++ ".map" ≠ name := by
        intro same
        have sizes := congrArg String.length same
        rw [String.length_append] at sizes
        exact absurd sizes (by simp)
      exact FileTree.read_of_write_of_write written second (Path.endsIn_div dir mapName) ends apart
    refine ⟨_, ofText_linked located linkable.noScheme_map linked holds decoded, rfl, rfl, rfl, ?_⟩
    rw [Path.parent?_div parent mapName.toIsMove, parent]
  | inlineBase64 =>
    exact ⟨_, ofText_carried after located (DataUrl.isDataUrl_encode .base64 _)
      (DataUrl.payload_encode .base64 _) decoded, rfl, rfl, rfl, rfl⟩
  | inlinePercent =>
    exact ⟨_, ofText_carried after located (DataUrl.isDataUrl_encode .percent _)
      (DataUrl.payload_encode .percent _) decoded, rfl, rfl, rfl, rfl⟩

end

/-- However the document is attached, an artifact that is written to another place comes back with
its code, and with its document as it is seen from there. -/
theorem writeTo_keeps {artifact : Artifact} (made : artifact.Made)
    (numbered : ∀ segment ∈ artifact.document.segments, segment.Numbered) (embedding : Embedding)
    {dest : Path} {name : String} (named : dest.fileName? = some name) (linkable : IsLinkable name)
    {tree after : FileTree}
    (done : tree.writeAll (artifact.embeddedFiles dest embedding) = .ok after) :
    ∃ dir read, dest.parent? = some dir ∧
      (artifact.writeTo dest embedding).run.run tree = (.ok read, after) ∧
      read.path = dest ∧ read.embedding = embedding ∧ read.code = artifact.code ∧
      read.document.baseDir = some dir ∧ read.document.Agrees (artifact.document.rebase dir) ∧
      ∀ line column,
        read.document.lookup? line column = (artifact.document.rebase dir).lookup? line column := by
  obtain ⟨dir, parent⟩ := Path.exists_parent? named
  obtain ⟨read, same, embedded⟩ := exists_embedded made numbered named linkable done
  have there : artifact.moved dest = artifact.document.rebase dir := by
    rw [moved, parent, Option.getD_some]
  have decoded : (artifact.document.rebase dir).Decoded := made.spec.decoded.rebase dir
  have agrees := decoded.reloaded_agrees
  refine ⟨dir, read, parent, (writeTo_eq done).trans (by rw [same]), embedded.path_eq,
    embedded.embedding_eq, ?_, ?_, ?_, ?_⟩
  · rw [code, embedded.text_eq]
    exact codeOf_embeddedText made (solid_mapUrl named linkable embedding _)
  · rw [embedded.document_eq, parent]
    rfl
  · rw [embedded.document_eq, there]
    exact ⟨agrees.file, agrees.sources, agrees.names, agrees.contents, agrees.segments⟩
  · rw [embedded.document_eq, there]
    exact decoded.inOrder.lookup?_reloaded

/-- An artifact whose code holds another reference line. -/
def twice : Artifact where
  path := ⟨"/src/out.js"⟩
  text :=
    "//# sourceMappingURL=old\nf();\n" ++
    "//# sourceMappingURL=data:," ++
    "\x7b\"version\":3,\"sources\":[\"a.ts\"],\"mappings\":\"AAAA,E\"\x7d\ng();"
  document := {
    file := none
    segments := [⟨0, 0, 0, 0, some 0, none⟩, ⟨0, 2, 0, 0, none, none⟩]
    lineStarts := [0, 2]
    names := []
    sources := ["a.ts"]
    contents := none
    baseDir := some ⟨"/src"⟩ }
  embedding := .inlinePercent
  mapPath := none

theorem twice_made : twice.Made := by
  have read : (ofText FileTree.empty twice.path twice.text).toOption = some twice := by
    decide +kernel
  cases made : ofText FileTree.empty twice.path twice.text with
  | error cause =>
    rw [made] at read
    cases read
  | ok artifact =>
    rw [made] at read
    cases read
    exact .ofText made

theorem writeTo_twice : ∃ read after,
    (twice.writeTo ⟨"/lib/out.css"⟩ .linked).run.run ⟨["home"], [(["lib"], .directory)]⟩ =
        (.ok read, after) ∧
      read.code = "//# sourceMappingURL=old\nf();\n" ∧
      read.document.sources = ["../src/a.ts"] := by
  have numbered : ∀ segment ∈ twice.document.segments, segment.Numbered := by
    intro segment member
    simp only [twice, List.mem_cons, List.not_mem_nil, or_false] at member
    rcases member with rfl | rfl
    · exact ⟨by decide, by decide⟩
    · exact ⟨by decide, by decide⟩
  have plain : "out.css".toList.all (fun c => c != '\n' && c != '?' && c != '#') = true := by
    decide
  have linkable : IsLinkable "out.css" := by
    refine ⟨by decide, ?_, ?_⟩
    · intro c member
      cases (show some 'o' = some c from member)
      rfl
    · intro c member
      simpa [and_assoc] using List.all_eq_true.mp plain c member
  have written : FileTree.writeAll ⟨["home"], [(["lib"], .directory)]⟩
      (twice.embeddedFiles ⟨"/lib/out.css"⟩ .linked) = .ok _ := rfl
  obtain ⟨dir, read, parent, done, -, -, code, -, agrees, -⟩ :=
    writeTo_keeps twice_made numbered .linked (by decide) linkable written
  refine ⟨read, _, done, code.trans (by decide +kernel), agrees.sources.trans ?_⟩
  cases parent
  decide +kernel

end Artifact

end SourceTrace
