import SourceTrace.Proofs.Artifact.Embedding
import SourceTrace.Proofs.DataUrl.Pairs

/-!
# References in stylesheets are comments

In a stylesheet a reference is written as a block comment, and a block comment ends where its
closing mark first stands. A linked map and a map in base64 never bring a closing mark along. A map
with percent escapes shows the closing marks that stand in the texts of its document.
-/
namespace SourceTrace

/-- A line that holds the closing mark of a block comment nowhere but at its end. -/
def ClosesAtEnd (line : List Char) : Prop :=
  ∀ before after, line = before ++ '*' :: '/' :: after → after = []

theorem Path.exists_fileName?_of_extension? {path : Path} {extension : String}
    (known : path.extension? = some extension) : ∃ name, path.fileName? = some name := by
  obtain ⟨name, named, -⟩ := Option.bind_eq_some_iff.mp known
  exact ⟨name, named⟩

namespace Artifact

variable {artifact : Artifact} {dest : Path} {embedding : Embedding} {tree after : FileTree}

/-- The URL brings a closing mark along exactly if it shows a text that holds one. -/
theorem infix_mapUrl_iff {name : String} (named : dest.fileName? = some name) (doc : Document) :
    ['*', '/'] <:+: (mapUrl dest embedding doc).toList ↔
      embedding = .inlinePercent ∧ ∃ text ∈ doc.texts, ['*', '/'] <:+: text.toList := by
  cases embedding with
  | linked =>
    have isName := (Path.endsIn_of_fileName? named).1
    have noSlash : '/' ∉ (mapUrl dest .linked doc).toList := by
      simpa [mapUrl, named] using (isName_map isName).no_slash
    have free : ¬ ['*', '/'] <:+: (mapUrl dest .linked doc).toList :=
      fun holds => noSlash (holds.subset (by simp))
    simpa using free
  | inlineBase64 =>
    have free : ¬ ['*', '/'] <:+: (mapUrl dest .inlineBase64 doc).toList :=
      DataUrl.not_infix_encode_base64 doc
    simpa using free
  | inlinePercent =>
    rw [eq_self, true_and]
    exact DataUrl.infix_encode_percent_iff doc

/-- The start of a reference, character by character. It is compared much faster than the string. -/
theorem toList_opening : "/*# sourceMappingURL=".toList = '/' :: '*' :: ['#', ' ', 's', 'o', 'u',
    'r', 'c', 'e', 'M', 'a', 'p', 'p', 'i', 'n', 'g', 'U', 'R', 'L', '='] := String.toList_ofList

/-- What stands in front of the URL and behind it holds no closing mark but the one at the end. -/
theorem infix_opened_iff (url : List Char) :
    ['*', '/'] <:+: "/*# sourceMappingURL=".toList ++ url ++ [' ', '*'] ↔ ['*', '/'] <:+: url := by
  rw [toList_opening, List.append_assoc, List.cons_append, List.cons_append, pair_infix_cons_iff,
    pair_infix_cons_iff, pair_infix_append_iff (by decide),
    pair_infix_append_cons_iff (by decide) (by decide)]
  simp [pair_infix_cons_iff]

/-- A comment around a URL closes at its end exactly if the URL holds no closing mark. -/
theorem closesAtEnd_iff (url : List Char) :
    ClosesAtEnd ("/*# sourceMappingURL=".toList ++ url ++ [' ', '*', '/']) ↔
      ¬ ['*', '/'] <:+: url := by
  constructor
  · rintro closes ⟨before, after, rfl⟩
    have rest := closes ("/*# sourceMappingURL=".toList ++ before) (after ++ [' ', '*', '/'])
      (by simp)
    simp at rest
  · intro free before after same
    -- an earlier mark would still stand there without the last slash
    by_contra more
    obtain ⟨kept, last, rfl⟩ := (List.eq_nil_or_concat after).resolve_left more
    have whole : "/*# sourceMappingURL=".toList ++ url ++ [' ', '*'] ++ ['/'] =
        before ++ '*' :: '/' :: kept ++ [last] := by
      simpa only [List.append_assoc, List.cons_append, List.nil_append, List.concat_eq_append] using
        same
    have shorter := List.append_inj_left' whole rfl
    refine free ((infix_opened_iff url).mp ⟨before, kept, ?_⟩)
    rw [shorter, List.append_assoc]
    rfl

/-- The file of the code is written last. -/
theorem exists_writeText_last
    (written : tree.writeAll (artifact.embeddedFiles dest embedding) = .ok after) :
    ∃ before : FileTree,
      before.writeText dest (artifact.embeddedText dest embedding) = .ok after := by
  cases embedding with
  | linked =>
    obtain ⟨middle, -, written⟩ := exists_of_bind_eq_ok written
    obtain ⟨last, second, written⟩ := exists_of_bind_eq_ok written
    cases written
    exact ⟨middle, second⟩
  | inlineBase64 =>
    obtain ⟨last, only, written⟩ := exists_of_bind_eq_ok written
    cases written
    exact ⟨tree, only⟩
  | inlinePercent =>
    obtain ⟨last, only, written⟩ := exists_of_bind_eq_ok written
    cases written
    exact ⟨tree, only⟩

theorem embeddedText_eq_line (artifact : Artifact) (dest : Path) (embedding : Embedding) :
    artifact.embeddedText dest embedding = closeLine artifact.code ++
      String.ofList (referenceText dest (mapUrl dest embedding (artifact.moved dest)).toList) ++
        "\n" := by
  have line : referenceLine dest (mapUrl dest embedding (artifact.moved dest)) =
      String.ofList (referenceText dest (mapUrl dest embedding (artifact.moved dest)).toList) ++
        "\n" := by
    rw [← String.toList_inj, toList_referenceLine, String.toList_append, String.toList_ofList]
    rfl
  rw [embeddedText, String.append_assoc, ← line]
  rfl

/-- What is written behind the code of a stylesheet starts and ends as a block comment. The comment
is closed before its end exactly if the map is written with percent escapes and a text of the
document holds the closing mark. -/
theorem writeTo_comment (stylesheet : dest.extension? = some "css")
    (written : tree.writeAll (artifact.embeddedFiles dest embedding) = .ok after) :
    ∃ line, ((artifact.writeTo dest embedding).run.run tree).2 = after ∧
      after.readText dest = .ok (closeLine artifact.code ++ String.ofList line ++ "\n") ∧
      ['/', '*'] <+: line ∧ ['*', '/'] <:+ line ∧
      (ClosesAtEnd line ↔ (embedding = .inlinePercent →
        ∀ text ∈ (artifact.moved dest).texts, ¬ ['*', '/'] <:+: text.toList)) := by
  obtain ⟨name, named⟩ := Path.exists_fileName?_of_extension? stylesheet
  obtain ⟨before, last⟩ := exists_writeText_last written
  have line : referenceText dest (mapUrl dest embedding (artifact.moved dest)).toList =
      "/*# sourceMappingURL=".toList ++ (mapUrl dest embedding (artifact.moved dest)).toList ++
        [' ', '*', '/'] := by
    rw [referenceText, isStylesheet, stylesheet]
    rfl
  refine ⟨referenceText dest (mapUrl dest embedding (artifact.moved dest)).toList, ?_, ?_, ?_, ?_,
    ?_⟩
  · rw [writeTo_eq written]
  · rw [← embeddedText_eq_line]
    exact FileTree.readText_of_writeText last
  · rw [line, toList_opening]
    exact ⟨_, rfl⟩
  · rw [line]
    exact ⟨_ ++ [' '], List.append_assoc _ _ _⟩
  · rw [line, closesAtEnd_iff, infix_mapUrl_iff named]
    simp

/-- An artifact whose source holds a comment. -/
def remarked : Artifact where
  path := ⟨"a.js"⟩
  text := "a();\n" ++ "//# sourceMappingURL=data:," ++
    "\x7b\"version\":3,\"sources\":[\"a.ts\"],\"sourcesContent\":[\"/* c */\"]," ++
    "\"mappings\":\"AAAA\"\x7d\n"
  document := {
    file := none
    segments := [⟨0, 0, 0, 0, some 0, none⟩]
    lineStarts := [0, 1]
    names := []
    sources := ["a.ts"]
    contents := some [some "/* c */"]
    baseDir := some ⟨""⟩ }
  embedding := .inlinePercent
  mapPath := none

/-- In base64 the comment of the source does not show. -/
theorem writeTo_comment_remarked :
    (Path.mk "a.css").extension? = some "css" ∧ ∃ after line,
      FileTree.writeAll FileTree.empty (remarked.embeddedFiles ⟨"a.css"⟩ .inlineBase64) =
        .ok after ∧
      ((remarked.writeTo ⟨"a.css"⟩ .inlineBase64).run.run FileTree.empty).2 = after ∧
      after.readText ⟨"a.css"⟩ = .ok (closeLine remarked.code ++ String.ofList line ++ "\n") ∧
      ['/', '*'] <+: line ∧ ['*', '/'] <:+ line ∧ ClosesAtEnd line := by
  have stylesheet : (Path.mk "a.css").extension? = some "css" := by decide
  have written : FileTree.writeAll FileTree.empty
      (remarked.embeddedFiles ⟨"a.css"⟩ .inlineBase64) = .ok _ := rfl
  obtain ⟨line, done, holds, starts, ends, closes⟩ := writeTo_comment stylesheet written
  exact ⟨stylesheet, _, line, written, done, holds, starts, ends, closes.mpr nofun⟩

/-- With percent escapes it closes the comment of the reference in front of the end of the map. -/
theorem writeTo_remarked_open :
    let before := "/*# sourceMappingURL=data:application/json,%7B%22version%22:3," ++
      "%22sources%22:[%22a.ts%22],%22sourcesContent%22:[%22/*%20c%20"
    let behind := "%22],%22names%22:[],%22mappings%22:%22AAAA%22%7D */"
    (ofText FileTree.empty remarked.path remarked.text).toOption = some remarked ∧
      ((remarked.writeTo ⟨"a.css"⟩ .inlinePercent).run.run FileTree.empty).2.readText ⟨"a.css"⟩ =
        .ok ("a();\n" ++ (before ++ "*/" ++ behind) ++ "\n") ∧
      ¬ ClosesAtEnd (before ++ "*/" ++ behind).toList := by
  intro before behind
  have written : FileTree.writeAll FileTree.empty
      (remarked.embeddedFiles ⟨"a.css"⟩ .inlinePercent) = .ok _ := rfl
  obtain ⟨_, last⟩ := exists_writeText_last written
  have text : remarked.embeddedText ⟨"a.css"⟩ .inlinePercent =
      "a();\n" ++ (before ++ "*/" ++ behind) ++ "\n" := by decide +kernel
  refine ⟨by decide +kernel, ?_, ?_⟩
  · rw [writeTo_eq written, ← text]
    exact FileTree.readText_of_writeText last
  · intro closes
    have rest := closes before.toList behind.toList (by
      rw [String.toList_append, String.toList_append, List.append_assoc]
      rfl)
    exact absurd (String.toList_eq_nil_iff.mp rest) (by decide)

end Artifact

end SourceTrace
