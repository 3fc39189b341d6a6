import SourceTrace.Proofs.DataUrl.RoundTrip
import SourceTrace.Proofs.Reference.Lines

/-!
# Maps that a reference carries

A data URL holds nothing that a comment or a line could cut short. Put into a comment on a line of
its own, of either kind, it is found again as it was written, and the document that it carries is
the one that the JSON text of the original is read as.
-/
namespace SourceTrace

namespace Reference

/-- The last of the lines that are references is the one that counts. -/
theorem locate?_of_lines {text : String} {before after : List (List Char)} {line : List Char}
    {reference : Reference} (lines : Text.split (· == '\n') text.toList = before ++ line :: after)
    (refers : ofLine? line = some reference) (last : ∀ other ∈ after, ofLine? other = none) :
    locate? text = some reference := by
  have silent : after.filterMap ofLine? = [] := List.filterMap_eq_nil_iff.mpr last
  rw [locate?, lines, List.filterMap_append, List.filterMap_cons, refers, silent,
    List.getLast?_concat]

end Reference

namespace DataUrl

theorem solid_encode (encoding : Encoding) (doc : Document) :
    Text.Solid (encode encoding doc).toList := by
  refine Text.solid_of_bare ?_ fun c member => (encode_visible member).isBlank_eq
  rw [toList_encode]
  exact List.append_ne_nil_of_left_ne_nil (by decide) _

theorem decode_encode (encoding : Encoding) (doc : Document) :
    decode (encode encoding doc) = Document.decode doc.encodeBytes := by
  simp only [decode, payload_encode, bind, Except.bind]

/-- A data URL is read back as the encoding and the bytes of the JSON text that it was made of, so
it carries the document that these bytes are read as. It consists of visible characters, and in a
comment of either kind that fills a line, with no reference behind it, it is located as it is and
carries its map itself. -/
theorem encode_carried (encoding : Encoding) (doc : Document) :
    let url := encode encoding doc
    let json := Text.Utf8.bytes doc.encode
    payload url = .ok (encoding, json) ∧ decode url = Document.decode json ∧
    (∀ c ∈ url.toList, 0x20 < c.toNat ∧ c.toNat < 0x7f) ∧
    ∀ comment ∈ ["//# sourceMappingURL=" ++ url, "/*# sourceMappingURL=" ++ url ++ " */"],
      ∀ (text : String) (before after : List (List Char)) (line : List Char),
        Text.split (· == '\n') text.toList = before ++ line :: after →
        Text.trim line = comment.toList →
        (∀ other ∈ after, Reference.ofLine? other = none) →
        Reference.locateBytes? (Text.Utf8.bytes text) = .ok (some ⟨url, false⟩) ∧
        (Reference.mk url false).isEmbedded = true ∧
        (Reference.mk url false).embedded = some <$> Document.decode json := by
  intro url json
  have solid := solid_encode encoding doc
  have carried : (Reference.mk url false).isEmbedded = true := isDataUrl_encode encoding doc
  refine ⟨payload_encode encoding doc, decode_encode encoding doc,
    fun c member => encode_visible member, ?_⟩
  intro comment listed text before after line lines trimmed last
  have refers : Reference.ofLine? line = some ⟨url, false⟩ := by
    have whole : String.ofList url.toList = url := String.ofList_toList
    rw [← whole]
    simp only [List.mem_cons, List.not_mem_nil, or_false] at listed
    rcases listed with rfl | rfl
    · exact Reference.ofLine?_of_lineComment solid (by simpa using trimmed)
    · exact Reference.ofLine?_of_blockComment solid (by simpa using trimmed)
  refine ⟨?_, carried, ?_⟩
  · rw [Reference.locateBytes?, Text.Utf8.decode?_bytes]
    exact congrArg Except.ok (Reference.locate?_of_lines lines refers last)
  · rw [Reference.embedded, if_pos carried]
    exact congrArg (some <$> ·) (decode_encode encoding doc)

/-- A document with a source whose name has a letter beyond ASCII, a percent sign and the end of a
comment in it. -/
def starred : Document := Document.ofParts none [] [] ["ä%*/.js"] none

/-- It is found in a closed comment, on an indented line that ends with a carriage return. -/
theorem encode_carried_starred :
    let url := encode .percent starred
    let comment := "/*# sourceMappingURL=" ++ url ++ " */"
    let line := '\t' :: comment.toList ++ ['\r']
    url = "data:application/json,%7B%22version%22:3,%22sources%22:[%22%C3%A4%25*/.js%22]," ++
      "%22names%22:[],%22mappings%22:%22%22%7D" ∧
    payload url = .ok (.percent, Text.Utf8.bytes starred.encode) ∧
    Reference.locateBytes? (Text.Utf8.bytes
      (String.ofList (['a', ';'] ++ '\n' :: (line ++ '\n' :: [])))) = .ok (some ⟨url, false⟩) := by
  obtain ⟨read, -, -, located⟩ := encode_carried .percent starred
  refine ⟨by decide +kernel, read, ?_⟩
  have solid := solid_encode .percent starred
  generalize encode .percent starred = url at located solid
  have block : ("/*# sourceMappingURL=" ++ url ++ " */").toList =
      Artifact.referenceText ⟨"a.css"⟩ url.toList := by
    rw [Artifact.referenceText, if_pos (by decide), String.toList_append, String.toList_append]
  have inside := Artifact.referenceText_inside ⟨"a.css"⟩ solid
  generalize "/*# sourceMappingURL=" ++ url ++ " */" = comment at located block
  have lines : Text.split (· == '\n')
      (String.ofList (['a', ';'] ++ '\n' :: ('\t' :: comment.toList ++ ['\r'] ++ ['\n']))).toList =
        [['a', ';']] ++ ('\t' :: comment.toList ++ ['\r']) :: [[]] := by
    have noBreak : '\n' ∉ '\t' :: comment.toList ++ ['\r'] := by simp [block, inside]
    rw [String.toList_ofList, Text.split_append_cons rfl, Text.split_append_cons rfl,
      Text.split_of_not_mem noBreak]
    rfl
  have trimmed : Text.trim ('\t' :: comment.toList ++ ['\r']) = comment.toList := by
    rw [Text.trim_concat_blank (by decide), Text.trim_cons_blank (by decide), block,
      Artifact.trim_referenceText _ solid]
  exact (located comment (by simp) _ _ _ _ lines trimmed (by decide)).1

end DataUrl

end SourceTrace
