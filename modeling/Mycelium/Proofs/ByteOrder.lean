import Mycelium.Proofs.Unreadable

/-!
# Files with a byte order mark

The tuneables file may start with a byte order mark, which is dropped before it is read.  The
mark encodes one character.  So a text loses that character if it starts with it
(`withoutMark_toUtf8_markChar`) and is kept as it is if it does not (`withoutMark_toUtf8`), for
no other character is encoded by bytes that start like the mark.

No JSON value starts with that character.  So a file that holds a value holds it without its mark
too, which it does not have (`File.Holds.withoutMark`).
-/

namespace Mycelium

namespace Text

/-- The character that the byte order mark encodes. -/
def markChar : Char := '\uFEFF'

theorem toByteArray_byteOrderMark :
    byteOrderMark.toByteArray = (String.utf8EncodeChar markChar).toByteArray := by decide

theorem toUtf8_cons (c : Char) (s : Text) :
    toUtf8 (c :: s) = (String.utf8EncodeChar c).toByteArray ++ toUtf8 s := by
  show (c :: s).utf8Encode = _ ++ s.utf8Encode
  rw [List.utf8Encode_cons, List.utf8Encode_singleton]

/-- A text that starts with the mark loses it. -/
theorem withoutMark_toUtf8_markChar (s : Text) :
    withoutMark (toUtf8 (markChar :: s)) = toUtf8 s := by
  rw [withoutMark, toUtf8_cons, ← toByteArray_byteOrderMark, if_pos (by simp [byteOrderMark])]
  exact ByteArray.extract_append_eq_right rfl ByteArray.size_append

/-- A text whose bytes start with the mark, or end within it, starts with its character. -/
theorem eq_markChar_of_isPrefixOf {c : Char} {s : Text}
    (h : ((toUtf8 (c :: s)).data.toList.take 3).isPrefixOf byteOrderMark = true) :
    c = markChar := by
  have hdecode : (toUtf8 (c :: s)).utf8DecodeChar? 0 = some c := by
    rw [toUtf8_cons, ByteArray.utf8DecodeChar?_utf8EncodeChar_append]
  generalize toUtf8 (c :: s) = bytes at h hdecode
  obtain ⟨⟨bytes⟩⟩ := bytes
  obtain _ | ⟨a, _ | ⟨b, _ | ⟨d, rest⟩⟩⟩ := bytes
  · cases hdecode
  · obtain rfl : a = 0xEF := by simpa [byteOrderMark] using h
    have hnone : ByteArray.utf8DecodeChar? ⟨#[0xEF]⟩ 0 = none := by decide
    cases hnone.symm.trans hdecode
  · obtain ⟨rfl, rfl⟩ : a = 0xEF ∧ b = 0xBB := by simpa [byteOrderMark] using h
    have hnone : ByteArray.utf8DecodeChar? ⟨#[0xEF, 0xBB]⟩ 0 = none := by decide
    cases hnone.symm.trans hdecode
  · obtain ⟨rfl, rfl, rfl⟩ : a = 0xEF ∧ b = 0xBB ∧ d = 0xBF := by
      simpa [byteOrderMark] using h
    have hbytes : byteOrderMark.toByteArray ++ ⟨⟨rest⟩⟩ =
        ⟨⟨0xEF :: 0xBB :: 0xBF :: rest⟩⟩ := by
      ext1
      simp [byteOrderMark]
    rw [← hbytes, toByteArray_byteOrderMark,
      ByteArray.utf8DecodeChar?_utf8EncodeChar_append] at hdecode
    exact (Option.some.inj hdecode).symm

/-- A text that does not start with the mark is kept as it is. -/
theorem withoutMark_toUtf8 {s : Text} (h : s.head? ≠ some markChar) :
    withoutMark (toUtf8 s) = toUtf8 s := by
  cases s with
  | nil => rfl
  | cons c s =>
      rw [withoutMark, if_neg]
      exact fun hmark => h (congrArg some (eq_markChar_of_isPrefixOf hmark))

end Text

theorem Json.parse_markChar (s : Text) : parse (Text.markChar :: s) = .error .malformed := rfl

namespace File

variable {file : File} {v : Json}

theorem withoutMark_ofText_markChar (s : Text) :
    (ofText (Text.markChar :: s)).withoutMark = ofText s := by
  rw [ofText, withoutMark, Text.withoutMark_toUtf8_markChar, ofText]

/-- A file that holds a value holds it without a mark too. -/
theorem Holds.withoutMark (h : file.Holds (some v)) : file.withoutMark.Holds (some v) := by
  cases h with
  | @value s _ reads =>
      have hhead : s.head? ≠ some Text.markChar := by
        intro hhead
        obtain ⟨t, rfl⟩ := List.head?_eq_some_iff.1 hhead
        cases (Json.parse_markChar t).symm.trans reads
      rw [ofText, File.withoutMark, Text.withoutMark_toUtf8 hhead]
      exact .value reads

end File

end Mycelium
