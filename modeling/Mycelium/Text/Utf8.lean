import Mycelium.Text.Basic

/-!
# Texts as bytes

A file holds a text in UTF-8.  Bytes that are no encoding of any text have no
text; `ofUtf8?_eq_some_iff` says that all others have exactly one.  A byte order
mark at the start is dropped by `withoutMark`, and `unifyLines` turns every line
end into a line feed.
-/

namespace Mycelium.Text

/-- The text that bytes encode. -/
def ofUtf8? (bytes : ByteArray) : Option Text := (String.fromUTF8? bytes).map String.toList

/-- The bytes that encode a text. -/
def toUtf8 (s : Text) : ByteArray := (String.ofList s).toUTF8

/-- The bytes of the byte order mark. -/
def byteOrderMark : List UInt8 := [0xEF, 0xBB, 0xBF]

/-- The bytes that follow a byte order mark.  Bytes that end within the mark are
the start of one, and nothing follows. -/
def withoutMark (bytes : ByteArray) : ByteArray :=
  if (bytes.data.toList.take 3).isPrefixOf byteOrderMark then bytes.extract 3 bytes.size else bytes

/-- The text with every carriage return, and the line feed that may follow it,
turned into one line feed. -/
def unifyLines : Text → Text
  | [] => []
  | '\r' :: '\n' :: r => '\n' :: unifyLines r
  | '\r' :: r => '\n' :: unifyLines r
  | c :: r => c :: unifyLines r

/-- The encoding of a text is read back as that text. -/
theorem ofUtf8?_toUtf8 (s : Text) : ofUtf8? (toUtf8 s) = some s := by
  have h : (String.ofList s).toUTF8.IsValidUTF8 := (String.ofList s).isValidUTF8
  rw [ofUtf8?, toUtf8, String.fromUTF8?, dif_pos h]
  exact congrArg some String.toList_ofList

/-- Bytes have a text exactly when they are its encoding. -/
theorem ofUtf8?_eq_some_iff {bytes : ByteArray} {s : Text} :
    ofUtf8? bytes = some s ↔ bytes = toUtf8 s := by
  constructor
  · intro h
    rw [ofUtf8?, String.fromUTF8?] at h
    split at h
    · next hv =>
        simp only [Option.map_some, Option.some.injEq] at h
        rw [toUtf8, ← h, String.ofList_toList]
        rfl
    · simp at h
  · rintro rfl
    exact ofUtf8?_toUtf8 s

end Mycelium.Text
