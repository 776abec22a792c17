namespace Containment.Text

/-! Texts as bytes in UTF-8. -/

def ofUTF8? (bytes : List UInt8) : Option String :=
  String.fromUTF8? ⟨bytes.toArray⟩

def toUTF8 (text : String) : List UInt8 :=
  text.toUTF8.data.toList

theorem ofUTF8?_toUTF8 (text : String) : ofUTF8? (toUTF8 text) = some text := by
  have whole : (⟨(toUTF8 text).toArray⟩ : ByteArray) = text.toByteArray := by
    simp [toUTF8]
  rw [ofUTF8?, whole, String.fromUTF8?, dif_pos text.isValidUTF8]
  rfl

end Containment.Text
