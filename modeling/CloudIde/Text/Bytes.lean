/-!
# Bytes and the texts they spell

What arrives from outside is a list of bytes; what the rest of the library works on is text. Text is
spelled in UTF-8. `Bytes.text?` reads exactly the byte lists that `Bytes.ofText` writes.
-/

namespace CloudIde

/-- A sequence of bytes. -/
abbrev Bytes := List UInt8

namespace Bytes

/-- The bytes that spell a text in UTF-8. -/
def ofText (text : String) : Bytes := text.toByteArray.data.toList

/-- The text that the bytes spell, or nothing when they are not UTF-8. -/
def text? (bytes : Bytes) : Option String := String.fromUTF8? ⟨bytes.toArray⟩

@[simp] theorem text?_ofText (text : String) : text? (ofText text) = some text := by
  simp [text?, ofText, String.fromUTF8?, text.isValidUTF8, String.fromUTF8]

/-- Bytes that spell a text are the bytes that are written for it. -/
theorem eq_ofText_of_text? {bytes : Bytes} {text : String} (h : text? bytes = some text) :
    bytes = ofText text := by
  simp only [text?, String.fromUTF8?] at h
  split at h
  · cases h; simp [ofText, String.fromUTF8]
  · cases h

end Bytes

end CloudIde
