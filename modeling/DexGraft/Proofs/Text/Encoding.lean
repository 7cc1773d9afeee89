import DexGraft.Bytes
import Mathlib.Tactic.Common

/-!
Text and its UTF-8 bytes. Text is encoded character by character, decoding gives
back exactly the text that was encoded, and only NUL has a byte of nought.
-/
namespace DexGraft.Bytes

theorem ofText_eq (text : String) :
    ofText text = text.toList.flatMap String.utf8EncodeChar := by
  obtain ⟨chars, rfl⟩ : ∃ chars, text = String.ofList chars := ⟨text.toList, by simp⟩
  simp [ofText, List.utf8Encode]

theorem ofText_append (first second : String) :
    ofText (first ++ second) = ofText first ++ ofText second := by
  simp [ofText_eq]

theorem toText_ofText (text : String) : (ofText text).toText? = some text := by
  have valid : text.toByteArray.IsValidUTF8 := text.isValidUTF8
  simp [toText?, ofText, String.fromUTF8?, valid, String.fromUTF8]

theorem ofText_inj {first second : String} (same : ofText first = ofText second) :
    first = second := by
  have texts := congrArg toText? same
  rw [toText_ofText, toText_ofText] at texts
  exact Option.some.inj texts

theorem eq_ofText_of_toText (bytes : Bytes) (text : String)
    (decoded : bytes.toText? = some text) : bytes = ofText text := by
  simp only [toText?, String.fromUTF8?] at decoded
  split at decoded
  · injection decoded with same
    subst same
    rfl
  · cases decoded

def encoded (text : List Char) : Bytes :=
  ofText (String.ofList text)

theorem encoded_append (first second : List Char) :
    encoded (first ++ second) = encoded first ++ encoded second := by
  simp [encoded, ofText_append]

theorem encoded_toList (text : String) : encoded text.toList = ofText text := by
  simp [encoded]

end DexGraft.Bytes
