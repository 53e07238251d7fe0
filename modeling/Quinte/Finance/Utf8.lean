import Mathlib
import Quinte.Finance.Digests

/-! # Bytes that break off

    * `utf8_of_fromUtf8`: what is read as a text are the bytes of it;
    * `prefix_of_utf8`: a text whose bytes another one starts with is a start of it.
-/

namespace Quinte.Finance

open Json (Text)

theorem utf8_of_fromUtf8 {bytes : Bytes} {text : Text} (h : fromUtf8 bytes = some text) :
    utf8 text = bytes := by
  have hsome : (ByteArray.mk bytes.toArray).utf8Decode?.isSome = true := by
    unfold fromUtf8 at h
    cases hdecode : (ByteArray.mk bytes.toArray).utf8Decode? with
    | none =>
      rw [hdecode] at h
      cases h
    | some chars => rfl
  obtain ⟨chars, hchars⟩ := ByteArray.isSome_utf8Decode?_iff.mp hsome
  have hbytes : bytes = utf8 chars := by
    have hdata := congrArg (fun b : ByteArray => b.data.toList) hchars
    rw [List.utf8Encode] at hdata
    simpa [utf8] using hdata
  rw [hbytes, fromUtf8_utf8] at h
  rw [hbytes, Option.some.inj h]

/-- From bytes that start with a character, the character can be told. -/
theorem utf8EncodeChar_head {c d : Char} {bytes bytes' : Bytes}
    (h : String.utf8EncodeChar c ++ bytes = String.utf8EncodeChar d ++ bytes') : c = d := by
  have hdecode : ∀ (c : Char) (bytes : Bytes),
      (String.utf8EncodeChar c ++ bytes).toByteArray.utf8DecodeChar? 0 = some c := by
    intro c bytes
    rw [List.toByteArray_append]
    exact ByteArray.utf8DecodeChar?_utf8EncodeChar_append
  have hc := hdecode c bytes
  rw [h, hdecode d bytes'] at hc
  exact (Option.some.inj hc).symm

theorem prefix_of_utf8 {text whole : Text} (h : utf8 text <+: utf8 whole) : text <+: whole := by
  induction text generalizing whole with
  | nil => exact List.nil_prefix
  | cons c cs ih =>
    obtain ⟨bytes, hbytes⟩ := h
    have hsplit : ∀ (c : Char) (cs : Text), utf8 (c :: cs) = String.utf8EncodeChar c ++ utf8 cs :=
      fun _ _ => List.flatMap_cons
    rw [hsplit, List.append_assoc] at hbytes
    cases whole with
    | nil =>
      have hnil : String.utf8EncodeChar c = [] := (List.append_eq_nil_iff.mp hbytes).1
      exact absurd hnil String.utf8EncodeChar_ne_nil
    | cons d ds =>
      rw [hsplit] at hbytes
      obtain rfl := utf8EncodeChar_head hbytes
      exact List.cons_prefix_cons.mpr ⟨rfl, ih ⟨bytes, List.append_cancel_left hbytes⟩⟩

end Quinte.Finance
