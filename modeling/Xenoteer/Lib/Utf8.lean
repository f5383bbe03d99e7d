/-
Text as bytes: UTF-8, and Latin-1, in which a byte is the character of that
number. Reading Latin-1 bytes as text and writing that text in UTF-8 gives
the bytes back exactly when they are ASCII; otherwise the UTF-8 form is longer.
-/
import Mathlib.Data.List.Basic

namespace Lib.Utf8

def encode (text : List Char) : List UInt8 := text.flatMap String.utf8EncodeChar

/-- The text whose UTF-8 bytes these are. -/
def decode? (bytes : List UInt8) : Option (List Char) := bytes.toByteArray.utf8Decode?.map Array.toList

theorem decode?_encode (t : List Char) : decode? (encode t) = some t := by
  have h : (encode t).toByteArray = t.utf8Encode := rfl
  simp [decode?, h, List.utf8Decode?_utf8Encode]

variable {bt : List UInt8}

theorem decode?_eq_some {text} : decode? bt = some text ↔ bt = encode text := by
  constructor
  · intro h
    obtain ⟨c, hc, rfl⟩ := Option.map_eq_some_iff.1 h
    have hs : bt.toByteArray.utf8Decode?.isSome := by simp [hc]
    have hg : bt.toByteArray.utf8Decode?.get hs = c := by simp [hc]
    have hb := ByteArray.utf8Encode_get_utf8Decode? (h := hs)
    rw [hg] at hb
    exact (List.toByteArray_inj.1 hb).symm
  · intro h
    rw [h, decode?_encode]

theorem encode_cons (c : Char) (t : List Char) : encode (c :: t) = String.utf8EncodeChar c ++ encode t := rfl

/-! ## Latin-1 -/

def charOf (byte : UInt8) : Char := Char.ofNat byte.toNat

/-- The text that the bytes are in Latin-1. -/
def ofLatin1 (bytes : List UInt8) : List Char := bytes.map charOf

/-- The Latin-1 bytes of a text, when it has only the first 256 characters. -/
def toLatin1? (text : List Char) : Option (List UInt8) :=
  text.mapM fun c => if c.toNat < 256 then some (UInt8.ofNat c.toNat) else none

/-- Every byte is below 0x80. -/
def isAscii (bytes : List UInt8) : Bool := bytes.all (· < 0x80)

@[simp] theorem charOf_toNat (b : UInt8) : (charOf b).toNat = b.toNat := by
  have h : b.toNat.isValidChar := Or.inl (by have := b.toNat_lt; omega)
  rw [charOf, Char.ofNat, dif_pos h]
  rfl

theorem charOf_of_lt {c} (h : c.toNat < 256) : charOf (UInt8.ofNat c.toNat) = c := by
  have hm : (UInt8.ofNat c.toNat).toNat = c.toNat := by
    rw [UInt8.toNat_ofNat']
    exact Nat.mod_eq_of_lt h
  rw [charOf, hm, Char.ofNat_toNat]

theorem toLatin1?_eq_some {t} : toLatin1? t = some bt ↔ t = ofLatin1 bt := by
  induction t generalizing bt with
  | nil => cases bt <;> simp [toLatin1?, ofLatin1]
  | cons c t ih =>
    simp only [toLatin1?] at ih
    simp only [toLatin1?, List.mapM_cons, Option.pure_def, Option.bind_eq_bind,
      Option.bind_eq_some_iff, Option.some.injEq]
    constructor
    · intro ⟨b, hb, rest, hr, hby⟩
      by_cases hc : c.toNat < 256
      · simp only [hc, if_true, Option.some.injEq] at hb
        rw [← hby, ← hb, ih.1 hr]
        simp [ofLatin1, charOf_of_lt hc]
      · simp [hc] at hb
    · intro h
      cases bt with
      | nil => simp [ofLatin1] at h
      | cons b bt =>
        simp only [ofLatin1, List.map_cons, List.cons.injEq] at h
        have hc : c.toNat = b.toNat := by rw [h.1, charOf_toNat]
        refine ⟨b, ?_, bt, ih.2 h.2, rfl⟩
        have hlt := b.toNat_lt
        simp [hc, hlt]

theorem length_encode_charOf (b : UInt8) :
    (String.utf8EncodeChar (charOf b)).length = if b < 0x80 then 1 else 2 := by
  have hlt := b.toNat_lt
  have hv : (charOf b).val.toNat = b.toNat := charOf_toNat b
  rw [String.length_utf8EncodeChar]
  simp only [Char.utf8Size, UInt32.le_iff_toNat_le, hv, UInt8.lt_iff_toNat_lt]
  by_cases h : b.toNat ≤ 127
  · simp [h, show b.toNat < 128 by omega]
  · simp [h, show ¬ b.toNat < 128 by omega, show b.toNat ≤ 2047 by omega]

theorem encode_charOf_ascii {byte} (h : byte < 0x80) : String.utf8EncodeChar (charOf byte) = [byte] := by
  have hv : (charOf byte).val.toNat = byte.toNat := charOf_toNat byte
  have hlt : byte.toNat < 128 := UInt8.lt_iff_toNat_lt.1 h
  simp [String.utf8EncodeChar, hv, show ¬ 127 < byte.toNat by omega]

theorem encode_ofLatin1_of_isAscii (h : isAscii bt = true) : encode (ofLatin1 bt) = bt := by
  induction bt with
  | nil => rfl
  | cons b bt ih =>
    simp only [isAscii, List.all_cons, Bool.and_eq_true, decide_eq_true_eq] at h
    rw [ofLatin1, List.map_cons, encode_cons, encode_charOf_ascii h.1]
    exact congrArg (b :: ·) (ih h.2)

theorem length_le_encode_ofLatin1 (bt) : bt.length ≤ (encode (ofLatin1 bt)).length := by
  induction bt with
  | nil => simp
  | cons b bt ih =>
    rw [ofLatin1, List.map_cons, encode_cons, List.length_append, length_encode_charOf]
    have ih' : bt.length ≤ (encode (List.map charOf bt)).length := ih
    simp only [List.length_cons]
    split <;> omega

/-- The UTF-8 form is as long as the Latin-1 form only for ASCII. -/
theorem isAscii_of_length (h : (encode (ofLatin1 bt)).length = bt.length) : isAscii bt = true := by
  induction bt with
  | nil => rfl
  | cons b bt ih =>
    have hr := length_le_encode_ofLatin1 bt
    rw [ofLatin1, List.map_cons, encode_cons, List.length_append, length_encode_charOf] at h
    simp only [List.length_cons] at h
    change (if b < 0x80 then 1 else 2) + (encode (ofLatin1 bt)).length = bt.length + 1 at h
    by_cases hb : b < 0x80
    · rw [if_pos hb] at h
      have hby := ih (by omega)
      simp only [isAscii, List.all_cons, Bool.and_eq_true, decide_eq_true_eq]
      exact ⟨hb, hby⟩
    · rw [if_neg hb] at h
      omega

theorem ofLatin1_injective : Function.Injective ofLatin1 := by
  apply List.map_injective_iff.2
  intro a b h
  have ht : a.toNat = b.toNat := by rw [← charOf_toNat a, h, charOf_toNat]
  exact UInt8.toNat_inj.1 ht

/-- The UTF-8 form is ASCII exactly when the Latin-1 form is. -/
theorem isAscii_encode_ofLatin1 (bt) : isAscii (encode (ofLatin1 bt)) = isAscii bt := by
  rw [Bool.eq_iff_iff]
  constructor
  · intro h
    have hs : encode (ofLatin1 (encode (ofLatin1 bt))) = encode (ofLatin1 bt) :=
      encode_ofLatin1_of_isAscii h
    have ht : ofLatin1 (encode (ofLatin1 bt)) = ofLatin1 bt := by
      have hd := congrArg decode? hs
      rw [decode?_encode, decode?_encode] at hd
      exact Option.some.inj hd
    rwa [ofLatin1_injective ht] at h
  · intro h
    rwa [encode_ofLatin1_of_isAscii h]

end Lib.Utf8
