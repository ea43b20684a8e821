import Mathlib.Data.List.Lex
import SignOn.Text.Blank

/-! # The order of bytes

A text is told by its bytes (`bytes_injective`). Texts are compared by the code points of their
characters. That is the order of their bytes (`Text.lt_iff_bytes_lt`): a character with a larger
code point has more bytes, or as many of which the first that differs is larger. -/

namespace SignOn.Text

/-- The bytes of a text. -/
def bytes (s : String) : List UInt8 := s.toUTF8.data.toList

theorem length_bytes (s : String) : (bytes s).length = s.utf8ByteSize := Array.length_toList

theorem bytes_eq_flatMap (s : String) : bytes s = s.toList.flatMap String.utf8EncodeChar := by
  rw [bytes, String.toUTF8, ← String.utf8Encode_toList, List.utf8Encode]
  exact List.toList_data_toByteArray

theorem toList_loop (bs : ByteArray) (i : Nat) (row : List UInt8) :
    ByteArray.toList.loop bs i row = row.reverse ++ bs.data.toList.drop i := by
  fun_induction ByteArray.toList.loop bs i row with
  | case1 i row h ih =>
    have hi : i < bs.data.toList.length := by simpa using h
    rw [ih, List.drop_eq_getElem_cons hi, List.reverse_cons, List.append_assoc,
      List.singleton_append]
    congr
    simp [ByteArray.get!, h]
  | case2 i row h => rw [List.drop_eq_nil_of_le (by simpa using h), List.append_nil]

theorem toList_toUTF8 (s : String) : s.toUTF8.toList = bytes s := by
  rw [ByteArray.toList, toList_loop, List.reverse_nil, List.nil_append, List.drop_zero, bytes]

theorem bytes_injective : Function.Injective bytes := fun _ _ h =>
  String.toByteArray_inj.mp (ByteArray.ext (Array.toList_inj.mp h))

/-- The bytes of a character: its code point in digits to the base 64, the number of bytes in front
of the first digit. -/
theorem utf8EncodeChar_cases (c : Char) :
    (c.toNat < 128 ∧ String.utf8EncodeChar c = [.ofNat c.toNat]) ∨
    (∃ i j, 2 ≤ i ∧ i < 32 ∧ j < 64 ∧ c.toNat = 64 * i + j ∧
      String.utf8EncodeChar c = [.ofNat (i + 192), .ofNat (j + 128)]) ∨
    (∃ i j k, i < 16 ∧ j < 64 ∧ k < 64 ∧ 2048 ≤ c.toNat ∧ c.toNat = 4096 * i + 64 * j + k ∧
      String.utf8EncodeChar c = [.ofNat (i + 224), .ofNat (j + 128), .ofNat (k + 128)]) ∨
    ∃ i j k l, i < 8 ∧ j < 64 ∧ k < 64 ∧ l < 64 ∧ 65536 ≤ c.toNat ∧
      c.toNat = 262144 * i + 4096 * j + 64 * k + l ∧
      String.utf8EncodeChar c = [.ofNat (i + 240), .ofNat (j + 128), .ofNat (k + 128),
        .ofNat (l + 128)] := by
  have hvalid : c.toNat < 1114112 :=
    c.valid.elim (fun h => by unfold Char.toNat; omega) (fun h => h.2)
  have hc : c.toNat = c.val.toNat := rfl
  simp only [String.utf8EncodeChar, ← hc]
  split
  · exact .inl ⟨by omega, rfl⟩
  · split
    · exact .inr (.inl ⟨c.toNat / 64 % 32, c.toNat % 64, by omega, by omega, by omega,
        by omega, rfl⟩)
    · split
      · exact .inr (.inr (.inl ⟨c.toNat / 4096 % 16, c.toNat / 64 % 64, c.toNat % 64,
          by omega, by omega, by omega, by omega, by omega, rfl⟩))
      · exact .inr (.inr (.inr ⟨c.toNat / 262144 % 8, c.toNat / 4096 % 64, c.toNat / 64 % 64,
          c.toNat % 64, by omega, by omega, by omega, by omega, by omega, by omega, rfl⟩))

/-- A smaller character has smaller bytes, whatever follows. -/
theorem utf8EncodeChar_append_lt {c d : Char} (h : c < d) (u v : List UInt8) :
    String.utf8EncodeChar c ++ u < String.utf8EncodeChar d ++ v := by
  have hlt : c.toNat < d.toNat := h
  -- of two characters with as many bytes the digits are compared in turn, and else the first byte
  -- decides
  rcases utf8EncodeChar_cases c with ⟨hc, hcb⟩ | ⟨i, j, hi, hi', hj, hc, hcb⟩ |
      ⟨i, j, k, hi, hj, hk, hl, hc, hcb⟩ | ⟨i, j, k, l, hi, hj, hk, hl, hlow, hc, hcb⟩ <;>
    rcases utf8EncodeChar_cases d with ⟨hd, hdb⟩ | ⟨p, q, hp, hp', hq, hd, hdb⟩ |
      ⟨p, q, r, hp, hq, hr, hlow', hd, hdb⟩ | ⟨p, q, r, s, hp, hq, hr, hs, hlow', hd, hdb⟩ <;>
    simp only [hcb, hdb, List.cons_append, List.nil_append, List.cons_lt_cons_iff,
      UInt8.lt_iff_toNat_lt, ← UInt8.toNat_inj, UInt8.toNat_ofNat'] <;>
    omega

theorem bytes_lt_of_lt {s t : String} (h : s < t) : bytes s < bytes t := by
  rw [bytes_eq_flatMap, bytes_eq_flatMap]
  have hlex : s.toList < t.toList := h
  generalize s.toList = cs at hlex ⊢
  generalize t.toList = ds at hlex ⊢
  induction hlex with
  | nil =>
    obtain ⟨b, bs, hbytes⟩ := List.exists_cons_of_ne_nil String.utf8EncodeChar_ne_nil
    rw [List.flatMap_nil, List.flatMap_cons, hbytes]
    exact List.nil_lt_cons _ _
  | cons h ih =>
    rw [List.flatMap_cons, List.flatMap_cons]
    exact List.append_left_lt ih
  | rel h =>
    rw [List.flatMap_cons, List.flatMap_cons]
    exact utf8EncodeChar_append_lt h _ _

/-- **The order of texts is the order of their bytes.** -/
theorem lt_iff_bytes_lt {s t : String} : s < t ↔ bytes s < bytes t := by
  refine ⟨bytes_lt_of_lt, fun h => ?_⟩
  by_contra hnot
  rcases eq_or_ne s t with rfl | hne
  · exact List.lt_irrefl _ h
  · have hts : t < s := Std.lt_of_le_of_ne (String.not_lt.mp hnot) hne.symm
    exact List.lt_asymm h (bytes_lt_of_lt hts)

end SignOn.Text
