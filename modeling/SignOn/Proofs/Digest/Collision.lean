import Mathlib.Data.List.Nodup
import SignOn.Digest.Base64
import SignOn.Digest.Sha256

/-! # Byte strings with the same written digest

Six bits make a letter, and different six bits make different letters (`base64Letter_eq_iff`), so a
byte string is told by its text (`base64_injective`): what two byte strings whose digests are
written alike have in common is the digest itself. They are the same byte string, or they collide
(`base64_sha256_eq_iff`). -/

namespace SignOn.Digest

/-- Different byte strings with the same digest. -/
def Collide (x y : List UInt8) : Prop := x ≠ y ∧ sha256 x = sha256 y

variable {m n : Nat} {xs ys x y : List UInt8}

theorem base64Letters_nodup : base64Letters.toList.Nodup := by decide +kernel

theorem base64Letter_eq_iff : base64Letter m = base64Letter n ↔ m % 64 = n % 64 := by
  have hsize : base64Letters.toList.length = 64 := rfl
  have hm : m % 64 < base64Letters.toList.length := by omega
  have hn : n % 64 < base64Letters.toList.length := by omega
  have hletter (k : Nat) (hk : k % 64 < base64Letters.toList.length) :
      base64Letter k = base64Letters.toList[k % 64] := by
    rw [base64Letter, getElem!_pos base64Letters _ (by simpa using hk), Array.getElem_toList]
  rw [hletter m hm, hletter n hn, base64Letters_nodup.getElem_inj_iff]

theorem base64Chars_injective (h : base64Chars xs = base64Chars ys) : xs = ys := by
  -- the number of letters tells how many bytes are left, and their six bits tell the bytes
  induction xs using base64Chars.induct generalizing ys with
  | case1 a b c rest ih =>
    fun_cases base64Chars ys with
    | case1 a' b' c' rest' =>
      simp only [base64Chars, List.cons.injEq, base64Letter_eq_iff] at h
      obtain ⟨h₁, h₂, h₃, h₄, hrest⟩ := h
      have := a.toNat_lt
      have := b.toNat_lt
      have := c.toNat_lt
      have := a'.toNat_lt
      have := b'.toNat_lt
      have := c'.toNat_lt
      have ha : a = a' := UInt8.toNat_inj.mp (by omega)
      have hb : b = b' := UInt8.toNat_inj.mp (by omega)
      have hc : c = c' := UInt8.toNat_inj.mp (by omega)
      rw [ha, hb, hc, ih hrest]
    | case2 | case3 | case4 => simp [base64Chars] at h
  | case2 a b =>
    fun_cases base64Chars ys with
    | case2 a' b' =>
      simp only [base64Chars, List.cons.injEq, base64Letter_eq_iff, and_true] at h
      obtain ⟨h₁, h₂, h₃⟩ := h
      have := a.toNat_lt
      have := b.toNat_lt
      have := a'.toNat_lt
      have := b'.toNat_lt
      have ha : a = a' := UInt8.toNat_inj.mp (by omega)
      have hb : b = b' := UInt8.toNat_inj.mp (by omega)
      rw [ha, hb]
    | case1 | case3 | case4 => simp [base64Chars] at h
  | case3 a =>
    fun_cases base64Chars ys with
    | case3 a' =>
      simp only [base64Chars, List.cons.injEq, base64Letter_eq_iff, and_true] at h
      obtain ⟨h₁, h₂⟩ := h
      have := a.toNat_lt
      have := a'.toNat_lt
      have ha : a = a' := UInt8.toNat_inj.mp (by omega)
      rw [ha]
    | case1 | case2 | case4 => simp [base64Chars] at h
  | case4 =>
    fun_cases base64Chars ys with
    | case4 => rfl
    | case1 | case2 | case3 => simp [base64Chars] at h

theorem base64_injective : Function.Injective base64 :=
  fun _ _ h => base64Chars_injective (String.ofList_injective h)

/-- **Digests are written alike just of the same byte string or of two that collide.** -/
theorem base64_sha256_eq_iff : base64 (sha256 x) = base64 (sha256 y) ↔ x = y ∨ Collide x y := by
  rw [base64_injective.eq_iff, Collide]
  constructor
  · intro h
    by_cases heq : x = y
    · exact .inl heq
    · exact .inr ⟨heq, h⟩
  · rintro (rfl | ⟨-, h⟩)
    · rfl
    · exact h

end SignOn.Digest
