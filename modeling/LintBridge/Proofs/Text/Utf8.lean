import Mathlib.Data.List.Basic
import LintBridge.Text.Utf8

/-!
# Reading back the bytes of a text

A code point is written in base 64, with a lead byte whose range tells how many bytes follow. The
reader takes the bytes apart again by the range of the lead byte (`Utf8.decodeHead_two`,
`Utf8.decodeHead_three`, `Utf8.decodeHead_four`). The narrower ranges of the second byte, by which
it refuses overlong forms, surrogates and what lies beyond the last code point, leave out nothing
that a character is written with.

## Main results

* `Utf8.decodeHead_encode` — the character at the head is read and nothing after it is touched.
* `Utf8.decode?_encode` — the bytes of a text denote that text.
* `Utf8.mem_encode_iff` — a byte of ASCII is written for its own character only.
-/

namespace LintBridge

namespace Utf8

variable {n : Nat} {b c d e : UInt8} {bs : Bytes}

/-! ### Ranges of bytes -/

theorem inRange_eq (first last : UInt8) :
    (first ≤ b && b ≤ last) = decide (first.toNat ≤ b.toNat ∧ b.toNat ≤ last.toNat) := by
  simp only [UInt8.le_iff_toNat_le, Bool.decide_and]

theorem inRange {first last : UInt8} (h : first.toNat ≤ b.toNat) (h' : b.toNat ≤ last.toNat) :
    (first ≤ b && b ≤ last) = true :=
  (inRange_eq first last).trans (decide_eq_true ⟨h, h'⟩)

theorem not_inRange {first last : UInt8} (h : last.toNat < b.toNat) :
    (first ≤ b && b ≤ last) = false :=
  (inRange_eq first last).trans (decide_eq_false fun hb => Nat.not_lt.mpr hb.2 h)

theorem not_ascii (h : 128 ≤ b.toNat) : ¬ b < 0x80 := by
  rw [UInt8.lt_iff_toNat_lt]
  exact Nat.not_lt.mpr h

/-- A tail byte may follow a lead byte, but for the overlong forms, the surrogates and what lies
beyond the last code point. -/
theorem isSecond_of_toNat (hc : 128 ≤ c.toNat) (hc' : c.toNat ≤ 191)
    (overlong₃ : b.toNat = 224 → 160 ≤ c.toNat) (surrogate : b.toNat = 237 → c.toNat ≤ 159)
    (overlong₄ : b.toNat = 240 → 144 ≤ c.toNat) (beyond : b.toNat = 244 → c.toNat ≤ 143) :
    isSecond b c = true := by
  simp only [isSecond, isTail, inRange_eq, ← UInt8.toNat_inj]
  split
  · next h => exact decide_eq_true ⟨overlong₃ h, hc'⟩
  split
  · next h => exact decide_eq_true ⟨hc, surrogate h⟩
  split
  · next h => exact decide_eq_true ⟨overlong₄ h, hc'⟩
  split
  · next h => exact decide_eq_true ⟨hc, beyond h⟩
  · exact decide_eq_true ⟨hc, hc'⟩

/-! ### The reader, by the range of the lead byte -/

theorem decodeHead_one (h : b.toNat < 128) : decodeHead b bs = (some (Char.ofNat b.toNat), bs) := by
  have hlead : b < 0x80 := UInt8.lt_iff_toNat_lt.mpr h
  rw [decodeHead.eq_def, if_pos hlead]

theorem decodeHead_two (h : 194 ≤ b.toNat) (h' : b.toNat ≤ 223) (hc : isTail c = true) :
    decodeHead b (c :: bs) = (some (Char.ofNat (b.toNat % 32 * 64 + tailBits c)), bs) := by
  have htwo : (0xC2 ≤ b && b ≤ 0xDF) = true := inRange h h'
  rw [decodeHead.eq_def, if_neg (not_ascii (by omega)), if_pos htwo]
  simp only [hc, if_true]

theorem decodeHead_three (h : 224 ≤ b.toNat) (h' : b.toNat ≤ 239) (hc : isSecond b c = true)
    (hd : isTail d = true) :
    decodeHead b (c :: d :: bs) =
      (some (Char.ofNat ((b.toNat % 16 * 64 + tailBits c) * 64 + tailBits d)), bs) := by
  have htwo : (0xC2 ≤ b && b ≤ 0xDF) = false := not_inRange (Nat.lt_of_lt_of_le (by decide) h)
  have hthree : (0xE0 ≤ b && b ≤ 0xEF) = true := inRange h h'
  rw [decodeHead.eq_def, if_neg (not_ascii (by omega)), htwo, if_neg Bool.false_ne_true,
    if_pos hthree]
  simp only [hc, hd, if_true]

theorem decodeHead_four (h : 240 ≤ b.toNat) (h' : b.toNat ≤ 244) (hc : isSecond b c = true)
    (hd : isTail d = true) (he : isTail e = true) :
    decodeHead b (c :: d :: e :: bs) =
      (some (Char.ofNat
        (((b.toNat % 8 * 64 + tailBits c) * 64 + tailBits d) * 64 + tailBits e)), bs) := by
  have htwo : (0xC2 ≤ b && b ≤ 0xDF) = false := not_inRange (Nat.lt_of_lt_of_le (by decide) h)
  have hthree : (0xE0 ≤ b && b ≤ 0xEF) = false := not_inRange (Nat.lt_of_lt_of_le (by decide) h)
  have hfour : (0xF0 ≤ b && b ≤ 0xF4) = true := inRange h h'
  rw [decodeHead.eq_def, if_neg (not_ascii (by omega)), htwo, hthree, if_neg Bool.false_ne_true,
    if_neg Bool.false_ne_true, if_pos hfour]
  simp only [hc, hd, he, if_true]

/-! ### The bytes that are written -/

theorem toNat_ofNat_of_lt (h : n < 256) : (UInt8.ofNat n).toNat = n :=
  UInt8.toNat_ofNat_of_lt' h

theorem toNat_tail : (UInt8.ofNat (n % 64 + 128)).toNat = n % 64 + 128 :=
  toNat_ofNat_of_lt (by omega)

theorem isTail_tail : isTail (UInt8.ofNat (n % 64 + 128)) = true := by
  rw [isTail, inRange_eq, toNat_tail]
  exact decide_eq_true ⟨Nat.le_add_left _ _, by simp only [UInt8.reduceToNat]; omega⟩

theorem tailBits_tail : tailBits (UInt8.ofNat (n % 64 + 128)) = n % 64 := by
  rw [tailBits, toNat_tail]
  omega

/-- The bytes of a character, by its code point. -/
theorem utf8EncodeChar_eq (c : Char) :
    String.utf8EncodeChar c =
      if c.toNat ≤ 127 then [UInt8.ofNat c.toNat]
      else if c.toNat ≤ 2047 then
        [UInt8.ofNat (c.toNat / 64 % 32 + 192), UInt8.ofNat (c.toNat % 64 + 128)]
      else if c.toNat ≤ 65535 then
        [UInt8.ofNat (c.toNat / 4096 % 16 + 224), UInt8.ofNat (c.toNat / 64 % 64 + 128),
          UInt8.ofNat (c.toNat % 64 + 128)]
      else
        [UInt8.ofNat (c.toNat / 262144 % 8 + 240), UInt8.ofNat (c.toNat / 4096 % 64 + 128),
          UInt8.ofNat (c.toNat / 64 % 64 + 128), UInt8.ofNat (c.toNat % 64 + 128)] :=
  rfl

theorem toNat_valid (c : Char) : c.toNat < 0xD800 ∨ 0xDFFF < c.toNat ∧ c.toNat < 0x110000 :=
  c.valid

/-- **The character at the head is read, and nothing after it is touched.** -/
theorem decodeHead_encode (c : Char) (rest : Bytes) :
    ∃ b bs, String.utf8EncodeChar c = b :: bs ∧ decodeHead b (bs ++ rest) = (some c, rest) := by
  have hvalid := toNat_valid c
  have hback {m : Nat} (h : m = c.toNat) : (some (Char.ofNat m), rest) = (some c, rest) := by
    rw [h, Char.ofNat_toNat]
  rw [utf8EncodeChar_eq]
  split
  · next h =>
    have hlead := toNat_ofNat_of_lt (n := c.toNat) (by omega)
    exact ⟨_, _, rfl, (decodeHead_one (by omega)).trans (hback hlead)⟩
  split
  · next h h' =>
    have hlead := toNat_ofNat_of_lt (n := c.toNat / 64 % 32 + 192) (by omega)
    refine ⟨_, _, rfl, (decodeHead_two (by omega) (by omega) isTail_tail).trans (hback ?_)⟩
    rw [hlead, tailBits_tail]
    omega
  split
  · next h h' h'' =>
    have hlead := toNat_ofNat_of_lt (n := c.toNat / 4096 % 16 + 224) (by omega)
    have hsecond := toNat_tail (n := c.toNat / 64)
    have hisSecond : isSecond (UInt8.ofNat (c.toNat / 4096 % 16 + 224))
        (UInt8.ofNat (c.toNat / 64 % 64 + 128)) = true :=
      isSecond_of_toNat (by omega) (by omega) (by omega) (by omega) (by omega) (by omega)
    refine ⟨_, _, rfl,
      (decodeHead_three (by omega) (by omega) hisSecond isTail_tail).trans (hback ?_)⟩
    rw [hlead, tailBits_tail, tailBits_tail]
    omega
  · next h h' h'' =>
    have hlead := toNat_ofNat_of_lt (n := c.toNat / 262144 % 8 + 240) (by omega)
    have hsecond := toNat_tail (n := c.toNat / 4096)
    have hisSecond : isSecond (UInt8.ofNat (c.toNat / 262144 % 8 + 240))
        (UInt8.ofNat (c.toNat / 4096 % 64 + 128)) = true :=
      isSecond_of_toNat (by omega) (by omega) (by omega) (by omega) (by omega) (by omega)
    refine ⟨_, _, rfl,
      (decodeHead_four (by omega) (by omega) hisSecond isTail_tail isTail_tail).trans (hback ?_)⟩
    rw [hlead, tailBits_tail, tailBits_tail, tailBits_tail]
    omega

/-! ### Texts -/

theorem decodeAll_encode (acc : List (Option Char)) (cs : List Char) :
    decodeAll acc (cs.flatMap String.utf8EncodeChar) = acc.reverse ++ cs.map some := by
  induction cs generalizing acc with
  | nil => rw [List.flatMap_nil, decodeAll, List.map_nil, List.append_nil]
  | cons c cs ih =>
    obtain ⟨b, bs, hbytes, hhead⟩ := decodeHead_encode c (cs.flatMap String.utf8EncodeChar)
    rw [List.flatMap_cons, hbytes, List.cons_append, decodeAll, hhead, ih, List.reverse_cons,
      List.append_assoc]
    rfl

/-- What was read before does not matter. -/
theorem decodeAll_append (acc before : List (Option Char)) (bs : Bytes) :
    decodeAll (acc ++ before) bs = before.reverse ++ decodeAll acc bs := by
  fun_induction decodeAll acc bs with
  | case1 acc => rw [decodeAll, List.reverse_append]
  | case2 acc b bs head ih =>
    rw [decodeAll]
    exact ih

/-- A byte of ASCII at the beginning is read as its character. -/
theorem lossy_cons_of_ascii (h : b.toNat < 128) :
    (lossy (b :: bs)).toList = Char.ofNat b.toNat :: (lossy bs).toList := by
  rw [lossy, lossy, String.toList_ofList, String.toList_ofList, decodeAll, decodeHead_one h]
  exact congrArg (List.map _) (decodeAll_append [] [_] bs)

theorem mapM_some {α : Type} (l : List α) : (l.map some).mapM id = some l := by
  induction l with
  | nil => rfl
  | cons a l ih => simp [ih]

/-- **The bytes of a text denote that text**, and none of them is broken. -/
theorem decode?_encode (s : String) : decode? (encode s) = some s := by
  rw [decode?, encode, decodeAll_encode, List.reverse_nil, List.nil_append, mapM_some,
    Option.map_some, String.ofList_toList]

theorem encode_append (s t : String) : encode (s ++ t) = encode s ++ encode t := by
  rw [encode, String.toList_append, List.flatMap_append]
  rfl

theorem encode_inj {s t : String} : encode s = encode t ↔ s = t := by
  refine ⟨fun h => ?_, congrArg encode⟩
  have hdecode := congrArg decode? h
  rw [decode?_encode, decode?_encode] at hdecode
  exact Option.some.inj hdecode

/-! ### Bytes of ASCII -/

theorem mem_utf8EncodeChar_iff {x : Char} (hb : b.toNat < 128) :
    b ∈ String.utf8EncodeChar x ↔ x.toNat = b.toNat := by
  have hvalid := toNat_valid x
  have hne {n : Nat} (h : 128 ≤ n) (h' : n < 256) : b ≠ UInt8.ofNat n := by
    rintro rfl
    rw [toNat_ofNat_of_lt h'] at hb
    omega
  rw [utf8EncodeChar_eq]
  split_ifs with h₁ h₂ h₃
  · rw [List.mem_singleton, ← UInt8.toNat_inj, toNat_ofNat_of_lt (by omega), eq_comm]
  all_goals
    refine iff_of_false ?_ (by omega)
    simp only [List.mem_cons, List.not_mem_nil, or_false, not_or]
    and_intros <;> exact hne (by omega) (by omega)

/-- **A byte of ASCII is written for its own character only**, not within any other. -/
theorem mem_encode_iff {s : String} (hb : b.toNat < 128) :
    b ∈ encode s ↔ ∃ c ∈ s.toList, c.toNat = b.toNat := by
  simp only [encode, List.mem_flatMap, mem_utf8EncodeChar_iff hb]

end Utf8

end LintBridge
