-- `Char.toNat_ofNat` comes with the whole of Mathlib only, through Batteries.
import Mathlib
import NativeBindings.Proofs.Steps
import NativeBindings.Utf8

/-!
# Which bytes are text

The decoder takes one byte at a time. It finds no stray piece exactly if the bytes are the encoding
of a text, and it gives that text back.
-/

namespace NativeBindings.Utf8

/-! ### The bytes of one character -/

/-- A character of one byte. -/
theorem utf8EncodeChar_one {n : Nat} (hn : n < 0x80) :
    String.utf8EncodeChar (Char.ofNat n) = [.ofNat n] := by
  have hcode : (Char.ofNat n).toNat = n := by
    rw [Char.toNat_ofNat, if_pos (Or.inl (by omega))]
  simp only [String.utf8EncodeChar, Char.toNat_val, hcode]
  rw [if_pos (by omega)]

/-- A character of two bytes, by the bits in them. -/
theorem utf8EncodeChar_two {m n : Nat} (hfirst : 2 ≤ m) (hm : m < 32) (hn : n < 64) :
    String.utf8EncodeChar (Char.ofNat (m * 64 + n)) = [.ofNat (m + 0xC0), .ofNat (n + 0x80)] := by
  have hcode : (Char.ofNat (m * 64 + n)).toNat = m * 64 + n := by
    rw [Char.toNat_ofNat, if_pos (Or.inl (by omega))]
  have hm' : (m * 64 + n) / 64 % 32 = m := by omega
  have hn' : (m * 64 + n) % 64 = n := by omega
  simp only [String.utf8EncodeChar, Char.toNat_val, hcode, hm', hn']
  rw [if_neg (by omega), if_pos (by omega)]

/-- A character of three bytes, by the bits in them. Two bytes are not enough for it, and it is no
surrogate. -/
theorem utf8EncodeChar_three {l m n : Nat} (hl : l < 16) (hm : m < 64) (hn : n < 64)
    (hfirst : l = 0 → 0xA0 ≤ m + 0x80) (hsurrogate : l = 13 → m + 0x80 ≤ 0x9F) :
    String.utf8EncodeChar (Char.ofNat ((l * 64 + m) * 64 + n)) =
      [.ofNat (l + 0xE0), .ofNat (m + 0x80), .ofNat (n + 0x80)] := by
  have hcode : (Char.ofNat ((l * 64 + m) * 64 + n)).toNat = (l * 64 + m) * 64 + n := by
    rw [Char.toNat_ofNat, if_pos (by unfold Nat.isValidChar; omega)]
  have hl' : ((l * 64 + m) * 64 + n) / 4096 % 16 = l := by omega
  have hm' : ((l * 64 + m) * 64 + n) / 64 % 64 = m := by omega
  have hn' : ((l * 64 + m) * 64 + n) % 64 = n := by omega
  simp only [String.utf8EncodeChar, Char.toNat_val, hcode, hl', hm', hn']
  rw [if_neg (by omega), if_neg (by omega), if_pos (by omega)]

/-- A character of four bytes, by the bits in them. Three bytes are not enough for it, and it is
not beyond the last one. -/
theorem utf8EncodeChar_four {k l m n : Nat} (hk : k < 5) (hl : l < 64) (hm : m < 64) (hn : n < 64)
    (hfirst : k = 0 → 0x90 ≤ l + 0x80) (hlast : k = 4 → l + 0x80 ≤ 0x8F) :
    String.utf8EncodeChar (Char.ofNat (((k * 64 + l) * 64 + m) * 64 + n)) =
      [.ofNat (k + 0xF0), .ofNat (l + 0x80), .ofNat (m + 0x80), .ofNat (n + 0x80)] := by
  have hcode : (Char.ofNat (((k * 64 + l) * 64 + m) * 64 + n)).toNat =
      ((k * 64 + l) * 64 + m) * 64 + n := by
    rw [Char.toNat_ofNat, if_pos (by unfold Nat.isValidChar; omega)]
  have hk' : (((k * 64 + l) * 64 + m) * 64 + n) / 262144 % 8 = k := by omega
  have hl' : (((k * 64 + l) * 64 + m) * 64 + n) / 4096 % 64 = l := by omega
  have hm' : (((k * 64 + l) * 64 + m) * 64 + n) / 64 % 64 = m := by omega
  have hn' : (((k * 64 + l) * 64 + m) * 64 + n) % 64 = n := by omega
  simp only [String.utf8EncodeChar, Char.toNat_val, hcode, hk', hl', hm', hn']
  rw [if_neg (by omega), if_neg (by omega), if_neg (by omega)]

/-- Every character has the bits of one to four bytes. -/
theorem exists_bits (c : Char) :
    (∃ n < 0x80, c = Char.ofNat n) ∨
    (∃ m n, c = Char.ofNat (m * 64 + n) ∧ 2 ≤ m ∧ m < 32 ∧ n < 64) ∨
    (∃ l m n, c = Char.ofNat ((l * 64 + m) * 64 + n) ∧ l < 16 ∧ m < 64 ∧ n < 64 ∧
      (l = 0 → 0xA0 ≤ m + 0x80) ∧ (l = 13 → m + 0x80 ≤ 0x9F)) ∨
    ∃ k l m n, c = Char.ofNat (((k * 64 + l) * 64 + m) * 64 + n) ∧ k < 5 ∧ l < 64 ∧ m < 64 ∧
      n < 64 ∧ (k = 0 → 0x90 ≤ l + 0x80) ∧ (k = 4 → l + 0x80 ≤ 0x8F) := by
  have hvalid : c.toNat < 0xD800 ∨ 0xDFFF < c.toNat ∧ c.toNat < 0x110000 := c.valid
  have hcode : ∀ {code}, code = c.toNat → c = Char.ofNat code := by
    rintro _ rfl
    exact (Char.ofNat_toNat c).symm
  by_cases h₁ : c.toNat < 0x80
  · exact Or.inl ⟨c.toNat, h₁, hcode rfl⟩
  by_cases h₂ : c.toNat < 0x800
  · refine Or.inr (Or.inl ⟨c.toNat / 64, c.toNat % 64, hcode (by omega), ?_⟩)
    omega
  by_cases h₃ : c.toNat < 0x10000
  · refine Or.inr (Or.inr (Or.inl
      ⟨c.toNat / 4096, c.toNat / 64 % 64, c.toNat % 64, hcode (by omega), ?_⟩))
    omega
  · refine Or.inr (Or.inr (Or.inr ⟨c.toNat / 262144, c.toNat / 4096 % 64, c.toNat / 64 % 64,
      c.toNat % 64, hcode (by omega), ?_⟩))
    omega

/-! ### How a sequence begins -/

/-- A byte that is a character by itself. -/
theorem start_one : ∀ n < 0x80, start (.ofNat n) = ([.char (Char.ofNat n)], none) := by
  decide +kernel

/-- The first of two bytes. -/
theorem start_two : ∀ m < 32, 2 ≤ m →
    start (.ofNat (m + 0xC0)) = ([], some ⟨1, 0x80, 0xBF, m, 1⟩) := by
  decide +kernel

/-- The first of three bytes. -/
theorem start_three : ∀ l < 16, start (.ofNat (l + 0xE0)) =
    ([], some ⟨2, if l = 0 then 0xA0 else 0x80, if l = 13 then 0x9F else 0xBF, l, 1⟩) := by
  decide +kernel

/-- The first of four bytes. -/
theorem start_four : ∀ k < 5, start (.ofNat (k + 0xF0)) =
    ([], some ⟨3, if k = 0 then 0x90 else 0x80, if k = 4 then 0x8F else 0xBF, k, 1⟩) := by
  decide +kernel

/-- A byte that no sequence begins with. -/
theorem start_stray : ∀ n < 0x100, 0x80 ≤ n ∧ n < 0xC2 ∨ 0xF5 ≤ n →
    start (.ofNat n) = ([.stray 1 false], none) := by
  decide +kernel

/-- A byte is a character, begins a sequence, or is stray. -/
theorem start_cases (b : UInt8) :
    (∃ n < 0x80, b = .ofNat n) ∨ (∃ m < 32, 2 ≤ m ∧ b = .ofNat (m + 0xC0)) ∨
      (∃ l < 16, b = .ofNat (l + 0xE0)) ∨ (∃ k < 5, b = .ofNat (k + 0xF0)) ∨
      start b = ([.stray 1 false], none) := by
  have hlt : b.toNat < 0x100 := b.toNat_lt
  have hbyte : ∀ {lead}, lead ≤ b.toNat → b = .ofNat (b.toNat - lead + lead) := by
    intro lead hlead
    rw [Nat.sub_add_cancel hlead, UInt8.ofNat_toNat]
  by_cases h₁ : b.toNat < 0x80
  · exact Or.inl ⟨b.toNat, h₁, UInt8.ofNat_toNat.symm⟩
  by_cases h₂ : 0xC2 ≤ b.toNat ∧ b.toNat < 0xE0
  · exact Or.inr (Or.inl ⟨b.toNat - 0xC0, by omega, by omega, hbyte (by omega)⟩)
  by_cases h₃ : 0xE0 ≤ b.toNat ∧ b.toNat < 0xF0
  · exact Or.inr (Or.inr (Or.inl ⟨b.toNat - 0xE0, by omega, hbyte (by omega)⟩))
  by_cases h₄ : 0xF0 ≤ b.toNat ∧ b.toNat < 0xF5
  · exact Or.inr (Or.inr (Or.inr (Or.inl ⟨b.toNat - 0xF0, by omega, hbyte (by omega)⟩)))
  · have hstray := start_stray b.toNat hlt (by omega)
    rw [UInt8.ofNat_toNat] at hstray
    exact Or.inr (Or.inr (Or.inr (Or.inr hstray)))

/-! ### How a sequence goes on -/

section

variable {low high : UInt8} {bits seen n : Nat} (hn : n < 64) (hlow : low.toNat ≤ n + 0x80)
    (hhigh : n + 0x80 ≤ high.toNat)

include hn hlow hhigh

/-- A further byte in the range that is asked for adds six bits. -/
theorem decodeFrom_tail (missing : Nat) (rest : List UInt8) :
    decodeFrom (some ⟨missing, low, high, bits, seen⟩) (.ofNat (n + 0x80) :: rest) =
      if missing = 1 then .char (Char.ofNat (bits * 64 + n)) :: decodeFrom none rest
      else decodeFrom (some ⟨missing - 1, 0x80, 0xBF, bits * 64 + n, seen + 1⟩) rest := by
  have htoNat : (UInt8.ofNat (n + 0x80)).toNat = n + 0x80 := by
    rw [UInt8.toNat_ofNat_of_lt']
    exact Nat.lt_of_lt_of_le (Nat.add_lt_add_right hn 0x80) (by decide)
  have hrange : low ≤ .ofNat (n + 0x80) ∧ UInt8.ofNat (n + 0x80) ≤ high := by
    rw [UInt8.le_iff_toNat_le, UInt8.le_iff_toNat_le, htoNat]
    exact ⟨hlow, hhigh⟩
  rw [decodeFrom, step, if_pos hrange, htoNat, Nat.add_sub_cancel]
  dsimp only
  split
  · rfl
  · rfl

/-- The last byte of a sequence completes the character. -/
theorem decodeFrom_last (rest : List UInt8) :
    decodeFrom (some ⟨1, low, high, bits, seen⟩) (.ofNat (n + 0x80) :: rest) =
      .char (Char.ofNat (bits * 64 + n)) :: decodeFrom none rest := by
  rw [decodeFrom_tail hn hlow hhigh, if_pos rfl]

/-- Any other byte leaves one byte less missing. -/
theorem decodeFrom_more (missing : Nat) (rest : List UInt8) :
    decodeFrom (some ⟨missing + 2, low, high, bits, seen⟩) (.ofNat (n + 0x80) :: rest) =
      decodeFrom (some ⟨missing + 1, 0x80, 0xBF, bits * 64 + n, seen + 1⟩) rest := by
  rw [decodeFrom_tail hn hlow hhigh, if_neg (by omega), Nat.add_succ_sub_one]

end

/-- A sequence without a stray piece goes on with a byte in the range that is asked for. -/
theorem exists_tail {missing bits seen : Nat} {low high : UInt8} {bytes : List UInt8}
    {cs : List Char} (h : decodeFrom (some ⟨missing, low, high, bits, seen⟩) bytes = cs.map .char)
    (hlow : 0x80 ≤ low) (hhigh : high ≤ 0xBF) :
    ∃ n rest, bytes = .ofNat (n + 0x80) :: rest ∧ n < 64 ∧ low.toNat ≤ n + 0x80 ∧
      n + 0x80 ≤ high.toNat := by
  cases bytes with
  | nil => cases cs <;> simp [decodeFrom] at h
  | cons b rest =>
    by_cases hrange : low ≤ b ∧ b ≤ high
    · have hfirst : 0x80 ≤ b.toNat := UInt8.le_trans hlow hrange.1
      have hlast : b.toNat ≤ 0xBF := UInt8.le_trans hrange.2 hhigh
      refine ⟨b.toNat - 0x80, rest, ?_, by omega, ?_⟩
      · rw [Nat.sub_add_cancel hfirst, UInt8.ofNat_toNat]
      · rw [Nat.sub_add_cancel hfirst]
        exact hrange
    · rw [decodeFrom, step, if_neg hrange] at h
      cases cs <;> simp at h

section

variable {special : Prop} [Decidable special] {bound : UInt8} {n : Nat}

/-- A further byte is not below the lowest one. -/
theorem lowest_le : (0x80 : UInt8).toNat ≤ n + 0x80 :=
  Nat.le_add_left _ _

/-- A further byte is not above the highest one. -/
theorem le_highest (hn : n < 64) : n + 0x80 ≤ (0xBF : UInt8).toNat :=
  Nat.add_le_add_right (Nat.le_of_lt_succ hn) 0x80

/-- A higher lowest byte matters only where it is asked for. -/
theorem low_le_iff :
    (if special then bound else 0x80).toNat ≤ n + 0x80 ↔ (special → bound.toNat ≤ n + 0x80) := by
  split
  · next h => simp only [h, true_implies]
  · next h => simp only [h, lowest_le, false_implies]

/-- A lower highest byte matters only where it is asked for. -/
theorem le_high_iff (hn : n < 64) :
    n + 0x80 ≤ (if special then bound else 0xBF).toNat ↔ (special → n + 0x80 ≤ bound.toNat) := by
  split
  · next h => simp only [h, true_implies]
  · next h => simp only [h, le_highest hn, false_implies]

end

/-! ### Texts -/

/-- The first byte of a sequence begins it. -/
theorem decodeFrom_none (b : UInt8) (rest : List UInt8) :
    decodeFrom none (b :: rest) = (start b).1 ++ decodeFrom (start b).2 rest :=
  rfl

/-- The bytes of a character are decoded as that character. -/
theorem decodeFrom_utf8EncodeChar (c : Char) (rest : List UInt8) :
    decodeFrom none (String.utf8EncodeChar c ++ rest) = .char c :: decodeFrom none rest := by
  rcases exists_bits c with ⟨n, hn, rfl⟩ | ⟨m, n, rfl, hfirst, hm, hn⟩ |
    ⟨l, m, n, rfl, hl, hm, hn, hfirst, hsurrogate⟩ |
    ⟨k, l, m, n, rfl, hk, hl, hm, hn, hfirst, hlast⟩
  · rw [utf8EncodeChar_one hn, List.singleton_append, decodeFrom_none, start_one n hn]
    rfl
  · rw [utf8EncodeChar_two hfirst hm hn, List.cons_append, decodeFrom_none,
      start_two m hm hfirst, List.nil_append, List.singleton_append,
      decodeFrom_last hn lowest_le (le_highest hn)]
  · have hlow : (if l = 0 then 0xA0 else 0x80 : UInt8).toNat ≤ m + 0x80 := low_le_iff.mpr hfirst
    have hhigh : m + 0x80 ≤ (if l = 13 then 0x9F else 0xBF : UInt8).toNat :=
      (le_high_iff hm).mpr hsurrogate
    rw [utf8EncodeChar_three hl hm hn hfirst hsurrogate, List.cons_append, decodeFrom_none,
      start_three l hl, List.nil_append, List.cons_append, decodeFrom_more hm hlow hhigh,
      List.singleton_append, decodeFrom_last hn lowest_le (le_highest hn)]
  · have hlow : (if k = 0 then 0x90 else 0x80 : UInt8).toNat ≤ l + 0x80 := low_le_iff.mpr hfirst
    have hhigh : l + 0x80 ≤ (if k = 4 then 0x8F else 0xBF : UInt8).toNat :=
      (le_high_iff hl).mpr hlast
    rw [utf8EncodeChar_four hk hl hm hn hfirst hlast, List.cons_append, decodeFrom_none,
      start_four k hk, List.nil_append, List.cons_append, decodeFrom_more hl hlow hhigh,
      List.cons_append, decodeFrom_more hm lowest_le (le_highest hm), List.singleton_append,
      decodeFrom_last hn lowest_le (le_highest hn)]

/-- Bytes without a stray piece begin with those of a character. -/
theorem exists_utf8EncodeChar {b : UInt8} {rest : List UInt8} {cs : List Char}
    (h : decodeFrom none (b :: rest) = cs.map .char) :
    ∃ c rest', b :: rest = String.utf8EncodeChar c ++ rest' := by
  rw [decodeFrom_none] at h
  rcases start_cases b with ⟨n, hn, rfl⟩ | ⟨m, hm, hfirst, rfl⟩ | ⟨l, hl, rfl⟩ | ⟨k, hk, rfl⟩ |
    hstray
  · exact ⟨Char.ofNat n, rest, by rw [utf8EncodeChar_one hn]; rfl⟩
  · rw [start_two m hm hfirst] at h
    obtain ⟨n, rest, rfl, hn, -, -⟩ := exists_tail h (by decide) (by decide)
    exact ⟨Char.ofNat (m * 64 + n), rest, by rw [utf8EncodeChar_two hfirst hm hn]; rfl⟩
  · rw [start_three l hl] at h
    obtain ⟨m, rest, rfl, hm, hlow, hhigh⟩ := exists_tail h (by split_ifs <;> decide)
      (by split_ifs <;> decide)
    rw [List.nil_append, decodeFrom_more hm hlow hhigh] at h
    obtain ⟨n, rest, rfl, hn, -, -⟩ := exists_tail h (by decide) (by decide)
    refine ⟨Char.ofNat ((l * 64 + m) * 64 + n), rest, ?_⟩
    rw [utf8EncodeChar_three hl hm hn (low_le_iff.mp hlow) ((le_high_iff hm).mp hhigh)]
    rfl
  · rw [start_four k hk] at h
    obtain ⟨l, rest, rfl, hl, hlow, hhigh⟩ := exists_tail h (by split_ifs <;> decide)
      (by split_ifs <;> decide)
    rw [List.nil_append, decodeFrom_more hl hlow hhigh] at h
    obtain ⟨m, rest, rfl, hm, hlow', hhigh'⟩ := exists_tail h (by decide) (by decide)
    rw [decodeFrom_more hm hlow' hhigh'] at h
    obtain ⟨n, rest, rfl, hn, -, -⟩ := exists_tail h (by decide) (by decide)
    refine ⟨Char.ofNat (((k * 64 + l) * 64 + m) * 64 + n), rest, ?_⟩
    rw [utf8EncodeChar_four hk hl hm hn (low_le_iff.mp hlow) ((le_high_iff hl).mp hhigh)]
    rfl
  · rw [hstray] at h
    cases cs <;> simp at h

/-- Bytes are decoded without a stray piece exactly if they encode the characters. -/
theorem decode_eq_map_char_iff {bytes : List UInt8} {cs : List Char} :
    decode bytes = cs.map .char ↔ bytes = cs.flatMap String.utf8EncodeChar := by
  constructor
  · intro h
    -- Each round takes the bytes of one character, so the induction is on the characters.
    induction cs generalizing bytes with
    | nil =>
      cases bytes with
      | nil => rfl
      | cons b rest =>
        have hnil : decodeFrom none (b :: rest) = List.map .char [] := h
        obtain ⟨c, rest', hbytes⟩ := exists_utf8EncodeChar hnil
        rw [decode, hbytes, decodeFrom_utf8EncodeChar] at h
        simp at h
    | cons c cs ih =>
      cases bytes with
      | nil => simp [decode, decodeFrom] at h
      | cons b rest =>
        obtain ⟨c', rest', hbytes⟩ := exists_utf8EncodeChar h
        rw [decode, hbytes, decodeFrom_utf8EncodeChar, List.map_cons, List.cons.injEq] at h
        obtain ⟨hc, hrest⟩ := h
        obtain rfl := Piece.char.inj hc
        rw [hbytes, List.flatMap_cons, ih hrest]
  · rintro rfl
    induction cs with
    | nil => rfl
    | cons c cs ih =>
      rw [List.flatMap_cons, decode, decodeFrom_utf8EncodeChar, List.map_cons, ← ih, decode]

/-- Pieces have a text if none is stray. -/
theorem charsFrom_eq_ok_iff {offset : Nat} {pieces : List Piece} {cs : List Char} :
    charsFrom offset pieces = .ok cs ↔ pieces = cs.map .char := by
  induction pieces generalizing offset cs with
  | nil => cases cs <;> simp [charsFrom]
  | cons piece pieces ih =>
    cases piece with
    | stray size cut => cases cs <;> simp [charsFrom]
    | char c =>
      rw [charsFrom, map_eq_ok_iff]
      cases cs with
      | nil => simp
      | cons c' cs => simp [ih, and_comm]

/-- Bytes are text exactly if they encode it. -/
theorem text_eq_ok_iff {bytes : List UInt8} {string : String} :
    text bytes = .ok string ↔ bytes = encode string := by
  rw [text, map_eq_ok_iff, encode, ← decode_eq_map_char_iff]
  constructor
  · rintro ⟨cs, hcs, rfl⟩
    rw [String.toList_ofList]
    exact charsFrom_eq_ok_iff.mp hcs
  · intro h
    exact ⟨string.toList, charsFrom_eq_ok_iff.mpr h, String.ofList_toList⟩

end NativeBindings.Utf8
