import MarketWire.Digest.Base64
import MarketWire.Number.Numeral
import MarketWire.Number.Shortest
import MarketWire.Text.Blank
import MarketWire.Text.Utf8

namespace MarketWire.Text

variable {p : Char → Bool} {cs : List Char}

theorem dropWhile_of_not (plain : ∀ c ∈ cs, p c = false) : cs.dropWhile p = cs := by
  cases cs with
  | nil => rfl
  | cons c cs => exact List.dropWhile_cons_of_neg (by simp [plain c List.mem_cons_self])

theorem stripEnd_of_not (plain : ∀ c ∈ cs, p c = false) : stripEnd p cs = cs := by
  rw [stripEnd, dropWhile_of_not fun c hc => plain c (List.mem_reverse.mp hc), List.reverse_reverse]

theorem stripEnds_of_not (plain : ∀ c ∈ cs, p c = false) : stripEnds p cs = cs := by
  rw [stripEnds, dropWhile_of_not plain, stripEnd_of_not plain]

end MarketWire.Text

namespace MarketWire.Text.Utf8

variable {b n : Nat} {bs : List UInt8} {p : Pending} {c : Char}

theorem toNat_toUInt8 (h : b < 256) : b.toUInt8.toNat = b := by
  simp [Nat.mod_eq_of_lt h]

theorem run_whole (h : b < 0x80) :
    run none (b.toUInt8 :: bs) = Char.ofNat b :: run none bs := by
  rw [run, toNat_toUInt8 (by omega), step, begin, start, if_pos h]
  rfl

theorem run_begun (small : b < 256) (h : start b = .begun p) :
    run none (b.toUInt8 :: bs) = run (some p) bs := by
  rw [run, toNat_toUInt8 small, step, begin, h]
  rfl

theorem run_last (within : p.least ≤ b ∧ b ≤ p.greatest) (small : b < 256)
    (last : p.missing = 1) :
    run (some p) (b.toUInt8 :: bs) = Char.ofNat (p.bits * 64 + (b - 0x80)) :: run none bs := by
  rw [run, toNat_toUInt8 small, step, if_pos within]
  simp [last]

theorem run_more {missing : Nat} (within : p.least ≤ b ∧ b ≤ p.greatest) (small : b < 256)
    (more : p.missing = missing + 2) :
    run (some p) (b.toUInt8 :: bs)
      = run (some ⟨p.bits * 64 + (b - 0x80), missing + 1, 0x80, 0xbf⟩) bs := by
  rw [run, toNat_toUInt8 small, step, if_pos within]
  simp [more]

theorem start_two (least : 0x80 ≤ n) (most : n < 0x800) :
    start (0xc0 + n / 64) = .begun ⟨n / 64, 1, 0x80, 0xbf⟩ := by
  rw [start, if_neg (by omega), if_neg (by omega), if_pos (by omega)]
  simp

theorem start_three (least : 0x800 ≤ n) (most : n < 0x10000)
    (whole : n < 0xd800 ∨ 0xdfff < n) :
    ∃ low high, start (0xe0 + n / 4096) = .begun ⟨n / 4096, 2, low, high⟩ ∧
      low ≤ 0x80 + n / 64 % 64 ∧ 0x80 + n / 64 % 64 ≤ high := by
  rw [start, if_neg (by omega), if_neg (by omega), if_neg (by omega)]
  split
  · exact ⟨0xa0, 0xbf, by simp; omega, by omega, by omega⟩
  · split
    · exact ⟨0x80, 0x9f, by simp; omega, by omega, by omega⟩
    · rw [if_pos (by omega)]
      exact ⟨0x80, 0xbf, by simp, by omega, by omega⟩

theorem start_four (least : 0x10000 ≤ n) (most : n < 0x110000) :
    ∃ low high, start (0xf0 + n / 262144) = .begun ⟨n / 262144, 3, low, high⟩ ∧
      low ≤ 0x80 + n / 4096 % 64 ∧ 0x80 + n / 4096 % 64 ≤ high := by
  rw [start, if_neg (by omega), if_neg (by omega), if_neg (by omega), if_neg (by omega),
    if_neg (by omega), if_neg (by omega)]
  split
  · exact ⟨0x90, 0xbf, by simp; omega, by omega, by omega⟩
  · split
    · exact ⟨0x80, 0xbf, by simp, by omega, by omega⟩
    · rw [if_pos (by omega)]
      exact ⟨0x80, 0x8f, by simp; omega, by omega, by omega⟩

theorem run_encodeChar (c : Char) (bs : List UInt8) :
    run none (encodeChar c ++ bs) = c :: run none bs := by
  have whole : c.toNat < 0xd800 ∨ 0xdfff < c.toNat ∧ c.toNat < 0x110000 := c.valid
  have read : ∀ {m : Nat}, m = c.toNat → Char.ofNat m = c := by
    rintro m rfl
    exact Char.ofNat_toNat c
  rw [encodeChar]
  generalize c.toNat = n at whole read
  split
  · next h =>
      rw [List.singleton_append, run_whole h, read rfl]
  · split
    · next one two =>
        rw [List.cons_append, List.cons_append, List.nil_append,
          run_begun (by omega) (start_two (by omega) two), run_last ⟨?_, ?_⟩ (by omega) rfl,
          read (by simp only; omega)]
        all_goals
          simp only
          omega
    · split
      · next one two three =>
          obtain ⟨low, high, begun, least, most⟩ :=
            start_three (by omega) three (whole.imp_right And.left)
          rw [List.cons_append, List.cons_append, List.cons_append, List.nil_append,
            run_begun (by omega) begun, run_more ⟨least, most⟩ (by omega) rfl,
            run_last ⟨?_, ?_⟩ (by omega) rfl, read (by simp only; omega)]
          all_goals
            simp only
            omega
      · next one two three =>
          obtain ⟨low, high, begun, least, most⟩ := start_four (n := n) (by omega) (by omega)
          rw [List.cons_append, List.cons_append, List.cons_append, List.cons_append,
            List.nil_append, run_begun (by omega) begun, run_more ⟨least, most⟩ (by omega) rfl,
            run_more ⟨?_, ?_⟩ (by omega) rfl, run_last ⟨?_, ?_⟩ (by omega) rfl,
            read (by simp only; omega)]
          all_goals
            simp only
            omega

theorem decode_encode (s : String) : decode (encode s) = s := by
  have read : ∀ cs : List Char, run none (cs.flatMap encodeChar) = cs := by
    intro cs
    induction cs with
    | nil => rfl
    | cons c cs ih => rw [List.flatMap_cons, run_encodeChar, ih]
  rw [decode, encode, read, String.ofList_toList]

end MarketWire.Text.Utf8

namespace MarketWire.Number

theorem appendDigit?_digitChar (n : Nat) {d : Nat} (h : d < 10) :
    appendDigit? 10 n d.digitChar = some (n * 10 + d) := by
  have digits : ∀ d < 10, digitValue? d.digitChar = some d := by decide
  rw [appendDigit?, digits d h, Option.bind_some, if_pos h]

theorem foldlM_digitsOf (n : Nat) : (digitsOf n).foldlM (appendDigit? 10) 0 = some n := by
  induction n using Nat.strongRecOn with
  | ind n ih =>
      rw [digitsOf, Nat.toDigits_eq_if (by decide)]
      split
      · next small =>
          simp [appendDigit?_digitChar 0 small]
      · have before : (Nat.toDigits 10 (n / 10)).foldlM (appendDigit? 10) 0 = some (n / 10) :=
          ih (n / 10) (by omega)
        rw [List.foldlM_append, before]
        simp only [List.foldlM_cons, List.foldlM_nil, bind, Option.bind_some,
          appendDigit?_digitChar (n / 10) (Nat.mod_lt n (by decide : 10 > 0)), pure]
        rw [Nat.div_add_mod']

theorem digitsOf_ne_nil (n : Nat) : digitsOf n ≠ [] := by
  rw [digitsOf, Nat.toDigits_eq_if (by decide)]
  split <;> simp

theorem ofNumeral?_digitsOf (n : Nat) : ofNumeral? 10 (digitsOf n) = some n := by
  rw [ofNumeral?, if_neg (by simp [digitsOf_ne_nil]), foldlM_digitsOf]

theorem digitsOf_plain {n : Nat} {c : Char} (hc : c ∈ digitsOf n) :
    0x30 ≤ c.toNat ∧ c.toNat ≤ 0x39 := by
  have digit := Nat.isDigit_of_mem_toDigits (by decide) (by decide) hc
  simpa [Char.isDigit, UInt32.le_iff_toNat_le] using digit

end MarketWire.Number

namespace MarketWire.Digest.Base64

theorem isBlank_letter : ∀ n < 64, Text.isBlank (letter n) = false := by decide

theorem isBlank_encodeChars (bytes : List UInt8) :
    ∀ c ∈ encodeChars bytes, Text.isBlank c = false := by
  induction bytes using encodeChars.induct with
  | case1 a b c rest ih =>
      have := a.toNat_lt
      have := b.toNat_lt
      have := c.toNat_lt
      intro d hd
      simp only [encodeChars, List.mem_cons] at hd
      rcases hd with rfl | rfl | rfl | rfl | hd
      · exact isBlank_letter _ (by omega)
      · exact isBlank_letter _ (by omega)
      · exact isBlank_letter _ (by omega)
      · exact isBlank_letter _ (by omega)
      · exact ih d hd
  | case2 a b =>
      have := a.toNat_lt
      have := b.toNat_lt
      intro d hd
      simp only [encodeChars, List.mem_cons, List.not_mem_nil, or_false] at hd
      rcases hd with rfl | rfl | rfl | rfl
      · exact isBlank_letter _ (by omega)
      · exact isBlank_letter _ (by omega)
      · exact isBlank_letter _ (by omega)
      · decide
  | case3 a =>
      have := a.toNat_lt
      intro d hd
      simp only [encodeChars, List.mem_cons, List.not_mem_nil, or_false] at hd
      rcases hd with rfl | rfl | rfl | rfl
      · exact isBlank_letter _ (by omega)
      · exact isBlank_letter _ (by omega)
      · decide
      · decide
  | case4 => simp [encodeChars]

end MarketWire.Digest.Base64
