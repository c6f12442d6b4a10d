import Mathlib
import ResourceHealth.Files.Path

/-!
# Octets that are text

Octets that decode to a text are the octets of that text: every character is encoded in one
way only, and decoding takes no other.  The octets of a text decode to it.

Main definitions:

- `Utf8.LeadOctet`: a first octet with what it announces, by the number of further octets.

Main results:

- Theorem `Utf8.encode_of_take`: the octets of a character that is taken are its encoding.
- Theorem `Utf8.take_encode`: the encoding of a character is taken as that character.
- Theorem `Utf8.decode?_eq_some_iff`: octets decode to a text if and only if they encode it.
- Theorem `Path.text?_eq_some_iff`: a path is text if and only if the text names it.
-/

namespace ResourceHealth

namespace Utf8

/-! ## Encoding by number -/

/-- The octets of a code point. -/
theorem encodeChar_ofNat {n : Nat} (hn : n.isValidChar) :
    String.utf8EncodeChar (Char.ofNat n) =
      if n ≤ 0x7f then [UInt8.ofNat n]
      else if n ≤ 0x7ff then
        [UInt8.ofNat (n / 64 % 0x20 + 0xc0), UInt8.ofNat (n % 0x40 + 0x80)]
      else if n ≤ 0xffff then
        [UInt8.ofNat (n / 4096 % 0x10 + 0xe0), UInt8.ofNat (n / 64 % 0x40 + 0x80),
          UInt8.ofNat (n % 0x40 + 0x80)]
      else
        [UInt8.ofNat (n / 262144 % 0x08 + 0xf0), UInt8.ofNat (n / 4096 % 0x40 + 0x80),
          UInt8.ofNat (n / 64 % 0x40 + 0x80), UInt8.ofNat (n % 0x40 + 0x80)] := by
  have hval : (Char.ofNat n).val.toNat = n := by
    rw [Char.ofNat, dif_pos hn]
    rfl
  unfold String.utf8EncodeChar
  simp only [hval]

theorem ofNat_eq {n : Nat} (octet : UInt8) (h : n = octet.toNat) : UInt8.ofNat n = octet := by
  rw [h]
  exact UInt8.ofNat_toNat

/-! ## What a first octet announces -/

/-- A first octet with what it announces.  The ranges of the second octet are what keeps a
character from being written in too many octets, or from being none. -/
inductive LeadOctet (first : UInt8) : Nat × List (UInt8 × UInt8) → Prop where
  | one {bits : Nat} : first.toNat < 0x80 → first.toNat = bits → LeadOctet first (bits, [])
  | two {bits : Nat} : 0xc2 ≤ first.toNat → first.toNat < 0xe0 → first.toNat = bits + 0xc0 →
      LeadOctet first (bits, [(0x80, 0xbf)])
  | three {bits : Nat} {low high : UInt8} : 0xe0 ≤ first.toNat → first.toNat < 0xf0 →
      first.toNat = bits + 0xe0 → 0x80 ≤ low.toNat → high.toNat ≤ 0xbf →
      (bits = 0 → 0xa0 ≤ low.toNat) → (bits = 0xd → high.toNat ≤ 0x9f) →
      LeadOctet first (bits, [(low, high), (0x80, 0xbf)])
  | four {bits : Nat} {low high : UInt8} : 0xf0 ≤ first.toNat → first.toNat ≤ 0xf4 →
      first.toNat = bits + 0xf0 → 0x80 ≤ low.toNat → high.toNat ≤ 0xbf →
      (bits = 0 → 0x90 ≤ low.toNat) → (bits = 4 → high.toNat ≤ 0x8f) →
      LeadOctet first (bits, [(low, high), (0x80, 0xbf), (0x80, 0xbf)])

/-- What a first octet announces is one of the four forms. -/
theorem leadOctet_of_announced {first : UInt8} {found : Nat × List (UInt8 × UInt8)}
    (h : announced first = some found) : LeadOctet first found := by
  unfold announced at h
  simp only [UInt8.lt_iff_toNat_lt, ← UInt8.toNat_inj, UInt8.reduceToNat] at h
  split at h
  · obtain rfl := Option.some.inj h
    exact .one (by omega) rfl
  split at h
  · cases h
  split at h
  · obtain rfl := Option.some.inj h
    exact .two (by omega) (by omega) (by omega)
  split at h
  · obtain rfl := Option.some.inj h
    exact .three (by omega) (by omega) (by omega) (by decide) (by decide) (by decide) (by decide)
  split at h
  · obtain rfl := Option.some.inj h
    exact .three (by omega) (by omega) (by omega) (by decide) (by decide) (by decide) (by decide)
  split at h
  · obtain rfl := Option.some.inj h
    exact .three (by omega) (by omega) (by omega) (by decide) (by decide) (by omega) (by omega)
  split at h
  · obtain rfl := Option.some.inj h
    exact .four (by omega) (by omega) (by omega) (by decide) (by decide) (by decide) (by decide)
  split at h
  · obtain rfl := Option.some.inj h
    exact .four (by omega) (by omega) (by omega) (by decide) (by decide) (by omega) (by omega)
  split at h
  · obtain rfl := Option.some.inj h
    exact .four (by omega) (by omega) (by omega) (by decide) (by decide) (by decide) (by decide)
  · cases h

/-! ## One character -/

/-- A further octet is in its range and gives six bits. -/
theorem takeTail_cons {bits n : Nat} {low high : UInt8} {ranges : List (UInt8 × UInt8)}
    {rest after : List UInt8} (h : takeTail bits ((low, high) :: ranges) rest = (some n, after)) :
    ∃ octet others, rest = octet :: others ∧ low.toNat ≤ octet.toNat ∧
      octet.toNat ≤ high.toNat ∧
      takeTail (bits * 64 + octet.toNat % 64) ranges others = (some n, after) := by
  cases rest with
  | nil => cases h
  | cons octet others =>
    rw [takeTail] at h
    split at h
    · rename_i hrange
      exact ⟨octet, others, rfl, UInt8.le_iff_toNat_le.mp hrange.1,
        UInt8.le_iff_toNat_le.mp hrange.2, h⟩
    · cases h

theorem takeTail_nil {bits n : Nat} {rest after : List UInt8}
    (h : takeTail bits [] rest = (some n, after)) : bits = n ∧ rest = after := by
  cases h
  exact ⟨rfl, rfl⟩

/-- The octets of a character that is taken are its encoding. -/
theorem encode_of_take {first : UInt8} {rest after : List UInt8} {c : Char}
    (h : take first rest = (some c, after)) :
    String.utf8EncodeChar c ++ after = first :: rest := by
  unfold take at h
  cases hfound : announced first with
  | none =>
    rw [hfound] at h
    cases h
  | some found =>
    rw [hfound] at h
    have hlead := leadOctet_of_announced hfound
    obtain ⟨bits, ranges⟩ := found
    simp only [Prod.mk.injEq, Option.map_eq_some_iff] at h
    obtain ⟨⟨n, hn, rfl⟩, hafter⟩ := h
    have htail : takeTail bits ranges rest = (some n, after) := Prod.ext hn hafter
    cases hlead with
    | one hlt hbits =>
      obtain ⟨hn, rfl⟩ := takeTail_nil htail
      rw [encodeChar_ofNat (Or.inl (by omega)), if_pos (by omega),
        ofNat_eq first (by omega)]
      rfl
    | two hlow hhigh hbits =>
      obtain ⟨second, others, rfl, hsecond, hsecond', htail⟩ := takeTail_cons htail
      obtain ⟨hn, rfl⟩ := takeTail_nil htail
      simp only [UInt8.reduceToNat] at hsecond hsecond'
      rw [encodeChar_ofNat (Or.inl (by omega)), if_neg (by omega), if_pos (by omega),
        ofNat_eq first (by omega), ofNat_eq second (by omega)]
      rfl
    | three hlow hhigh hbits hlow' hhigh' hshort hsurrogate =>
      obtain ⟨second, others, rfl, hsecond, hsecond', htail⟩ := takeTail_cons htail
      obtain ⟨third, others, rfl, hthird, hthird', htail⟩ := takeTail_cons htail
      obtain ⟨hn, rfl⟩ := takeTail_nil htail
      simp only [UInt8.reduceToNat] at hthird hthird'
      have hvalid : n.isValidChar := by
        unfold Nat.isValidChar
        omega
      rw [encodeChar_ofNat hvalid, if_neg (by omega), if_neg (by omega), if_pos (by omega),
        ofNat_eq first (by omega), ofNat_eq second (by omega),
        ofNat_eq third (by omega)]
      rfl
    | four hlow hhigh hbits hlow' hhigh' hshort hlarge =>
      obtain ⟨second, others, rfl, hsecond, hsecond', htail⟩ := takeTail_cons htail
      obtain ⟨third, others, rfl, hthird, hthird', htail⟩ := takeTail_cons htail
      obtain ⟨fourth, others, rfl, hfourth, hfourth', htail⟩ := takeTail_cons htail
      obtain ⟨hn, rfl⟩ := takeTail_nil htail
      simp only [UInt8.reduceToNat] at hthird hthird' hfourth hfourth'
      have hvalid : n.isValidChar := by
        unfold Nat.isValidChar
        omega
      rw [encodeChar_ofNat hvalid, if_neg (by omega), if_neg (by omega), if_neg (by omega),
        ofNat_eq first (by omega), ofNat_eq second (by omega),
        ofNat_eq third (by omega), ofNat_eq fourth (by omega)]
      rfl

/-! ## Encodings are taken -/

/-- A further octet of an encoding gives its six bits. -/
theorem takeTail_further {low high : UInt8} {n : Nat} (hlow : low.toNat ≤ n % 0x40 + 0x80)
    (hhigh : n % 0x40 + 0x80 ≤ high.toNat) (bits : Nat) (ranges : List (UInt8 × UInt8))
    (rest : List UInt8) :
    takeTail bits ((low, high) :: ranges) (UInt8.ofNat (n % 0x40 + 0x80) :: rest) =
      takeTail (bits * 64 + n % 0x40) ranges rest := by
  have hoctet : (UInt8.ofNat (n % 0x40 + 0x80)).toNat = n % 0x40 + 0x80 :=
    UInt8.toNat_ofNat_of_lt (by simp only [UInt8.size]; omega)
  have hbits : (n % 0x40 + 0x80) % 64 = n % 0x40 := by omega
  rw [takeTail, if_pos, hoctet, hbits]
  rw [UInt8.le_iff_toNat_le, UInt8.le_iff_toNat_le, hoctet]
  exact ⟨hlow, hhigh⟩

/-- Where any further octet may stand, that of an encoding may. -/
theorem takeTail_any (n bits : Nat) (ranges : List (UInt8 × UInt8)) (rest : List UInt8) :
    takeTail bits ((0x80, 0xbf) :: ranges) (UInt8.ofNat (n % 0x40 + 0x80) :: rest) =
      takeTail (bits * 64 + n % 0x40) ranges rest := by
  refine takeTail_further ?_ ?_ bits ranges rest <;>
    · simp only [UInt8.reduceToNat]
      omega

/-- What a single octet announces. -/
theorem announced_one {n : Nat} (h : n < 0x80) : announced (UInt8.ofNat n) = some (n, []) := by
  interval_cases n <;> rfl

/-- What the first of two octets announces. -/
theorem announced_two {bits : Nat} (hlow : 2 ≤ bits) (hhigh : bits < 0x20) :
    announced (UInt8.ofNat (bits + 0xc0)) = some (bits, [(0x80, 0xbf)]) := by
  interval_cases bits <;> rfl

/-- What the first of three octets announces. -/
theorem announced_three {bits : Nat} (h : bits < 0x10) :
    announced (UInt8.ofNat (bits + 0xe0)) =
      some (bits, [(if bits = 0 then 0xa0 else 0x80, if bits = 0xd then 0x9f else 0xbf),
        (0x80, 0xbf)]) := by
  interval_cases bits <;> rfl

/-- What the first of four octets announces. -/
theorem announced_four {bits : Nat} (h : bits ≤ 4) :
    announced (UInt8.ofNat (bits + 0xf0)) =
      some (bits, [(if bits = 0 then 0x90 else 0x80, if bits = 4 then 0x8f else 0xbf),
        (0x80, 0xbf), (0x80, 0xbf)]) := by
  interval_cases bits <;> rfl

/-- The encoding of a code point is taken as its character. -/
theorem take_ofNat {n : Nat} (hn : n.isValidChar) (rest : List UInt8) :
    ∃ first others, String.utf8EncodeChar (Char.ofNat n) = first :: others ∧
      take first (others ++ rest) = (some (Char.ofNat n), rest) := by
  have hlimit : n < 0xd800 ∨ 0xdfff < n ∧ n < 0x110000 := hn
  rw [encodeChar_ofNat hn]
  unfold take
  by_cases hone : n ≤ 0x7f
  · refine ⟨_, _, if_pos hone, ?_⟩
    rw [announced_one (by omega)]
    rfl
  rw [if_neg hone]
  by_cases htwo : n ≤ 0x7ff
  · have hbits : n / 64 % 0x20 * 64 + n % 0x40 = n := by omega
    refine ⟨_, _, if_pos htwo, ?_⟩
    rw [announced_two (by omega) (by omega)]
    simp only [List.cons_append, List.nil_append]
    rw [takeTail_any, hbits]
    rfl
  rw [if_neg htwo]
  by_cases hthree : n ≤ 0xffff
  · have hbits : (n / 4096 % 0x10 * 64 + n / 64 % 0x40) * 64 + n % 0x40 = n := by omega
    refine ⟨_, _, if_pos hthree, ?_⟩
    rw [announced_three (by omega)]
    simp only [List.cons_append, List.nil_append]
    rw [takeTail_further (by split <;> simp only [UInt8.reduceToNat] <;> omega)
      (by split <;> simp only [UInt8.reduceToNat] <;> omega), takeTail_any, hbits]
    rfl
  · have hbits : ((n / 262144 % 0x08 * 64 + n / 4096 % 0x40) * 64 + n / 64 % 0x40) * 64 +
        n % 0x40 = n := by omega
    refine ⟨_, _, if_neg hthree, ?_⟩
    rw [announced_four (by omega)]
    simp only [List.cons_append, List.nil_append]
    rw [takeTail_further (by split <;> simp only [UInt8.reduceToNat] <;> omega)
      (by split <;> simp only [UInt8.reduceToNat] <;> omega), takeTail_any, takeTail_any, hbits]
    rfl

/-- The encoding of a character is taken as that character. -/
theorem take_encode (c : Char) (rest : List UInt8) :
    ∃ first others, String.utf8EncodeChar c = first :: others ∧
      take first (others ++ rest) = (some c, rest) := by
  have htake := take_ofNat (n := c.toNat) c.valid rest
  rwa [Char.ofNat_toNat] at htake

/-! ## Whole texts -/

/-- Octets that decode to a text encode it. -/
theorem encode_of_decode? {octets : List UInt8} {text : List Char}
    (h : decode? octets = some text) : encode text = octets := by
  unfold decode? at h
  fun_induction chunks octets generalizing text with
  | case1 =>
    cases h
    rfl
  | case2 first rest taken c hc =>
    rename_i ih
    rw [List.mapM_cons] at h
    change (chunks taken.2).mapM Chunk.char? >>= (fun others => some (c :: others)) = _ at h
    obtain ⟨others, hothers, htext⟩ := Option.bind_eq_some_iff.mp h
    obtain rfl := Option.some.inj htext
    have htake : take first rest = (some c, taken.2) := Prod.ext hc rfl
    rw [encode, List.flatMap_cons]
    change String.utf8EncodeChar c ++ encode others = first :: rest
    rw [ih hothers]
    exact encode_of_take htake
  | case3 first rest taken hc =>
    rw [List.mapM_cons] at h
    simp [Chunk.char?] at h

/-- The octets of a text decode to it. -/
theorem decode?_encode (text : List Char) : decode? (encode text) = some text := by
  unfold decode?
  induction text with
  | nil =>
    rw [encode, List.flatMap_nil, chunks]
    rfl
  | cons c text ih =>
    obtain ⟨first, others, hencode, htake⟩ := take_encode c (encode text)
    have hoctets : encode (c :: text) = first :: (others ++ encode text) := by
      rw [encode, List.flatMap_cons, hencode]
      rfl
    rw [hoctets, chunks, htake]
    simp [Chunk.char?, ih]

/-- Octets decode to a text if and only if they encode it. -/
theorem decode?_eq_some_iff {octets : List UInt8} {text : List Char} :
    decode? octets = some text ↔ encode text = octets := by
  constructor
  · exact encode_of_decode?
  · rintro rfl
    exact decode?_encode text

end Utf8

/-- A path is text if and only if the text names it. -/
theorem Path.text?_eq_some_iff {path : Path} {text : List Char} :
    path.text? = some text ↔ ofText text = path := by
  rw [text?, Utf8.decode?_eq_some_iff, ofText]
  constructor
  · rintro h
    rw [h]
  · rintro rfl
    rfl

end ResourceHealth
