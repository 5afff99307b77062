import XmlDiagnostics.Encoding.Detect

/-! # Texts behind a byte-order mark

Decoding undoes encoding in UTF-8 and in UTF-16 of either byte order (`decodeUtf8_encodeUtf8`,
`decodeUtf16_encodeUtf16`), one character at a time whatever stands behind it. So a text whose encoding is told by a
mark at its beginning comes back as it was: the mark comes before a declaration, and it is left out once
(`decode_detect_marked`). -/

namespace XmlDiagnostics.Encoding

/-- A character is below the surrogates or above them, and within the seventeen planes. -/
theorem toNat_cases (c : Char) : c.toNat < 0xd800 ∨ (0xdfff < c.toNat ∧ c.toNat < 0x110000) := c.valid

theorem toNat_ofNat {n : Nat} (h : n < 256) : (UInt8.ofNat n).toNat = n := UInt8.toNat_ofNat_of_lt' h

/-! ### UTF-8 -/

theorem decodeUtf8From_cons (pending : Option Pending) {n : Nat} (h : n < 256) (rest : List UInt8) :
    decodeUtf8From pending (UInt8.ofNat n :: rest) =
      (stepUtf8 pending n).1 ++ decodeUtf8From (stepUtf8 pending n).2 rest := by
  rw [decodeUtf8From, toNat_ofNat h]

/-- An octet within the bounds goes on with a character that is not complete after it. -/
theorem decodeUtf8From_inner {needed value low high n : Nat} (hlow : low ≤ n) (hhigh : n ≤ high) (hn : n < 256)
    (rest : List UInt8) :
    decodeUtf8From (some ⟨needed + 2, value, low, high⟩) (UInt8.ofNat n :: rest) =
      decodeUtf8From (some ⟨needed + 1, value * 64 + (n - 0x80), 0x80, 0xbf⟩) rest := by
  rw [decodeUtf8From_cons _ hn]
  simp [stepUtf8, hlow, hhigh]

/-- The last octet of a character gives the character. -/
theorem decodeUtf8From_last {value low high n : Nat} (hlow : low ≤ n) (hhigh : n ≤ high) (hn : n < 256)
    (rest : List UInt8) :
    decodeUtf8From (some ⟨1, value, low, high⟩) (UInt8.ofNat n :: rest) =
      Char.ofNat (value * 64 + (n - 0x80)) :: decodeUtf8From none rest := by
  rw [decodeUtf8From_cons _ hn]
  simp [stepUtf8, hlow, hhigh]

/-- The octets of a character are read as this character. -/
theorem decodeUtf8From_encodeUtf8Char (c : Char) (rest : List UInt8) :
    decodeUtf8From none (encodeUtf8Char c ++ rest) = c :: decodeUtf8From none rest := by
  have hc := toNat_cases c
  have hself := Char.ofNat_toNat c
  unfold encodeUtf8Char Text.octetsOf
  generalize c.toNat = n at hc hself
  simp only
  split
  · -- one octet
    rw [List.map_singleton, List.singleton_append, decodeUtf8From_cons _ (by omega)]
    simp [stepUtf8, beginUtf8, *]
  · split
    · -- two octets
      have hlead : beginUtf8 (0xc0 + n / 64) = ([], some ⟨1, n / 64, 0x80, 0xbf⟩) := by
        unfold beginUtf8
        rw [if_neg (by omega), if_pos (by omega), Nat.add_sub_cancel_left]
      have hvalue : n / 64 * 64 + (0x80 + n % 64 - 0x80) = n := by omega
      rw [List.map_cons, List.map_singleton, List.cons_append, List.singleton_append, decodeUtf8From_cons _ (by omega),
        stepUtf8, hlead, List.nil_append, decodeUtf8From_last (by omega) (by omega) (by omega), hvalue, hself]
    · split
      · -- three octets, the second one within bounds that depend on the first
        have hlead : beginUtf8 (0xe0 + n / 4096) = ([], some ⟨2, n / 4096,
            if 0xe0 + n / 4096 = 0xe0 then 0xa0 else 0x80, if 0xe0 + n / 4096 = 0xed then 0x9f else 0xbf⟩) := by
          unfold beginUtf8
          rw [if_neg (by omega), if_neg (by omega), if_pos (by omega), Nat.add_sub_cancel_left]
        have hlow : (if 0xe0 + n / 4096 = 0xe0 then 0xa0 else 0x80) ≤ 0x80 + n / 64 % 64 := by split <;> omega
        have hhigh : 0x80 + n / 64 % 64 ≤ if 0xe0 + n / 4096 = 0xed then 0x9f else 0xbf := by split <;> omega
        have hvalue : (n / 4096 * 64 + (0x80 + n / 64 % 64 - 0x80)) * 64 + (0x80 + n % 64 - 0x80) = n := by omega
        simp only [List.map_cons, List.map_nil, List.cons_append, List.nil_append]
        rw [decodeUtf8From_cons _ (by omega), stepUtf8, hlead, List.nil_append,
          decodeUtf8From_inner hlow hhigh (by omega), decodeUtf8From_last (by omega) (by omega) (by omega),
          hvalue, hself]
      · -- four octets, likewise
        have hlead : beginUtf8 (0xf0 + n / 262144) = ([], some ⟨3, n / 262144,
            if 0xf0 + n / 262144 = 0xf0 then 0x90 else 0x80, if 0xf0 + n / 262144 = 0xf4 then 0x8f else 0xbf⟩) := by
          unfold beginUtf8
          rw [if_neg (by omega), if_neg (by omega), if_neg (by omega), if_pos (by omega), Nat.add_sub_cancel_left]
        have hlow : (if 0xf0 + n / 262144 = 0xf0 then 0x90 else 0x80) ≤ 0x80 + n / 4096 % 64 := by split <;> omega
        have hhigh : 0x80 + n / 4096 % 64 ≤ if 0xf0 + n / 262144 = 0xf4 then 0x8f else 0xbf := by split <;> omega
        have hvalue : ((n / 262144 * 64 + (0x80 + n / 4096 % 64 - 0x80)) * 64 + (0x80 + n / 64 % 64 - 0x80)) * 64 +
            (0x80 + n % 64 - 0x80) = n := by omega
        simp only [List.map_cons, List.map_nil, List.cons_append, List.nil_append]
        rw [decodeUtf8From_cons _ (by omega), stepUtf8, hlead, List.nil_append,
          decodeUtf8From_inner hlow hhigh (by omega), decodeUtf8From_inner (by omega) (by omega) (by omega),
          decodeUtf8From_last (by omega) (by omega) (by omega), hvalue, hself]

theorem decodeUtf8_encodeUtf8 (text : List Char) : decodeUtf8 (encodeUtf8 text) = text := by
  unfold decodeUtf8 encodeUtf8
  induction text with
  | nil => rfl
  | cons c text ih => rw [List.flatMap_cons, decodeUtf8From_encodeUtf8Char, ih]

/-! ### UTF-16 -/

/-- The two octets of a unit are read as this unit. -/
theorem decodeUtf16From_encodeUnit (order : ByteOrder) (lead : Option Nat) {u : Nat} (hu : u < 0x10000)
    (rest : List UInt8) :
    decodeUtf16From order lead (encodeUnit order u ++ rest) =
      (stepUtf16 lead u).1 ++ decodeUtf16From order (stepUtf16 lead u).2 rest := by
  have hunit : u / 256 * 256 + u % 256 = u := Nat.div_add_mod' u 256
  cases order <;>
    simp only [encodeUnit, List.cons_append, List.nil_append, decodeUtf16From, unitOf,
      toNat_ofNat (show u / 256 < 256 by omega), toNat_ofNat (show u % 256 < 256 by omega), hunit]

/-- The units of a character are read as this character. -/
theorem decodeUtf16From_encodeUtf16Char (order : ByteOrder) (c : Char) (rest : List UInt8) :
    decodeUtf16From order none (encodeUtf16Char order c ++ rest) = c :: decodeUtf16From order none rest := by
  have hc := toNat_cases c
  have hself := Char.ofNat_toNat c
  unfold encodeUtf16Char
  generalize c.toNat = n at hc hself
  simp only
  split
  · -- one unit, which is no half of a pair
    rw [decodeUtf16From_encodeUnit _ _ (by omega)]
    have hlead : isLeadUnit n = false := by simp [isLeadUnit]; omega
    have htrail : isTrailUnit n = false := by simp [isTrailUnit]; omega
    simp [stepUtf16, beginUtf16, hlead, htrail, hself]
  · -- a pair
    have hlead : isLeadUnit (0xd800 + (n - 0x10000) / 1024) = true := by simp [isLeadUnit]; omega
    have htrail : isTrailUnit (0xdc00 + (n - 0x10000) % 1024) = true := by simp [isTrailUnit]; omega
    have hpair : 0x10000 + (0xd800 + (n - 0x10000) / 1024 - 0xd800) * 1024 +
        (0xdc00 + (n - 0x10000) % 1024 - 0xdc00) = n := by omega
    rw [List.append_assoc, decodeUtf16From_encodeUnit _ _ (by omega), stepUtf16, beginUtf16, if_pos hlead,
      List.nil_append, decodeUtf16From_encodeUnit _ _ (by omega), stepUtf16, if_pos htrail, hpair, hself,
      List.singleton_append]

theorem decodeUtf16_encodeUtf16 (order : ByteOrder) (text : List Char) :
    decodeUtf16 order (encodeUtf16 order text) = text := by
  unfold decodeUtf16 encodeUtf16
  induction text with
  | nil => rfl
  | cons c text ih => rw [List.flatMap_cons, decodeUtf16From_encodeUtf16Char, ih]

/-! ### Marks -/

theorem withoutMark_append (encoding : Encoding) (bytes : List UInt8) :
    encoding.withoutMark (encoding.mark ++ bytes) = bytes := by
  rw [withoutMark, if_pos (by simp), List.drop_left]

theorem detect_of_mark {config : EncodingConfig} (hbom : config.detectBom) {bytes : List UInt8} {encoding : Encoding}
    (h : ofMark? bytes = some encoding) : detect config bytes = encoding := by
  simp [detect, hbom, h]

/-- **A mark tells the encoding**, whatever the text behind it, and decoding gives the text alone. -/
theorem decode_detect_marked {config : EncodingConfig} (hbom : config.detectBom) (text : List Char)
    (tables : CharacterTables) :
    (detect config (mark utf8 ++ encodeUtf8 text) = utf8 ∧ decode utf8 (mark utf8 ++ encodeUtf8 text) tables = text) ∧
      ∀ order, detect config (mark (utf16 order) ++ encodeUtf16 order text) = utf16 order ∧
        decode (utf16 order) (mark (utf16 order) ++ encodeUtf16 order text) tables = text := by
  refine ⟨⟨detect_of_mark hbom (by simp [ofMark?, mark]), ?_⟩, fun order => ⟨detect_of_mark hbom ?_, ?_⟩⟩
  · rw [decode, withoutMark_append]
    exact decodeUtf8_encodeUtf8 text
  · cases order <;> simp [ofMark?, mark]
  · rw [decode, withoutMark_append]
    exact decodeUtf16_encodeUtf16 order text

/-- A text that itself starts with the character of the mark, declares another encoding, and has a character outside
the basic plane. -/
theorem decode_detect_marked_otherDeclared :
    detect {} (mark utf8 ++ encodeUtf8 "\ufeff<?xml version='1.0' encoding='UTF-16BE'?><𝄞/>".toList) = utf8 ∧
      detect {} (mark (utf16 .little) ++
        encodeUtf16 .little "\ufeff<?xml version='1.0' encoding='UTF-16BE'?><𝄞/>".toList) = utf16 .little ∧
      decode (utf16 .little) (mark (utf16 .little) ++
        encodeUtf16 .little "\ufeff<?xml version='1.0' encoding='UTF-16BE'?><𝄞/>".toList) =
          "\ufeff<?xml version='1.0' encoding='UTF-16BE'?><𝄞/>".toList := by
  have hbom : ({} : EncodingConfig).detectBom := rfl
  have hmarked := decode_detect_marked hbom "\ufeff<?xml version='1.0' encoding='UTF-16BE'?><𝄞/>".toList .asciiOnly
  exact ⟨hmarked.1.1, hmarked.2 .little⟩

end XmlDiagnostics.Encoding
