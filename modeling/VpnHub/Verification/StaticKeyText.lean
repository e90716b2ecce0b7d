import VpnHub.Library.Lines
import VpnHub.Library.Utf8
import VpnHub.Model.TextCodes
import VpnHub.Program.StaticKey

/-! # The text of a static key

Hexadecimal digits in lines of any length, between lines that carry none. -/

namespace VpnHub.Crypto.StaticKey

open BitGroups

/-- What is documented of `hex::decode`: it accepts the digits of whole bytes, in either case. -/
def DecodesHex (hexDecode : HexDecode) : Prop :=
  ∀ (text : Text) (raw : Bytes), hexDecode (Text.utf8Encode text) = .ok raw ↔
    text.map Char.toUpper = base16.encode raw

def isHexDigit (c : Char) : Bool := c.toUpper ∈ base16.alphabet

/-! ## Layouts -/

/-- A line, without its line feed, and the digits it carries. -/
inductive KeyLine : Text → Text → Prop where
  | digits (indent digits trail : Text) (hindent : ∀ c ∈ indent, Text.isWhitespace c = true)
      (hdigits : ∀ c ∈ digits, isHexDigit c = true)
      (htrail : ∀ c ∈ trail, Text.isWhitespace c = true) :
      KeyLine (indent ++ digits ++ trail) digits
  | comment (indent : Text) (c : Char) (rest : Text)
      (hindent : ∀ c ∈ indent, Text.isWhitespace c = true) (hc : c = '#' ∨ c = ';') :
      KeyLine (indent ++ c :: rest) []
  | marker (indent rest : Text) (hindent : ∀ c ∈ indent, Text.isWhitespace c = true) :
      KeyLine (indent ++ "-----".toList ++ rest) []

/-- A text of lines and the digits they carry one after the other. The last line may end without
a line feed. -/
inductive Layout : Text → Text → Prop where
  | done : Layout [] []
  | last {line digits : Text} (hline : KeyLine line digits) (hfeed : '\n' ∉ line) :
      Layout line digits
  | line {line digits text rest : Text} (hline : KeyLine line digits) (hfeed : '\n' ∉ line)
      (htext : Layout text rest) : Layout (line ++ '\n' :: text) (digits ++ rest)

variable {line text digits rest : Text} {c : Char}

/-! ## Lines -/

/-- The digits that the parser takes from a line. -/
def lineDigits (line : Text) : Text :=
  if isSkipped (Text.trim line) then [] else Text.trim line

theorem hexDigits_eq_flatMap (text : Text) :
    hexDigits text = (Text.lines text).flatMap lineDigits := by
  rw [hexDigits]
  generalize Text.lines text = lines
  induction lines with
  | nil => rfl
  | cons line lines ih =>
      by_cases hskip : isSkipped (Text.trim line) = true
      · simpa [lineDigits, hskip] using ih
      · simpa [lineDigits, hskip] using ih

theorem trim_lineOf (line : Text) : Text.trim (Text.lineOf line.reverse) = Text.trim line := by
  have hend := Text.trimEnd_lineOf line.reverse
  rw [List.reverse_reverse] at hend
  exact Text.trim_eq_trim_of_trimEnd hend

theorem hexDigits_line (hfeed : '\n' ∉ line) (text : Text) :
    hexDigits (line ++ '\n' :: text) = lineDigits line ++ hexDigits text := by
  have hlines : Text.lines (line ++ '\n' :: text) =
      Text.lineOf line.reverse :: Text.lines text := by
    rw [Text.lines, Text.linesAux_of_notMem hfeed, List.append_nil, Text.linesAux_feed]
    rfl
  rw [hexDigits_eq_flatMap, hexDigits_eq_flatMap, hlines, List.flatMap_cons, lineDigits,
    trim_lineOf, lineDigits]

theorem hexDigits_last (hfeed : '\n' ∉ line) : hexDigits line = lineDigits line := by
  have hlines := Text.linesAux_of_notMem hfeed [] []
  rw [List.append_nil, List.append_nil] at hlines
  rw [hexDigits_eq_flatMap, Text.lines, hlines]
  cases hline : line.reverse with
  | nil =>
      obtain rfl := List.reverse_eq_nil_iff.mp hline
      rfl
  | cons c acc =>
      have hlast : Text.linesAux (c :: acc) [] = [(c :: acc).reverse] := rfl
      rw [hlast, ← hline, List.reverse_reverse, List.flatMap_singleton]

theorem not_isWhitespace_of_isHexDigit (h : isHexDigit c = true) :
    Text.isWhitespace c = false := by
  have hall : base16.alphabet.all (fun c => !Text.isWhitespace c) = true := by decide
  by_cases hlower : 'a'.val ≤ c.val ∧ c.val ≤ 'z'.val
  · have hlow : 97 ≤ c.toNat := hlower.1
    have hhigh : c.toNat ≤ 122 := hlower.2
    simp [Text.isWhitespace]
    omega
  · have hupper : c.toUpper = c := dif_neg hlower
    have hmem : c.toUpper ∈ base16.alphabet := of_decide_eq_true h
    rw [hupper] at hmem
    simpa using List.all_eq_true.mp hall c hmem

/-- Digits are no comment and no marker. -/
theorem isSkipped_of_isHexDigit (h : isHexDigit c = true) (s : Text) :
    isSkipped (c :: s) = false := by
  have hne : ∀ d, isHexDigit d = false → d ≠ c := by
    rintro d hd rfl
    rw [hd] at h
    cases h
  have hhash := hne '#' (by decide)
  have hsemicolon := hne ';' (by decide)
  have hhyphen := hne '-' (by decide)
  simp [isSkipped, Text.startsWith, List.isPrefixOf, hhash, hsemicolon, hhyphen]

theorem lineDigits_of_all (h : ∀ c ∈ digits, isHexDigit c = true) : lineDigits digits = digits := by
  have htrim : Text.trim digits = digits :=
    Text.trim_eq_self
      (fun c hc => not_isWhitespace_of_isHexDigit (h c (List.mem_of_mem_head? hc)))
      (fun c hc => not_isWhitespace_of_isHexDigit (h c (List.mem_of_mem_getLast? hc)))
  rw [lineDigits, htrim]
  cases digits with
  | nil => rfl
  | cons c s =>
      rw [isSkipped_of_isHexDigit (h c List.mem_cons_self)]
      rfl

/-- Trimming takes nothing off the front of a text up to its last character that is not white
space. -/
theorem exists_trim_eq (front : Text) (hc : Text.isWhitespace c = false)
    (hfirst : ∀ d ∈ front.head?, Text.isWhitespace d = false) (s : Text) :
    ∃ t, Text.trim (front ++ c :: s) = front ++ c :: t := by
  have hstart : Text.trimStartMatches Text.isWhitespace (front ++ c :: s) = front ++ c :: s := by
    cases front with
    | nil => exact Text.trimStartMatches_cons_of_neg hc
    | cons d front => exact Text.trimStartMatches_cons_of_neg (hfirst d rfl)
  refine ⟨Text.trimEndMatches Text.isWhitespace s, ?_⟩
  rw [Text.trim, Text.trimMatches, hstart, Text.trimEndMatches_append_cons hc]

theorem KeyLine.lineDigits_eq (h : KeyLine line digits) : lineDigits line = digits := by
  cases h with
  | digits indent digits trail hindent hdigits htrail =>
    have htrim : Text.trim (indent ++ digits ++ trail) = Text.trim digits := by
      rw [Text.trim_append_right_of_all htrail, Text.trim_append_of_all hindent]
    rw [lineDigits, htrim]
    exact lineDigits_of_all hdigits
  | comment indent c rest hindent hc =>
    have hblank : Text.isWhitespace c = false := by rcases hc with rfl | rfl <;> decide
    obtain ⟨t, ht⟩ := exists_trim_eq [] hblank (by simp) rest
    have hskip : isSkipped (c :: t) = true := by
      rcases hc with rfl | rfl <;> simp [isSkipped, Text.startsWith, List.isPrefixOf]
    rw [lineDigits, Text.trim_append_of_all hindent]
    exact if_pos (ht ▸ hskip)
  | marker indent rest hindent =>
    obtain ⟨t, ht⟩ := exists_trim_eq "----".toList (c := '-') (by decide)
      (by simp; decide) rest
    have hskip : isSkipped ("----".toList ++ '-' :: t) = true := by
      simp [isSkipped, Text.startsWith, List.isPrefixOf]
    rw [lineDigits, List.append_assoc, Text.trim_append_of_all hindent]
    exact if_pos (ht ▸ hskip)

theorem Layout.hexDigits_eq (h : Layout text digits) : hexDigits text = digits := by
  induction h with
  | done => rfl
  | last hline hfeed => rw [hexDigits_last hfeed, hline.lineDigits_eq]
  | line hline hfeed _ ih => rw [hexDigits_line hfeed, hline.lineDigits_eq, ih]

/-! ## Digits and bytes -/

theorem length_letters (raw : Bytes) : (base16.letters raw).length = 2 * raw.length := by
  rw [TextCode.letters, List.length_map, toDigits, length_groups]
  exact show (raw.length * 8 + 3) / 4 = 2 * raw.length by omega

/-- Whole bytes need no padding. -/
theorem encode_eq_letters (raw : Bytes) : base16.encode raw = base16.letters raw := by
  have hwhole : (2 - 2 * raw.length % 2) % 2 = 0 := by omega
  have hpadding : base16.padding (2 * raw.length) = [] := congrArg (List.replicate · '=') hwhole
  rw [TextCode.encode, length_letters, hpadding, List.append_nil]

theorem isHexDigit_of_mem {raw : Bytes} (h : digits.map Char.toUpper = base16.encode raw)
    (hc : c ∈ digits) : isHexDigit c = true := by
  have hmem : c.toUpper ∈ digits.map Char.toUpper := List.mem_map_of_mem hc
  rw [h, encode_eq_letters] at hmem
  exact decide_eq_true (base16.mem_alphabet_of_mem_letters hmem)

/-- The fields of a key are the slices of the first 256 bytes. -/
def Slices (key : StaticKey) (raw : Bytes) : Prop :=
  key.cipherKey1.1 = raw.take 64 ∧ key.hmacKey1.1 = (raw.drop 64).take 64 ∧
    key.cipherKey2.1 = (raw.drop 128).take 64 ∧ key.hmacKey2.1 = (raw.drop 192).take 64

/-- The parser accepts the digits of 256 bytes or more. -/
theorem parse_eq_ok_iff {hexDecode : HexDecode} (hhex : DecodesHex hexDecode) {key : StaticKey} :
    parse hexDecode text = .ok key ↔
      ∃ raw, (hexDigits text).map Char.toUpper = base16.encode raw ∧ 256 ≤ raw.length ∧
        Slices key raw := by
  have hdecode := hhex (hexDigits text)
  rw [parse]
  cases hresult : hexDecode (Text.utf8Encode (hexDigits text)) with
  | error e =>
    refine iff_of_false nofun ?_
    rintro ⟨raw, hdigits, -⟩
    rw [(hdecode raw).mpr hdigits] at hresult
    cases hresult
  | ok raw =>
    have hdigits := (hdecode raw).mp hresult
    have hunique : ∀ raw', (hexDigits text).map Char.toUpper = base16.encode raw' → raw' = raw :=
      fun raw' h' => by
        have heq := (hdecode raw').mpr h'
        rw [hresult] at heq
        exact (Except.ok.inj heq).symm
    dsimp only
    by_cases hshort : raw.length < 256
    · rw [dif_pos hshort]
      refine iff_of_false nofun ?_
      rintro ⟨raw', h', hlong, -⟩
      rw [hunique raw' h'] at hlong
      omega
    · rw [dif_neg hshort]
      constructor
      · intro h
        cases h
        exact ⟨raw, hdigits, Nat.le_of_not_lt hshort, rfl, rfl, rfl, rfl⟩
      · rintro ⟨raw', h', -, hcipher1, hhmac1, hcipher2, hhmac2⟩
        obtain rfl := hunique raw' h'
        refine congrArg Except.ok ?_
        obtain ⟨cipherKey1, cipherKey2, hmacKey1, hmacKey2⟩ := key
        congr
        · exact Subtype.ext hcipher1.symm
        · exact Subtype.ext hcipher2.symm
        · exact Subtype.ext hhmac1.symm
        · exact Subtype.ext hhmac2.symm

/-- A key is read from every layout of its digits, and from nothing else. -/
theorem parse_layout (hexDecode : HexDecode) (hhex : DecodesHex hexDecode) :
    (∀ (b : Bytes) (digits text : Text), b.length = 256 →
      digits.map Char.toUpper = base16.encode b → Layout text digits →
      ∃ key, parse hexDecode text = .ok key ∧ key.cipherKey1.1 = b.take 64 ∧
        key.hmacKey1.1 = (b.drop 64).take 64 ∧ key.cipherKey2.1 = (b.drop 128).take 64 ∧
        key.hmacKey2.1 = (b.drop 192).take 64) ∧
    ∀ (text : Text) (key : StaticKey), parse hexDecode text = .ok key →
      let digits := (((Text.lines text).map Text.trim).filter fun line => !isSkipped line).flatten
      (∀ c ∈ digits, isHexDigit c = true) ∧ digits.length % 2 = 0 ∧ 512 ≤ digits.length ∧
        ∃ raw, digits.map Char.toUpper = base16.encode raw ∧ key.cipherKey1.1 = raw.take 64 ∧
          key.hmacKey1.1 = (raw.drop 64).take 64 ∧ key.cipherKey2.1 = (raw.drop 128).take 64 ∧
          key.hmacKey2.1 = (raw.drop 192).take 64 := by
  constructor
  · intro b digits text hlen hdigits hlayout
    let key : StaticKey :=
      { cipherKey1 := .copyFrom b 0 (by omega)
        hmacKey1 := .copyFrom b 64 (by omega)
        cipherKey2 := .copyFrom b 128 (by omega)
        hmacKey2 := .copyFrom b 192 (by omega) }
    have hslices : Slices key b := ⟨rfl, rfl, rfl, rfl⟩
    have hparsed : (hexDigits text).map Char.toUpper = base16.encode b := by
      rw [hlayout.hexDigits_eq, hdigits]
    exact ⟨key, (parse_eq_ok_iff hhex).mpr ⟨b, hparsed, Nat.le_of_eq hlen.symm, hslices⟩, hslices⟩
  · intro text key hparse
    obtain ⟨raw, hdigits, hlong, hslices⟩ := (parse_eq_ok_iff hhex).mp hparse
    have hlen := congrArg List.length hdigits
    rw [List.length_map, encode_eq_letters, length_letters] at hlen
    change (∀ c ∈ hexDigits text, isHexDigit c = true) ∧ (hexDigits text).length % 2 = 0 ∧
      512 ≤ (hexDigits text).length ∧ _
    exact ⟨fun c => isHexDigit_of_mem hdigits, by omega, by omega, raw, hdigits, hslices⟩

/-! ## A decoder -/

/-- Decodes the bytes as characters of ASCII. -/
def hexDecodeAscii : HexDecode := fun bytes =>
  (base16.decode (bytes.map fun b => (Char.ofNat b.toNat).toUpper)).elim
    (.error "Invalid character".toList) .ok

theorem map_utf8Encode_of_ascii (h : ∀ c ∈ text, c.toNat < 128) :
    (Text.utf8Encode text).map (fun b => (Char.ofNat b.toNat).toUpper) =
      text.map Char.toUpper := by
  induction text with
  | nil => rfl
  | cons c text ih =>
      have hc : c.toNat < 128 := h c List.mem_cons_self
      have htail := ih fun d hd => h d (List.mem_cons_of_mem c hd)
      rw [Text.utf8Encode_cons, Text.utf8EncodeChar_of_ascii hc, List.singleton_append,
        List.map_cons, htail, Text.toNat_ofNat_of_ascii hc, Char.ofNat_toNat, List.map_cons]

theorem toNat_lt_of_isHexDigit (h : isHexDigit c = true) : c.toNat < 128 := by
  have hall : base16.alphabet.all (fun c => decide (c.toNat < 128)) = true := by decide
  have hmem : c.toUpper ∈ base16.alphabet := of_decide_eq_true h
  have hupper := of_decide_eq_true (List.all_eq_true.mp hall c.toUpper hmem)
  by_cases hlower : 'a'.val ≤ c.val ∧ c.val ≤ 'z'.val
  · have hhigh : c.toNat ≤ 122 := hlower.2
    omega
  · rwa [show c.toUpper = c from dif_neg hlower] at hupper

theorem toNat_ofNat_byte (b : UInt8) : (Char.ofNat b.toNat).toNat = b.toNat := by
  have hb := UInt8.toNat_lt b
  rw [Char.ofNat, dif_pos (.inl (by omega))]
  rfl

theorem decodesHex_hexDecodeAscii : DecodesHex hexDecodeAscii := by
  intro text raw
  let chars := (Text.utf8Encode text).map fun b => Char.ofNat b.toNat
  have hchars : (Text.utf8Encode text).map (fun b => (Char.ofNat b.toNat).toUpper) =
      chars.map Char.toUpper := by
    rw [List.map_map]
    rfl
  have hdecode : hexDecodeAscii (Text.utf8Encode text) = .ok raw ↔
      chars.map Char.toUpper = base16.encode raw := by
    rw [← base16.decode_eq_some_iff, hexDecodeAscii, hchars]
    cases base16.decode (chars.map Char.toUpper) with
    | none => simp
    | some bytes => simp
  rw [hdecode, ← hchars]
  constructor
  · intro h
    have hbytes : ∀ b ∈ Text.utf8Encode text, b.toNat < 128 := by
      intro b hb
      rw [hchars] at h
      have hdigit := toNat_lt_of_isHexDigit
        (isHexDigit_of_mem h (List.mem_map_of_mem (f := fun b => Char.ofNat b.toNat) hb))
      rwa [toNat_ofNat_byte] at hdigit
    rwa [map_utf8Encode_of_ascii (Text.ascii_of_utf8Encode hbytes)] at h
  · intro h
    rwa [map_utf8Encode_of_ascii fun c hc => toNat_lt_of_isHexDigit (isHexDigit_of_mem h hc)]

/-- The digits of the bytes 0 to 255 in two lines. -/
theorem parse_layout_two_lines :
    let b : Bytes := (List.range 256).map UInt8.ofNat
    let digits := (base16.encode b).map Char.toLower
    ∃ key, parse hexDecodeAscii ("  # key\n-----BEGIN\n ".toList ++ digits.take 33 ++
        "\r\n\n".toList ++ digits.drop 33) = .ok key ∧
      key.cipherKey1.1 = b.take 64 ∧ key.hmacKey1.1 = (b.drop 64).take 64 ∧
      key.cipherKey2.1 = (b.drop 128).take 64 ∧ key.hmacKey2.1 = (b.drop 192).take 64 := by
  intro b digits
  have hdigits : digits.map Char.toUpper = base16.encode b := by
    have hletters : (base16.alphabet.all fun c => c.toLower.toUpper == c) = true := by
      decide +kernel
    rw [List.map_map]
    refine (List.map_congr_left fun c hc => ?_).trans (List.map_id _)
    rw [encode_eq_letters] at hc
    exact eq_of_beq (List.all_eq_true.mp hletters c (base16.mem_alphabet_of_mem_letters hc))
  have hhex : ∀ c ∈ digits, isHexDigit c = true := fun c hc => isHexDigit_of_mem hdigits hc
  have hfeed : '\n' ∉ digits := fun hc => absurd (hhex _ hc) (by decide)
  have hlayout : Layout ("  # key\n-----BEGIN\n ".toList ++ digits.take 33 ++
      "\r\n\n".toList ++ digits.drop 33) digits := by
    have hcomment : KeyLine "  # key".toList [] :=
      .comment "  ".toList '#' " key".toList (by simp; decide) (.inl rfl)
    have hmarker : KeyLine "-----BEGIN".toList [] := .marker [] "BEGIN".toList (by simp)
    have hfirst : KeyLine (" ".toList ++ digits.take 33 ++ "\r".toList) (digits.take 33) :=
      .digits _ _ _ (by simp; decide) (fun c hc => hhex c (List.mem_of_mem_take hc))
        (by simp; decide)
    have hblank : KeyLine [] [] := .digits [] [] [] (by simp) (by simp) (by simp)
    have hsecond : KeyLine ([] ++ digits.drop 33 ++ []) (digits.drop 33) :=
      .digits _ _ _ (by simp) (fun c hc => hhex c (List.mem_of_mem_drop hc)) (by simp)
    have hfirstFeed : '\n' ∉ " ".toList ++ digits.take 33 ++ "\r".toList := by
      simpa using fun hc => hfeed (List.mem_of_mem_take hc)
    have hsecondFeed : '\n' ∉ [] ++ digits.drop 33 ++ [] := by
      simpa using fun hc => hfeed (List.mem_of_mem_drop hc)
    have h := Layout.line hcomment (by decide) (.line hmarker (by decide)
      (.line hfirst hfirstFeed (.line hblank (by decide) (.last hsecond hsecondFeed))))
    simpa using h
  exact (parse_layout hexDecodeAscii decodesHex_hexDecodeAscii).1 b digits _ (by decide +kernel)
    hdigits hlayout

end VpnHub.Crypto.StaticKey
