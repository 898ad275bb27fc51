import Mathlib.Data.List.Basic
import Mathlib.Data.String.Defs

/-!
# Reading as UTF-8 what another charset has written

A single-byte charset gives some characters a byte and replaces all others by a question
mark (`SingleByte`); ISO-8859-1 and windows-1252 are two of them (`latin1`,
`windows1252`). A decoder of UTF-8 is free in what it does with malformed bytes and in how
many of them it takes at once (`Decoder`), and reads every UTF-8 text as it was written
(`decode_utf8`).

A decoder never reads more characters than there are bytes (`length_le_of_decodeFrom`), and a
single-byte charset writes one byte a character. So a text that comes back has been read
byte by byte, and this is so exactly for the ASCII texts (`decode_map_encode_iff`),
whatever the decoder does with the others.
-/

set_option autoImplicit false

namespace Charsets

/-! ## ASCII texts -/

/-- Every character of a text has one of the first 128 code points. -/
def Ascii (text : List Char) : Prop := ∀ c ∈ text, c.isAscii = true

instance (text : List Char) : Decidable (Ascii text) :=
  decidable_of_iff (text.all Char.isAscii = true) List.all_eq_true

/-- The empty text is ASCII. -/
@[simp] theorem ascii_nil : Ascii [] := nofun

/-- A text is ASCII when its first character is and the rest is. -/
@[simp] theorem ascii_cons {c : Char} {text : List Char} :
    Ascii (c :: text) ↔ c.isAscii = true ∧ Ascii text := List.forall_mem_cons

/-- Two texts are ASCII together when each of them is. -/
@[simp] theorem ascii_append {text text' : List Char} :
    Ascii (text ++ text') ↔ Ascii text ∧ Ascii text' := List.forall_mem_append

/-- A text put together from parts is ASCII when every part is. -/
theorem ascii_flatMap {ι : Type} {l : List ι} {f : ι → List Char} :
    Ascii (l.flatMap f) ↔ ∀ i ∈ l, Ascii (f i) := by
  constructor
  · intro h i hi c hc
    exact h c (List.mem_flatMap.mpr ⟨i, hi, hc⟩)
  · intro h c hc
    obtain ⟨i, hi, hmem⟩ := List.mem_flatMap.mp hc
    exact h i hi c hmem

/-- Two strings are ASCII together when each of them is. -/
theorem ascii_toList_append {s t : String} :
    Ascii (s ++ t).toList ↔ Ascii s.toList ∧ Ascii t.toList := by
  rw [String.toList_append, ascii_append]

/-- A string literal is a list of characters, on which `decide` is fast. -/
theorem ascii_ofList {l : List Char} : Ascii (String.ofList l).toList ↔ Ascii l := by
  rw [String.toList_ofList]

/-- The characters of ASCII by their code points. -/
theorem isAscii_iff {c : Char} : c.isAscii = true ↔ c.toNat < 128 := by
  simp [Char.isAscii]

/-- The digits of a number are ASCII. -/
theorem ascii_digits (n : ℕ) : Ascii (Nat.repr n).toList := by
  intro c hc
  rw [Nat.repr, String.toList_ofList] at hc
  have hdigit := Nat.isDigit_of_mem_toDigits (by decide) (by decide) hc
  rw [Char.isDigit_iff_toNat] at hdigit
  rw [isAscii_iff]
  have hnine : '9'.toNat = 57 := rfl
  omega

/-- An integer is printed in ASCII, the sign included. -/
theorem ascii_int (n : Int) : Ascii n.repr.toList := by
  rw [Int.repr_eq_if]
  split
  · exact ascii_digits _
  · exact ascii_toList_append.mpr ⟨ascii_ofList.mpr (by decide), ascii_digits _⟩

/-- The characters of one byte in UTF-8 are those of ASCII. -/
theorem utf8Size_eq_one_iff {c : Char} : c.utf8Size = 1 ↔ c.isAscii = true := by
  rw [Char.utf8Size_eq_one_iff, isAscii_iff, UInt32.le_iff_toNat_le]
  have hval : c.val.toNat = c.toNat := rfl
  have hmax : (127 : UInt32).toNat = 127 := rfl
  omega

/-! ## Decoding UTF-8 -/

/-- What a decoder does with bytes at which no character begins. -/
inductive Malformed where
  /-- Give up. -/
  | report
  /-- Leave them out. -/
  | ignore
  /-- Read them as U+FFFD. -/
  | replace
deriving DecidableEq

/-- The decoders of UTF-8. -/
structure Decoder where
  malformed : Malformed
  /-- The number of bytes behind a malformed one that are treated together with it. -/
  covers : List UInt8 → ℕ

/-- The character whose encoding the bytes begin with. -/
def charAt (bytes : List UInt8) : Option Char := bytes.toByteArray.utf8DecodeChar? 0

/-- Reading the bytes behind the first `k`, which belong to what has been read. -/
def Decoder.decodeFrom (d : Decoder) : ℕ → List UInt8 → Option (List Char)
  | _, [] => some []
  | k + 1, _ :: bytes => d.decodeFrom k bytes
  | 0, b :: bytes =>
      match charAt (b :: bytes) with
      | some c => (d.decodeFrom (c.utf8Size - 1) bytes).map (c :: ·)
      | none =>
          match d.malformed with
          | .report => none
          | .ignore => d.decodeFrom (d.covers (b :: bytes)) bytes
          | .replace => (d.decodeFrom (d.covers (b :: bytes)) bytes).map ('\uFFFD' :: ·)

/-- Reading the bytes from the first one on. -/
def Decoder.decode (d : Decoder) (bytes : List UInt8) : Option (List Char) :=
  d.decodeFrom 0 bytes

/-- Encoding as UTF-8. -/
def utf8 (text : List Char) : List UInt8 := text.flatMap String.utf8EncodeChar

/-- Bytes that begin with the encoding of a character begin with that character. -/
theorem charAt_utf8EncodeChar (c : Char) (bytes : List UInt8) :
    charAt (String.utf8EncodeChar c ++ bytes) = some c := by
  rw [charAt, List.toByteArray_append, ByteArray.utf8DecodeChar?_utf8EncodeChar_append]

/-- A character that is read lies within the bytes. -/
theorem utf8Size_le_of_charAt {bytes : List UInt8} {c : Char} (h : charAt bytes = some c) :
    c.utf8Size ≤ bytes.length := by
  have hle := ByteArray.le_size_of_utf8DecodeChar?_eq_some h
  rwa [Nat.zero_add, List.size_toByteArray] at hle

/-- Bytes that belong to what has been read are passed over. -/
theorem Decoder.decodeFrom_append (d : Decoder) (read bytes : List UInt8) :
    d.decodeFrom read.length (read ++ bytes) = d.decode bytes := by
  induction read with
  | nil => rfl
  | cons b read ih => exact ih

/-- A decoder reads one character at a time of a text written as UTF-8. -/
theorem Decoder.decode_utf8EncodeChar (d : Decoder) (c : Char) (bytes : List UInt8) :
    d.decode (String.utf8EncodeChar c ++ bytes) = (d.decode bytes).map (c :: ·) := by
  have hchar := charAt_utf8EncodeChar c bytes
  have hlength := String.length_utf8EncodeChar c
  cases hbytes : String.utf8EncodeChar c with
  | nil =>
      have hpos := c.utf8Size_pos
      rw [hbytes, List.length_nil] at hlength
      omega
  | cons b read =>
      rw [hbytes] at hchar hlength
      rw [List.cons_append] at hchar ⊢
      have hread : c.utf8Size - 1 = read.length := by
        rw [← hlength]
        rfl
      rw [Decoder.decode, Decoder.decodeFrom, hchar]
      simp only [hread, d.decodeFrom_append]

/-- **What has been written as UTF-8** every decoder reads as it was written. -/
theorem decode_utf8 (d : Decoder) (text : List Char) : d.decode (utf8 text) = some text := by
  induction text with
  | nil => rfl
  | cons c text ih =>
      rw [utf8, List.flatMap_cons, d.decode_utf8EncodeChar]
      rw [utf8] at ih
      rw [ih, Option.map_some]

/-- There are no more characters than bytes. -/
theorem length_le_of_decodeFrom {d : Decoder} {k : ℕ} {bytes : List UInt8} {text : List Char}
    (h : d.decodeFrom k bytes = some text) : text.length ≤ bytes.length - k := by
  induction bytes generalizing k text with
  | nil =>
      rw [Decoder.decodeFrom] at h
      cases h
      exact Nat.zero_le _
  | cons b bytes ih =>
      cases k with
      | succ k =>
          have hle := ih h
          rw [List.length_cons]
          omega
      | zero =>
          rw [Decoder.decodeFrom] at h
          rw [List.length_cons]
          split at h
          · obtain ⟨rest, hrest, rfl⟩ := Option.map_eq_some_iff.mp h
            have hle := ih hrest
            rw [List.length_cons]
            omega
          · split at h
            · cases h
            · have hle := ih h
              omega
            · obtain ⟨rest, hrest, rfl⟩ := Option.map_eq_some_iff.mp h
              have hle := ih hrest
              rw [List.length_cons]
              omega

/-! ## Single-byte charsets -/

/-- A charset with one byte a character, which contains ASCII and lacks U+FFFD. -/
structure SingleByte where
  /-- The byte of a character that the charset has. -/
  byte? : Char → Option UInt8
  ascii : ∀ c, c.isAscii = true → byte? c = some c.toUInt8
  replacement : byte? '\uFFFD' = none

/-- A character that the charset lacks is written as a question mark. -/
def SingleByte.encode (charset : SingleByte) (c : Char) : UInt8 :=
  (charset.byte? c).getD 0x3F

/-- A character of ASCII has the same byte as in UTF-8. -/
theorem SingleByte.utf8EncodeChar_of_ascii (charset : SingleByte) {c : Char}
    (h : c.isAscii = true) : String.utf8EncodeChar c = [charset.encode c] := by
  rw [SingleByte.encode, charset.ascii c h, Option.getD_some,
    String.utf8EncodeChar_eq_singleton (utf8Size_eq_one_iff.mpr h)]
  rfl

/-- An ASCII text has the same bytes as in UTF-8. -/
theorem SingleByte.map_encode_of_ascii (charset : SingleByte) {text : List Char}
    (h : Ascii text) : text.map charset.encode = utf8 text := by
  induction text with
  | nil => rfl
  | cons c text ih =>
      obtain ⟨hc, htext⟩ := ascii_cons.mp h
      rw [utf8] at ih ⊢
      rw [List.flatMap_cons, charset.utf8EncodeChar_of_ascii hc, List.map_cons, ih htext]
      rfl

/-- A text that comes back has been read byte by byte, and no byte of it was malformed. -/
theorem SingleByte.ascii_of_decode (charset : SingleByte) {d : Decoder} {text : List Char}
    (h : d.decode (text.map charset.encode) = some text) : Ascii text := by
  induction text with
  | nil => exact ascii_nil
  | cons c text ih =>
      rw [List.map_cons, Decoder.decode, Decoder.decodeFrom] at h
      split at h
      · rename_i c' hchar
        obtain ⟨rest, hrest, heq⟩ := Option.map_eq_some_iff.mp h
        obtain ⟨rfl, rfl⟩ := List.cons.inj heq
        have hle := length_le_of_decodeFrom hrest
        have hsize := utf8Size_le_of_charAt hchar
        have hpos := c'.utf8Size_pos
        rw [List.length_cons, List.length_map] at hsize
        rw [List.length_map] at hle
        -- as many characters as bytes: the first one has taken one byte
        have hone : c'.utf8Size = 1 := by omega
        rw [hone] at hrest
        exact ascii_cons.mpr ⟨utf8Size_eq_one_iff.mp hone, ih hrest⟩
      · rename_i hchar
        split at h
        · cases h
        · have hle := length_le_of_decodeFrom h
          rw [List.length_cons, List.length_map] at hle
          omega
        · obtain ⟨rest, -, heq⟩ := Option.map_eq_some_iff.mp h
          obtain ⟨rfl, -⟩ := List.cons.inj heq
          -- U+FFFD itself is written as a question mark, at which a character begins
          have hmark := charAt_utf8EncodeChar '?' (text.map charset.encode)
          rw [SingleByte.encode, charset.replacement] at hchar
          rw [show String.utf8EncodeChar '?' ++ text.map charset.encode =
            0x3F :: text.map charset.encode from rfl] at hmark
          rw [Option.getD_none, hmark] at hchar
          cases hchar

/-- **What a single-byte charset has written** comes back exactly when it is ASCII. -/
theorem SingleByte.decode_map_encode_iff (charset : SingleByte) (d : Decoder)
    (text : List Char) : d.decode (text.map charset.encode) = some text ↔ Ascii text := by
  constructor
  · exact charset.ascii_of_decode
  · intro h
    rw [charset.map_encode_of_ascii h, decode_utf8]

/-! ## ISO-8859-1 and windows-1252 -/

/-- ISO-8859-1: the first 256 code points are the bytes. -/
def latin1 : SingleByte where
  byte? c := if c.toNat < 0x100 then some c.toUInt8 else none
  ascii c h := by
    rw [isAscii_iff] at h
    rw [if_pos (by omega)]
  replacement := rfl

/-- The characters of windows-1252 in the bytes from 0x80 up to 0x9F, of which five have
none. -/
def windows1252Table : List (ℕ × UInt8) :=
  [(0x20AC, 0x80), (0x201A, 0x82), (0x0192, 0x83), (0x201E, 0x84), (0x2026, 0x85),
   (0x2020, 0x86), (0x2021, 0x87), (0x02C6, 0x88), (0x2030, 0x89), (0x0160, 0x8A),
   (0x2039, 0x8B), (0x0152, 0x8C), (0x017D, 0x8E), (0x2018, 0x91), (0x2019, 0x92),
   (0x201C, 0x93), (0x201D, 0x94), (0x2022, 0x95), (0x2013, 0x96), (0x2014, 0x97),
   (0x02DC, 0x98), (0x2122, 0x99), (0x0161, 0x9A), (0x203A, 0x9B), (0x0153, 0x9C),
   (0x017E, 0x9E), (0x0178, 0x9F)]

/-- windows-1252: as ISO-8859-1, but for the bytes of the table. -/
def windows1252 : SingleByte where
  byte? c :=
    if c.toNat < 0x80 ∨ 0xA0 ≤ c.toNat ∧ c.toNat < 0x100 then some c.toUInt8
    else windows1252Table.lookup c.toNat
  ascii c h := by
    rw [isAscii_iff] at h
    rw [if_pos (.inl h)]
  replacement := rfl

end Charsets
