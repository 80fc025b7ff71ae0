import Mathlib.Algebra.Order.Ring.Nat
import Mathlib.Data.List.TakeDrop

/-!
# Byte encodings of text

The UTF-8 bytes of a text and the number of its UTF-16 units, padded Base64 with its decoder,
and the two hexadecimal digits of a byte.

* `utf8_injective`: different texts have different bytes.
* `utf16Length_eq_iff`: a text has as many UTF-16 units as bytes exactly when it is ASCII.
* `Base64.decode_encode`: what is encoded is decoded, so different bytes are encoded differently.
* `Base64.length_encode`, `Base64.mem_encode`: how long the text is and what it is made of.
* `hexText_injective`: so is what is written in hexadecimal.
-/

namespace Encodings

/-! ## UTF-8 and UTF-16 -/

/-- The UTF-8 bytes of a text. -/
def utf8 (s : String) : List UInt8 := s.toList.flatMap String.utf8EncodeChar

/-- The UTF-16 units of a scalar value: one, or a surrogate pair. -/
def utf16Size (c : Char) : ℕ := if c.toNat < 0x10000 then 1 else 2

/-- The number of UTF-16 units of a text. -/
def utf16Length (s : String) : ℕ := (s.toList.map utf16Size).sum

/-- The UTF-16 units of a text. -/
def utf16 (s : String) : List UInt16 :=
  s.toList.flatMap fun c =>
    if c.toNat < 0x10000 then [c.toNat.toUInt16]
    else
      [(0xD800 + (c.toNat - 0x10000) / 0x400).toUInt16,
        (0xDC00 + (c.toNat - 0x10000) % 0x400).toUInt16]

/-- A text of scalar values below `0x80`. -/
def IsAscii (s : String) : Prop := ∀ c ∈ s.toList, c.toNat < 0x80

instance (s : String) : Decidable (IsAscii s) :=
  inferInstanceAs (Decidable (∀ c ∈ s.toList, c.toNat < 0x80))

theorem utf8_eq (s : String) : utf8 s = s.toByteArray.data.toList := by
  have h : s.toList.utf8Encode = s.toByteArray := String.utf8Encode_toList
  rw [← h]
  simp [utf8, List.utf8Encode, List.data_toByteArray]

/-- **Different texts have different bytes.** -/
theorem utf8_injective {s t : String} (h : utf8 s = utf8 t) : s = t := by
  rw [utf8_eq, utf8_eq, Array.toList_inj] at h
  exact String.toByteArray_inj.1 (ByteArray.ext h)

/-- A scalar value takes no more units than bytes, and as many only when it is ASCII. -/
theorem utf16Size_le (c : Char) :
    1 ≤ utf16Size c ∧ utf16Size c ≤ (String.utf8EncodeChar c).length ∧
      (utf16Size c = (String.utf8EncodeChar c).length ↔ c.toNat < 0x80) := by
  have hval : c.val.toNat = c.toNat := rfl
  rw [String.length_utf8EncodeChar]
  unfold utf16Size Char.utf8Size
  simp only [UInt32.le_iff_toNat_le, hval, UInt32.toNat_ofNatLT]
  split_ifs <;> omega

theorem utf16Length_le (s : String) : utf16Length s ≤ (utf8 s).length := by
  unfold utf16Length utf8
  induction s.toList with
  | nil => simp
  | cons c cs ih =>
    have hc := (utf16Size_le c).2.1
    simp only [List.map_cons, List.sum_cons, List.flatMap_cons, List.length_append]
    omega

/-- **As many UTF-16 units as bytes, exactly in ASCII.** -/
theorem utf16Length_eq_iff (s : String) : utf16Length s = (utf8 s).length ↔ IsAscii s := by
  have hle : ∀ cs : List Char,
      (cs.map utf16Size).sum ≤ (cs.flatMap String.utf8EncodeChar).length := by
    intro cs
    simpa [utf16Length, utf8] using utf16Length_le (String.ofList cs)
  unfold utf16Length utf8 IsAscii
  induction s.toList with
  | nil => simp
  | cons c cs ih =>
    obtain ⟨-, hc, hascii⟩ := utf16Size_le c
    have hcs := hle cs
    rw [List.map_cons, List.sum_cons, List.flatMap_cons, List.length_append,
      List.forall_mem_cons, ← hascii]
    constructor
    · intro h
      exact ⟨by omega, ih.1 (by omega)⟩
    · rintro ⟨h, hrest⟩
      rw [h, ih.2 hrest]

/-- **The first bytes, as many as there are units, are all of them exactly in ASCII.** -/
theorem take_utf16Length_eq_iff (s : String) :
    (utf8 s).take (utf16Length s) = utf8 s ↔ IsAscii s := by
  rw [List.take_eq_self_iff, ← utf16Length_eq_iff]
  have := utf16Length_le s
  omega

/-! ## Base64 -/

namespace Base64

/-- The alphabet: the letters, the digits, `+` and `/`. -/
def alphabet : List Char :=
  (List.range 26).map (fun i => Char.ofNat ('A'.toNat + i)) ++
    (List.range 26).map (fun i => Char.ofNat ('a'.toNat + i)) ++
    (List.range 10).map (fun i => Char.ofNat ('0'.toNat + i)) ++ ['+', '/']

/-- The letter of six bits. -/
def digit (n : ℕ) : Char := alphabet.getD n '='

/-- The six bits of a letter. -/
def value (c : Char) : Option ℕ := alphabet.idxOf? c

theorem value_digit {n : ℕ} (h : n < 64) : value (digit n) = some n := by
  have hall : ∀ n < 64, value (digit n) = some n := by decide
  exact hall n h

theorem digit_ne_pad {n : ℕ} (h : n < 64) : digit n ≠ '=' := by
  have hall : ∀ n < 64, digit n ≠ '=' := by decide
  exact hall n h

/-- Three bytes are four letters of the same twenty-four bits. One or two bytes at the end are
filled up with zero bits to a whole number of letters, and padded to four. -/
def encode : List UInt8 → List Char
  | a :: b :: c :: bytes =>
    let n := a.toNat * 65536 + b.toNat * 256 + c.toNat
    digit (n / 262144) :: digit (n / 4096 % 64) :: digit (n / 64 % 64) :: digit (n % 64) ::
      encode bytes
  | [a, b] =>
    let n := (a.toNat * 256 + b.toNat) * 4
    [digit (n / 4096), digit (n / 64 % 64), digit (n % 64), '=']
  | [a] =>
    let n := a.toNat * 16
    [digit (n / 64), digit (n % 64), '=', '=']
  | [] => []

/-- Four letters at a time; padding only in the last four. -/
def decode : List Char → Option (List UInt8)
  | p :: q :: r :: s :: letters => do
    let p ← value p
    let q ← value q
    if r = '=' then
      if s = '=' ∧ letters = [] then some [UInt8.ofNat ((p * 64 + q) / 16)] else none
    else do
      let r ← value r
      if s = '=' then
        if letters = [] then
          let n := (p * 4096 + q * 64 + r) / 4
          some [UInt8.ofNat (n / 256), UInt8.ofNat n]
        else none
      else do
        let s ← value s
        let n := p * 262144 + q * 4096 + r * 64 + s
        let bytes ← decode letters
        some (UInt8.ofNat (n / 65536) :: UInt8.ofNat (n / 256) :: UInt8.ofNat n :: bytes)
  | [] => some []
  | _ => none

/-- A byte is the number it is read from. -/
theorem ofNat_eq {n : ℕ} {a : UInt8} (h : n % 256 = a.toNat) : UInt8.ofNat n = a := by
  apply UInt8.toNat_inj.1
  rw [UInt8.toNat_ofNat']
  exact h

/-- **What is encoded is decoded.** -/
theorem decode_encode (bytes : List UInt8) : decode (encode bytes) = some bytes := by
  induction bytes using encode.induct with
  | case1 a b c bytes ih =>
    have ha := a.toNat_lt
    have hb := b.toNat_lt
    have hc := c.toNat_lt
    rw [encode]
    set n := a.toNat * 65536 + b.toNat * 256 + c.toNat with hn
    have h1 : n / 262144 < 64 := by omega
    have h2 : n / 4096 % 64 < 64 := by omega
    have h3 : n / 64 % 64 < 64 := by omega
    have h4 : n % 64 < 64 := by omega
    simp only [decode, value_digit h1, value_digit h2, value_digit h3, value_digit h4, ih,
      digit_ne_pad h3, digit_ne_pad h4, if_false, Option.bind_eq_bind, Option.bind_some,
      Option.some.injEq, List.cons.injEq, and_true]
    refine ⟨ofNat_eq ?_, ofNat_eq ?_, ofNat_eq ?_⟩ <;> omega
  | case2 a b =>
    have ha := a.toNat_lt
    have hb := b.toNat_lt
    rw [encode]
    set n := (a.toNat * 256 + b.toNat) * 4 with hn
    have h1 : n / 4096 < 64 := by omega
    have h2 : n / 64 % 64 < 64 := by omega
    have h3 : n % 64 < 64 := by omega
    simp only [decode, value_digit h1, value_digit h2, value_digit h3, digit_ne_pad h3, if_false,
      if_true, Option.bind_eq_bind, Option.bind_some, Option.some.injEq, List.cons.injEq, and_true]
    refine ⟨ofNat_eq ?_, ofNat_eq ?_⟩ <;> omega
  | case3 a =>
    have ha := a.toNat_lt
    rw [encode]
    set n := a.toNat * 16 with hn
    have h1 : n / 64 < 64 := by omega
    have h2 : n % 64 < 64 := by omega
    simp only [decode, value_digit h1, value_digit h2, and_self, if_true, Option.bind_eq_bind,
      Option.bind_some, Option.some.injEq, List.cons.injEq, and_true]
    exact ofNat_eq (by omega)
  | case4 => rfl

/-- **Four letters for every three bytes begun.** -/
theorem length_encode (bytes : List UInt8) :
    (encode bytes).length = 4 * ((bytes.length + 2) / 3) := by
  induction bytes using encode.induct with
  | case1 a b c bytes ih =>
    rw [encode]
    simp only [List.length_cons, ih]
    omega
  | case2 a b =>
    simp only [encode, List.length_cons, List.length_nil]
  | case3 a =>
    simp only [encode, List.length_cons, List.length_nil]
  | case4 => rfl

theorem digit_mem {n : ℕ} (h : n < 64) : digit n ∈ alphabet := by
  have hall : ∀ n < 64, digit n ∈ alphabet := by decide
  exact hall n h

/-- **Letters of the alphabet, and padding.** -/
theorem mem_encode {bytes : List UInt8} : ∀ {c : Char}, c ∈ encode bytes →
    c ∈ alphabet ∨ c = '=' := by
  induction bytes using encode.induct with
  | case1 a b d bytes ih =>
    intro c hc
    have ha := a.toNat_lt
    have hb := b.toNat_lt
    have hd := d.toNat_lt
    rw [encode] at hc
    simp only [List.mem_cons] at hc
    rcases hc with rfl | rfl | rfl | rfl | hc
    · exact .inl (digit_mem (by omega))
    · exact .inl (digit_mem (by omega))
    · exact .inl (digit_mem (by omega))
    · exact .inl (digit_mem (by omega))
    · exact ih hc
  | case2 a b =>
    intro c hc
    have ha := a.toNat_lt
    have hb := b.toNat_lt
    simp only [encode, List.mem_cons, List.not_mem_nil, or_false] at hc
    rcases hc with rfl | rfl | rfl | rfl
    · exact .inl (digit_mem (by omega))
    · exact .inl (digit_mem (by omega))
    · exact .inl (digit_mem (by omega))
    · exact .inr rfl
  | case3 a =>
    intro c hc
    have ha := a.toNat_lt
    simp only [encode, List.mem_cons, List.not_mem_nil, or_false] at hc
    rcases hc with rfl | rfl | rfl | rfl
    · exact .inl (digit_mem (by omega))
    · exact .inl (digit_mem (by omega))
    · exact .inr rfl
    · exact .inr rfl
  | case4 =>
    intro c hc
    exact absurd hc List.not_mem_nil

theorem encode_injective {x y : List UInt8} (h : encode x = encode y) : x = y := by
  have hx := decode_encode x
  rw [h, decode_encode] at hx
  exact (Option.some.inj hx).symm

end Base64

/-! ## Hexadecimal -/

/-- The hexadecimal digits of a byte, `%02x`. -/
def hexByte (a : UInt8) : List Char := [Nat.digitChar (a.toNat / 16), Nat.digitChar (a.toNat % 16)]

/-- The hexadecimal digits of a list of bytes. -/
def hexText (bytes : List UInt8) : List Char := bytes.flatMap hexByte

theorem hexByte_injective {a b : UInt8} (h : hexByte a = hexByte b) : a = b := by
  have hdigit : ∀ m < 16, ∀ n < 16, Nat.digitChar m = Nat.digitChar n → m = n := by decide
  have ha := a.toNat_lt
  have hb := b.toNat_lt
  simp only [hexByte, List.cons.injEq, and_true] at h
  have hhigh := hdigit _ (by omega) _ (by omega) h.1
  have hlow := hdigit _ (by omega) _ (by omega) h.2
  apply UInt8.toNat_inj.1
  omega

/-- **Different bytes are written differently.** -/
theorem hexText_injective : ∀ {x y : List UInt8}, hexText x = hexText y → x = y := by
  intro x
  induction x with
  | nil =>
    intro y h
    cases y with
    | nil => rfl
    | cons b y => simp [hexText, hexByte] at h
  | cons a x ih =>
    intro y h
    cases y with
    | nil => simp [hexText, hexByte] at h
    | cons b y =>
      simp only [hexText, List.flatMap_cons] at h
      obtain ⟨hab, hxy⟩ := List.append_inj h rfl
      rw [hexByte_injective hab, ih hxy]

end Encodings
