import RCSdk.Spec.StringMethods

/-!
# What the encoders of strings encode

`RC_Base64Encode` and `RC_SHA1` take as many UTF-8 bytes as the string has UTF-16 units
(`base64Encode_eq`, `SHA1Input_eq`); `RC_MD5` takes them all, up to the width of the length it
passes on.

* `reads_within`: no byte beyond the encoding is read or copied, and how long the Base64 is.
* `base64_standard_iff`: the Base64 is that of the whole encoding exactly for ASCII strings.
* `digests_agree_iff`: the two digests take the whole encoding exactly for ASCII strings of less
  than four gigabytes.
-/

namespace RCSdk

open Encodings

namespace NSString

/-! ## One turn of the loop -/

theorem base64EncodingTable_eq : base64EncodingTable = Base64.alphabet := by decide

/-- The byte a turn reads at a place, zero beyond the end. -/
theorem input_eq (raw : List UInt8) (lentext ixtext i : ℕ) :
    (if ixtext + i < lentext then raw.getD (ixtext + i) 0 else 0) =
      ((raw.take lentext).drop ixtext).getD i 0 := by
  simp only [List.getD_eq_getElem?_getD, List.getElem?_drop, List.getElem?_take]
  split_ifs <;> rfl

section Bits

variable (a b c : UInt8)

theorem first_sextet : ((a &&& 0xFC) >>> 2).toNat = a.toNat / 4 := by
  have hbits : ∀ n < 256, (n &&& 252) >>> 2 = n / 4 := by decide +kernel
  simpa using hbits a.toNat a.toNat_lt

/-- A sextet across two bytes: the low bits of the one, above the high bits of the other. -/
theorem or_eq_add {x y : UInt8} {k : ℕ} {m n : ℕ} (hx : x.toNat = m * 2 ^ k) (hy : y.toNat = n)
    (hn : n < 2 ^ k) : (x ||| y).toNat = m * 2 ^ k + n := by
  rw [UInt8.toNat_or, hx, hy, ← Nat.shiftLeft_eq, Nat.shiftLeft_add_eq_or_of_lt hn]

theorem second_sextet : (((a &&& 0x03) <<< 4) ||| ((b &&& 0xF0) >>> 4)).toNat =
    a.toNat % 4 * 16 + b.toNat / 16 := by
  have hlow : ∀ n < 256, (n &&& 3) <<< 4 % 256 = n % 4 * 2 ^ 4 := by decide +kernel
  have hhigh : ∀ n < 256, (n &&& 240) >>> 4 = n / 16 := by decide +kernel
  have hb := b.toNat_lt
  exact or_eq_add (k := 4) (by simpa using hlow a.toNat a.toNat_lt)
    (by simpa using hhigh b.toNat b.toNat_lt) (by omega)

theorem third_sextet : (((b &&& 0x0F) <<< 2) ||| ((c &&& 0xC0) >>> 6)).toNat =
    b.toNat % 16 * 4 + c.toNat / 64 := by
  have hlow : ∀ n < 256, (n &&& 15) <<< 2 % 256 = n % 16 * 2 ^ 2 := by decide +kernel
  have hhigh : ∀ n < 256, (n &&& 192) >>> 6 = n / 64 := by decide +kernel
  have hc := c.toNat_lt
  exact or_eq_add (k := 2) (by simpa using hlow b.toNat b.toNat_lt)
    (by simpa using hhigh c.toNat c.toNat_lt) (by omega)

theorem fourth_sextet : (c &&& 0x3F).toNat = c.toNat % 64 := by
  have hbits : ∀ n < 256, n &&& 63 = n % 64 := by decide +kernel
  simpa using hbits c.toNat c.toNat_lt

end Bits

/-- **A turn appends the letters of its bytes**, of which there are one to three. -/
theorem base64Turn_eq {raw : List UInt8} {lentext ixtext : ℕ} (hlen : lentext ≤ raw.length) :
    ∀ {bytes : List UInt8}, (raw.take lentext).drop ixtext = bytes → bytes ≠ [] →
      base64Turn raw lentext ixtext ++ Base64.encode (bytes.drop 3) = Base64.encode bytes := by
  intro bytes hbytes hne
  have hcount : lentext - ixtext = bytes.length := by
    rw [← hbytes, List.length_drop, List.length_take_of_le hlen]
  have hremaining : (lentext : ℤ) - ixtext = bytes.length := by
    have := List.length_pos_iff.2 hne
    omega
  have hdigit : ∀ n, base64EncodingTable.getD n '=' = Base64.digit n := by
    intro n
    rw [base64EncodingTable_eq, Base64.digit]
  unfold base64Turn
  simp only [input_eq, hbytes, hremaining, hdigit, List.map_take, List.map_cons, List.map_nil,
    first_sextet, second_sextet, third_sextet, fourth_sextet]
  -- one byte left, two, or a full group of three
  match bytes, hne with
  | [a], _ =>
    have h1 : a.toNat * 16 / 64 = a.toNat / 4 := by omega
    have h2 : a.toNat * 16 % 64 = a.toNat % 4 * 16 := by omega
    simp [Base64.encode, h1, h2]
  | [a, b], _ =>
    have ha := a.toNat_lt
    have hb := b.toNat_lt
    set n := (a.toNat * 256 + b.toNat) * 4 with hn
    have h1 : n / 4096 = a.toNat / 4 := by omega
    have h2 : n / 64 % 64 = a.toNat % 4 * 16 + b.toNat / 16 := by omega
    have h3 : n % 64 = b.toNat % 16 * 4 := by omega
    simp [Base64.encode, ← hn, h1, h2, h3]
  | a :: b :: c :: rest, _ =>
    have ha := a.toNat_lt
    have hb := b.toNat_lt
    have hc := c.toNat_lt
    set n := a.toNat * 65536 + b.toNat * 256 + c.toNat with hn
    have h1 : n / 262144 = a.toNat / 4 := by omega
    have h2 : n / 4096 % 64 = a.toNat % 4 * 16 + b.toNat / 16 := by omega
    have h3 : n / 64 % 64 = b.toNat % 16 * 4 + c.toNat / 64 := by omega
    have h4 : n % 64 = c.toNat % 64 := by omega
    have hlong : ¬ ((a :: b :: c :: rest).length : ℤ) = 1 ∧
        ¬ ((a :: b :: c :: rest).length : ℤ) = 2 := by
      simp only [List.length_cons]
      omega
    rw [if_neg hlong.1, if_neg hlong.2]
    simp [Base64.encode, ← hn, h1, h2, h3, h4]

/-- **The loop appends the letters of the bytes that are left.** -/
theorem base64Loop_eq {raw : List UInt8} {lentext : ℕ} (hlen : lentext ≤ raw.length)
    (ixtext : ℕ) (result : List Char) :
    base64Loop raw lentext ixtext result =
      result ++ Base64.encode ((raw.take lentext).drop ixtext) := by
  induction ixtext, result using base64Loop.induct raw lentext with
  | case1 ixtext result ctremaining h =>
    have hle : (raw.take lentext).length ≤ ixtext := by
      rw [List.length_take_of_le hlen]
      omega
    rw [base64Loop, if_pos h, List.drop_eq_nil_of_le hle, Base64.encode, List.append_nil]
  | case2 ixtext result ctremaining h ih =>
    have hne : (raw.take lentext).drop ixtext ≠ [] := by
      rw [ne_eq, List.drop_eq_nil_iff, List.length_take_of_le hlen]
      omega
    have hturn := base64Turn_eq hlen rfl hne
    rw [List.drop_drop] at hturn
    rw [base64Loop, if_neg h, ih, List.append_assoc, hturn]

/-- **`RC_Base64Encode` encodes as many bytes as the string has UTF-16 units.** -/
theorem base64Encode_eq (s : String) :
    RC_Base64Encode s = String.ofList (Base64.encode ((utf8 s).take (utf16Length s))) := by
  unfold RC_Base64Encode length dataUsingUTF8Encoding
  dsimp only
  split_ifs with h
  · have hzero : utf16Length s = 0 := by omega
    rw [hzero]
    rfl
  · rw [base64Loop_eq (utf16Length_le s)]
    rfl

/-! ## What is read -/

/-- Each sextet is an index of the table. -/
theorem mapM_table {output : List UInt8} (h : ∀ o ∈ output, o.toNat < 64) :
    output.mapM (fun o => base64EncodingTable[o.toNat]?) =
      some (output.map fun o => base64EncodingTable.getD o.toNat '=') := by
  have hlen : base64EncodingTable.length = 64 := rfl
  induction output with
  | nil => rfl
  | cons o output ih =>
    rw [List.forall_mem_cons] at h
    have ho : o.toNat < base64EncodingTable.length := by
      rw [hlen]
      exact h.1
    rw [List.mapM_cons, ih h.2, List.getElem?_eq_getElem ho, List.map_cons,
      List.getD_eq_getElem?_getD, List.getElem?_eq_getElem ho]
    rfl

/-- **A turn reads within `raw`**, if no more bytes are counted than there are. -/
theorem base64TurnChecked_eq {raw : List UInt8} {lentext : ℕ} (hlen : lentext ≤ raw.length)
    (ixtext : ℕ) : base64TurnChecked raw lentext ixtext = some (base64Turn raw lentext ixtext) := by
  have hinput : ∀ i, (if ixtext + i < lentext then raw[ixtext + i]? else some 0) =
      some (if ixtext + i < lentext then raw.getD (ixtext + i) 0 else 0) := by
    intro i
    split_ifs with h
    · have hlt : ixtext + i < raw.length := by omega
      rw [List.getD_eq_getElem?_getD, List.getElem?_eq_getElem hlt]
      rfl
    · rfl
  unfold base64TurnChecked base64Turn
  simp only [hinput, Option.bind_eq_bind, Option.bind_some]
  set a : UInt8 := if ixtext + 0 < lentext then raw.getD (ixtext + 0) 0 else 0
  set b : UInt8 := if ixtext + 1 < lentext then raw.getD (ixtext + 1) 0 else 0
  set c : UInt8 := if ixtext + 2 < lentext then raw.getD (ixtext + 2) 0 else 0
  have ha := a.toNat_lt
  have hb := b.toNat_lt
  have hc := c.toNat_lt
  have houtput : ∀ o ∈ [(a &&& 0xFC) >>> 2, ((a &&& 0x03) <<< 4) ||| ((b &&& 0xF0) >>> 4),
      ((b &&& 0x0F) <<< 2) ||| ((c &&& 0xC0) >>> 6), c &&& 0x3F], o.toNat < 64 := by
    simp only [List.forall_mem_cons, first_sextet, second_sextet, third_sextet, fourth_sextet]
    refine ⟨by omega, by omega, by omega, by omega, fun o ho => absurd ho List.not_mem_nil⟩
  rw [mapM_table fun o ho => houtput o (List.mem_of_mem_take ho)]
  rfl

/-- **So does the loop.** -/
theorem base64LoopChecked_eq {raw : List UInt8} {lentext : ℕ} (hlen : lentext ≤ raw.length)
    (ixtext : ℕ) (result : List Char) :
    base64LoopChecked raw lentext ixtext result = some (base64Loop raw lentext ixtext result) := by
  induction ixtext, result using base64Loop.induct raw lentext with
  | case1 ixtext result ctremaining h => rw [base64LoopChecked, base64Loop, if_pos h, if_pos h]
  | case2 ixtext result ctremaining h ih =>
    rw [base64LoopChecked, base64Loop, if_neg h, if_neg h, base64TurnChecked_eq hlen]
    exact ih

/-- **Every byte that `RC_Base64Encode` reads and `RC_SHA1` copies is one of the encoding**: with
the reads checked they do the same. The Base64 has four characters for every three units begun, of
the alphabet or padding. -/
theorem reads_within (s : String) :
    RC_Base64EncodeChecked s = some (RC_Base64Encode s) ∧
      SHA1Data s = some ((dataUsingUTF8Encoding s).take (length s)) ∧
      length s ≤ (dataUsingUTF8Encoding s).length ∧
      (RC_Base64Encode s).toList.length = 4 * ((length s + 2) / 3) ∧
      ∀ c ∈ (RC_Base64Encode s).toList, c ∈ base64EncodingTable ∨ c = '=' := by
  have hlen : length s ≤ (dataUsingUTF8Encoding s).length := utf16Length_le s
  refine ⟨?_, if_pos hlen, hlen, ?_, fun c hc => ?_⟩
  · unfold RC_Base64EncodeChecked RC_Base64Encode
    dsimp only
    rw [base64LoopChecked_eq hlen]
    split_ifs <;> rfl
  · rw [base64Encode_eq, String.toList_ofList, Base64.length_encode,
      List.length_take_of_le (utf16Length_le s)]
    rfl
  · rw [base64Encode_eq, String.toList_ofList] at hc
    rw [base64EncodingTable_eq]
    exact Base64.mem_encode hc

/-! ## The standard Base64 -/

/-- **The Base64 of a string is that of its whole encoding, and decodes to it, exactly for ASCII
strings.** -/
theorem base64_standard_iff (s : String) :
    (RC_Base64Encode s = String.ofList (Base64.encode (utf8 s)) ↔ IsAscii s) ∧
      (Base64.decode (RC_Base64Encode s).toList = some (utf8 s) ↔ IsAscii s) := by
  rw [base64Encode_eq]
  constructor
  · rw [String.ofList_inj, ← take_utf16Length_eq_iff]
    exact ⟨Base64.encode_injective, congrArg Base64.encode⟩
  · rw [String.toList_ofList, Base64.decode_encode, Option.some_inj, take_utf16Length_eq_iff]

/-- The Base64 of `é`, which has one UTF-16 unit and two bytes, is that of the first byte. -/
theorem base64_of_e_acute :
    RC_Base64Encode "é" = "ww==" ∧ Base64.encode (utf8 "é") = "w6k=".toList ∧
      Base64.decode (RC_Base64Encode "é").toList ≠ some (utf8 "é") := by
  rw [base64Encode_eq]
  decide

/-! ## The digests -/

/-- Texts of digests are the same for every digest exactly when the bytes are. -/
theorem forall_digest_iff {n : ℕ} (hn : 0 < n) {x y : List UInt8} :
    (∀ digest : List UInt8 → Vector UInt8 n, String.ofList (hexText (digest x).toList) =
      String.ofList (hexText (digest y).toList)) ↔ x = y := by
  constructor
  · intro h
    by_contra hne
    -- a digest that tells the two apart
    have h := h fun z => if z = x then Vector.replicate n 0 else Vector.replicate n 1
    rw [if_pos rfl, if_neg (Ne.symm hne), String.ofList_inj] at h
    have h := hexText_injective h
    rw [Vector.toList_replicate, Vector.toList_replicate, List.replicate_inj] at h
    rcases h.2 with h | h
    · omega
    · exact absurd h (by decide)
  · rintro rfl digest
    rfl

/-- Two strings have one SHA-1 under every digest exactly when the same bytes are digested. -/
theorem RC_SHA1_eq_iff (s t : String) :
    (∀ CC_SHA1, RC_SHA1 CC_SHA1 s = RC_SHA1 CC_SHA1 t) ↔ SHA1Input s = SHA1Input t :=
  forall_digest_iff (by omega)

/-- The first bytes that are digested are all there are exactly when there are no more of them,
and their number fits in the width it is passed on in. -/
theorem digestInput_take_eq_iff {data : List UInt8} {n : ℕ} (hn : n ≤ data.length) :
    digestInput (data.take n) n = data ↔ n = data.length ∧ n < 2 ^ 32 := by
  unfold digestInput
  rw [List.take_take, List.take_eq_self_iff, UInt32.toNat_ofNat']
  have hmod := Nat.mod_lt n (show 0 < 2 ^ 32 by omega)
  constructor
  · intro h
    omega
  · rintro ⟨h, hlt⟩
    rw [Nat.mod_eq_of_lt hlt]
    omega

/-- `RC_SHA1` digests the whole encoding exactly of short ASCII strings. -/
theorem SHA1Input_eq_utf8_iff (s : String) :
    SHA1Input s = utf8 s ↔ IsAscii s ∧ length s < 2 ^ 32 := by
  have hlen := utf16Length_le s
  unfold SHA1Input length dataUsingUTF8Encoding
  dsimp only
  rw [List.length_take_of_le hlen, digestInput_take_eq_iff hlen, utf16Length_eq_iff]

/-- `RC_MD5` digests the whole encoding exactly when its length fits. -/
theorem MD5Input_eq_utf8_iff (s : String) : MD5Input s = utf8 s ↔ (utf8 s).length < 2 ^ 32 := by
  have h := digestInput_take_eq_iff (Nat.le_refl (utf8 s).length)
  rw [List.take_length] at h
  exact h.trans (and_iff_right rfl)

/-- **Both digests take the whole encoding exactly of ASCII strings of less than four gigabytes**,
and of those, different ones give each digest different bytes. -/
theorem digests_agree_iff (s t : String) :
    (SHA1Input s = utf8 s ∧ MD5Input s = utf8 s ↔ IsAscii s ∧ length s < 2 ^ 32) ∧
      (IsAscii s ∧ length s < 2 ^ 32 → IsAscii t ∧ length t < 2 ^ 32 → s ≠ t →
        SHA1Input s ≠ SHA1Input t ∧ MD5Input s ≠ MD5Input t) := by
  have hiff : ∀ s, SHA1Input s = utf8 s ∧ MD5Input s = utf8 s ↔
      IsAscii s ∧ length s < 2 ^ 32 := by
    intro s
    rw [SHA1Input_eq_utf8_iff, MD5Input_eq_utf8_iff]
    refine and_iff_left_of_imp fun ⟨hascii, hlt⟩ => ?_
    rw [← (utf16Length_eq_iff s).2 hascii]
    exact hlt
  refine ⟨hiff s, fun hs ht hne => ?_⟩
  obtain ⟨hs1, hs5⟩ := (hiff s).2 hs
  obtain ⟨ht1, ht5⟩ := (hiff t).2 ht
  have hbytes : utf8 s ≠ utf8 t := fun h => hne (utf8_injective h)
  rw [hs1, hs5, ht1, ht5]
  exact ⟨hbytes, hbytes⟩

/-- `é` and `è` share their first byte, and it is all that `RC_SHA1` digests of them. -/
theorem digests_of_e_acute :
    ("é" ≠ "è" ∧ ∀ CC_SHA1, RC_SHA1 CC_SHA1 "é" = RC_SHA1 CC_SHA1 "è") ∧
      SHA1Input "é" ≠ utf8 "é" ∧ SHA1Input "é" ≠ MD5Input "é" := by
  rw [RC_SHA1_eq_iff]
  decide

end NSString

end RCSdk
