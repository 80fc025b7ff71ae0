import Mathlib.Algebra.Order.Ring.Int
import RCSdk.Lib.Encodings

/-!
# The encoders of strings (`NSString+AXNetworkingMethods.m`, `NSArray+AXNetworkingMethods.m`)

`RC_MD5`, `RC_SHA1` and `RC_Base64Encode`, and `RC_paramsString` of an array. A string is a sequence
of Unicode scalar values; its `length` is the number of its UTF-16 units, which is not the number of
its UTF-8 bytes. The digests are parameters, and the order of `compare:`.
-/

namespace RCSdk

open Encodings

namespace NSString

/-- `length`. -/
def length (s : String) : ℕ := utf16Length s

/-- The bytes of `dataUsingEncoding:` and of `cStringUsingEncoding:`, in UTF-8. -/
def dataUsingUTF8Encoding (s : String) : List UInt8 := utf8 s

/-- The bytes that `CC_MD5(data, (unsigned int)length, …)` and `CC_SHA1` take. -/
def digestInput (data : List UInt8) (length : ℕ) : List UInt8 :=
  data.take (UInt32.ofNat length).toNat

/-- The bytes that `RC_MD5` digests. -/
def MD5Input (s : String) : List UInt8 :=
  let inputData := dataUsingUTF8Encoding s
  digestInput inputData inputData.length

/-- `RC_MD5`. -/
def RC_MD5 (CC_MD5 : List UInt8 → Vector UInt8 16) (s : String) : String :=
  let outputData := CC_MD5 (MD5Input s)
  String.ofList (hexText outputData.toList)

/-- The bytes that `RC_SHA1` digests. -/
def SHA1Input (s : String) : List UInt8 :=
  let cstr := dataUsingUTF8Encoding s
  -- the length is that of the string, not of `cstr`
  let data := cstr.take (length s)
  digestInput data data.length

/-- `RC_SHA1`. -/
def RC_SHA1 (CC_SHA1 : List UInt8 → Vector UInt8 20) (s : String) : String :=
  let digest := CC_SHA1 (SHA1Input s)
  String.ofList (hexText digest.toList)

def base64EncodingTable : List Char :=
  ['A', 'B', 'C', 'D', 'E', 'F', 'G', 'H', 'I', 'J', 'K', 'L', 'M', 'N', 'O', 'P',
   'Q', 'R', 'S', 'T', 'U', 'V', 'W', 'X', 'Y', 'Z', 'a', 'b', 'c', 'd', 'e', 'f',
   'g', 'h', 'i', 'j', 'k', 'l', 'm', 'n', 'o', 'p', 'q', 'r', 's', 't', 'u', 'v',
   'w', 'x', 'y', 'z', '0', '1', '2', '3', '4', '5', '6', '7', '8', '9', '+', '/']

/-- What one turn of the loop of `RC_Base64Encode` appends. -/
def base64Turn (raw : List UInt8) (lentext ixtext : ℕ) : List Char :=
  let ctremaining : ℤ := lentext - ixtext
  let input (i : ℕ) : UInt8 :=
    let ix := ixtext + i
    if ix < lentext then raw.getD ix 0 else 0
  let output : List UInt8 :=
    [(input 0 &&& 0xFC) >>> 2,
     ((input 0 &&& 0x03) <<< 4) ||| ((input 1 &&& 0xF0) >>> 4),
     ((input 1 &&& 0x0F) <<< 2) ||| ((input 2 &&& 0xC0) >>> 6),
     input 2 &&& 0x3F]
  let ctcopy := if ctremaining = 1 then 2 else if ctremaining = 2 then 3 else 4
  (output.take ctcopy).map (fun o => base64EncodingTable.getD o.toNat '=') ++
    List.replicate (4 - ctcopy) '='

/-- The loop of `RC_Base64Encode`. -/
def base64Loop (raw : List UInt8) (lentext ixtext : ℕ) (result : List Char) : List Char :=
  let ctremaining : ℤ := lentext - ixtext
  if ctremaining ≤ 0 then result
  else base64Loop raw lentext (ixtext + 3) (result ++ base64Turn raw lentext ixtext)
termination_by lentext - ixtext
decreasing_by omega

/-- `RC_Base64Encode`. -/
def RC_Base64Encode (s : String) : String :=
  let rawData := dataUsingUTF8Encoding s
  -- the length is that of the string, not of `rawData`
  let lentext := length s
  if lentext < 1 then "" else String.ofList (base64Loop rawData lentext 0 [])

/-! ## The same with every read checked -/

/-- `dataWithBytes:length:`, `none` where it would copy bytes from beyond the buffer. -/
def dataWithBytes (bytes : List UInt8) (length : ℕ) : Option (List UInt8) :=
  if length ≤ bytes.length then some (bytes.take length) else none

/-- The bytes that `RC_SHA1` copies. -/
def SHA1Data (s : String) : Option (List UInt8) :=
  dataWithBytes (dataUsingUTF8Encoding s) (length s)

/-- A turn of the loop of `RC_Base64Encode`, `none` where it would read beyond `raw` or beyond the
table. -/
def base64TurnChecked (raw : List UInt8) (lentext ixtext : ℕ) : Option (List Char) := do
  let ctremaining : ℤ := lentext - ixtext
  let input (i : ℕ) : Option UInt8 :=
    let ix := ixtext + i
    if ix < lentext then raw[ix]? else some 0
  let input0 ← input 0
  let input1 ← input 1
  let input2 ← input 2
  let output : List UInt8 :=
    [(input0 &&& 0xFC) >>> 2,
     ((input0 &&& 0x03) <<< 4) ||| ((input1 &&& 0xF0) >>> 4),
     ((input1 &&& 0x0F) <<< 2) ||| ((input2 &&& 0xC0) >>> 6),
     input2 &&& 0x3F]
  let ctcopy := if ctremaining = 1 then 2 else if ctremaining = 2 then 3 else 4
  let letters ← (output.take ctcopy).mapM fun o => base64EncodingTable[o.toNat]?
  some (letters ++ List.replicate (4 - ctcopy) '=')

/-- The loop of `RC_Base64Encode`, with its reads checked. -/
def base64LoopChecked (raw : List UInt8) (lentext ixtext : ℕ) (result : List Char) :
    Option (List Char) :=
  let ctremaining : ℤ := lentext - ixtext
  if ctremaining ≤ 0 then some result
  else do
    let turn ← base64TurnChecked raw lentext ixtext
    base64LoopChecked raw lentext (ixtext + 3) (result ++ turn)
termination_by lentext - ixtext
decreasing_by omega

/-- `RC_Base64Encode`, with its reads checked. -/
def RC_Base64EncodeChecked (s : String) : Option String :=
  let rawData := dataUsingUTF8Encoding s
  let lentext := length s
  if lentext < 1 then some ""
  else (base64LoopChecked rawData lentext 0 []).map String.ofList

end NSString

namespace NSArray

/-- `sortedArrayUsingSelector:`. -/
def sortedArrayUsingSelector (compare : String → String → Ordering) (array : List String) :
    List String :=
  array.mergeSort fun s t => (compare s t).isLE

/-- `RC_paramsString`: the sorted strings one after the other. -/
def RC_paramsString (compare : String → String → Ordering) (array : List String) : String :=
  let sortedParams := sortedArrayUsingSelector compare array
  sortedParams.foldl
    (fun paramString obj =>
      if NSString.length paramString = 0 then paramString ++ obj
      else paramString ++ ("&" ++ obj))
    ""

end NSArray

end RCSdk
