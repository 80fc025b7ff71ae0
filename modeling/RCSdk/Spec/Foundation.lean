import Mathlib.Data.Rat.Defs
import Mathlib.Data.List.Perm.Basic

/-!
# The part of Foundation the networking layer rests on

JSON values and the data they are written to, errors, parameter dictionaries, and
the objects `RC_defaultValue:` tells apart (`NSObject+AXNetworkingMethods.m`).
What Foundation does and the sources do not fix (how `%@` prints a number, the text
of written JSON, the concrete classes of a class cluster) is a parameter, `Foundation`.
-/

namespace RCSdk

/-- A JSON value as `NSJSONSerialization` builds it. Numbers are exact. -/
inductive Json where
  | null
  | bool (b : Bool)
  | num (q : ℚ)
  | str (s : String)
  | arr (xs : List Json)
  | obj (kvs : List (String × Json))
  deriving Repr

/-- The values `NSJSONSerialization` accepts at top level. -/
def Json.isTopLevel : Json → Bool
  | .arr _ | .obj _ => true
  | _ => false

/-- `@{}`. -/
def Json.empty : Json := .obj []

/-- A byte string, by its two readings: as UTF-8 text and as JSON. -/
structure NSData where
  utf8 : Option String
  json : Option Json
  deriving Repr

structure NSError where
  code : ℤ
  deriving DecidableEq, Repr

def NSURLErrorTimedOut : ℤ := -1001
def NSURLErrorCancelled : ℤ := -999
def NSURLErrorNotConnectedToInternet : ℤ := -1009

/-- A parameter value: a string or a number. -/
inductive ParamValue where
  | string (s : String)
  | number (q : ℚ)
  deriving DecidableEq, Repr

/-- A parameter dictionary. The list is the order its keys are enumerated in, which
`NSDictionary` does not fix. -/
structure NSDictionary where
  entries : List (String × ParamValue)
  nodup : (entries.map Prod.fst).Nodup
  deriving DecidableEq, Repr

/-- `@{}`. -/
def NSDictionary.empty : NSDictionary := ⟨[], by simp⟩

/-- `isEqual:` of two dictionaries: the same entries, in whatever order. -/
def NSDictionary.isEqual (d d' : NSDictionary) : Prop := d.entries.Perm d'.entries

/-- A concrete class, such as one of the private subclasses of `NSString`. -/
abbrev ClassRef := ℕ

/-- What `RC_isEmptyObject` looks at in an object. -/
inductive ObjectValue where
  | null
  | string (s : String)
  | array (count : ℕ)
  | dictionary (count : ℕ)
  | other
  deriving DecidableEq, Repr

structure NSObject where
  cls : ClassRef
  value : ObjectValue
  deriving DecidableEq, Repr

/-- **What the sources leave to Foundation.** -/
class Foundation where
  /-- The text `%@` prints for a number. -/
  describe : ℚ → String
  /-- The text of a written JSON value. -/
  jsonText : Json → String
  /-- Characters that `[c]` comparisons do not tell apart have the same folding. -/
  foldCase : Char → Char
  /-- `isKindOfClass:` between concrete classes. -/
  isKindOfClass : ClassRef → ClassRef → Bool
  /-- The concrete class of a literal string. -/
  literalClass : ClassRef
  /-- The concrete class of a string decoded from bytes. -/
  decodedClass : String → ClassRef

/-- A Foundation to evaluate the model in. -/
instance : Foundation where
  describe q := toString q.num
  jsonText _ := "{}"
  foldCase := Char.toLower
  isKindOfClass c d := c == d
  literalClass := 0
  decodedClass _ := 0

variable [Foundation]

open Foundation

/-- `dataWithJSONObject:options:error:`. It raises (`none`) on a value that may not
stand at top level. -/
def dataWithJSONObject (j : Json) : Option NSData :=
  if j.isTopLevel then some ⟨some (jsonText j), some j⟩ else none

/-- `JSONObjectWithData:options:error:`, `nil` for bytes that are not JSON. -/
def JSONObjectWithData (d : NSData) : Option Json := d.json

/-- `[[NSString alloc] initWithData:data encoding:NSUTF8StringEncoding]`. -/
def stringWithData (d : NSData) : Option NSObject :=
  d.utf8.map fun s => ⟨decodedClass s, .string s⟩

/-- `SELF beginswith[c] %@`. -/
def beginsWithIgnoringCase (start s : String) : Bool :=
  (start.toList.map foldCase).isPrefixOf (s.toList.map foldCase)

/-- The literal `@""`. -/
def emptyLiteral : NSObject := ⟨literalClass, .string ""⟩

/-- `RC_isEmptyObject`. -/
def NSObject.RC_isEmptyObject (x : NSObject) : Bool :=
  match x.value with
  | .null => true
  | .string s => s.isEmpty
  | .array n => n == 0
  | .dictionary n => n == 0
  | .other => false

/-- `[x RC_defaultValue:d]`, with `nil` for a message to `nil`. -/
def RC_defaultValue (x : Option NSObject) (d : NSObject) : Option NSObject :=
  match x with
  | none => none
  | some x =>
    if !isKindOfClass d.cls x.cls then some d
    else if x.RC_isEmptyObject then some d
    else some x

theorem dataWithJSONObject_json {j : Json} {d : NSData} (h : dataWithJSONObject j = some d) :
    j.isTopLevel = true ∧ JSONObjectWithData d = some j := by
  unfold dataWithJSONObject at h
  split at h
  · rename_i hj; simp only [Option.some.injEq] at h; subst h; exact ⟨hj, rfl⟩
  · simp at h

end RCSdk
