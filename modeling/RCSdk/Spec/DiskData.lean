import RCSdk.Spec.CacheCenter

/-!
# The bytes the disk tier keeps (`RCDiskCacheCenter.m`)

The disk tier once more, with the bytes it puts into the user defaults: a dictionary of the
content, the time and the lifetime, written as JSON, read again, taken apart by its names,
and its content written once more. `CacheCenter` keeps the dictionary itself.
-/

namespace RCSdk

/-- A value of the user defaults: bytes, or a value of another class. -/
inductive DefaultsObject where
  | data (d : NSData)
  | other

/-- The user defaults, with the bytes they hold. -/
abbrev DefaultsData := String → Option DefaultsObject

/-- `dataForKey:`. -/
def DefaultsData.dataForKey (key : String) (defaults : DefaultsData) : Option NSData :=
  match defaults key with
  | some (.data d) => some d
  | _ => none

/-- The dictionary of an entry. -/
def entryDictionary (content : Json) (lastUpdateTime cacheTime : ℚ) : Json :=
  .obj [("content", content), ("lastUpdateTime", .num lastUpdateTime), ("cacheTime", .num cacheTime)]

namespace DefaultsData

/-- `fetchedContent[name]`: `nil` of `nil` and for a name that is missing. Only a dictionary
answers to a name, any other value raises (`none`). -/
def subscript (name : String) : Option Json → Option (Option Json)
  | none => some none
  | some (.obj kvs) => some (kvs.lookup name)
  | some _ => none

/-- `[x doubleValue]`: `nil` answers 0, numbers and strings have one, the others raise
(`none`). `stringValue` is that of a string. -/
def doubleValue (stringValue : String → ℚ) : Option Json → Option ℚ
  | none => some 0
  | some (.num q) => some q
  | some (.bool b) => some (if b then 1 else 0)
  | some (.str s) => some (stringValue s)
  | some _ => none

variable [Foundation] (stringValue : String → ℚ)

/-- `fetchCachedRecordWithKey:`. It raises (`none`) on bytes that are no dictionary of this
shape, and when the content cannot be written. -/
def fetchCachedRecordWithKey (now : ℚ) (key : String) (defaults : DefaultsData) :
    Option (DefaultsData × Option RCURLResponse) :=
  match defaults.dataForKey (RCDiskCacheCenter.actualKey key) with
  | some data => do
    let fetchedContent := JSONObjectWithData data
    let lastUpdateTimeNumber ← subscript "lastUpdateTime" fetchedContent
    let lastUpdateTime ← doubleValue stringValue lastUpdateTimeNumber
    let timeInterval := now - lastUpdateTime
    let cacheTimeNumber ← subscript "cacheTime" fetchedContent
    let cacheTime ← doubleValue stringValue cacheTimeNumber
    if timeInterval < cacheTime then
      let content ← subscript "content" fetchedContent
      -- there is no writing of `nil` either
      let data ← content.bind dataWithJSONObject
      some (defaults, some (RCURLResponse.initWithData data))
    else some (Function.update defaults (RCDiskCacheCenter.actualKey key) none, none)
  | none => some (defaults, none)

/-- `saveCacheWithResponse:key:cacheTime:`. -/
def saveCacheWithResponse (now : ℚ) (response : RCURLResponse) (key : String) (cacheTime : ℚ)
    (defaults : DefaultsData) : Option DefaultsData :=
  match response.content with
  | some content =>
    (dataWithJSONObject (entryDictionary content now cacheTime)).map fun data =>
      Function.update defaults (RCDiskCacheCenter.actualKey key) (some (.data data))
  | none => some defaults

/-- `cleanAll`. -/
def cleanAll (defaults : DefaultsData) : DefaultsData := fun key =>
  if beginsWithIgnoringCase kRCDiskCacheCenterCachedObjectKeyPrefix key then none else defaults key

end DefaultsData

/-- What the disk tier is asked, each time at some moment. -/
inductive DiskOp where
  | save (now : ℚ) (response : RCURLResponse) (key : String) (cacheTime : ℚ)
  | fetch (now : ℚ) (key : String)
  | cleanAll

section Steps

variable [Foundation]

/-- One operation on the bytes, with the answers to the fetches so far; `none` when it
raises. -/
def DefaultsData.step (stringValue : String → ℚ) (s : DefaultsData × List (Option RCURLResponse)) :
    DiskOp → Option (DefaultsData × List (Option RCURLResponse))
  | .save now response key cacheTime =>
    (s.1.saveCacheWithResponse now response key cacheTime).map fun d => (d, s.2)
  | .fetch now key =>
    (s.1.fetchCachedRecordWithKey stringValue now key).map fun (d, answer) => (d, s.2 ++ [answer])
  | .cleanAll => some (s.1.cleanAll, s.2)

/-- The same operation on the dictionaries. -/
def RCDiskCacheCenter.step (s : NSUserDefaults × List (Option RCURLResponse)) :
    DiskOp → Option (NSUserDefaults × List (Option RCURLResponse))
  | .save now response key cacheTime =>
    some (saveCacheWithResponse now response key cacheTime s.1, s.2)
  | .fetch now key =>
    (fetchCachedRecordWithKey now key s.1).map fun (d, answer) => (d, s.2 ++ [answer])
  | .cleanAll => some (cleanAll s.1, s.2)

/-- What may happen to the user defaults: an operation of the disk tier, or the rest of the
application writes or removes a value. -/
inductive DefaultsEvent where
  | tier (op : DiskOp)
  | write (key : String) (value : Option DefaultsObject)

/-- One event on the bytes. -/
def DefaultsData.stepShared (stringValue : String → ℚ)
    (s : DefaultsData × List (Option RCURLResponse)) :
    DefaultsEvent → Option (DefaultsData × List (Option RCURLResponse))
  | .tier op => DefaultsData.step stringValue s op
  | .write key value => some (Function.update s.1 key value, s.2)

end Steps

end RCSdk
