import RCSdk.Spec.Response
import Mathlib.Algebra.Order.Ring.Unbundled.Rat
import Mathlib.Logic.Function.Basic

/-!
# The two cache tiers (`RCCacheCenter.m` and below)

The memory tier keeps written JSON in records of an `NSCache`; the disk tier keeps a
dictionary of content, time and lifetime in the user defaults. Both are asked with the
same key, a concatenation of service, method and parameters. Times are exact seconds.
-/

namespace RCSdk

variable [Foundation]

open Foundation

/-- The text `%@` prints for a parameter value. -/
def ParamValue.text : ParamValue → String
  | .string s => s
  | .number q => describe q

/-- `RC_transformToUrlParamString`. The keys are distinct, so the value of the `i`-th key
is the `i`-th entry's. -/
def NSDictionary.RC_transformToUrlParamString (d : NSDictionary) : String :=
  d.entries.zipIdx.foldl (fun paramString (entry, i) =>
    let string :=
      if i = 0 then "?" ++ entry.1 ++ "=" ++ entry.2.text
      else "&" ++ entry.1 ++ "=" ++ entry.2.text
    paramString ++ string) ""

/-- `keyWithServiceIdentifier:methodName:requestParams:`. -/
def keyWithServiceIdentifier (serviceIdentifier methodName : String) (requestParams : NSDictionary) :
    String :=
  serviceIdentifier ++ methodName ++ requestParams.RC_transformToUrlParamString

/-! ## Memory -/

/-- `RCMemoryCachedRecord`. -/
structure RCMemoryCachedRecord where
  content : Option NSData
  lastUpdateTime : ℚ
  cacheTime : ℚ

/-- `isOutdated`. -/
def RCMemoryCachedRecord.isOutdated (now : ℚ) (r : RCMemoryCachedRecord) : Bool :=
  now - r.lastUpdateTime > r.cacheTime

/-- `isEmpty`. -/
def RCMemoryCachedRecord.isEmpty (r : RCMemoryCachedRecord) : Bool := r.content.isNone

/-- `updateContent:`, whose setter notes the time. -/
def RCMemoryCachedRecord.updateContent (now : ℚ) (content : NSData) (r : RCMemoryCachedRecord) :
    RCMemoryCachedRecord :=
  { r with content := some content, lastUpdateTime := now }

/-- `RCMemoryCacheDataCenter`, by what its `NSCache` holds. -/
abbrev RCMemoryCacheDataCenter := String → Option RCMemoryCachedRecord

namespace RCMemoryCacheDataCenter

/-- `fetchCachedRecordWithKey:`. -/
def fetchCachedRecordWithKey (now : ℚ) (key : String) (cache : RCMemoryCacheDataCenter) :
    RCMemoryCacheDataCenter × Option RCURLResponse :=
  match cache key with
  | some cachedRecord =>
    if cachedRecord.isOutdated now || cachedRecord.isEmpty then
      (Function.update cache key none, none)
    else (cache, cachedRecord.content.map RCURLResponse.initWithData)
  | none => (cache, none)

/-- `saveCacheWithResponse:key:cacheTime:`. It raises (`none`) when the content may not
stand at top level. -/
def saveCacheWithResponse (now : ℚ) (response : RCURLResponse) (key : String) (cacheTime : ℚ)
    (cache : RCMemoryCacheDataCenter) : Option RCMemoryCacheDataCenter :=
  let cachedRecord := (cache key).getD ⟨none, 0, 0⟩
  let cachedRecord := { cachedRecord with cacheTime }
  (response.content.bind dataWithJSONObject).map fun data =>
    Function.update cache key (some (cachedRecord.updateContent now data))

/-- `cleanAll`. -/
def cleanAll (_ : RCMemoryCacheDataCenter) : RCMemoryCacheDataCenter := fun _ => none

end RCMemoryCacheDataCenter

/-! ## Disk -/

/-- A value of the user defaults: a dictionary the disk tier wrote, or another value of the
application. -/
inductive DefaultsValue where
  | record (content : Json) (lastUpdateTime cacheTime : ℚ)
  | other

/-- The user defaults. -/
abbrev NSUserDefaults := String → Option DefaultsValue

def kRCDiskCacheCenterCachedObjectKeyPrefix : String := "kRCDiskCacheCenterCachedObjectKeyPrefix"

namespace RCDiskCacheCenter

/-- The key of the user defaults under which the disk tier keeps `key`. -/
def actualKey (key : String) : String := kRCDiskCacheCenterCachedObjectKeyPrefix ++ key

/-- `fetchCachedRecordWithKey:`. It raises (`none`) when the content it found may not stand
at top level. -/
def fetchCachedRecordWithKey (now : ℚ) (key : String) (defaults : NSUserDefaults) :
    Option (NSUserDefaults × Option RCURLResponse) :=
  match defaults (actualKey key) with
  | some (.record content lastUpdateTime cacheTime) =>
    let timeInterval := now - lastUpdateTime
    if timeInterval < cacheTime then
      (dataWithJSONObject content).map fun data =>
        (defaults, some (RCURLResponse.initWithData data))
    else some (Function.update defaults (actualKey key) none, none)
  | _ => some (defaults, none)

/-- `saveCacheWithResponse:key:cacheTime:`. The content is wrapped in a dictionary, which
can always be written. -/
def saveCacheWithResponse (now : ℚ) (response : RCURLResponse) (key : String) (cacheTime : ℚ)
    (defaults : NSUserDefaults) : NSUserDefaults :=
  match response.content with
  | some content => Function.update defaults (actualKey key) (some (.record content now cacheTime))
  | none => defaults

/-- `cleanAll`. -/
def cleanAll (defaults : NSUserDefaults) : NSUserDefaults := fun key =>
  if beginsWithIgnoringCase kRCDiskCacheCenterCachedObjectKeyPrefix key then none else defaults key

end RCDiskCacheCenter

/-! ## The cache center -/

/-- `RCCacheCenter`. -/
structure RCCacheCenter where
  memoryCacheCenter : RCMemoryCacheDataCenter
  diskCacheCenter : NSUserDefaults

namespace RCCacheCenter

def init : RCCacheCenter := ⟨fun _ => none, fun _ => none⟩

/-- `fetchDiskCacheWithServiceIdentifier:methodName:params:`. -/
def fetchDiskCache (now : ℚ) (serviceIdentifier methodName : String) (params : NSDictionary)
    (c : RCCacheCenter) : Option (RCCacheCenter × Option RCURLResponse) :=
  (RCDiskCacheCenter.fetchCachedRecordWithKey now
    (keyWithServiceIdentifier serviceIdentifier methodName params) c.diskCacheCenter).map
    fun (d, response) => ({ c with diskCacheCenter := d }, response)

/-- `fetchMemoryCacheWithServiceIdentifier:methodName:params:`. -/
def fetchMemoryCache (now : ℚ) (serviceIdentifier methodName : String) (params : NSDictionary)
    (c : RCCacheCenter) : RCCacheCenter × Option RCURLResponse :=
  let (cache, response) := c.memoryCacheCenter.fetchCachedRecordWithKey now
    (keyWithServiceIdentifier serviceIdentifier methodName params)
  ({ c with memoryCacheCenter := cache }, response)

/-- `saveDiskCacheWithResponse:serviceIdentifier:methodName:cacheTime:`. -/
def saveDiskCache (now : ℚ) (response : RCURLResponse) (serviceIdentifier methodName : String)
    (cacheTime : ℚ) (c : RCCacheCenter) : RCCacheCenter :=
  match response.originRequestParams, response.content with
  | some originRequestParams, some _ =>
    { c with
      diskCacheCenter := RCDiskCacheCenter.saveCacheWithResponse now response
        (keyWithServiceIdentifier serviceIdentifier methodName originRequestParams) cacheTime
        c.diskCacheCenter }
  | _, _ => c

/-- `saveMemoryCacheWithResponse:serviceIdentifier:methodName:cacheTime:`. -/
def saveMemoryCache (now : ℚ) (response : RCURLResponse) (serviceIdentifier methodName : String)
    (cacheTime : ℚ) (c : RCCacheCenter) : Option RCCacheCenter :=
  match response.originRequestParams, response.content with
  | some originRequestParams, some _ =>
    (c.memoryCacheCenter.saveCacheWithResponse now response
      (keyWithServiceIdentifier serviceIdentifier methodName originRequestParams) cacheTime).map
      fun cache => { c with memoryCacheCenter := cache }
  | _, _ => some c

/-- `cleanAllDiskCache`. -/
def cleanAllDiskCache (c : RCCacheCenter) : RCCacheCenter :=
  { c with diskCacheCenter := RCDiskCacheCenter.cleanAll c.diskCacheCenter }

/-- `cleanAllMemoryCache`. -/
def cleanAllMemoryCache (c : RCCacheCenter) : RCCacheCenter :=
  { c with memoryCacheCenter := c.memoryCacheCenter.cleanAll }

/-- `NSCache` drops the entry of a key, as it may at any time. -/
def evict (key : String) (c : RCCacheCenter) : RCCacheCenter :=
  { c with memoryCacheCenter := Function.update c.memoryCacheCenter key none }

end RCCacheCenter

/-! ## The two tiers side by side -/

/-- A JSON object or array. -/
abbrev Document := {j : Json // j.isTopLevel = true}

/-- A response whose content is a JSON object or array. -/
structure DocumentResponse where
  response : RCURLResponse
  document : Document
  content_eq : response.content = some document.1

/-- What both tiers are asked, each time at some moment. -/
inductive TierOp where
  | save (now : ℚ) (response : DocumentResponse) (key : String) (cacheTime : ℚ)
  | fetch (now : ℚ) (key : String)
  | cleanAll

/-- The two tiers, each asked the same. -/
structure Tiers where
  memory : RCMemoryCacheDataCenter
  disk : NSUserDefaults

namespace Tiers

/-- One operation on both tiers; `none` when one of them raises. -/
def step (t : Tiers) : TierOp → Option Tiers
  | .save now r key cacheTime =>
    (t.memory.saveCacheWithResponse now r.response key cacheTime).map fun memory =>
      ⟨memory, RCDiskCacheCenter.saveCacheWithResponse now r.response key cacheTime t.disk⟩
  | .fetch now key =>
    (RCDiskCacheCenter.fetchCachedRecordWithKey now key t.disk).map fun (disk, _) =>
      ⟨(t.memory.fetchCachedRecordWithKey now key).1, disk⟩
  | .cleanAll => some ⟨t.memory.cleanAll, RCDiskCacheCenter.cleanAll t.disk⟩

/-- What the memory tier answers to a fetch. -/
def memoryAnswer (now : ℚ) (key : String) (t : Tiers) : Option RCURLResponse :=
  (t.memory.fetchCachedRecordWithKey now key).2

/-- What the disk tier answers to a fetch. -/
def diskAnswer (now : ℚ) (key : String) (t : Tiers) : Option RCURLResponse :=
  (RCDiskCacheCenter.fetchCachedRecordWithKey now key t.disk).bind Prod.snd

end Tiers

end RCSdk
