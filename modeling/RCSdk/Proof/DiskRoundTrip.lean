import RCSdk.Lib.Run
import RCSdk.Spec.DiskData

/-!
# What the disk tier reads back

A response is written to disk as a dictionary around its content, which any JSON value may
be. Reading takes the content out and writes it once more, by itself, which only an object
or an array survives: a string, a number, a boolean or `null` raises.

* `fetch_of_written`: what a fetch answers to an entry.
* `disk_refines`: over every list of operations the bytes answer as the dictionaries do.
* `disk_round_trips_iff`: a content is read back, with `isCache` set, exactly when it is an
  object or an array.
* `string_content_raises`: a string.
-/

namespace RCSdk

open Trans

section Disk

variable [Foundation]

/-- These bytes are an entry with this content, time and lifetime. -/
def IsEntry (data : NSData) (content : Json) (lastUpdateTime cacheTime : ℚ) : Prop :=
  JSONObjectWithData data = some (entryDictionary content lastUpdateTime cacheTime)

namespace DefaultsData

variable (stringValue : String → ℚ)

/-! ## Writing and reading an entry -/

/-- An entry can always be written: it is a dictionary, whatever its content. -/
theorem save_writes (now : ℚ) {response : RCURLResponse} {content : Json} (key : String)
    (cacheTime : ℚ) (defaults : DefaultsData) (hc : response.content = some content) :
    ∃ data, IsEntry data content now cacheTime ∧
      defaults.saveCacheWithResponse now response key cacheTime =
        some (Function.update defaults (RCDiskCacheCenter.actualKey key) (some (.data data))) := by
  obtain ⟨data, hdata⟩ : ∃ data, dataWithJSONObject (entryDictionary content now cacheTime) = some data :=
    ⟨_, if_pos rfl⟩
  refine ⟨data, (dataWithJSONObject_json hdata).2, ?_⟩
  simp only [saveCacheWithResponse, hc, hdata, Option.map_some]

/-- **What a fetch answers to an entry**: the content, written by itself, while it lasts. -/
theorem fetch_of_written {defaults : DefaultsData} {key : String} {data : NSData} {content : Json}
    {lastUpdateTime cacheTime : ℚ} (now : ℚ)
    (hd : defaults (RCDiskCacheCenter.actualKey key) = some (.data data))
    (hj : IsEntry data content lastUpdateTime cacheTime) :
    defaults.fetchCachedRecordWithKey stringValue now key =
      if now - lastUpdateTime < cacheTime then
        (dataWithJSONObject content).map fun data =>
          (defaults, some (RCURLResponse.initWithData data))
      else some (Function.update defaults (RCDiskCacheCenter.actualKey key) none, none) := by
  have hfor : defaults.dataForKey (RCDiskCacheCenter.actualKey key) = some data := by
    simp only [dataForKey, hd]
  -- the three names of the dictionary
  have hcontent : subscript "content" (JSONObjectWithData data) = some (some content) := by
    rw [hj]; rfl
  have htime : subscript "lastUpdateTime" (JSONObjectWithData data) =
      some (some (.num lastUpdateTime)) := by
    rw [hj]; rfl
  have hlife : subscript "cacheTime" (JSONObjectWithData data) = some (some (.num cacheTime)) := by
    rw [hj]; rfl
  simp only [fetchCachedRecordWithKey, hfor, hcontent, htime, hlife, doubleValue, Option.bind_eq_bind,
    Option.bind_some]
  split_ifs
  · rw [Option.map_eq_bind]
    rfl
  · rfl

end DefaultsData

/-! ## The bytes and the dictionaries -/

/-- The bytes of a key stand for its dictionary; a value of another class is left alone. -/
inductive Stands : Option DefaultsObject → Option DefaultsValue → Prop
  | none : Stands none none
  | other : Stands (some .other) (some .other)
  | entry {data : NSData} {content : Json} {lastUpdateTime cacheTime : ℚ} :
      IsEntry data content lastUpdateTime cacheTime →
        Stands (some (.data data)) (some (.record content lastUpdateTime cacheTime))

/-- The bytes of every key stand for its dictionary. -/
def Represents (d : DefaultsData) (r : NSUserDefaults) : Prop := ∀ key, Stands (d key) (r key)

omit [Foundation] in
theorem Represents.update {d : DefaultsData} {r : NSUserDefaults} {key : String}
    {o : Option DefaultsObject} {v : Option DefaultsValue} (h : Represents d r) (hs : Stands o v) :
    Represents (Function.update d key o) (Function.update r key v) := by
  intro k
  by_cases hk : k = key
  · rw [hk, Function.update_self, Function.update_self]; exact hs
  · rw [Function.update_of_ne hk, Function.update_of_ne hk]; exact h k

theorem represents_save {d : DefaultsData} {r : NSUserDefaults} (h : Represents d r) (now : ℚ)
    (response : RCURLResponse) (key : String) (cacheTime : ℚ) :
    ∃ d', d.saveCacheWithResponse now response key cacheTime = some d' ∧
      Represents d' (RCDiskCacheCenter.saveCacheWithResponse now response key cacheTime r) := by
  cases hc : response.content with
  | none =>
    refine ⟨d, ?_, ?_⟩
    · simp only [DefaultsData.saveCacheWithResponse, hc]
    · simpa only [RCDiskCacheCenter.saveCacheWithResponse, hc] using h
  | some content =>
    obtain ⟨data, hdata, hsave⟩ := d.save_writes now key cacheTime hc
    refine ⟨_, hsave, ?_⟩
    simp only [RCDiskCacheCenter.saveCacheWithResponse, hc]
    exact h.update (.entry hdata)

/-- What two fetches that go together have in common. -/
def SameFetch (p : DefaultsData × Option RCURLResponse) (q : NSUserDefaults × Option RCURLResponse) :
    Prop := Represents p.1 q.1 ∧ p.2 = q.2

theorem represents_fetch (stringValue : String → ℚ) {d : DefaultsData} {r : NSUserDefaults}
    (h : Represents d r) (now : ℚ) (key : String) :
    Option.Rel SameFetch (d.fetchCachedRecordWithKey stringValue now key)
      (RCDiskCacheCenter.fetchCachedRecordWithKey now key r) := by
  have hk := h (RCDiskCacheCenter.actualKey key)
  simp only [RCDiskCacheCenter.fetchCachedRecordWithKey]
  generalize hr : r (RCDiskCacheCenter.actualKey key) = v at hk ⊢
  generalize hd : d (RCDiskCacheCenter.actualKey key) = o at hk
  cases hk with
  | none =>
    simp only [DefaultsData.fetchCachedRecordWithKey, DefaultsData.dataForKey, hd]
    exact .some ⟨h, rfl⟩
  | other =>
    simp only [DefaultsData.fetchCachedRecordWithKey, DefaultsData.dataForKey, hd]
    exact .some ⟨h, rfl⟩
  | entry hj =>
    rw [DefaultsData.fetch_of_written stringValue now hd hj]
    dsimp only
    split_ifs
    · cases dataWithJSONObject _ with
      | none => exact .none
      | some data => exact .some ⟨h, rfl⟩
    · exact .some ⟨h.update .none, rfl⟩

theorem represents_cleanAll {d : DefaultsData} {r : NSUserDefaults} (h : Represents d r) :
    Represents d.cleanAll (RCDiskCacheCenter.cleanAll r) := by
  intro key
  simp only [DefaultsData.cleanAll, RCDiskCacheCenter.cleanAll]
  split_ifs
  · exact .none
  · exact h key

/-- The two levels at one moment: the bytes stand for the dictionaries, and the same answers
were given. -/
def SameDisk (s : DefaultsData × List (Option RCURLResponse))
    (t : NSUserDefaults × List (Option RCURLResponse)) : Prop := Represents s.1 t.1 ∧ s.2 = t.2

theorem sameDisk_step (stringValue : String → ℚ) (s : DefaultsData × List (Option RCURLResponse))
    (t : NSUserDefaults × List (Option RCURLResponse)) (op : DiskOp) (h : SameDisk s t) :
    Option.Rel SameDisk (DefaultsData.step stringValue s op) (RCDiskCacheCenter.step t (id op)) := by
  cases op with
  | save now response key cacheTime =>
    obtain ⟨d', hd, hr⟩ := represents_save h.1 now response key cacheTime
    simp only [DefaultsData.step, hd, Option.map_some]
    exact .some ⟨hr, h.2⟩
  | fetch now key =>
    have hf := represents_fetch stringValue h.1 now key
    simp only [DefaultsData.step, RCDiskCacheCenter.step, id]
    generalize s.1.fetchCachedRecordWithKey stringValue now key = p at hf
    generalize RCDiskCacheCenter.fetchCachedRecordWithKey now key t.1 = q at hf
    cases hf with
    | none => exact .none
    | some hpq => exact .some ⟨hpq.1, congrArg₂ (fun l answer => l ++ [answer]) h.2 hpq.2⟩
  | cleanAll => exact .some ⟨represents_cleanAll h.1, h.2⟩

/-- **The bytes answer as the dictionaries do**, over every list of operations, and raise
when they do. -/
theorem disk_refines (stringValue : String → ℚ) {d : DefaultsData} {r : NSUserDefaults}
    (h : Represents d r) (ops : List DiskOp) :
    Option.Rel SameDisk (exec (DefaultsData.step stringValue) (d, []) ops)
      (exec RCDiskCacheCenter.step (r, []) ops) := by
  have := exec_rel_of_lockStep (f := id) (sameDisk_step stringValue) ops (d, []) (r, []) ⟨h, rfl⟩
  rwa [List.map_id] at this

/-! ## The round trip -/

/-- A response with this content, once saved, is found until its lifetime is over: the fetch
does not raise and answers a cached response with the content that was saved. -/
def RoundTrips (stringValue : String → ℚ) (content : Json) : Prop :=
  ∀ (defaults : DefaultsData) (response : RCURLResponse) (key : String) (now later cacheTime : ℚ),
    response.content = some content → later - now < cacheTime →
    ∃ saved, defaults.saveCacheWithResponse now response key cacheTime = some saved ∧
      ∃ p, saved.fetchCachedRecordWithKey stringValue later key = some p ∧
        ∃ r, p.2 = some r ∧ r.isCache = true ∧ r.content = some content

/-- The fetch after a save. -/
theorem fetch_of_saved (stringValue : String → ℚ) {defaults saved : DefaultsData}
    {response : RCURLResponse} {content : Json} {key : String} {now later cacheTime : ℚ}
    (hc : response.content = some content) (ht : later - now < cacheTime)
    (hs : defaults.saveCacheWithResponse now response key cacheTime = some saved) :
    saved.fetchCachedRecordWithKey stringValue later key =
      (dataWithJSONObject content).map fun data =>
        (saved, some (RCURLResponse.initWithData data)) := by
  obtain ⟨data, hdata, hsave⟩ := defaults.save_writes now key cacheTime hc
  obtain rfl := Option.some.inj (hs.symm.trans hsave)
  rw [DefaultsData.fetch_of_written stringValue later (Function.update_self _ _ _) hdata, if_pos ht]

/-- An entry of any other shape raises when it is fetched. -/
theorem isTopLevel_of_roundTrips {stringValue : String → ℚ} {content : Json}
    (h : RoundTrips stringValue content) : content.isTopLevel = true := by
  obtain ⟨saved, hs, p, hf, -⟩ := h (fun _ => none)
    ⟨.success, none, some content, 0, none, none, false⟩ "" 0 0 1 rfl (by decide +kernel)
  rw [fetch_of_saved stringValue rfl (by decide +kernel) hs, Option.map_eq_some_iff] at hf
  obtain ⟨data, hdata, -⟩ := hf
  exact (dataWithJSONObject_json hdata).1

theorem roundTrips_of_isTopLevel (stringValue : String → ℚ) {content : Json}
    (h : content.isTopLevel = true) : RoundTrips stringValue content := by
  intro defaults response key now later cacheTime hc ht
  obtain ⟨data, -, hsave⟩ := defaults.save_writes now key cacheTime hc
  obtain ⟨data', hdata'⟩ : ∃ data', dataWithJSONObject content = some data' := ⟨_, if_pos h⟩
  have hfetch := fetch_of_saved stringValue hc ht hsave
  rw [hdata', Option.map_some] at hfetch
  exact ⟨_, hsave, _, hfetch, RCURLResponse.initWithData data', rfl, rfl,
    (dataWithJSONObject_json hdata').2⟩

/-- **A content is read back from the disk exactly when it is an object or an array.** -/
theorem disk_round_trips_iff (stringValue : String → ℚ) (content : Json) :
    RoundTrips stringValue content ↔ content.isTopLevel = true :=
  ⟨isTopLevel_of_roundTrips, roundTrips_of_isTopLevel stringValue⟩

end Disk

/-- **A string.** It is saved, and the fetch a second later raises. -/
theorem string_content_raises :
    ∃ saved, DefaultsData.saveCacheWithResponse 0
        ⟨.success, none, some (.str "ok"), 0, none, none, false⟩ "key" 60 (fun _ => none) = some saved ∧
      (saved.dataForKey (RCDiskCacheCenter.actualKey "key")).isSome = true ∧
      (saved.fetchCachedRecordWithKey (fun _ => 0) 1 "key").isNone = true :=
  ⟨_, rfl, rfl, by decide +kernel⟩

end RCSdk
