import RCSdk.Proof.CacheKey

/-!
# The order of the parameters in a cache key

Equal dictionaries may enumerate their keys in different orders, and the text of the
parameters follows that order: nothing sorts the keys, as `RC_paramsString` of the array
category sorts its parts. The dictionary a response is saved under is a copy of the one
looked up, so the two may differ in nothing but the order.

* `transform_perm`: segments that commute around `&` give one text in every order.
* `order_free_iff`: equal parameters give one text, one key, and lookups that find what was
  saved, each exactly when any two of the entries have segments that commute.
* `order_changes_key`: two entries in two orders.
-/

namespace RCSdk

section Orders

variable [Foundation]

/-- Any two entries, joined by `&`, read the same in either order. -/
def NSDictionary.OrderFree (d : NSDictionary) : Prop :=
  ∀ e ∈ d.entries, ∀ e' ∈ d.entries, Words.Commutes '&' (segment e) (segment e')

/-- Every order of the keys gives the same text. -/
def OneText (d : NSDictionary) : Prop :=
  ∀ d₁ d₂ : NSDictionary, d.isEqual d₁ → d.isEqual d₂ →
    d₁.RC_transformToUrlParamString = d₂.RC_transformToUrlParamString

/-- Every order of the keys gives the same cache key, for every service and method. -/
def OneKey (d : NSDictionary) : Prop :=
  ∀ (serviceIdentifier methodName : String) (d₁ d₂ : NSDictionary), d.isEqual d₁ → d.isEqual d₂ →
    keyWithServiceIdentifier serviceIdentifier methodName d₁ =
      keyWithServiceIdentifier serviceIdentifier methodName d₂

/-- A response with a document, built for a request that carries these parameters. -/
structure Saved (params : NSDictionary) where
  responseString : Option NSObject
  requestId : ℤ
  service : RCService
  document : Document

/-- The response, as the proxy builds it. -/
def Saved.response {params : NSDictionary} (s : Saved params) : RCURLResponse :=
  RCURLResponse.initWithResponseString s.responseString s.requestId ⟨s.service, some params⟩
    (some s.document.1) none

/-- **What was saved for some parameters is found with equal ones**, in memory and on disk,
while it lasts: the response is saved under its own parameters, the lookup asks with those
of the load. -/
def LookupFinds (d : NSDictionary) : Prop :=
  ∀ (d₁ d₂ : NSDictionary), d.isEqual d₁ → d.isEqual d₂ →
    ∀ (c : RCCacheCenter) (s : Saved d₁) (serviceIdentifier methodName : String)
      (now later cacheTime : ℚ), later - now < cacheTime →
    (∃ c', c.saveMemoryCache now s.response serviceIdentifier methodName cacheTime = some c' ∧
      ∃ r, (c'.fetchMemoryCache later serviceIdentifier methodName d₂).2 = some r ∧
        r.content = s.response.content) ∧
    ∃ c', (c.saveDiskCache now s.response serviceIdentifier methodName cacheTime).fetchDiskCache
        later serviceIdentifier methodName d₂ = some c' ∧
      ∃ r, c'.2 = some r ∧ r.content = s.response.content

/-! ## The text -/

/-- The same entries in another order. -/
def NSDictionary.reorder (d : NSDictionary) (l : List (String × ParamValue))
    (h : d.entries.Perm l) : NSDictionary :=
  ⟨l, (h.map Prod.fst).nodup_iff.1 d.nodup⟩

/-- **Segments that commute give one text in every order.** -/
theorem transform_perm {d d₁ : NSDictionary} (hf : d.OrderFree) (h : d.isEqual d₁) :
    d.RC_transformToUrlParamString = d₁.RC_transformToUrlParamString := by
  rw [← String.toList_inj, transform_toList, transform_toList]
  have hnil : d.entries = [] ↔ d₁.entries = [] := by
    rw [← List.length_eq_zero_iff, ← List.length_eq_zero_iff, h.length_eq]
  have hseg : ['&'].intercalate (d.entries.map segment) =
      ['&'].intercalate (d₁.entries.map segment) := by
    refine Words.intercalate_perm (h.map segment) ?_
    intro w hw v hv
    obtain ⟨e, he, rfl⟩ := List.mem_map.1 hw
    obtain ⟨e', he', rfl⟩ := List.mem_map.1 hv
    exact hf e he e' he'
  simp only [hnil, hseg]

theorem oneText_of_orderFree {d : NSDictionary} (hf : d.OrderFree) : OneText d :=
  fun _ _ h₁ h₂ => (transform_perm hf h₁).symm.trans (transform_perm hf h₂)

/-- The segments behind the question mark, from equal texts. -/
theorem intercalate_of_transform {d d' : NSDictionary} (hd : d.entries ≠ []) (hd' : d'.entries ≠ [])
    (h : d.RC_transformToUrlParamString = d'.RC_transformToUrlParamString) :
    ['&'].intercalate (d.entries.map segment) = ['&'].intercalate (d'.entries.map segment) := by
  rw [← String.toList_inj, transform_toList, transform_toList, if_neg hd, if_neg hd'] at h
  exact List.tail_eq_of_cons_eq h

/-- Two entries of a dictionary may be the first two its keys come in, in either order. -/
theorem orderFree_of_oneText {d : NSDictionary} (h : OneText d) : d.OrderFree := by
  intro e he e' he'
  by_cases hne : e = e'
  · rw [hne]; rfl
  · have hp : d.entries.Perm (e :: d.entries.erase e) := List.perm_cons_erase he
    have he'' : e' ∈ d.entries.erase e := (List.mem_erase_of_ne (Ne.symm hne)).2 he'
    have hp' : d.entries.Perm (e :: e' :: (d.entries.erase e).erase e') :=
      hp.trans ((List.perm_cons_erase he'').cons e)
    have hq := hp'.trans (List.Perm.swap e' e _)
    have ht := h (d.reorder _ hp') (d.reorder _ hq) hp' hq
    exact Words.commute_of_intercalate
      (intercalate_of_transform (List.cons_ne_nil _ _) (List.cons_ne_nil _ _) ht)

/-! ## The key -/

/-- Behind one service and method, keys are equal when the texts are. -/
theorem keyWithServiceIdentifier_inj {serviceIdentifier methodName : String} {d d' : NSDictionary} :
    keyWithServiceIdentifier serviceIdentifier methodName d =
        keyWithServiceIdentifier serviceIdentifier methodName d' ↔
      d.RC_transformToUrlParamString = d'.RC_transformToUrlParamString := by
  constructor
  · intro h
    simp only [← String.toList_inj, keyWithServiceIdentifier, String.toList_append] at h
    exact String.toList_inj.1 (List.append_cancel_left h)
  · intro h
    rw [keyWithServiceIdentifier, keyWithServiceIdentifier, h]

theorem oneKey_iff {d : NSDictionary} : OneKey d ↔ OneText d :=
  ⟨fun h d₁ d₂ h₁ h₂ => keyWithServiceIdentifier_inj.1 (h "" "" d₁ d₂ h₁ h₂),
    fun h _ _ d₁ d₂ h₁ h₂ => keyWithServiceIdentifier_inj.2 (h d₁ d₂ h₁ h₂)⟩

/-! ## The lookups -/

theorem Saved.originRequestParams {params : NSDictionary} (s : Saved params) :
    s.response.originRequestParams = some params := rfl

theorem Saved.content {params : NSDictionary} (s : Saved params) :
    s.response.content = some s.document.1 := rfl

/-- The data a document is written to, and what it is read back as. -/
theorem Saved.written {params : NSDictionary} (s : Saved params) :
    ∃ data, dataWithJSONObject s.document.1 = some data ∧
      (RCURLResponse.initWithData data).content = s.response.content :=
  ⟨_, if_pos s.document.2, rfl⟩

/-- The lookup in memory under the key the response was saved with. -/
theorem fetchMemoryCache_saved {c c' : RCCacheCenter} {d₁ d₂ : NSDictionary} {s : Saved d₁}
    {serviceIdentifier methodName : String} {now later cacheTime : ℚ}
    (hs : c.saveMemoryCache now s.response serviceIdentifier methodName cacheTime = some c')
    (hk : keyWithServiceIdentifier serviceIdentifier methodName d₁ =
      keyWithServiceIdentifier serviceIdentifier methodName d₂)
    (ht : later - now < cacheTime) :
    ∃ r, (c'.fetchMemoryCache later serviceIdentifier methodName d₂).2 = some r ∧
      r.content = s.response.content := by
  obtain ⟨data, hdata, hread⟩ := s.written
  simp only [RCCacheCenter.saveMemoryCache, s.originRequestParams, s.content,
    RCMemoryCacheDataCenter.saveCacheWithResponse, Option.bind_some, hdata, Option.map_some,
    Option.some.injEq] at hs
  have hold : RCMemoryCachedRecord.isOutdated later ⟨some data, now, cacheTime⟩ = false := by
    simp only [RCMemoryCachedRecord.isOutdated, decide_eq_false_iff_not, not_lt, gt_iff_lt]
    exact ht.le
  refine ⟨RCURLResponse.initWithData data, ?_, hread⟩
  rw [← hs]
  simp only [RCCacheCenter.fetchMemoryCache, RCMemoryCacheDataCenter.fetchCachedRecordWithKey,
    ← hk, Function.update_self, RCMemoryCachedRecord.updateContent, hold,
    RCMemoryCachedRecord.isEmpty, Option.isNone_some, Bool.or_self, Bool.false_eq_true, if_false,
    Option.map_some]

/-- The lookup on disk under the key the response was saved with. -/
theorem fetchDiskCache_saved {c : RCCacheCenter} {d₁ d₂ : NSDictionary} {s : Saved d₁}
    {serviceIdentifier methodName : String} {now later cacheTime : ℚ}
    (hk : keyWithServiceIdentifier serviceIdentifier methodName d₁ =
      keyWithServiceIdentifier serviceIdentifier methodName d₂)
    (ht : later - now < cacheTime) :
    ∃ c', (c.saveDiskCache now s.response serviceIdentifier methodName cacheTime).fetchDiskCache
        later serviceIdentifier methodName d₂ = some c' ∧
      ∃ r, c'.2 = some r ∧ r.content = s.response.content := by
  obtain ⟨data, hdata, hread⟩ := s.written
  refine ⟨(c.saveDiskCache now s.response serviceIdentifier methodName cacheTime,
    some (RCURLResponse.initWithData data)), ?_, RCURLResponse.initWithData data, rfl, hread⟩
  simp only [RCCacheCenter.fetchDiskCache, RCCacheCenter.saveDiskCache, s.originRequestParams,
    s.content, RCDiskCacheCenter.saveCacheWithResponse, RCDiskCacheCenter.fetchCachedRecordWithKey,
    ← hk, Function.update_self, if_pos ht, hdata, Option.map_some]

theorem lookupFinds_of_oneKey {d : NSDictionary} (h : OneKey d) : LookupFinds d := by
  intro d₁ d₂ h₁ h₂ c s serviceIdentifier methodName now later cacheTime ht
  have hk := h serviceIdentifier methodName d₁ d₂ h₁ h₂
  obtain ⟨data, hdata, -⟩ := s.written
  have hs : (c.saveMemoryCache now s.response serviceIdentifier methodName cacheTime).isSome := by
    simp only [RCCacheCenter.saveMemoryCache, s.originRequestParams, s.content,
      RCMemoryCacheDataCenter.saveCacheWithResponse, Option.bind_some, hdata, Option.map_some,
      Option.isSome_some]
  obtain ⟨c', hc'⟩ := Option.isSome_iff_exists.1 hs
  exact ⟨⟨c', hc', fetchMemoryCache_saved hc' hk ht⟩, fetchDiskCache_saved hk ht⟩

/-- With nothing else on disk, a lookup that finds what was saved asked with its key. -/
theorem oneKey_of_lookupFinds {d : NSDictionary} (h : LookupFinds d) : OneKey d := by
  intro serviceIdentifier methodName d₁ d₂ h₁ h₂
  by_contra hk
  obtain ⟨-, c', hc', r, hr, -⟩ := h d₁ d₂ h₁ h₂ RCCacheCenter.init
    ⟨none, 0, .plain none, ⟨.empty, rfl⟩⟩ serviceIdentifier methodName 0 0 1 (by decide +kernel)
  have hne : RCDiskCacheCenter.actualKey (keyWithServiceIdentifier serviceIdentifier methodName d₂) ≠
      RCDiskCacheCenter.actualKey (keyWithServiceIdentifier serviceIdentifier methodName d₁) := by
    intro he
    simp only [RCDiskCacheCenter.actualKey, ← String.toList_inj, String.toList_append] at he
    exact hk (String.toList_inj.1 (List.append_cancel_left he)).symm
  simp only [RCCacheCenter.fetchDiskCache, RCCacheCenter.saveDiskCache, Saved.originRequestParams,
    Saved.content, RCDiskCacheCenter.saveCacheWithResponse,
    RCDiskCacheCenter.fetchCachedRecordWithKey, Function.update_of_ne hne, RCCacheCenter.init,
    Option.map_some, Option.some.injEq] at hc'
  rw [← hc'] at hr
  exact absurd hr (Option.some_ne_none r).symm

theorem lookupFinds_iff {d : NSDictionary} : LookupFinds d ↔ OneKey d :=
  ⟨oneKey_of_lookupFinds, lookupFinds_of_oneKey⟩

/-- **Equal parameters give one text, one key and lookups that find what was saved exactly
when any two entries commute around the `&`.** -/
theorem order_free_iff (d : NSDictionary) :
    (OneText d ↔ d.OrderFree) ∧ (OneKey d ↔ d.OrderFree) ∧ (LookupFinds d ↔ d.OrderFree) := by
  have ht : OneText d ↔ d.OrderFree := ⟨orderFree_of_oneText, oneText_of_orderFree⟩
  have hk : OneKey d ↔ d.OrderFree := oneKey_iff.trans ht
  exact ⟨ht, hk, lookupFinds_iff.trans hk⟩

end Orders

/-- **Two entries in two orders.** The response saved for `a=1&b=2` is not found by the
lookup that enumerates the same dictionary as `b=2&a=1`. -/
theorem order_changes_key :
    ∃ d₁ d₂ : NSDictionary, d₁.isEqual d₂ ∧
      d₁.RC_transformToUrlParamString = "?a=1&b=2" ∧
      d₂.RC_transformToUrlParamString = "?b=2&a=1" ∧
      (((RCCacheCenter.init.saveDiskCache 0
          (⟨none, 0, .plain none, ⟨.empty, rfl⟩⟩ : Saved d₁).response "s" "m" 60).fetchDiskCache
            1 "s" "m" d₂).map fun p => p.2.isSome) = some false :=
  ⟨⟨[("a", .string "1"), ("b", .string "2")], by decide⟩,
    ⟨[("b", .string "2"), ("a", .string "1")], by decide⟩,
    List.Perm.swap _ _ _, by decide +kernel, by decide +kernel, by decide +kernel⟩

end RCSdk
