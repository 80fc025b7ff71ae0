import RCSdk.Proof.Conservation

/-!
# The two-tier lookup

`loadDataWithParams:` asks the memory tier and then the disk tier, each if its policy bit
is set. The second question overwrites the answer of the first.

* `cachedResponse_snd`: what the two questions answer together.
* `twoTier_iff`: a load serves the entry a two-tier lookup should serve exactly when the
  disk tier, asked last, does not lose or change what the memory tier found, and holds
  nothing that cannot be written.
* `memory_hit_lost`: an entry in memory, none on disk: the load goes to the network.
-/

namespace RCSdk

open Trans

namespace World

section Tiers

variable [Foundation] (c : Context) (params : NSDictionary) (cacheCenter : RCCacheCenter)

/-- The data of an unexpired entry of the memory tier, if the policy enables the tier. -/
def memoryUnexpired : Option NSData :=
  if c.cachePolicy.has .memory then
    match cacheCenter.memoryCacheCenter (keyFor c params) with
    | some record => if record.isOutdated c.now then none else record.content
    | none => none
  else none

/-- The content of an unexpired entry of the disk tier, if the policy enables the tier. -/
def diskUnexpired : Option Json :=
  if c.cachePolicy.has .disk then
    match cacheCenter.diskCacheCenter (RCDiskCacheCenter.actualKey (keyFor c params)) with
    | some (.record content lastUpdateTime cacheTime) =>
      if c.now - lastUpdateTime < cacheTime then some content else none
    | _ => none
  else none

/-- **What a two-tier lookup should serve**: the content of the memory tier's entry if it
holds one, else of the disk tier's. -/
def servedContent : Option (Option Json) :=
  ((memoryUnexpired c params cacheCenter).map JSONObjectWithData).or
    ((diskUnexpired c params cacheCenter).map some)

end Tiers

variable [Foundation]

/-- Load `w.loads` is answered from the cache with this response: the lookup found it, the
load ended in `successedOnCallingAPI:` with it and returned 0. -/
def AnswersFromCache (c : Context) (m : ManagerId) (params : Option NSDictionary)
    (success fail : Option Block) (w : World) (response : RCURLResponse) : Prop :=
  ∃ cacheCenter x, cachedResponse c (paramsOf c params) w.cacheCenter = some (cacheCenter, some response) ∧
    successedOnCallingAPI c m w.loads response
      ((w.lookedUp m success fail cacheCenter).enter m) = some x ∧
    w.loadDataWithParams c m params success fail =
      some ((w.lookedUp m success fail cacheCenter).leave m w.loads x, 0)

/-- **The contract of the lookup**: a load is answered from the cache if and only if an
enabled tier holds an unexpired entry, with the content of that entry, memory's first, and
then it starts no task. -/
structure TwoTier (c : Context) (m : ManagerId) (params : Option NSDictionary)
    (success fail : Option Block) (w : World) : Prop where
  hit : (∃ response, AnswersFromCache c m params success fail w response) ↔
    (memoryUnexpired c (paramsOf c params) w.cacheCenter).isSome ∨
      (diskUnexpired c (paramsOf c params) w.cacheCenter).isSome
  content : ∀ response, AnswersFromCache c m params success fail w response →
    servedContent c (paramsOf c params) w.cacheCenter = some response.content
  noTask : ∀ response, AnswersFromCache c m params success fail w response →
    ∀ r, w.loadDataWithParams c m params success fail = some r → r.1.proxy = w.proxy

/-- The condition: what memory holds, an enabled disk tier holds too; and what the disk tier
holds can be written. -/
structure DiskAgrees (c : Context) (params : NSDictionary) (cacheCenter : RCCacheCenter) : Prop where
  same : ∀ data, memoryUnexpired c params cacheCenter = some data → c.cachePolicy.has .disk = true →
    ∃ content, diskUnexpired c params cacheCenter = some content ∧
      JSONObjectWithData data = some content
  writable : ∀ content, diskUnexpired c params cacheCenter = some content → content.isTopLevel = true

/-! ## What the lookup answers -/

theorem fetchMemoryCache_snd (c : Context) (params : NSDictionary) (cacheCenter : RCCacheCenter)
    (hp : c.cachePolicy.has .memory = true) :
    (cacheCenter.fetchMemoryCache c.now c.serviceIdentifier c.methodName params).2 =
      (memoryUnexpired c params cacheCenter).map RCURLResponse.initWithData := by
  simp only [RCCacheCenter.fetchMemoryCache, RCMemoryCacheDataCenter.fetchCachedRecordWithKey,
    memoryUnexpired, if_pos hp, keyFor]
  cases cacheCenter.memoryCacheCenter
      (keyWithServiceIdentifier c.serviceIdentifier c.methodName params) with
  | none => rfl
  | some record =>
    cases ho : record.isOutdated c.now with
    | true => simp [ho]
    | false => cases hc : record.content <;> simp [ho, hc, RCMemoryCachedRecord.isEmpty]

theorem fetchDiskCache_snd (c : Context) (params : NSDictionary) (cacheCenter : RCCacheCenter)
    (hp : c.cachePolicy.has .disk = true) :
    (cacheCenter.fetchDiskCache c.now c.serviceIdentifier c.methodName params).map Prod.snd =
      match diskUnexpired c params cacheCenter with
      | some content => (dataWithJSONObject content).map fun data => some (.initWithData data)
      | none => some none := by
  simp only [RCCacheCenter.fetchDiskCache, RCDiskCacheCenter.fetchCachedRecordWithKey,
    diskUnexpired, if_pos hp, keyFor]
  cases cacheCenter.diskCacheCenter (RCDiskCacheCenter.actualKey
      (keyWithServiceIdentifier c.serviceIdentifier c.methodName params)) with
  | none => rfl
  | some value =>
    cases value with
    | other => rfl
    | record content lastUpdateTime cacheTime =>
      dsimp only
      split_ifs <;> simp [Function.comp_def]

theorem memoryLookup_snd {c : Context} (hignore : c.shouldIgnoreCache = false)
    (params : NSDictionary) (cacheCenter : RCCacheCenter) :
    (memoryLookup c params cacheCenter).2 =
      (memoryUnexpired c params cacheCenter).map RCURLResponse.initWithData := by
  unfold memoryLookup
  cases hm : c.cachePolicy.has .memory with
  | true => rw [if_pos ⟨rfl, hignore⟩, fetchMemoryCache_snd c params cacheCenter hm]
  | false =>
    rw [if_neg fun h => Bool.false_ne_true h.1]
    simp [memoryUnexpired, hm]

/-- **The answer of the lookup**: the disk tier's if it is enabled, else the memory tier's. -/
theorem cachedResponse_snd {c : Context} (hignore : c.shouldIgnoreCache = false)
    (params : NSDictionary) (cacheCenter : RCCacheCenter) :
    (cachedResponse c params cacheCenter).map Prod.snd =
      if c.cachePolicy.has .disk then
        match diskUnexpired c params cacheCenter with
        | some content => (dataWithJSONObject content).map fun data => some (.initWithData data)
        | none => some none
      else some ((memoryUnexpired c params cacheCenter).map RCURLResponse.initWithData) := by
  rw [cachedResponse_eq]
  cases hd : c.cachePolicy.has .disk with
  | true =>
    have hsame : diskUnexpired c params (memoryLookup c params cacheCenter).1 =
        diskUnexpired c params cacheCenter := by
      simp only [diskUnexpired, memoryLookup_diskCacheCenter]
    rw [if_pos ⟨rfl, hignore⟩, if_pos rfl, fetchDiskCache_snd c params _ hd, hsame]
  | false =>
    rw [if_neg fun h => Bool.false_ne_true h.1, if_neg Bool.false_ne_true, Option.map_some,
      memoryLookup_snd hignore]

/-- An accepted load is answered from the cache exactly when the lookup finds a response. -/
theorem answersFromCache_iff {c : Context} {m : ManagerId} {params : Option NSDictionary}
    {success fail : Option Block} {w : World} {response : RCURLResponse}
    (hcall : c.shouldCallAPIWithParams (paramsOf c params) = true)
    (herr : c.isCorrectWithParamsData (paramsOf c params) = .noError) :
    AnswersFromCache c m params success fail w response ↔
      (cachedResponse c (paramsOf c params) w.cacheCenter).map Prod.snd = some (some response) := by
  constructor
  · rintro ⟨cacheCenter, x, hfind, -, -⟩
    rw [hfind]; rfl
  · intro h
    obtain ⟨⟨cacheCenter, _⟩, hfind, rfl⟩ := Option.map_eq_some_iff.1 h
    obtain ⟨data, rfl⟩ := cachedResponse_data hfind
    obtain ⟨x, hx⟩ : ∃ x, successedOnCallingAPI c m w.loads (.initWithData data)
        ((w.lookedUp m success fail cacheCenter).enter m) = some x :=
      Option.isSome_iff_exists.1 successed_cached_isSome
    refine ⟨cacheCenter, x, hfind, hx, ?_⟩
    rw [loadDataWithParams_eq, if_pos hcall, if_pos herr, hfind, Option.bind_some]
    dsimp only
    rw [hx, Option.map_some]

/-! ## The contract -/

theorem AnswersFromCache.noTask {c : Context} {m : ManagerId} {params : Option NSDictionary}
    {success fail : Option Block} {w : World} {response : RCURLResponse}
    (h : AnswersFromCache c m params success fail w response) {r : World × ℤ}
    (hr : w.loadDataWithParams c m params success fail = some r) : r.1.proxy = w.proxy := by
  obtain ⟨cacheCenter, x, -, -, hload⟩ := h
  obtain rfl := Option.some.inj (hload.symm.trans hr)
  rfl

theorem initWithData_content (data : NSData) :
    (RCURLResponse.initWithData data).content = JSONObjectWithData data := rfl

/-- With the disk tier off, the lookup is the memory tier's and always right. -/
theorem twoTier_of_memory {c : Context} {m : ManagerId} {params : Option NSDictionary}
    {success fail : Option Block} {w : World}
    (hcall : c.shouldCallAPIWithParams (paramsOf c params) = true)
    (herr : c.isCorrectWithParamsData (paramsOf c params) = .noError)
    (hignore : c.shouldIgnoreCache = false) (hd : c.cachePolicy.has .disk = false) :
    TwoTier c m params success fail w := by
  have hans : ∀ response, AnswersFromCache c m params success fail w response ↔
      ∃ data, memoryUnexpired c (paramsOf c params) w.cacheCenter = some data ∧
        response = .initWithData data := by
    intro response
    rw [answersFromCache_iff hcall herr, cachedResponse_snd hignore, hd]
    simp [eq_comm]
  have hdisk : diskUnexpired c (paramsOf c params) w.cacheCenter = none := by
    simp [diskUnexpired, hd]
  refine ⟨?_, fun response h => ?_, fun _ h _ => h.noTask⟩
  · simp [hans, hdisk, Option.isSome_iff_exists]
  · obtain ⟨data, hm, rfl⟩ := (hans response).1 h
    simp [servedContent, hm, initWithData_content]

/-- With the disk tier on, only what the disk tier holds is served. -/
theorem answersFromCache_disk {c : Context} {m : ManagerId} {params : Option NSDictionary}
    {success fail : Option Block} {w : World} {response : RCURLResponse}
    (hcall : c.shouldCallAPIWithParams (paramsOf c params) = true)
    (herr : c.isCorrectWithParamsData (paramsOf c params) = .noError)
    (hignore : c.shouldIgnoreCache = false) (hd : c.cachePolicy.has .disk = true) :
    AnswersFromCache c m params success fail w response ↔
      ∃ content data, diskUnexpired c (paramsOf c params) w.cacheCenter = some content ∧
        dataWithJSONObject content = some data ∧ response = .initWithData data := by
  rw [answersFromCache_iff hcall herr, cachedResponse_snd hignore, if_pos hd]
  cases diskUnexpired c (paramsOf c params) w.cacheCenter with
  | none => simp
  | some content => simp [eq_comm]

/-- A load that serves what it should finds memory's entry on disk too, and can write it. -/
theorem diskAgrees_of_twoTier {c : Context} {m : ManagerId} {params : Option NSDictionary}
    {success fail : Option Block} {w : World}
    (hcall : c.shouldCallAPIWithParams (paramsOf c params) = true)
    (herr : c.isCorrectWithParamsData (paramsOf c params) = .noError)
    (hignore : c.shouldIgnoreCache = false) (hd : c.cachePolicy.has .disk = true)
    (h : TwoTier c m params success fail w) : DiskAgrees c (paramsOf c params) w.cacheCenter := by
  refine ⟨fun data hm _ => ?_, fun content hc => ?_⟩
  · obtain ⟨response, hr⟩ := h.hit.2 (Or.inl (by rw [hm]; rfl))
    obtain ⟨content, data', hc, hdata, rfl⟩ := (answersFromCache_disk hcall herr hignore hd).1 hr
    have hs := h.content _ hr
    rw [initWithData_content, (dataWithJSONObject_json hdata).2] at hs
    exact ⟨content, hc, by simpa [servedContent, hm] using hs⟩
  · obtain ⟨response, hr⟩ := h.hit.2 (Or.inr (by rw [hc]; rfl))
    obtain ⟨content', data, hc', hdata, -⟩ := (answersFromCache_disk hcall herr hignore hd).1 hr
    obtain rfl := Option.some.inj (hc.symm.trans hc')
    exact (dataWithJSONObject_json hdata).1

theorem DiskAgrees.twoTier {c : Context} {m : ManagerId} {params : Option NSDictionary}
    {success fail : Option Block} {w : World}
    (hcall : c.shouldCallAPIWithParams (paramsOf c params) = true)
    (herr : c.isCorrectWithParamsData (paramsOf c params) = .noError)
    (hignore : c.shouldIgnoreCache = false) (hd : c.cachePolicy.has .disk = true)
    (h : DiskAgrees c (paramsOf c params) w.cacheCenter) : TwoTier c m params success fail w := by
  refine ⟨⟨?_, fun hheld => ?_⟩, fun response hr => ?_, fun _ h _ => h.noTask⟩
  · rintro ⟨response, hr⟩
    obtain ⟨content, -, hc, -, -⟩ := (answersFromCache_disk hcall herr hignore hd).1 hr
    exact Or.inr (by rw [hc]; rfl)
  · -- whichever tier holds an entry, the disk tier does
    obtain ⟨content, hc⟩ : ∃ content,
        diskUnexpired c (paramsOf c params) w.cacheCenter = some content := by
      rcases hheld with hm | hc
      · obtain ⟨data, hm⟩ := Option.isSome_iff_exists.1 hm
        obtain ⟨content, hc, -⟩ := h.same data hm hd
        exact ⟨content, hc⟩
      · exact Option.isSome_iff_exists.1 hc
    obtain ⟨data, hdata⟩ : ∃ data, dataWithJSONObject content = some data :=
      ⟨_, if_pos (h.writable content hc)⟩
    exact ⟨_, (answersFromCache_disk hcall herr hignore hd).2 ⟨content, data, hc, hdata, rfl⟩⟩
  · obtain ⟨content, data, hc, hdata, rfl⟩ := (answersFromCache_disk hcall herr hignore hd).1 hr
    rw [initWithData_content, (dataWithJSONObject_json hdata).2, servedContent, hc]
    cases hm : memoryUnexpired c (paramsOf c params) w.cacheCenter with
    | none => rfl
    | some data' =>
      obtain ⟨content', hc', hj⟩ := h.same data' hm hd
      obtain rfl := Option.some.inj (hc.symm.trans hc')
      simp [hj]

/-- **A load serves what a two-tier lookup should serve exactly when the disk tier, asked
last, agrees with memory** and can write what it holds. -/
theorem twoTier_iff {c : Context} {m : ManagerId} {params : Option NSDictionary}
    {success fail : Option Block} {w : World}
    (hcall : c.shouldCallAPIWithParams (paramsOf c params) = true)
    (herr : c.isCorrectWithParamsData (paramsOf c params) = .noError)
    (hignore : c.shouldIgnoreCache = false) :
    TwoTier c m params success fail w ↔ DiskAgrees c (paramsOf c params) w.cacheCenter := by
  cases hd : c.cachePolicy.has .disk with
  | false =>
    refine iff_of_true (twoTier_of_memory hcall herr hignore hd) ⟨?_, ?_⟩
    · intro _ _ h; simp [hd] at h
    · intro content h; simp [diskUnexpired, hd] at h
  | true =>
    exact ⟨diskAgrees_of_twoTier hcall herr hignore hd,
      DiskAgrees.twoTier hcall herr hignore hd⟩

end World

namespace World

/-- A response saved in both tiers is served from both. -/
theorem twoTier_both_saved :
    ∃ w, exec step init
        [⟨.plain (.memory ||| .disk), .loadData 0⟩,
          ⟨.plain (.memory ||| .disk), .finish 0 (some (.object .empty)) none⟩,
          ⟨.plain (.memory ||| .disk), .runMain⟩] = some w ∧
      servedContent (.plain (.memory ||| .disk)) .empty w.cacheCenter = some (some .empty) ∧
      TwoTier (.plain (.memory ||| .disk)) 0 none none none w := by
  have ho : RCMemoryCachedRecord.isOutdated 0 ⟨some ⟨some "{}", some .empty⟩, 0, 60⟩ = false := by
    decide +kernel
  have hlt : (0 : ℚ) - 0 < 60 := by decide +kernel
  obtain ⟨w, he, hm, hc⟩ : ∃ w, exec step init
        [⟨.plain (.memory ||| .disk), .loadData 0⟩,
          ⟨.plain (.memory ||| .disk), .finish 0 (some (.object .empty)) none⟩,
          ⟨.plain (.memory ||| .disk), .runMain⟩] = some w ∧
      memoryUnexpired (.plain (.memory ||| .disk)) .empty w.cacheCenter =
        some ⟨some "{}", some .empty⟩ ∧
      diskUnexpired (.plain (.memory ||| .disk)) .empty w.cacheCenter = some .empty :=
    ⟨_, rfl, if_neg (Bool.eq_false_iff.1 ho), if_pos hlt⟩
  refine ⟨w, he, by rw [servedContent, hm]; rfl,
    (twoTier_iff rfl rfl rfl).2 ⟨fun data h _ => ?_, fun content h => ?_⟩⟩
  · obtain rfl := Option.some.inj (hm.symm.trans h)
    exact ⟨_, hc, rfl⟩
  · obtain rfl := Option.some.inj (hc.symm.trans h)
    rfl

/-- **A memory hit is lost.** A response is saved in both tiers, then the disk is cleaned:
memory still holds it, but the next load starts a task. -/
theorem memory_hit_lost :
    ∃ w, exec step init
        [⟨.plain (.memory ||| .disk), .loadData 0⟩,
          ⟨.plain (.memory ||| .disk), .finish 0 (some (.object .empty)) none⟩,
          ⟨.plain (.memory ||| .disk), .runMain⟩,
          ⟨.plain (.memory ||| .disk), .cleanAllDiskCache⟩] = some w ∧
      memoryUnexpired (.plain (.memory ||| .disk)) .empty w.cacheCenter =
        some ⟨some "{}", some .empty⟩ ∧
      (∃ r, w.loadDataWithParams (.plain (.memory ||| .disk)) 0 none none none = some r ∧
        r.1.proxy.tasks.length = w.proxy.tasks.length + 1) ∧
      ¬ TwoTier (.plain (.memory ||| .disk)) 0 none none none w := by
  have ho : RCMemoryCachedRecord.isOutdated 0 ⟨some ⟨some "{}", some .empty⟩, 0, 60⟩ = false := by
    decide +kernel
  refine ⟨_, rfl, if_neg (Bool.eq_false_iff.1 ho), ⟨_, rfl, rfl⟩, fun h => ?_⟩
  obtain ⟨response, hr⟩ := h.hit.2 (Or.inl (Option.isSome_iff_exists.2 ⟨_, if_neg (Bool.eq_false_iff.1 ho)⟩))
  obtain ⟨content, -, hc, -, -⟩ := (answersFromCache_disk rfl rfl rfl rfl).1 hr
  exact absurd (show none = some content from hc) (by simp)

end World

end RCSdk
