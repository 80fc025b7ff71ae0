import RCSdk.Proof.Conservation

/-!
# What gets into the caches

* `Installed`: the user defaults after any number of launches, with the history of all of them.
* `cache_admission`: every entry of either tier holds the content of a network response that
  completed without error and passed the validator, under the key of that response's own
  parameters, saved at that moment with its tier enabled; and no step but such a completion
  or a clean changes a tier other than by removing an expired entry.
-/

namespace RCSdk

open Trans

namespace World

variable [Foundation]

/-- The step runs a completion that found no error and passed the validator, with this
network response. -/
inductive Accepted (w : World) : Step → RCURLResponse → Prop
  | mk {c : Context} {t : TaskRef} {handler : CompletionHandler}
      {responseObject : Option ResponseObject} {error : Option NSError} {rest : List MainBlock}
      (hq : w.mainQueue = .completion t handler responseObject error :: rest)
      (herr : errorFor handler responseObject error = none)
      (hvalid : c.isCorrectWithCallBackData (w.responseFor t handler responseObject error).content =
        .noError) :
      Accepted w ⟨c, .runMain⟩ (w.responseFor t handler responseObject error)

/-- The step accepts a network response with this content, whose own parameters have this
key, while the tier is enabled. -/
def AdmittedBy (tier : RCAPIManagerCachePolicy) (key : String) (content : Json)
    (q : World × Step) : Prop :=
  ∃ response params, Accepted q.1 q.2 response ∧ response.content = some content ∧
    response.originRequestParams = some params ∧ key = keyFor q.2.context params ∧
    q.2.context.cachePolicy.has tier = true

/-- **Every entry was admitted by a step of the history**, and carries the time of that step. -/
structure Admitted (h : List (World × Step)) (cacheCenter : RCCacheCenter) : Prop where
  memory : ∀ key record, cacheCenter.memoryCacheCenter key = some record →
    ∃ q ∈ h, ∃ content data, AdmittedBy .memory key content q ∧
      JSONObjectWithData data = some content ∧
      record = ⟨some data, q.2.context.now, q.2.context.memoryCacheSecond⟩
  disk : ∀ key value, cacheCenter.diskCacheCenter key = some value →
    ∃ q ∈ h, ∃ requestKey content, key = RCDiskCacheCenter.actualKey requestKey ∧
      AdmittedBy .disk requestKey content q ∧
      value = .record content q.2.context.now q.2.context.diskCacheSecond

/-- The user defaults after some launches of the application, with what all of them did. A
launch starts with an empty memory tier and may end in any state. -/
inductive Installed : List (World × Step) → NSUserDefaults → Prop
  | fresh : Installed [] fun _ => none
  | launched {h₀ h : List (World × Step)} {defaults : NSUserDefaults} {w : World}
      (hd : Installed h₀ defaults) (hr : Run step (launch ⟨fun _ => none, defaults⟩) h w) :
      Installed (h₀ ++ h) w.cacheCenter.diskCacheCenter

/-- Nothing changed but that expired entries are gone. -/
structure OnlyExpired (now : ℚ) (cacheCenter cacheCenter' : RCCacheCenter) : Prop where
  memory : ∀ key, cacheCenter'.memoryCacheCenter key = cacheCenter.memoryCacheCenter key ∨
    cacheCenter'.memoryCacheCenter key = none ∧
      ∃ record, cacheCenter.memoryCacheCenter key = some record ∧ record.isOutdated now = true
  disk : ∀ key, cacheCenter'.diskCacheCenter key = cacheCenter.diskCacheCenter key ∨
    cacheCenter'.diskCacheCenter key = none ∧ ∃ content lastUpdateTime cacheTime,
      cacheCenter.diskCacheCenter key = some (.record content lastUpdateTime cacheTime) ∧
      cacheTime ≤ now - lastUpdateTime

/-- Nothing was added or changed: an entry that is there was there. -/
structure Kept (cacheCenter cacheCenter' : RCCacheCenter) : Prop where
  memory : ∀ key record, cacheCenter'.memoryCacheCenter key = some record →
    cacheCenter.memoryCacheCenter key = some record
  disk : ∀ key value, cacheCenter'.diskCacheCenter key = some value →
    cacheCenter.diskCacheCenter key = some value

omit [Foundation] in
theorem OnlyExpired.refl (now : ℚ) (cacheCenter : RCCacheCenter) :
    OnlyExpired now cacheCenter cacheCenter :=
  ⟨fun _ => Or.inl rfl, fun _ => Or.inl rfl⟩

omit [Foundation] in
theorem OnlyExpired.kept {now : ℚ} {cacheCenter cacheCenter' : RCCacheCenter}
    (h : OnlyExpired now cacheCenter cacheCenter') : Kept cacheCenter cacheCenter' := by
  refine ⟨fun key record hr => ?_, fun key value hv => ?_⟩
  · rcases h.memory key with he | ⟨he, -⟩
    · exact he ▸ hr
    · rw [he] at hr; exact absurd hr (by simp)
  · rcases h.disk key with he | ⟨he, -⟩
    · exact he ▸ hv
    · rw [he] at hv; exact absurd hv (by simp)

omit [Foundation] in
theorem OnlyExpired.trans {now : ℚ} {c₁ c₂ c₃ : RCCacheCenter} (h : OnlyExpired now c₁ c₂)
    (h' : OnlyExpired now c₂ c₃) : OnlyExpired now c₁ c₃ := by
  refine ⟨fun key => ?_, fun key => ?_⟩
  · rcases h'.memory key with he | ⟨he, record, hr, ho⟩
    · rw [he]; exact h.memory key
    · exact Or.inr ⟨he, record, h.kept.memory key record hr, ho⟩
  · rcases h'.disk key with he | ⟨he, content, lastUpdateTime, cacheTime, hv, ho⟩
    · rw [he]; exact h.disk key
    · exact Or.inr ⟨he, content, lastUpdateTime, cacheTime, h.kept.disk key _ hv, ho⟩

/-! ## Saves -/

theorem saveMemoryCache_entry {now : ℚ} {response : RCURLResponse} {service method : String}
    {cacheTime : ℚ} {cacheCenter cacheCenter' : RCCacheCenter}
    (h : cacheCenter.saveMemoryCache now response service method cacheTime = some cacheCenter') :
    cacheCenter'.diskCacheCenter = cacheCenter.diskCacheCenter ∧
      ∀ key record, cacheCenter'.memoryCacheCenter key = some record →
        cacheCenter.memoryCacheCenter key = some record ∨
        ∃ params content data, response.originRequestParams = some params ∧
          response.content = some content ∧ key = keyWithServiceIdentifier service method params ∧
          JSONObjectWithData data = some content ∧ record = ⟨some data, now, cacheTime⟩ := by
  unfold RCCacheCenter.saveMemoryCache at h
  split at h
  · rename_i params content hparams hcontent
    obtain ⟨cache, hsave, rfl⟩ := Option.map_eq_some_iff.1 h
    obtain ⟨data, hdata, rfl⟩ := Option.map_eq_some_iff.1 hsave
    rw [hcontent] at hdata
    refine ⟨rfl, fun key record hr => ?_⟩
    by_cases hk : key = keyWithServiceIdentifier service method params
    · subst hk
      dsimp only at hr
      rw [Function.update_self] at hr
      exact Or.inr ⟨params, content, data, hparams, hcontent, rfl,
        (dataWithJSONObject_json hdata).2, (Option.some.inj hr).symm⟩
    · dsimp only at hr
      rw [Function.update_of_ne hk] at hr
      exact Or.inl hr
  · obtain rfl := Option.some.inj h
    exact ⟨rfl, fun _ _ h => Or.inl h⟩

theorem saveDiskCache_entry (now : ℚ) (response : RCURLResponse) (service method : String)
    (cacheTime : ℚ) (cacheCenter : RCCacheCenter) :
    (cacheCenter.saveDiskCache now response service method cacheTime).memoryCacheCenter =
        cacheCenter.memoryCacheCenter ∧
      ∀ key value, (cacheCenter.saveDiskCache now response service method cacheTime).diskCacheCenter
          key = some value →
        cacheCenter.diskCacheCenter key = some value ∨
        ∃ params content, response.originRequestParams = some params ∧
          response.content = some content ∧
          key = RCDiskCacheCenter.actualKey (keyWithServiceIdentifier service method params) ∧
          value = .record content now cacheTime := by
  unfold RCCacheCenter.saveDiskCache
  split
  · rename_i params content hparams hcontent
    refine ⟨rfl, fun key value hv => ?_⟩
    simp only [RCDiskCacheCenter.saveCacheWithResponse, hcontent] at hv
    by_cases hk : key = RCDiskCacheCenter.actualKey (keyWithServiceIdentifier service method params)
    · subst hk
      rw [Function.update_self] at hv
      exact Or.inr ⟨params, content, hparams, hcontent, rfl, (Option.some.inj hv).symm⟩
    · rw [Function.update_of_ne hk] at hv
      exact Or.inl hv
  · exact ⟨rfl, fun _ _ h => Or.inl h⟩

/-- The saves of a success: nothing for a cached response, else first the memory tier's and
then the disk tier's, each if its bit is set. -/
theorem saveResponse_split {c : Context} {response : RCURLResponse}
    {cacheCenter cacheCenter' : RCCacheCenter}
    (h : saveResponse c response cacheCenter = some cacheCenter') :
    (response.isCache = true → cacheCenter' = cacheCenter) ∧ ∃ cacheCenter₁,
      (cacheCenter₁ = cacheCenter ∨ c.cachePolicy.has .memory = true ∧
        cacheCenter.saveMemoryCache c.now response c.serviceIdentifier c.methodName
          c.memoryCacheSecond = some cacheCenter₁) ∧
      (cacheCenter' = cacheCenter₁ ∨ c.cachePolicy.has .disk = true ∧
        cacheCenter' = cacheCenter₁.saveDiskCache c.now response c.serviceIdentifier c.methodName
          c.diskCacheSecond) := by
  unfold saveResponse at h
  by_cases hc : c.cachePolicy ≠ .noCache ∧ response.isCache = false
  · rw [if_pos hc] at h
    obtain ⟨cacheCenter₁, hsave, rfl⟩ := Option.map_eq_some_iff.1 h
    refine ⟨fun hcache => by simp [hc.2] at hcache, cacheCenter₁, ?_, ?_⟩
    · split_ifs at hsave with hm
      · exact Or.inr ⟨hm, hsave⟩
      · exact Or.inl (Option.some.inj hsave).symm
    · split_ifs with hd
      · exact Or.inr ⟨hd, rfl⟩
      · exact Or.inl rfl
  · rw [if_neg hc] at h
    obtain rfl := Option.some.inj h
    exact ⟨fun _ => rfl, cacheCenter, Or.inl rfl, Or.inl rfl⟩

/-- **What a success saves**: its own response, in the tiers that are enabled. -/
theorem saveResponse_entry {c : Context} {response : RCURLResponse}
    {cacheCenter cacheCenter' : RCCacheCenter}
    (h : saveResponse c response cacheCenter = some cacheCenter') :
    (∀ key record, cacheCenter'.memoryCacheCenter key = some record →
        cacheCenter.memoryCacheCenter key = some record ∨
        c.cachePolicy.has .memory = true ∧ ∃ params content data,
          response.originRequestParams = some params ∧ response.content = some content ∧
          key = keyFor c params ∧ JSONObjectWithData data = some content ∧
          record = ⟨some data, c.now, c.memoryCacheSecond⟩) ∧
      ∀ key value, cacheCenter'.diskCacheCenter key = some value →
        cacheCenter.diskCacheCenter key = some value ∨
        c.cachePolicy.has .disk = true ∧ ∃ params content,
          response.originRequestParams = some params ∧ response.content = some content ∧
          key = RCDiskCacheCenter.actualKey (keyFor c params) ∧
          value = .record content c.now c.diskCacheSecond := by
  obtain ⟨-, cacheCenter₁, hm, hd⟩ := saveResponse_split h
  have hdisk := saveDiskCache_entry c.now response c.serviceIdentifier c.methodName
    c.diskCacheSecond cacheCenter₁
  -- each tier's save leaves the other tier alone
  have hmem₁ : cacheCenter'.memoryCacheCenter = cacheCenter₁.memoryCacheCenter := by
    rcases hd with rfl | ⟨-, rfl⟩
    · rfl
    · exact hdisk.1
  have hdisk₁ : cacheCenter₁.diskCacheCenter = cacheCenter.diskCacheCenter := by
    rcases hm with rfl | ⟨-, hm⟩
    · rfl
    · exact (saveMemoryCache_entry hm).1
  constructor
  · intro key record hr
    rw [hmem₁] at hr
    rcases hm with rfl | ⟨hbit, hm⟩
    · exact Or.inl hr
    · exact ((saveMemoryCache_entry hm).2 key record hr).imp_right fun h => ⟨hbit, h⟩
  · intro key value hv
    rw [← hdisk₁]
    rcases hd with rfl | ⟨hbit, rfl⟩
    · exact Or.inl hv
    · exact (hdisk.2 key value hv).imp_right fun h => ⟨hbit, h⟩

/-! ## Lookups -/

theorem fetchMemoryCache_onlyExpired {now : ℚ} {service method : String} {params : NSDictionary}
    {cacheCenter : RCCacheCenter}
    (hfull : ∀ key record, cacheCenter.memoryCacheCenter key = some record → record.isEmpty = false) :
    OnlyExpired now cacheCenter (cacheCenter.fetchMemoryCache now service method params).1 := by
  refine ⟨fun key => ?_, fun _ => Or.inl rfl⟩
  simp only [RCCacheCenter.fetchMemoryCache, RCMemoryCacheDataCenter.fetchCachedRecordWithKey]
  split
  · rename_i record hr
    split_ifs with ho
    · by_cases hk : key = keyWithServiceIdentifier service method params
      · subst hk
        -- the record is not empty, so it was outdated
        rw [hfull _ _ hr, Bool.or_false] at ho
        exact Or.inr ⟨Function.update_self .., record, hr, ho⟩
      · exact Or.inl (Function.update_of_ne hk ..)
    · exact Or.inl rfl
  · exact Or.inl rfl

theorem fetchDiskCache_onlyExpired {now : ℚ} {service method : String} {params : NSDictionary}
    {cacheCenter cacheCenter' : RCCacheCenter} {response : Option RCURLResponse}
    (h : cacheCenter.fetchDiskCache now service method params = some (cacheCenter', response)) :
    OnlyExpired now cacheCenter cacheCenter' := by
  obtain ⟨⟨defaults, r⟩, hd, he⟩ := Option.map_eq_some_iff.1 h
  obtain ⟨rfl, -⟩ := Prod.mk.inj he
  refine ⟨fun _ => Or.inl rfl, fun key => ?_⟩
  unfold RCDiskCacheCenter.fetchCachedRecordWithKey at hd
  split at hd
  · rename_i content lastUpdateTime cacheTime hv
    dsimp only at hd
    split_ifs at hd with hlt
    · obtain ⟨_, -, hd⟩ := Option.map_eq_some_iff.1 hd
      obtain ⟨rfl, -⟩ := Prod.mk.inj hd
      exact Or.inl rfl
    · obtain ⟨rfl, -⟩ := Prod.mk.inj (Option.some.inj hd)
      by_cases hk : key = RCDiskCacheCenter.actualKey (keyWithServiceIdentifier service method params)
      · subst hk
        exact Or.inr ⟨Function.update_self .., content, lastUpdateTime, cacheTime, hv, not_lt.1 hlt⟩
      · exact Or.inl (Function.update_of_ne hk ..)
  · obtain ⟨rfl, -⟩ := Prod.mk.inj (Option.some.inj hd)
    exact Or.inl rfl

/-- **A lookup only removes expired entries**, if no record of the memory tier is empty. -/
theorem cachedResponse_onlyExpired {c : Context} {params : NSDictionary}
    {cacheCenter cacheCenter' : RCCacheCenter} {response : Option RCURLResponse}
    (hfull : ∀ key record, cacheCenter.memoryCacheCenter key = some record → record.isEmpty = false)
    (h : cachedResponse c params cacheCenter = some (cacheCenter', response)) :
    OnlyExpired c.now cacheCenter cacheCenter' := by
  have hmem : OnlyExpired c.now cacheCenter (memoryLookup c params cacheCenter).1 := by
    unfold memoryLookup
    split_ifs
    · exact fetchMemoryCache_onlyExpired hfull
    · exact .refl ..
  rw [cachedResponse_eq] at h
  split_ifs at h with hd
  · exact hmem.trans (fetchDiskCache_onlyExpired h)
  · rw [Option.some.inj h] at hmem
    exact hmem

/-! ## Steps -/

/-- The clean operations, and the memory tier dropping an entry of its own accord. -/
def Event.isClean : Event → Bool
  | .cleanAllMemoryCache | .cleanAllDiskCache | .evict _ => true
  | _ => false

theorem IsClean.kept {w : World} {ev : Event} {cacheCenter : RCCacheCenter}
    (h : IsClean w ev cacheCenter) : Kept w.cacheCenter cacheCenter := by
  cases h with
  | memory => exact ⟨fun _ _ h => by simp [RCCacheCenter.cleanAllMemoryCache,
      RCMemoryCacheDataCenter.cleanAll] at h, fun _ _ h => h⟩
  | disk =>
    refine ⟨fun _ _ h => h, fun key value h => ?_⟩
    simp only [RCCacheCenter.cleanAllDiskCache, RCDiskCacheCenter.cleanAll] at h
    split_ifs at h
    exact h
  | evict key =>
    refine ⟨fun key' record h => ?_, fun _ _ h => h⟩
    simp only [RCCacheCenter.evict] at h
    by_cases hk : key' = key
    · subst hk; simp at h
    · rwa [Function.update_of_ne hk] at h

theorem IsClean.isClean {w : World} {ev : Event} {cacheCenter : RCCacheCenter}
    (h : IsClean w ev cacheCenter) : ev.isClean = true := by
  cases h <;> rfl

/-- A success with a cached response saves nothing, and a failed one neither. -/
theorem successed_cacheCenter {c : Context} {m : ManagerId} {k : LoadId} {response : RCURLResponse}
    {x x' : Effects} (h : successedOnCallingAPI c m k response x = some x')
    (hr : response.isCache = true ∨ c.isCorrectWithCallBackData response.content ≠ .noError) :
    x'.cacheCenter = x.cacheCenter := by
  obtain ⟨rawData, -, ⟨herr, cacheCenter, hsave, rfl⟩ | ⟨-, rfl⟩⟩ := successed_cases h
  · rw [performSuccess_cacheCenter]
    exact (saveResponse_split hsave).1 (hr.resolve_right fun h => h herr)
  · rw [failed_cacheCenter]; rfl

/-- **A load call only removes expired entries.** -/
theorem LoadCase.onlyExpired {c : Context} {m : ManagerId} {params : NSDictionary}
    {success fail : Option Block} {w w' : World}
    (hfull : ∀ key record, w.cacheCenter.memoryCacheCenter key = some record → record.isEmpty = false)
    (h : LoadCase c m params success fail w w') :
    OnlyExpired c.now w.cacheCenter w'.cacheCenter := by
  cases h with
  | notCalled => exact .refl ..
  | rejected => rw [leave_cacheCenter, failed_cacheCenter]; exact .refl ..
  | cached hcall herr hfind hx =>
    obtain ⟨data, rfl⟩ := cachedResponse_data hfind
    rw [leave_cacheCenter, successed_cacheCenter hx (Or.inl rfl)]
    exact cachedResponse_onlyExpired hfull hfind
  | started hcall herr hfind => exact cachedResponse_onlyExpired hfull hfind
  | @unreachable hcall herr cacheCenter hfind hreach =>
    rw [leave_cacheCenter, failed_cacheCenter, enter_cacheCenter]
    obtain ⟨-, he⟩ | ⟨-, he⟩ := isReachable_cases c m (w.lookedUp m success fail cacheCenter) <;> rw [he]
    all_goals exact cachedResponse_onlyExpired hfull hfind

/-- A completion without error and with a valid content admits its response. -/
theorem CompletionCase.entries {c : Context} {t : TaskRef} {handler : CompletionHandler}
    {responseObject : Option ResponseObject} {error : Option NSError} {rest : List MainBlock}
    {w w' : World} (hq : w.mainQueue = .completion t handler responseObject error :: rest)
    (h : CompletionCase c t handler responseObject error rest w w') :
    w'.cacheCenter = w.cacheCenter ∨
      ∃ response, Accepted w ⟨c, .runMain⟩ response ∧
        saveResponse c response w.cacheCenter = some w'.cacheCenter := by
  cases h with
  | failed => rw [leave_cacheCenter, failed_cacheCenter]; exact Or.inl rfl
  | succeeded herr hx =>
    obtain ⟨rawData, -, ⟨hvalid, cacheCenter, hsave, rfl⟩ | ⟨-, rfl⟩⟩ := successed_cases hx
    · refine Or.inr ⟨_, .mk hq herr hvalid, ?_⟩
      rw [leave_cacheCenter, performSuccess_cacheCenter]
      exact hsave
    · rw [leave_cacheCenter, failed_cacheCenter]; exact Or.inl rfl

/-- **What a step does to the caches**: it accepts a response and saves it, or is a clean, or
only removes expired entries. -/
theorem cache_step {w w' : World} {s : Step} (hs : w.step s = some w')
    (hfull : ∀ key record, w.cacheCenter.memoryCacheCenter key = some record → record.isEmpty = false) :
    (∃ response, Accepted w s response ∧
        saveResponse s.context response w.cacheCenter = some w'.cacheCenter) ∨
      (s.event.isClean = true ∧ Kept w.cacheCenter w'.cacheCenter) ∨
      OnlyExpired s.context.now w.cacheCenter w'.cacheCenter := by
  obtain ⟨c, ev⟩ := s
  cases act_of_step hs with
  | load hev hcase =>
    obtain ⟨managers, rfl⟩ := hev.frame
    exact Or.inr (Or.inr (hcase.onlyExpired (w := { w with managers }) hfull))
  | completion hq hcase =>
    rcases hcase.entries hq with he | he
    · rw [he]; exact Or.inr (Or.inr (.refl ..))
    · exact Or.inl he
  | touch ht => obtain ⟨managers, rfl⟩ := ht.frame; exact Or.inr (Or.inr (.refl ..))
  | clean hc => exact Or.inr (Or.inl ⟨hc.isClean, hc.kept⟩)
  | finish => exact Or.inr (Or.inr (.refl ..))
  | finishIdle => exact Or.inr (Or.inr (.refl ..))
  | success => exact Or.inr (Or.inr (.refl ..))
  | failed => exact Or.inr (Or.inr (.refl ..))
  | runIdle => exact Or.inr (Or.inr (.refl ..))
  | cancelAll => exact Or.inr (Or.inr (.refl ..))
  | cancel => exact Or.inr (Or.inr (.refl ..))

/-! ## Runs -/

theorem Admitted.full {h : List (World × Step)} {cacheCenter : RCCacheCenter}
    (hc : Admitted h cacheCenter) :
    ∀ key record, cacheCenter.memoryCacheCenter key = some record → record.isEmpty = false := by
  intro key record hr
  obtain ⟨q, -, content, data, -, -, rfl⟩ := hc.memory key record hr
  rfl

theorem Admitted.kept {h h' : List (World × Step)} {cacheCenter cacheCenter' : RCCacheCenter}
    (hc : Admitted h cacheCenter) (hk : Kept cacheCenter cacheCenter') (hh : h ⊆ h') :
    Admitted h' cacheCenter' := by
  refine ⟨fun key record hr => ?_, fun key value hv => ?_⟩
  · obtain ⟨q, hq, he⟩ := hc.memory key record (hk.memory key record hr)
    exact ⟨q, hh hq, he⟩
  · obtain ⟨q, hq, he⟩ := hc.disk key value (hk.disk key value hv)
    exact ⟨q, hh hq, he⟩

/-- **One step.** What a step saves, it admits. -/
theorem Admitted.step {h : List (World × Step)} {w w' : World} {s : Step}
    (hc : Admitted h w.cacheCenter) (hs : w.step s = some w') :
    Admitted (h ++ [(w, s)]) w'.cacheCenter := by
  have hsub : h ⊆ h ++ [(w, s)] := List.subset_append_left _ _
  rcases cache_step hs hc.full with ⟨response, ha, hsave⟩ | ⟨-, hk⟩ | hk
  · -- an entry is an old one, admitted before, or saved now by the accepted response
    obtain ⟨hm, hd⟩ := saveResponse_entry hsave
    have hmem : (w, s) ∈ h ++ [(w, s)] := List.mem_append_right _ (List.mem_singleton_self _)
    refine ⟨fun key record hr => ?_, fun key value hv => ?_⟩
    · rcases hm key record hr with hr | ⟨hbit, params, content, data, hp, hcon, rfl, hdata, rfl⟩
      · obtain ⟨q, hq, he⟩ := hc.memory key record hr
        exact ⟨q, hsub hq, he⟩
      · exact ⟨(w, s), hmem, content, data, ⟨response, params, ha, hcon, hp, rfl, hbit⟩, hdata, rfl⟩
    · rcases hd key value hv with hv | ⟨hbit, params, content, hp, hcon, rfl, rfl⟩
      · obtain ⟨q, hq, he⟩ := hc.disk key value hv
        exact ⟨q, hsub hq, he⟩
      · exact ⟨(w, s), hmem, _, content, rfl, ⟨response, params, ha, hcon, hp, rfl, hbit⟩, rfl⟩
  · exact hc.kept hk hsub
  · exact hc.kept hk.kept hsub

theorem Admitted.run {h₀ h : List (World × Step)} {cacheCenter : RCCacheCenter} {w : World}
    (hc : Admitted h₀ cacheCenter) (hr : Run World.step (launch cacheCenter) h w) :
    Admitted (h₀ ++ h) w.cacheCenter := by
  induction hr with
  | nil => rwa [List.append_nil]
  | snoc _ hs ih => rw [← List.append_assoc]; exact ih.step hs

theorem Installed.admitted {h : List (World × Step)} {defaults : NSUserDefaults}
    (hd : Installed h defaults) : Admitted h ⟨fun _ => none, defaults⟩ := by
  induction hd with
  | fresh => exact ⟨fun _ _ h => by simp at h, fun _ _ h => by simp at h⟩
  | launched _ hr ih => exact ⟨fun _ _ h => by simp at h, (ih.run hr).disk⟩

/-- **Cache admission.** In every run, after any number of launches, every entry of either
tier was admitted by a completion without error that passed the validator; and a step that
is no such completion and no clean removes expired entries at most. -/
theorem cache_admission {h₀ h : List (World × Step)} {defaults : NSUserDefaults} {w : World}
    (hd : Installed h₀ defaults) (hr : Run step (launch ⟨fun _ => none, defaults⟩) h w) :
    Admitted (h₀ ++ h) w.cacheCenter ∧
      ∀ s w', w.step s = some w' → (∀ response, ¬ Accepted w s response) →
        s.event.isClean = false → OnlyExpired s.context.now w.cacheCenter w'.cacheCenter := by
  have hc := hd.admitted.run hr
  refine ⟨hc, fun s w' hs ha hcl => ?_⟩
  rcases cache_step hs hc.full with ⟨response, h, -⟩ | ⟨h, -⟩ | h
  · exact absurd h (ha response)
  · simp [hcl] at h
  · exact h

end World

namespace World

/-- One load with both tiers enabled fills both. -/
theorem admission_one_load :
    ∃ h w, Run step init h w ∧ (w.cacheCenter.memoryCacheCenter "servicemethod").isSome ∧
      Admitted h w.cacheCenter := by
  have hr : Run step (launch ⟨fun _ => none, fun _ => none⟩) _ _ := run_of_exec
    [⟨.plain (.memory ||| .disk), .loadData 0⟩,
      ⟨.plain (.memory ||| .disk), .finish 0 (some (.object .empty)) none⟩,
      ⟨.plain (.memory ||| .disk), .runMain⟩] rfl
  exact ⟨_, _, hr, by decide, (cache_admission .fresh hr).1⟩

end World

end RCSdk
