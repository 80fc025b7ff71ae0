import RCSdk.Proof.Admission
import RCSdk.Proof.Lookup
import RCSdk.Proof.TierAgreement

/-!
# A cached answer is the latest one

Managers share the caches and save under the same keys, in any order of loads and completions, over
any number of launches. What a load finds in a tier is what the last completion saved there under
its key (`cached_latest`): no later one has been lost, and it is not older than it was to live.
-/

namespace RCSdk

open Trans

namespace World

variable [Foundation]

/-- The last step of the history that admitted something to a tier under a key. -/
def LastAdmission (tier : RCAPIManagerCachePolicy) (key : String) (content : Json)
    (h : List (World × Step)) (q : World × Step) : Prop :=
  ∃ h₁ h₂, h = h₁ ++ q :: h₂ ∧ AdmittedBy tier key content q ∧
    ∀ q' ∈ h₂, ∀ content', ¬ AdmittedBy tier key content' q'

/-- **Every entry is what the last admission under its key saved.** -/
structure Latest (h : List (World × Step)) (cacheCenter : RCCacheCenter) : Prop where
  memory : ∀ key record, cacheCenter.memoryCacheCenter key = some record →
    ∃ q content data, LastAdmission .memory key content h q ∧
      JSONObjectWithData data = some content ∧
      record = ⟨some data, q.2.context.now, q.2.context.memoryCacheSecond⟩
  disk : ∀ key value, cacheCenter.diskCacheCenter (RCDiskCacheCenter.actualKey key) = some value →
    ∃ q content, LastAdmission .disk key content h q ∧
      value = .record content q.2.context.now q.2.context.diskCacheSecond

variable {tier : RCAPIManagerCachePolicy} {key : String} {content : Json}
  {h h₀ : List (World × Step)} {q : World × Step} {w w' : World} {s : Step}
  {cacheCenter cacheCenter' : RCCacheCenter} {response : RCURLResponse}

/-! ## Saves -/

/-- A step accepts one response. -/
theorem Accepted.unique {response' : RCURLResponse} (h : Accepted w s response)
    (h' : Accepted w s response') : response = response' := by
  obtain ⟨hq, -, -⟩ := h
  obtain ⟨hq', -, -⟩ := h'
  rw [hq] at hq'
  simp only [List.cons.injEq, MainBlock.completion.injEq] at hq'
  obtain ⟨⟨rfl, rfl, rfl, rfl⟩, -⟩ := hq'
  rfl

theorem Accepted.isCache (h : Accepted w s response) : response.isCache = false := by
  obtain ⟨-, -, -⟩ := h
  rfl

/-- **A step that accepts a response saves it.** -/
theorem Accepted.saved (ha : Accepted w s response) (hs : w.step s = some w') :
    saveResponse s.context response w.cacheCenter = some w'.cacheCenter := by
  obtain ⟨hq, herr, hvalid⟩ := ha
  rename_i c t handler responseObject error rest
  simp only [step, hq, runBlock] at hs
  cases completionCase_of_run hs with
  | failed herr' =>
    rw [herr] at herr'
    cases herr'
  | succeeded _ hx =>
    obtain ⟨rawData, -, ⟨-, cacheCenter, hsave, rfl⟩ | ⟨hinvalid, -⟩⟩ := successed_cases hx
    · rw [leave_cacheCenter, performSuccess_cacheCenter]
      exact hsave
    · exact absurd hvalid hinvalid

omit [Foundation] in
/-- A policy with a bit is not the empty one. -/
theorem ne_noCache {policy bit : RCAPIManagerCachePolicy} (h : policy.has bit = true) :
    policy ≠ .noCache := by
  rintro rfl
  simp [RCAPIManagerCachePolicy.has, RCAPIManagerCachePolicy.noCache] at h

/-- **What a save leaves in the memory tier**, if that is enabled. -/
theorem saveResponse_memory {c : Context} {params : NSDictionary}
    (h : saveResponse c response cacheCenter = some cacheCenter') (hnew : response.isCache = false)
    (hbit : c.cachePolicy.has .memory = true) (hparams : response.originRequestParams = some params)
    (hcontent : response.content = some content) :
    ∃ data, JSONObjectWithData data = some content ∧
      cacheCenter'.memoryCacheCenter (keyFor c params) =
        some ⟨some data, c.now, c.memoryCacheSecond⟩ := by
  unfold saveResponse at h
  rw [if_pos ⟨ne_noCache hbit, hnew⟩, if_pos hbit] at h
  obtain ⟨cacheCenter₁, hsave, rfl⟩ := Option.map_eq_some_iff.1 h
  simp only [RCCacheCenter.saveMemoryCache, hparams, hcontent] at hsave
  obtain ⟨cache, hcache, rfl⟩ := Option.map_eq_some_iff.1 hsave
  simp only [RCMemoryCacheDataCenter.saveCacheWithResponse, hcontent, Option.bind_some] at hcache
  obtain ⟨data, hdata, rfl⟩ := Option.map_eq_some_iff.1 hcache
  refine ⟨data, (dataWithJSONObject_json hdata).2, ?_⟩
  have hmem : ∀ cc : RCCacheCenter,
      (if c.cachePolicy.has .disk = true then
        cc.saveDiskCache c.now response c.serviceIdentifier c.methodName c.diskCacheSecond
      else cc).memoryCacheCenter = cc.memoryCacheCenter := fun cc => by
    split_ifs
    · exact (saveDiskCache_entry ..).1
    · rfl
  rw [hmem]
  exact Function.update_self ..

/-- **What a save leaves in the disk tier**, if that is enabled. -/
theorem saveResponse_disk {c : Context} {params : NSDictionary}
    (h : saveResponse c response cacheCenter = some cacheCenter') (hnew : response.isCache = false)
    (hbit : c.cachePolicy.has .disk = true) (hparams : response.originRequestParams = some params)
    (hcontent : response.content = some content) :
    cacheCenter'.diskCacheCenter (RCDiskCacheCenter.actualKey (keyFor c params)) =
      some (.record content c.now c.diskCacheSecond) := by
  unfold saveResponse at h
  rw [if_pos ⟨ne_noCache hbit, hnew⟩] at h
  obtain ⟨cacheCenter₁, -, rfl⟩ := Option.map_eq_some_iff.1 h
  rw [if_pos hbit]
  simp only [RCCacheCenter.saveDiskCache, hparams, hcontent, RCDiskCacheCenter.saveCacheWithResponse]
  exact Function.update_self ..

/-! ## Steps -/

/-- One more step that admits nothing under the key. -/
theorem LastAdmission.append (hq : LastAdmission tier key content h q) (w : World) (s : Step)
    (hs : ∀ content', ¬ AdmittedBy tier key content' (w, s)) :
    LastAdmission tier key content (h ++ [(w, s)]) q := by
  obtain ⟨h₁, h₂, rfl, ha, hlast⟩ := hq
  refine ⟨h₁, h₂ ++ [(w, s)], by simp, ha, fun q' hq' content' => ?_⟩
  rcases List.mem_append.1 hq' with hq' | hq'
  · exact hlast q' hq' content'
  · rw [List.mem_singleton.1 hq']
    exact hs content'

theorem LastAdmission.of_last (ha : AdmittedBy tier key content (w, s)) :
    LastAdmission tier key content (h ++ [(w, s)]) (w, s) :=
  ⟨h, [], rfl, ha, by simp⟩

/-- A step that accepts nothing adds and changes no entry. -/
theorem kept_of_step (hs : w.step s = some w')
    (hfull : ∀ key record, w.cacheCenter.memoryCacheCenter key = some record →
      record.isEmpty = false)
    (ha : ∀ response, ¬ Accepted w s response) : Kept w.cacheCenter w'.cacheCenter := by
  rcases cache_step hs hfull with ⟨response, h, -⟩ | ⟨-, h⟩ | h
  · exact absurd h (ha response)
  · exact h
  · exact h.kept

theorem Latest.full (hl : Latest h cacheCenter) :
    ∀ key record, cacheCenter.memoryCacheCenter key = some record → record.isEmpty = false := by
  intro key record hr
  obtain ⟨q, content, data, -, -, rfl⟩ := hl.memory key record hr
  rfl

/-- **Every step keeps the entries the latest ones.** -/
theorem Latest.step (hl : Latest h w.cacheCenter) (hs : w.step s = some w') :
    Latest (h ++ [(w, s)]) w'.cacheCenter := by
  by_cases hacc : ∃ response, Accepted w s response
  · obtain ⟨response, ha⟩ := hacc
    have hsave := ha.saved hs
    obtain ⟨hm, hd⟩ := saveResponse_entry hsave
    constructor
    · intro key record hr
      by_cases hadm : ∃ content, AdmittedBy .memory key content (w, s)
      · obtain ⟨content, hadm⟩ := hadm
        obtain ⟨response', params, ha', hcontent, hparams, rfl, hbit⟩ := id hadm
        obtain rfl := ha.unique ha'
        obtain ⟨data, hdata, hentry⟩ := saveResponse_memory hsave ha.isCache hbit hparams hcontent
        rw [hentry] at hr
        exact ⟨(w, s), content, data, .of_last hadm, hdata, (Option.some.inj hr).symm⟩
      · -- an entry under another key is an old one
        rcases hm key record hr with hr | ⟨hbit, params, content, data, hp, hc, rfl, -, -⟩
        · obtain ⟨q, content, data, hq, hdata, rfl⟩ := hl.memory key record hr
          exact ⟨q, content, data, hq.append w s fun c hc => hadm ⟨c, hc⟩, hdata, rfl⟩
        · exact absurd ⟨content, response, params, ha, hc, hp, rfl, hbit⟩ hadm
    · intro key value hv
      by_cases hadm : ∃ content, AdmittedBy .disk key content (w, s)
      · obtain ⟨content, hadm⟩ := hadm
        obtain ⟨response', params, ha', hcontent, hparams, rfl, hbit⟩ := id hadm
        obtain rfl := ha.unique ha'
        rw [saveResponse_disk hsave ha.isCache hbit hparams hcontent] at hv
        exact ⟨(w, s), content, .of_last hadm, (Option.some.inj hv).symm⟩
      · rcases hd _ value hv with hv | ⟨hbit, params, content, hp, hc, hkey, -⟩
        · obtain ⟨q, content, hq, rfl⟩ := hl.disk key value hv
          exact ⟨q, content, hq.append w s fun c hc => hadm ⟨c, hc⟩, rfl⟩
        · obtain rfl := actualKey_inj.1 hkey
          exact absurd ⟨content, response, params, ha, hc, hp, rfl, hbit⟩ hadm
  · have hkept := kept_of_step hs hl.full fun response ha => hacc ⟨response, ha⟩
    have hnone : ∀ tier key content, ¬ AdmittedBy tier key content (w, s) :=
      fun _ _ _ ⟨response, _, ha, _⟩ => hacc ⟨response, ha⟩
    constructor
    · intro key record hr
      obtain ⟨q, content, data, hq, hdata, he⟩ := hl.memory key record (hkept.memory key record hr)
      exact ⟨q, content, data, hq.append w s (hnone _ _), hdata, he⟩
    · intro key value hv
      obtain ⟨q, content, hq, he⟩ := hl.disk key value (hkept.disk _ value hv)
      exact ⟨q, content, hq.append w s (hnone _ _), he⟩

theorem Latest.run (hl : Latest h₀ cacheCenter) (hr : Run World.step (launch cacheCenter) h w) :
    Latest (h₀ ++ h) w.cacheCenter := by
  induction hr with
  | nil => rwa [List.append_nil]
  | snoc _ hs ih =>
    rw [← List.append_assoc]
    exact ih.step hs

theorem Installed.latest {defaults : NSUserDefaults} (hd : Installed h₀ defaults) :
    Latest h₀ ⟨fun _ => none, defaults⟩ := by
  induction hd with
  | fresh => exact ⟨fun _ _ h => by simp at h, fun _ _ h => by simp at h⟩
  | launched _ hr ih => exact ⟨fun _ _ h => by simp at h, (ih.run hr).disk⟩

/-! ## Answers -/

/-- The tier a load is answered from: the one that is asked last. -/
def servingTier (c : Context) : RCAPIManagerCachePolicy :=
  if c.cachePolicy.has .disk then .disk else .memory

/-- How long what a load saves in a tier may be served. -/
def lifetime (tier : RCAPIManagerCachePolicy) (c : Context) : ℚ :=
  if tier = .disk then c.diskCacheSecond else c.memoryCacheSecond

/-- **An answer is an entry that has not expired.** -/
theorem Latest.answer {c : Context} {params : NSDictionary} (hl : Latest h cacheCenter)
    (hfind : cachedResponse c params cacheCenter = some (cacheCenter', some response)) :
    ∃ content q, response.content = some content ∧
      LastAdmission (servingTier c) (keyFor c params) content h q ∧
      c.now - q.2.context.now ≤ lifetime (servingTier c) q.2.context := by
  have hignore : c.shouldIgnoreCache = false := by
    by_contra hne
    rw [cachedResponse_eq, memoryLookup, if_neg fun h => hne h.2, if_neg fun h => hne h.2] at hfind
    cases hfind
  have hanswer := cachedResponse_snd hignore params cacheCenter
  rw [hfind, Option.map_some] at hanswer
  unfold servingTier
  cases hdisk : c.cachePolicy.has .disk with
  | true =>
    rw [hdisk, if_pos rfl] at hanswer
    rw [if_pos rfl]
    cases hentry : diskUnexpired c params cacheCenter with
    | none =>
      rw [hentry] at hanswer
      cases hanswer
    | some content =>
      rw [hentry] at hanswer
      obtain ⟨data, hdata, he⟩ := Option.map_eq_some_iff.1 hanswer.symm
      obtain rfl := Option.some.inj he
      rw [diskUnexpired, if_pos hdisk] at hentry
      split at hentry
      · rename_i stored since life hrecord
        split_ifs at hentry with hlive
        obtain rfl := Option.some.inj hentry
        obtain ⟨q, content', hq, hvalue⟩ := hl.disk _ _ hrecord
        obtain ⟨rfl, rfl, rfl⟩ := DefaultsValue.record.inj hvalue
        exact ⟨stored, q, (dataWithJSONObject_json hdata).2, hq, hlive.le⟩
      · cases hentry
  | false =>
    rw [hdisk, if_neg Bool.false_ne_true] at hanswer
    rw [if_neg Bool.false_ne_true]
    obtain ⟨data, hdata, he⟩ := Option.map_eq_some_iff.1 (Option.some.inj hanswer).symm
    subst he
    unfold memoryUnexpired at hdata
    split_ifs at hdata
    split at hdata
    · rename_i record hrecord
      split_ifs at hdata with hlive
      obtain ⟨q, content, data', hq, hcontent, rfl⟩ := hl.memory _ _ hrecord
      obtain rfl := Option.some.inj hdata
      have hlife : lifetime .memory q.2.context = q.2.context.memoryCacheSecond :=
        if_neg (by decide)
      refine ⟨content, q, hcontent, hq, ?_⟩
      rw [hlife]
      simpa [RCMemoryCachedRecord.isOutdated] using hlive
    · cases hdata

/-- **A load answered from the cache gets what was saved last** under its key in the tier that
answers, by any manager and in any launch, and within the time it was saved for. -/
theorem cached_latest {defaults : NSUserDefaults} (hd : Installed h₀ defaults)
    (hr : Run step (launch ⟨fun _ => none, defaults⟩) h w) {c : Context} {m : ManagerId}
    {params : Option NSDictionary} {success fail : Option Block}
    (ha : AnswersFromCache c m params success fail w response) :
    ∃ content q, response.content = some content ∧
      LastAdmission (servingTier c) (keyFor c (paramsOf c params)) content (h₀ ++ h) q ∧
      c.now - q.2.context.now ≤ lifetime (servingTier c) q.2.context := by
  obtain ⟨cacheCenter, x, hfind, -, -⟩ := ha
  exact (hd.latest.run hr).answer hfind

end World

namespace World

/-- Two managers save under one key, the second without asking the cache. -/
def twoSaves : List Step :=
  [⟨.plain .disk, .loadData 0⟩, ⟨.plain .disk, .finish 0 (some (.object .empty)) none⟩,
    ⟨.plain .disk, .runMain⟩, ⟨.plain .disk, .runMain⟩,
    ⟨{ Context.plain .disk with shouldIgnoreCache := true }, .loadData 1⟩,
    ⟨.plain .disk, .finish 1 (some (.object (.arr []))) none⟩, ⟨.plain .disk, .runMain⟩]

/-- A load is answered with what the disk tier holds. -/
theorem answersFromCache_of_disk {c : Context} {m : ManagerId} {params : Option NSDictionary}
    {success fail : Option Block} {w : World} {content : Json} {data : NSData}
    (hcall : c.shouldCallAPIWithParams (paramsOf c params) = true)
    (herr : c.isCorrectWithParamsData (paramsOf c params) = .noError)
    (hignore : c.shouldIgnoreCache = false) (hdisk : c.cachePolicy.has .disk = true)
    (hcontent : diskUnexpired c (paramsOf c params) w.cacheCenter = some content)
    (hdata : dataWithJSONObject content = some data) :
    AnswersFromCache c m params success fail w (.initWithData data) := by
  rw [answersFromCache_iff hcall herr, cachedResponse_snd hignore, if_pos hdisk, hcontent]
  simp only [hdata, Option.map_some]

/-- The next load gets what the second has saved. -/
theorem cached_latest_second :
    ∃ h w response, Run step init h w ∧
      AnswersFromCache (.plain .disk) 0 none none none w response ∧
      ∃ q, response.content = some (.arr []) ∧
        LastAdmission .disk (keyFor (.plain .disk) .empty) (.arr []) h q := by
  have hlt : (0 : ℚ) - 0 < 60 := by decide +kernel
  obtain ⟨w, he, hdisk⟩ : ∃ w, exec step init twoSaves = some w ∧
      diskUnexpired (.plain .disk) .empty w.cacheCenter = some (.arr []) :=
    ⟨_, rfl, if_pos hlt⟩
  have hr : Run step (launch ⟨fun _ => none, fun _ => none⟩) (visited step init twoSaves) w :=
    run_of_exec twoSaves he
  have hanswer : AnswersFromCache (.plain .disk) 0 none none none w
      (.initWithData ⟨some "{}", some (.arr [])⟩) :=
    answersFromCache_of_disk rfl rfl rfl rfl hdisk rfl
  obtain ⟨content, q, hcontent, hq, -⟩ := cached_latest .fresh hr hanswer
  obtain rfl := Option.some.inj hcontent
  exact ⟨_, w, _, hr, hanswer, q, rfl, hq⟩

end World

end RCSdk
