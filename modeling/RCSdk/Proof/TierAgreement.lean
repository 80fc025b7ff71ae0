import RCSdk.Spec.CacheCenter
import RCSdk.Lib.Expiry
import Mathlib.Tactic.Linarith

/-!
# The two cache tiers against one store

Each tier is a store whose entries expire (`Expiry.Store`), and each has a notion of
freshness of its own: `RCMemoryCachedRecord` keeps an entry up to and including the instant
it expires, `RCDiskCacheCenter` only before it.

* `memory_refines`, `disk_refines`: what each operation of a tier does to the store it
  implements, and what a fetch answers.
* `agree_iff`: over every sequence of operations the tiers give the same contents exactly
  when no fetch comes at the very instant the entry it finds expires.
-/

namespace RCSdk

open Expiry Trans

/-- A store of documents, which both tiers are to implement. -/
abbrev DocumentStore := Store String Document ℚ

/-- The store's view of an operation. -/
def TierOp.abs : TierOp → Op String Document ℚ
  | .save now r key cacheTime => .save now key r.document cacheTime
  | .fetch now key => .fetch now key
  | .cleanAll => .clear

/-- The memory tier's notion of freshness. -/
def memoryFresh (now : ℚ) (e : Entry Document ℚ) : Bool := !decide (now - e.since > e.life)

/-- The disk tier's notion of freshness. -/
def diskFresh (now : ℚ) (e : Entry Document ℚ) : Bool := decide (now - e.since < e.life)

theorem judge_iff {s : DocumentStore} {op : Op String Document ℚ} :
    Judge memoryFresh diskFresh s op ↔
      ∀ now key e, op = .fetch now key → s key = some e → now ≠ e.since + e.life := by
  refine forall₃_congr fun now key e => forall₂_congr fun hop he => ?_
  rw [Bool.eq_iff_iff]
  simp only [memoryFresh, diskFresh, Bool.not_eq_true', decide_eq_false_iff_not,
    decide_eq_true_eq, gt_iff_lt, not_lt]
  constructor
  · intro h heq
    have := h.1 (by linarith)
    linarith
  · intro h
    have hne : now - e.since ≠ e.life := fun heq => h (by linarith)
    exact ⟨fun hle => lt_of_le_of_ne hle hne, le_of_lt⟩

section Refinement

variable [Foundation]

/-- The bytes a document is written to. -/
def Document.written (d : Document) : NSData := ⟨some (Foundation.jsonText d.1), some d.1⟩

theorem dataWithJSONObject_document (d : Document) : dataWithJSONObject d.1 = some d.written := by
  rw [dataWithJSONObject, if_pos d.2, Document.written]

/-- The record of an entry in memory. -/
def memoryRecord (e : Entry Document ℚ) : RCMemoryCachedRecord :=
  ⟨some e.value.written, e.since, e.life⟩

/-- The record of an entry on disk. -/
def diskRecord (e : Entry Document ℚ) : DefaultsValue := .record e.value.1 e.since e.life

/-- The response a fetch builds from a document. -/
def Document.fetched (d : Document) : RCURLResponse := .initWithData d.written

theorem fetched_content (d : Document) : d.fetched.content = some d.1 := rfl

def MemoryHolds (memory : RCMemoryCacheDataCenter) (s : DocumentStore) : Prop :=
  ∀ key, memory key = (s key).map memoryRecord

def DiskHolds (disk : NSUserDefaults) (s : DocumentStore) : Prop :=
  ∀ key, disk (RCDiskCacheCenter.actualKey key) = (s key).map diskRecord

variable {memory : RCMemoryCacheDataCenter} {disk : NSUserDefaults} {s s' : DocumentStore}
  {now cacheTime : ℚ} {key : String} {r : DocumentResponse}

/-! ## Memory -/

theorem memory_save (h : MemoryHolds memory s) :
    ∃ memory', memory.saveCacheWithResponse now r.response key cacheTime = some memory' ∧
      MemoryHolds memory' (apply memoryFresh s (.save now key r.document cacheTime)) := by
  unfold RCMemoryCacheDataCenter.saveCacheWithResponse
  simp only [r.content_eq, Option.bind_some, dataWithJSONObject_document, Option.map_some]
  refine ⟨_, rfl, fun k => ?_⟩
  by_cases hk : k = key
  · subst hk
    simp [apply, memoryRecord, RCMemoryCachedRecord.updateContent]
  · simp [apply, hk, h k]

theorem memory_fetch (h : MemoryHolds memory s) :
    MemoryHolds (memory.fetchCachedRecordWithKey now key).1
        (apply memoryFresh s (.fetch now key)) ∧
      (memory.fetchCachedRecordWithKey now key).2 =
        (answer memoryFresh s (.fetch now key)).map Document.fetched := by
  have hk := h key
  unfold RCMemoryCacheDataCenter.fetchCachedRecordWithKey
  cases he : s key with
  | none =>
    rw [he] at hk
    simp only [hk, Option.map_none, apply, answer, he, Option.filter_none, and_true]
    intro k
    by_cases hkk : k = key
    · subst hkk; simpa using hk
    · simp [hkk, h k]
  | some e =>
    rw [he] at hk
    have hfresh : (memoryRecord e).isOutdated now = !memoryFresh now e := by
      simp [RCMemoryCachedRecord.isOutdated, memoryRecord, memoryFresh]
    have hempty : (memoryRecord e).isEmpty = false := rfl
    simp only [hk, Option.map_some, hfresh, hempty, Bool.or_false, apply, answer, he,
      Option.filter_some]
    cases memoryFresh now e with
    | true =>
      refine ⟨fun k => ?_, rfl⟩
      by_cases hkk : k = key
      · subst hkk; simpa using hk
      · simp [hkk, h k]
    | false =>
      refine ⟨fun k => ?_, rfl⟩
      by_cases hkk : k = key
      · subst hkk; simp
      · simp [hkk, h k]

/-! ## Disk -/

omit [Foundation] in
theorem actualKey_inj {k k' : String} :
    RCDiskCacheCenter.actualKey k = RCDiskCacheCenter.actualKey k' ↔ k = k' := by
  unfold RCDiskCacheCenter.actualKey
  rw [← String.toList_inj, ← String.toList_inj, String.toList_append, String.toList_append,
    List.append_cancel_left_eq]

theorem actualKey_cleaned (k : String) :
    beginsWithIgnoringCase kRCDiskCacheCenterCachedObjectKeyPrefix
      (RCDiskCacheCenter.actualKey k) = true := by
  unfold beginsWithIgnoringCase RCDiskCacheCenter.actualKey
  rw [List.isPrefixOf_iff_prefix, String.toList_append, List.map_append]
  exact List.prefix_append _ _

omit [Foundation] in
/-- Changing what is kept under one key, in the defaults and in the store. -/
theorem DiskHolds.update (h : DiskHolds disk s) (key : String) {v : Option DefaultsValue}
    {e : Option (Entry Document ℚ)} (hv : v = e.map diskRecord) :
    DiskHolds (Function.update disk (RCDiskCacheCenter.actualKey key) v)
      (Function.update s key e) := by
  intro k
  by_cases hk : k = key
  · subst hk; simpa using hv
  · have hne : RCDiskCacheCenter.actualKey k ≠ RCDiskCacheCenter.actualKey key :=
      fun he => hk (actualKey_inj.1 he)
    simp [hk, hne, h k]

omit [Foundation] in
theorem disk_save (h : DiskHolds disk s) :
    DiskHolds (RCDiskCacheCenter.saveCacheWithResponse now r.response key cacheTime disk)
      (apply diskFresh s (.save now key r.document cacheTime)) := by
  unfold RCDiskCacheCenter.saveCacheWithResponse
  rw [r.content_eq]
  exact h.update key rfl

theorem disk_fetch (h : DiskHolds disk s) :
    ∃ disk', RCDiskCacheCenter.fetchCachedRecordWithKey now key disk =
        some (disk', (answer diskFresh s (.fetch now key)).map Document.fetched) ∧
      DiskHolds disk' (apply diskFresh s (.fetch now key)) := by
  have hk := h key
  unfold RCDiskCacheCenter.fetchCachedRecordWithKey
  cases he : s key with
  | none =>
    rw [he] at hk
    simp only [hk, Option.map_none, apply, answer, he, Option.filter_none]
    refine ⟨disk, rfl, ?_⟩
    have hu := h.update key (hk.trans (Option.map_none (f := diskRecord)).symm)
    rwa [Function.update_eq_self] at hu
  | some e =>
    rw [he] at hk
    have hfresh : (now - e.since < e.life) ↔ diskFresh now e = true := by simp [diskFresh]
    simp only [hk, Option.map_some, diskRecord, hfresh, dataWithJSONObject_document, apply, answer,
      he, Option.filter_some]
    cases diskFresh now e with
    | true =>
      refine ⟨disk, rfl, ?_⟩
      have hu := h.update key (hk.trans (Option.map_some e diskRecord).symm)
      rwa [Function.update_eq_self] at hu
    | false => exact ⟨_, rfl, h.update key rfl⟩

/-! ## Side by side -/

namespace Tiers

/-- Each tier holds the store that its own notion of freshness has made. -/
def Holds (t : Tiers) (p : DocumentStore × DocumentStore) : Prop :=
  MemoryHolds t.memory p.1 ∧ DiskHolds t.disk p.2

/-- The tiers give a fetch the same content, or neither gives one. -/
def Agree (t : Tiers) (op : TierOp) : Prop :=
  ∀ now key, op = .fetch now key →
    (t.memoryAnswer now key).map (·.content) = (t.diskAnswer now key).map (·.content)

/-- A fetch does not come at the instant at which the record it finds in memory expires. -/
def OffExpiry (t : Tiers) (op : TierOp) : Prop :=
  ∀ now key record, op = .fetch now key → t.memory key = some record →
    now ≠ record.lastUpdateTime + record.cacheTime

variable {t : Tiers} {p : DocumentStore × DocumentStore} {op : TierOp}

/-- **The two tiers together are two stores side by side.** -/
theorem step_holds (op : TierOp) (h : t.Holds p) :
    ∃ t' p', t.step op = some t' ∧ both memoryFresh diskFresh p op.abs = some p' ∧ t'.Holds p' := by
  obtain ⟨hm, hd⟩ := h
  cases op with
  | save now r key cacheTime =>
    obtain ⟨memory', hsave, hm'⟩ : ∃ memory', _ ∧ MemoryHolds memory' _ := memory_save hm
    refine ⟨⟨memory', RCDiskCacheCenter.saveCacheWithResponse now r.response key cacheTime t.disk⟩, _,
      ?_, rfl, hm', disk_save hd⟩
    simp only [step]
    rw [hsave, Option.map_some]
  | fetch now key =>
    obtain ⟨disk', hfetch, hd'⟩ := disk_fetch hd
    refine ⟨⟨_, disk'⟩, _, ?_, rfl, (memory_fetch hm).1, hd'⟩
    simp only [step, hfetch, Option.map_some]
  | cleanAll =>
    refine ⟨_, _, rfl, rfl, fun key => rfl, fun key => ?_⟩
    simp only [RCDiskCacheCenter.cleanAll, actualKey_cleaned, if_true, TierOp.abs, apply,
      Option.map_none]

/-- The contents of two answers agree when the documents do. -/
theorem content_eq_iff {d d' : Option Document} :
    (d.map Document.fetched).map (·.content) = (d'.map Document.fetched).map (·.content) ↔
      d = d' := by
  cases d <;> cases d' <;> simp [fetched_content, Subtype.ext_iff]

theorem memoryAnswer_eq (h : t.Holds p) :
    t.memoryAnswer now key = (answer memoryFresh p.1 (.fetch now key)).map Document.fetched :=
  (memory_fetch h.1).2

theorem diskAnswer_eq (h : t.Holds p) :
    t.diskAnswer now key = (answer diskFresh p.2 (.fetch now key)).map Document.fetched := by
  obtain ⟨disk', hfetch, -⟩ : ∃ disk', _ ∧ DiskHolds disk' _ := disk_fetch h.2
  unfold diskAnswer
  rw [hfetch, Option.bind_some]

theorem agree_iff_answer (h : t.Holds p) :
    t.Agree op ↔ answer memoryFresh p.1 op.abs = answer diskFresh p.2 op.abs := by
  cases op with
  | save now r key cacheTime => exact ⟨fun _ => rfl, fun _ _ _ he => by cases he⟩
  | fetch now key =>
    constructor
    · intro ha
      have := ha now key rfl
      rw [memoryAnswer_eq h, diskAnswer_eq h] at this
      exact content_eq_iff.1 this
    · intro ha now' key' he
      obtain ⟨rfl, rfl⟩ := TierOp.fetch.inj he
      rw [memoryAnswer_eq h, diskAnswer_eq h]
      exact content_eq_iff.2 ha
  | cleanAll => exact ⟨fun _ => rfl, fun _ _ _ he => by cases he⟩

theorem offExpiry_iff_judge (h : t.Holds p) :
    t.OffExpiry op ↔ Judge memoryFresh diskFresh p.1 op.abs := by
  rw [judge_iff]
  constructor
  · intro ho now key e hop he
    cases op with
    | save now r key cacheTime => cases hop
    | fetch now' key' =>
      obtain ⟨rfl, rfl⟩ := Op.fetch.inj hop
      have hrec : t.memory key' = some (memoryRecord e) := by rw [h.1 key', he, Option.map_some]
      exact ho now' key' _ rfl hrec
    | cleanAll => cases hop
  · intro hj now key record hop hrec
    subst hop
    rw [h.1 key, Option.map_eq_some_iff] at hrec
    obtain ⟨e, he, rfl⟩ := hrec
    exact hj now key e rfl he

/-- **The tiers implement the same store exactly off the expiry instants.** Both start out
with nothing saved, over whatever else the user defaults hold. -/
theorem agree_iff (defaults : NSUserDefaults)
    (hd : ∀ key, defaults (RCDiskCacheCenter.actualKey key) = none) (ops : List TierOp) :
    (exec step ⟨fun _ => none, defaults⟩ ops).isSome ∧
      ((∀ q ∈ visited step ⟨fun _ => none, defaults⟩ ops, q.1.Agree q.2) ↔
        ∀ q ∈ visited step ⟨fun _ => none, defaults⟩ ops, q.1.OffExpiry q.2) := by
  have h0 : Holds ⟨fun _ => none, defaults⟩ (fun _ => none, fun _ => none) :=
    ⟨fun _ => rfl, fun key => hd key⟩
  have hsim : ∀ t p op, Holds t p → ∃ t' p', step t op = some t' ∧
      both memoryFresh diskFresh p op.abs = some p' ∧ Holds t' p' := fun _ _ op => step_holds op
  refine ⟨exec_isSome_of_sim hsim ops _ _ h0, ?_⟩
  have hagree := forall_visited_iff_of_sim hsim (C := fun q => q.1.Agree q.2)
    (D := fun q => answer memoryFresh q.1.1 q.2 = answer diskFresh q.1.2 q.2)
    (fun _ _ _ => agree_iff_answer) ops _ _ h0
  have hoff := forall_visited_iff_of_sim hsim (C := fun q => q.1.OffExpiry q.2)
    (D := fun q => Judge memoryFresh diskFresh q.1.1 q.2)
    (fun _ _ _ => offExpiry_iff_judge) ops _ _ h0
  rw [hagree, hoff]
  exact answers_eq_iff_judge _ _

end Tiers

end Refinement

namespace Tiers

/-- A response with the content `@{}`. -/
def emptyResponse : DocumentResponse where
  response := ⟨.success, none, some .empty, 0, none, none, false⟩
  document := ⟨.empty, rfl⟩
  content_eq := rfl

/-- What both tiers hold after that response was saved for a minute under `key`. -/
def savedForMinute : DocumentStore :=
  Function.update (fun _ => none) "key" (some ⟨emptyResponse.document, 0, 60⟩)

theorem holds_savedForMinute :
    ∃ t, step ⟨fun _ => none, fun _ => none⟩ (.save 0 emptyResponse "key" 60) = some t ∧
      t.Holds (savedForMinute, savedForMinute) := by
  obtain ⟨t, p, hst, hp, ht⟩ := step_holds (.save 0 emptyResponse "key" 60)
    (show Holds ⟨fun _ => none, fun _ => none⟩ (fun _ => none, fun _ => none) from
      ⟨fun _ => rfl, fun _ => rfl⟩)
  obtain rfl := Option.some.inj hp
  exact ⟨t, hst, ht⟩

/-- A response saved for a minute is fetched from both tiers half a minute later. -/
theorem agree_within_minute :
    (exec step ⟨fun _ => none, fun _ => none⟩
      [.save 0 emptyResponse "key" 60, .fetch 30 "key"]).isSome ∧
    ∀ q ∈ visited step ⟨fun _ => none, fun _ => none⟩
      [.save 0 emptyResponse "key" 60, .fetch 30 "key"], q.1.Agree q.2 := by
  have hrun := agree_iff (fun _ => none) (fun _ => rfl)
    [.save 0 emptyResponse "key" 60, .fetch 30 "key"]
  refine ⟨hrun.1, hrun.2.2 ?_⟩
  obtain ⟨t, hst, ht⟩ := holds_savedForMinute
  refine forall_visited_cons (fun _ _ _ h => by cases h) hst ?_
  obtain ⟨t', p', hst', -, -⟩ := step_holds (.fetch 30 "key") ht
  refine forall_visited_cons ((offExpiry_iff_judge ht).2 (judge_iff.2 ?_)) hst' forall_visited_nil
  intro now key e hop he
  obtain ⟨rfl, rfl⟩ := Op.fetch.inj hop
  obtain rfl := Option.some.inj he
  decide +kernel

/-- **At the instant it expires.** A response saved for a minute and fetched a minute later is
still answered by the memory tier and no longer by the disk tier. -/
theorem kept_at_expiry :
    ∃ t, exec step ⟨fun _ => none, fun _ => none⟩ [.save 0 emptyResponse "key" 60] = some t ∧
      (t.memoryAnswer 60 "key").map (·.content) = some (some .empty) ∧
      t.diskAnswer 60 "key" = none ∧ ¬ t.Agree (.fetch 60 "key") := by
  obtain ⟨t, hst, ht⟩ := holds_savedForMinute
  have hfresh : memoryFresh 60 ⟨emptyResponse.document, 0, 60⟩ = true := by decide +kernel
  have hstale : diskFresh 60 ⟨emptyResponse.document, 0, 60⟩ = false := by decide +kernel
  have hm : (t.memoryAnswer 60 "key").map (·.content) = some (some .empty) := by
    rw [memoryAnswer_eq ht]
    simp only [answer, savedForMinute, Function.update_self, Option.filter_some, hfresh]
    rfl
  have hd : t.diskAnswer 60 "key" = none := by
    rw [diskAnswer_eq ht]
    simp only [answer, savedForMinute, Function.update_self, Option.filter_some, hstale]
    rfl
  refine ⟨t, by simp only [exec, hst, Option.bind_some], hm, hd, fun h => ?_⟩
  have := h 60 "key" rfl
  rw [hm, hd] at this
  exact absurd this (by simp)

end Tiers

end RCSdk
