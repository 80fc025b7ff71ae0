import RCSdk.Lib.Run
import RCSdk.Spec.DiskData

/-!
# What cleaning the disk tier removes

The disk tier writes and reads under its prefix as it is spelled; `cleanAll` looks for the prefix
without regard to case. So it removes every entry of the tier, and with them what the rest of the
application keeps under another spelling of the prefix.

* `cleans_exactly_iff`: a clean leaves nothing to fetch and everything else as it was exactly when
  no key begins with another spelling, which holds as long as the application writes to no such key.
* `other_spelling_removed`: a key of the application that is lost.
-/

namespace RCSdk

open Trans

namespace DefaultsData

/-- The key begins with the prefix of the disk tier. -/
def HasPrefix (key : String) : Prop :=
  kRCDiskCacheCenterCachedObjectKeyPrefix.toList <+: key.toList

theorem hasPrefix_actualKey (key : String) : HasPrefix (RCDiskCacheCenter.actualKey key) := by
  unfold HasPrefix RCDiskCacheCenter.actualKey
  rw [String.toList_append]
  exact List.prefix_append _ _

section Disk

variable [Foundation] (stringValue : String → ℚ)

/-- After a clean no fetch finds anything, and every value under another key is what it was. -/
def CleansExactly (defaults : DefaultsData) : Prop :=
  (∀ now key, ∃ d, defaults.cleanAll.fetchCachedRecordWithKey stringValue now key =
    some (d, none)) ∧
  ∀ key, ¬ HasPrefix key → defaults.cleanAll key = defaults key

/-- The key begins with the prefix, in one spelling or another, only as the disk tier spells it. -/
def OneSpelling (key : String) : Prop :=
  beginsWithIgnoringCase kRCDiskCacheCenterCachedObjectKeyPrefix key = true → HasPrefix key

/-- Every key with a value does. -/
def KeysOneSpelling (defaults : DefaultsData) : Prop :=
  ∀ key, (defaults key).isSome = true → OneSpelling key

/-- What is spelled alike is alike without regard to case. -/
theorem HasPrefix.ignoringCase {key : String} (h : HasPrefix key) :
    beginsWithIgnoringCase kRCDiskCacheCenterCachedObjectKeyPrefix key = true := by
  unfold beginsWithIgnoringCase
  rw [List.isPrefixOf_iff_prefix]
  exact h.map Foundation.foldCase

/-- Under the keys of the tier a clean leaves nothing. -/
theorem fetch_of_cleaned (defaults : DefaultsData) (now : ℚ) (key : String) :
    defaults.cleanAll.fetchCachedRecordWithKey stringValue now key =
      some (defaults.cleanAll, none) := by
  have hcleaned : defaults.cleanAll (RCDiskCacheCenter.actualKey key) = none :=
    if_pos (hasPrefix_actualKey key).ignoringCase
  have hdata : defaults.cleanAll.dataForKey (RCDiskCacheCenter.actualKey key) = none := by
    unfold dataForKey
    rw [hcleaned]
  unfold fetchCachedRecordWithKey
  rw [hdata]

/-- **A clean is exact exactly when no key that has a value begins with another spelling.** -/
theorem cleansExactly_iff (defaults : DefaultsData) :
    CleansExactly stringValue defaults ↔ KeysOneSpelling defaults := by
  constructor
  · rintro ⟨-, hframe⟩ key hsome hbegins
    by_contra hnot
    have hkept := hframe key hnot
    unfold cleanAll at hkept
    rw [if_pos hbegins] at hkept
    rw [← hkept] at hsome
    cases hsome
  · intro hone
    refine ⟨fun now key => ⟨_, fetch_of_cleaned stringValue defaults now key⟩, fun key hnot => ?_⟩
    unfold cleanAll
    split_ifs with hbegins
    · by_contra hne
      have hsome : (defaults key).isSome = true := Option.isSome_iff_ne_none.2 (Ne.symm hne)
      exact hnot (hone key hsome hbegins)
    · rfl

/-! ## Runs -/

/-- A write by the rest of the application goes to no other spelling of the prefix. -/
def WritesOneSpelling : DefaultsEvent → Prop
  | .tier _ => True
  | .write key _ => OneSpelling key

/-- A value written under a key that is spelled as it should be. -/
theorem KeysOneSpelling.update {defaults : DefaultsData} (h : KeysOneSpelling defaults)
    {key : String} (hkey : OneSpelling key) (value : Option DefaultsObject) :
    KeysOneSpelling (Function.update defaults key value) := by
  intro k hk
  by_cases hkk : k = key
  · rw [hkk]
    exact hkey
  · rw [Function.update_of_ne hkk] at hk
    exact h k hk

theorem oneSpelling_actualKey (key : String) : OneSpelling (RCDiskCacheCenter.actualKey key) :=
  fun _ => hasPrefix_actualKey key

/-- A fetch removes the entry it is asked for, or changes nothing. -/
theorem fetch_defaults {defaults d : DefaultsData} {now : ℚ} {key : String}
    {answer : Option RCURLResponse}
    (h : defaults.fetchCachedRecordWithKey stringValue now key = some (d, answer)) :
    d = defaults ∨ d = Function.update defaults (RCDiskCacheCenter.actualKey key) none := by
  unfold fetchCachedRecordWithKey at h
  split at h
  · simp only [Option.bind_eq_bind, Option.bind_eq_some_iff] at h
    obtain ⟨-, -, lastUpdateTime, -, -, -, cacheTime, -, h⟩ := h
    split_ifs at h
    · obtain ⟨content, -, h⟩ := Option.bind_eq_some_iff.1 h
      obtain ⟨data, -, h⟩ := Option.bind_eq_some_iff.1 h
      exact Or.inl (Prod.mk.inj (Option.some.inj h)).1.symm
    · exact Or.inr (Prod.mk.inj (Option.some.inj h)).1.symm
  · exact Or.inl (Prod.mk.inj (Option.some.inj h)).1.symm

/-- **No operation of the tier writes another spelling.** -/
theorem KeysOneSpelling.step {s t : DefaultsData × List (Option RCURLResponse)} {op : DiskOp}
    (h : KeysOneSpelling s.1) (hstep : DefaultsData.step stringValue s op = some t) :
    KeysOneSpelling t.1 := by
  cases op with
  | save now response key cacheTime =>
    simp only [DefaultsData.step, Option.map_eq_some_iff] at hstep
    obtain ⟨d, hd, rfl⟩ := hstep
    unfold saveCacheWithResponse at hd
    split at hd
    · obtain ⟨data, -, rfl⟩ := Option.map_eq_some_iff.1 hd
      exact h.update (oneSpelling_actualKey key) _
    · obtain rfl := Option.some.inj hd
      exact h
  | fetch now key =>
    simp only [DefaultsData.step, Option.map_eq_some_iff] at hstep
    obtain ⟨⟨d, answer⟩, hd, rfl⟩ := hstep
    rcases fetch_defaults stringValue hd with rfl | rfl
    · exact h
    · exact h.update (oneSpelling_actualKey key) none
  | cleanAll =>
    obtain rfl := Option.some.inj hstep
    intro key hkey
    refine h key ?_
    simp only [cleanAll] at hkey
    split_ifs at hkey
    · cases hkey
    · exact hkey

/-- **A clean at any moment of a run is exact exactly when no key begins with another spelling of
the prefix**; and there is none as long as the application writes to none. -/
theorem cleans_exactly_iff {init t : DefaultsData × List (Option RCURLResponse)}
    {h : List ((DefaultsData × List (Option RCURLResponse)) × DefaultsEvent)}
    (hr : Run (stepShared stringValue) init h t) :
    (CleansExactly stringValue t.1 ↔ KeysOneSpelling t.1) ∧
      (KeysOneSpelling init.1 → (∀ q ∈ h, WritesOneSpelling q.2) →
        CleansExactly stringValue t.1) := by
  refine ⟨cleansExactly_iff stringValue t.1, fun hinit hwrites => ?_⟩
  rw [cleansExactly_iff]
  refine hr.invariant_of (P := fun s => KeysOneSpelling s.1)
    (C := fun _ event => WritesOneSpelling event) hinit ?_ hwrites
  intro s event s' hs hwrite hstep
  cases event with
  | tier op => exact hs.step stringValue hstep
  | write key value =>
    obtain rfl := Option.some.inj hstep
    exact hs.update hwrite value

end Disk

/-- The application keeps a value under a key of its own. -/
theorem theme_kept :
    CleansExactly (fun _ => 0) (Function.update (fun _ => none) "theme" (some .other)) := by
  have hr : Run (stepShared fun _ => 0) (fun _ => none, [])
      ([] ++ [((fun _ => none, []), .write "theme" (some .other))])
      (Function.update (fun _ => none) "theme" (some .other), []) := Run.nil.snoc rfl
  refine (cleans_exactly_iff _ hr).2 (fun key hkey => by cases hkey) fun q hq => ?_
  obtain rfl := List.mem_singleton.1 hq
  have hother : beginsWithIgnoringCase kRCDiskCacheCenterCachedObjectKeyPrefix "theme" = false := by
    decide +kernel
  exact fun hbegins => absurd (hother.symm.trans hbegins) (by decide)

/-- The application keeps a value under the prefix in capitals, and a clean removes it. -/
theorem other_spelling_removed :
    ∃ t, exec (stepShared fun _ => 0) (fun _ => none, [])
        [.write "KRCDiskCacheCenterCachedObjectKeyPrefixTheme" (some .other)] = some t ∧
      ¬ CleansExactly (fun _ => 0) t.1 := by
  refine ⟨_, rfl, fun ⟨_, hframe⟩ => ?_⟩
  have hnot : ¬ HasPrefix "KRCDiskCacheCenterCachedObjectKeyPrefixTheme" := by
    unfold HasPrefix
    decide +kernel
  have hremoved : beginsWithIgnoringCase kRCDiskCacheCenterCachedObjectKeyPrefix
      "KRCDiskCacheCenterCachedObjectKeyPrefixTheme" = true := by decide +kernel
  have hkept := hframe _ hnot
  unfold cleanAll at hkept
  rw [if_pos hremoved] at hkept
  cases hkept

end DefaultsData

end RCSdk
