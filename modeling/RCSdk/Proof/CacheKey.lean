import RCSdk.Lib.Words
import RCSdk.Spec.CacheCenter

/-!
# Which requests share a cache key

The key of a request is its service identifier, its method name and the text of its
parameters, one after the other, with nothing between the first two and nothing escaped
in the third.

* `key_toList`: the key as a list of characters.
* `key_separates`: no other request has the key of a request exactly when that request is
  blank; and requests whose parts avoid the separators (`Separated`) never share a key.
* `key_shared`: two requests with one key.
-/

namespace RCSdk

section Keys

variable [Foundation]

/-- What a response is cached for. The order of the parameters' entries is the order the
dictionary enumerates its keys in when the key is built. -/
structure CacheRequest where
  serviceIdentifier : String
  methodName : String
  params : NSDictionary

namespace CacheRequest

/-- The cache key. -/
def key (t : CacheRequest) : String := keyWithServiceIdentifier t.serviceIdentifier t.methodName t.params

omit [Foundation] in
/-- The same request: equal service, equal method, equal dictionaries. -/
def Same (t t' : CacheRequest) : Prop :=
  t.serviceIdentifier = t'.serviceIdentifier ∧ t.methodName = t'.methodName ∧
    t.params.isEqual t'.params

/-- No service, no method, no parameters. -/
def IsBlank (t : CacheRequest) : Prop :=
  t.serviceIdentifier = "" ∧ t.methodName = "" ∧ t.params.entries = []

end CacheRequest

/-! ## The text of the parameters -/

/-- One entry, as the text has it. -/
def segment (e : String × ParamValue) : List Char := e.1.toList ++ '=' :: e.2.text.toList

theorem segments_foldl (l : List (String × ParamValue)) : ∀ (n : ℕ) (s : String), 0 < n →
    ((l.zipIdx n).foldl (fun paramString (entry, i) =>
      let string :=
        if i = 0 then "?" ++ entry.1 ++ "=" ++ entry.2.text
        else "&" ++ entry.1 ++ "=" ++ entry.2.text
      paramString ++ string) s).toList = s.toList ++ l.flatMap fun e => '&' :: segment e := by
  induction l with
  | nil => intro n s _; simp
  | cons e l ih =>
    intro n s hn
    simp only [List.zipIdx_cons, List.foldl_cons]
    rw [ih (n + 1) _ (Nat.succ_pos n), if_neg hn.ne']
    simp [segment, List.flatMap_cons, List.append_assoc]

/-- **The text of the parameters**: nothing, or the segments behind a question mark. -/
theorem transform_toList (d : NSDictionary) :
    d.RC_transformToUrlParamString.toList =
      if d.entries = [] then [] else '?' :: ['&'].intercalate (d.entries.map segment) := by
  unfold NSDictionary.RC_transformToUrlParamString
  cases d.entries with
  | nil => simp
  | cons e l =>
    simp only [List.zipIdx_cons, List.foldl_cons]
    rw [segments_foldl l 1 _ Nat.one_pos, if_neg (List.cons_ne_nil _ _), List.map_cons,
      Words.intercalate_eq_flatMap, List.flatMap_map]
    simp [segment]

theorem key_toList (t : CacheRequest) :
    t.key.toList = t.serviceIdentifier.toList ++ (t.methodName.toList ++
      if t.params.entries = [] then [] else '?' :: ['&'].intercalate (t.params.entries.map segment)) := by
  simp only [CacheRequest.key, keyWithServiceIdentifier, String.toList_append, transform_toList,
    List.append_assoc]

theorem transform_ne_empty {d : NSDictionary} (h : d.entries ≠ []) :
    d.RC_transformToUrlParamString ≠ "" := by
  intro h0
  have := transform_toList d
  rw [h0, if_neg h] at this
  simp at this

/-! ## Every key is shared -/

/-- **A request that no other request shares its key with is blank.** -/
theorem blank_of_unshared {t : CacheRequest} (h : ∀ t' : CacheRequest, t.key = t'.key → t.Same t') :
    t.IsBlank := by
  -- the boundaries between the three parts are not in the key: move them to the left end
  have hs : t.serviceIdentifier = "" := by
    have := h ⟨"", t.serviceIdentifier ++ t.methodName, t.params⟩
      (by simp [CacheRequest.key, keyWithServiceIdentifier])
    exact this.1
  have hm : t.methodName = "" := by
    have := h ⟨t.methodName, "", t.params⟩
      (by simp [CacheRequest.key, keyWithServiceIdentifier, hs])
    exact this.2.1
  refine ⟨hs, hm, ?_⟩
  by_contra hp
  have := h ⟨"", t.params.RC_transformToUrlParamString, NSDictionary.empty⟩
    (by simp [CacheRequest.key, keyWithServiceIdentifier, hs, hm, NSDictionary.empty,
      NSDictionary.RC_transformToUrlParamString])
  exact transform_ne_empty hp (this.2.1.symm.trans hm)

/-- Nobody shares the key of the blank request. -/
theorem unshared_of_blank {t t' : CacheRequest} (ht : t.IsBlank) (h : t.key = t'.key) : t.Same t' := by
  obtain ⟨hs, hm, hp⟩ := ht
  have hk := congrArg String.toList h
  rw [key_toList, key_toList, hs, hm, hp] at hk
  simp only [String.toList_empty, if_true, List.append_nil] at hk
  have hk' := hk.symm
  simp only [List.append_eq_nil_iff, String.toList_eq_nil_iff] at hk'
  obtain ⟨hs', hm', hp'⟩ := hk'
  have hp0 : t'.params.entries = [] := by
    by_contra hne
    rw [if_neg hne] at hp'
    exact List.cons_ne_nil _ _ hp'
  exact ⟨hs.trans hs'.symm, hm.trans hm'.symm, by rw [NSDictionary.isEqual, hp, hp0]⟩

/-! ## Keys of requests that avoid the separators -/

/-- Parameters whose names have neither `=` nor `&` and whose values have no `&`. -/
def PlainParams (d : NSDictionary) : Prop :=
  ∀ e ∈ d.entries, '=' ∉ e.1.toList ∧ '&' ∉ e.1.toList ∧ '&' ∉ e.2.text.toList

/-- Two requests whose parts avoid the separators: neither service identifier is a proper
beginning of the other, the methods have no `?`, the parameters are plain, and values of
one name that print alike are equal. -/
structure Separated (t t' : CacheRequest) : Prop where
  service : t.serviceIdentifier.toList <+: t'.serviceIdentifier.toList ∨
    t'.serviceIdentifier.toList <+: t.serviceIdentifier.toList →
    t.serviceIdentifier = t'.serviceIdentifier
  method : '?' ∉ t.methodName.toList ∧ '?' ∉ t'.methodName.toList
  params : PlainParams t.params ∧ PlainParams t'.params
  values : ∀ e ∈ t.params.entries, ∀ e' ∈ t'.params.entries,
    e.1 = e'.1 → e.2.text = e'.2.text → e.2 = e'.2

theorem segment_inj {e e' : String × ParamValue} (h : segment e = segment e')
    (he : '=' ∉ e.1.toList) (he' : '=' ∉ e'.1.toList) : e.1 = e'.1 ∧ e.2.text = e'.2.text := by
  obtain ⟨h1, h2⟩ := Words.append_inj_of_head he he' (Or.inr rfl) (Or.inr rfl) h
  exact ⟨String.toList_inj.1 h1, String.toList_inj.1 (List.cons.inj h2).2⟩

theorem amp_not_mem_segment {d : NSDictionary} (hd : PlainParams d) :
    ∀ w ∈ d.entries.map segment, '&' ∉ w := by
  intro w hw
  obtain ⟨e, he, rfl⟩ := List.mem_map.1 hw
  obtain ⟨-, h1, h2⟩ := hd e he
  simp [segment, h1, h2]

/-- Plain parameters can be read back from their segments. -/
theorem entries_of_segments {l l' : List (String × ParamValue)}
    (hl : ∀ e ∈ l, '=' ∉ e.1.toList) (hl' : ∀ e ∈ l', '=' ∉ e.1.toList)
    (hv : ∀ e ∈ l, ∀ e' ∈ l', e.1 = e'.1 → e.2.text = e'.2.text → e.2 = e'.2)
    (h : l.map segment = l'.map segment) : l = l' := by
  induction l generalizing l' with
  | nil => exact (List.map_eq_nil_iff.1 h.symm).symm
  | cons e l ih =>
    obtain ⟨e', l', rfl, hseg, hrest⟩ := List.map_eq_cons_iff.1 h.symm
    -- the first `=` ends the name; what follows is the text of the value
    have ⟨h1, h2⟩ := segment_inj hseg.symm (hl e List.mem_cons_self) (hl' e' List.mem_cons_self)
    have he : e = e' := Prod.ext h1 (hv e List.mem_cons_self e' List.mem_cons_self h1 h2)
    rw [he, ih (fun a ha => hl a (List.mem_cons_of_mem _ ha))
      (fun a ha => hl' a (List.mem_cons_of_mem _ ha))
      (fun a ha b hb => hv a (List.mem_cons_of_mem _ ha) b (List.mem_cons_of_mem _ hb)) hrest.symm]

/-- The text of the parameters is empty or starts with a question mark. -/
theorem paramText_head (d : NSDictionary) :
    (if d.entries = [] then [] else '?' :: ['&'].intercalate (d.entries.map segment)) = [] ∨
      (if d.entries = [] then [] else '?' :: ['&'].intercalate (d.entries.map segment)).head? =
        some '?' := by
  by_cases h : d.entries = []
  · left; rw [if_pos h]
  · right; rw [if_neg h, List.head?_cons]

/-- **Requests whose parts avoid the separators do not share a key.** -/
theorem Separated.same {t t' : CacheRequest} (hs : Separated t t') (h : t.key = t'.key) : t.Same t' := by
  have hk := congrArg String.toList h
  rw [key_toList, key_toList] at hk
  -- one of the two service identifiers begins with the other, so they are equal
  have hserv : t.serviceIdentifier = t'.serviceIdentifier :=
    hs.service (List.prefix_or_prefix_of_prefix ⟨_, rfl⟩ ⟨_, hk.symm⟩)
  rw [hserv] at hk
  -- the first `?` ends the method
  obtain ⟨hm, hp⟩ := Words.append_inj_of_head hs.method.1 hs.method.2 (paramText_head _)
    (paramText_head _) (List.append_cancel_left hk)
  refine ⟨hserv, String.toList_inj.1 hm, ?_⟩
  have hentries : t.params.entries = t'.params.entries := by
    by_cases h0 : t.params.entries = [] <;> by_cases h0' : t'.params.entries = []
    · rw [h0, h0']
    · rw [if_pos h0, if_neg h0'] at hp; exact absurd hp (by simp)
    · rw [if_neg h0, if_pos h0'] at hp; exact absurd hp (by simp)
    · rw [if_neg h0, if_neg h0'] at hp
      refine entries_of_segments (fun e he => (hs.params.1 e he).1) (fun e he => (hs.params.2 e he).1)
        hs.values ?_
      exact Words.intercalate_inj (amp_not_mem_segment hs.params.1) (amp_not_mem_segment hs.params.2)
        (by simpa using h0) (by simpa using h0') (List.cons.inj hp).2
  rw [NSDictionary.isEqual, hentries]

/-- **Which keys separate.** A request shares its key with no other request exactly when it
is blank; two requests whose parts avoid the separators do not share a key. -/
theorem key_separates (t : CacheRequest) :
    ((∀ t' : CacheRequest, t.key = t'.key → t.Same t') ↔ t.IsBlank) ∧
      ∀ t' : CacheRequest, Separated t t' → t.key = t'.key → t.Same t' :=
  ⟨⟨blank_of_unshared, fun ht _ => unshared_of_blank ht⟩, fun _ hs => hs.same⟩

end Keys

/-- Nothing marks where the service ends and the method begins. -/
theorem key_shared :
    (⟨"market", "user", NSDictionary.empty⟩ : CacheRequest).key =
        (⟨"mark", "etuser", NSDictionary.empty⟩ : CacheRequest).key ∧
      ¬ (⟨"market", "user", NSDictionary.empty⟩ : CacheRequest).Same
        ⟨"mark", "etuser", NSDictionary.empty⟩ :=
  ⟨by decide, fun h => absurd h.1 (by decide)⟩

end RCSdk
