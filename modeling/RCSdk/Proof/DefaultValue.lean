import RCSdk.Spec.Response

/-!
# Defaults of unusable values

`RC_defaultValue:` is meant to keep a value that is there and not empty and to give the default
for any other (`usableOr`). It asks first whether the default is of the receiver's concrete class,
and a message to `nil` gives `nil`.

* `defaultValue_iff`: it does what it is meant to exactly for a receiver that is empty, or that
  has the default's class above it.
* `defaults_kept_iff`: the same, and of the text of a response.
-/

namespace RCSdk

open Foundation

/-- The value, or the default when there is none or it is empty. -/
def usableOr (x : Option NSObject) (d : NSObject) : NSObject :=
  (x.filter fun o => !o.RC_isEmptyObject).getD d

theorem usableOr_some (o d : NSObject) :
    usableOr (some o) d = if o.RC_isEmptyObject then d else o := by
  unfold usableOr
  cases h : o.RC_isEmptyObject <;> simp [Option.filter, h]

section Foundation

variable [Foundation]

/-- A receiver whose class is not above the default's is lost. -/
theorem RC_defaultValue_some (o d : NSObject) :
    RC_defaultValue (some o) d =
      some (if isKindOfClass d.cls o.cls then usableOr (some o) d else d) := by
  rw [usableOr_some]
  cases hk : isKindOfClass d.cls o.cls with
  | false => simp [RC_defaultValue, hk]
  | true =>
    simp only [RC_defaultValue, hk, Bool.not_true, Bool.false_eq_true, if_false, if_true]
    split_ifs <;> rfl

/-- **`RC_defaultValue:` keeps what is usable and replaces the rest exactly for a receiver that is
empty, has a class above the default's, or is the default.** -/
theorem defaultValue_iff (x : Option NSObject) (d : NSObject) :
    RC_defaultValue x d = some (usableOr x d) ↔
      ∃ o, x = some o ∧
        (o.RC_isEmptyObject = true ∨ isKindOfClass d.cls o.cls = true ∨ o = d) := by
  cases x with
  | none => simp [RC_defaultValue]
  | some o =>
    rw [RC_defaultValue_some, usableOr_some]
    simp only [Option.some.injEq, exists_eq_left']
    cases isKindOfClass d.cls o.cls with
    | true => simp
    | false =>
      cases o.RC_isEmptyObject with
      | true => simp
      | false => simp [eq_comm]

/-- The literal is empty, so no text that is not is the literal. -/
theorem ne_emptyLiteral {o : NSObject} (h : ¬ o.RC_isEmptyObject = true) : o ≠ emptyLiteral := by
  rintro rfl
  exact h rfl

/-- **Values and texts of responses are kept or replaced as meant**: for a receiver that is there,
when it is empty or the default is of its class. -/
theorem defaults_kept_iff :
    (∀ (x : Option NSObject) (d : NSObject), RC_defaultValue x d = some (usableOr x d) ↔
      ∃ o, x = some o ∧
        (o.RC_isEmptyObject = true ∨ isKindOfClass d.cls o.cls = true ∨ o = d)) ∧
      ∀ (responseString : Option NSObject) (requestId : ℤ) (request : NSURLRequest)
        (responseObject : Option Json) (error : Option NSError),
        (RCURLResponse.initWithResponseString responseString requestId request responseObject
            error).contentString = some (usableOr responseString emptyLiteral) ↔
          ∃ o, responseString = some o ∧
            (o.RC_isEmptyObject = true ∨ isKindOfClass literalClass o.cls = true) := by
  refine ⟨defaultValue_iff, fun responseString requestId request responseObject error => ?_⟩
  refine (defaultValue_iff responseString emptyLiteral).trans (exists_congr fun o => ?_)
  refine and_congr_right fun _ => ?_
  have hcls : emptyLiteral.cls = literalClass := rfl
  rw [hcls]
  by_cases he : o.RC_isEmptyObject = true
  · simp [he]
  · simp [he, ne_emptyLiteral he]

end Foundation

/-- A text of another class is replaced by the empty literal, and for no text there is none. -/
theorem defaults_lost :
    RC_defaultValue (some ⟨1, .string "abc"⟩) emptyLiteral = some emptyLiteral ∧
      usableOr (some ⟨1, .string "abc"⟩) emptyLiteral ≠ emptyLiteral ∧
      RC_defaultValue none emptyLiteral = none ∧
      (RCURLResponse.initWithResponseString none 1 ⟨RCService.plain none, none⟩ none
        none).contentString = none := by
  decide

end RCSdk
