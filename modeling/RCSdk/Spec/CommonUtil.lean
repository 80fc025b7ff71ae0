import Mathlib.Algebra.Order.Ring.Int

/-!
# Two sorts (`CommonUtil.m`)

The C function `sort` and the method `quickSort:left:right:`, each with its loops. The fuel bounds
the depth of the recursion and the turns of a loop; running out of it is a fault of its own, beside
an index outside the array. The indices of `sort` are exact: those it computes lie between
`left - 1` and `right + 1`.
-/

namespace RCSdk

/-- Why a function does not return. -/
inductive Fault where
  | outOfBounds
  | outOfFuel
  deriving DecidableEq, Repr

namespace CommonUtil

/-! ## The C function -/

/-- An array of ints, with the indices read and written so far. -/
structure Memory where
  a : List ℤ
  accesses : List ℤ
  deriving DecidableEq, Repr

abbrev C := StateT Memory (Except Fault)

/-- `a[i]`. -/
def read (i : ℤ) : C ℤ := fun m =>
  if 0 ≤ i ∧ i < m.a.length then
    .ok (m.a.getD i.toNat 0, { m with accesses := i :: m.accesses })
  else .error .outOfBounds

/-- `a[i] = x`. -/
def write (i x : ℤ) : C Unit := fun m =>
  if 0 ≤ i ∧ i < m.a.length then
    .ok ((), { a := m.a.set i.toNat x, accesses := i :: m.accesses })
  else .error .outOfBounds

/-- `while (i < j && key <= a[j]) j--`. -/
def scanDown (key i : ℤ) : ℕ → ℤ → C ℤ
  | 0, _ => throw .outOfFuel
  | fuel + 1, j =>
    if i < j then do
      let x ← read j
      if key ≤ x then scanDown key i fuel (j - 1) else pure j
    else pure j

/-- `while (i < j && key >= a[i]) i++`. -/
def scanUp (key j : ℤ) : ℕ → ℤ → C ℤ
  | 0, _ => throw .outOfFuel
  | fuel + 1, i =>
    if i < j then do
      let x ← read i
      if key ≥ x then scanUp key j fuel (i + 1) else pure i
    else pure i

/-- `while (i < j)`, the outer loop of `sort`. -/
def partition (key : ℤ) : ℕ → ℤ → ℤ → C (ℤ × ℤ)
  | 0, _, _ => throw .outOfFuel
  | fuel + 1, i, j =>
    if i < j then do
      let j ← scanDown key i fuel j
      let x ← read j
      write i x
      let i ← scanUp key j fuel i
      let x ← read i
      write j x
      partition key fuel i j
    else pure (i, j)

/-- `sort`. -/
def sort : ℕ → ℤ → ℤ → C Unit
  | 0, _, _ => throw .outOfFuel
  | fuel + 1, left, right =>
    if left ≥ right then pure ()
    else do
      let key ← read left
      let (i, _) ← partition key fuel left right
      write i key
      sort fuel left (i - 1)
      sort fuel (i + 1) right

/-! ## The method -/

/-- An `NSNumber` of an integer. -/
abbrev NSNumber := ℤ

/-- `intValue`, of 32 bits. -/
def intValue (n : NSNumber) : ℤ := n.bmod (2 ^ 32)

/-- An `int` in an unsigned comparison of 64 bits. -/
def unsigned (n : ℤ) : ℤ := n % 2 ^ 64

abbrev ObjC := StateT (List NSNumber) (Except Fault)

/-- `array[i]`. -/
def objectAtIndex (i : ℤ) : ObjC NSNumber := fun array =>
  if 0 ≤ i ∧ i < array.length then .ok (array.getD i.toNat 0, array) else .error .outOfBounds

/-- `array[i] = x`. The index behind the last one appends. -/
def setObject (i : ℤ) (x : NSNumber) : ObjC Unit := fun array =>
  if 0 ≤ i ∧ i < array.length then .ok ((), array.set i.toNat x)
  else if i = array.length then .ok ((), array ++ [x])
  else .error .outOfBounds

/-- The first inner loop of `quickSort:left:right:`. -/
def findBackward (key i : NSNumber) : ℕ → NSNumber → ObjC NSNumber
  | 0, _ => throw .outOfFuel
  | fuel + 1, j =>
    if intValue i < intValue j then do
      let x ← objectAtIndex (intValue j)
      if intValue key ≤ intValue x then findBackward key i fuel (intValue j - 1) else pure j
    else pure j

/-- The second inner loop of `quickSort:left:right:`. -/
def findForward (key j : NSNumber) : ℕ → NSNumber → ObjC NSNumber
  | 0, _ => throw .outOfFuel
  | fuel + 1, i =>
    if intValue i < intValue j then do
      let x ← objectAtIndex (intValue i)
      if intValue key ≥ intValue x then findForward key j fuel (intValue i + 1) else pure i
    else pure i

/-- The outer loop of `quickSort:left:right:`. -/
def arrange (key : NSNumber) : ℕ → NSNumber → NSNumber → ObjC (NSNumber × NSNumber)
  | 0, _, _ => throw .outOfFuel
  | fuel + 1, i, j =>
    if intValue i < intValue j then do
      let j ← findBackward key i fuel j
      let x ← objectAtIndex (intValue j)
      setObject (intValue i) x
      let i ← findForward key j fuel i
      let x ← objectAtIndex (intValue i)
      setObject (intValue j) x
      arrange key fuel i j
    else pure (i, j)

/-- `quickSort:left:right:`. -/
def quickSort : ℕ → NSNumber → NSNumber → ObjC Unit
  | 0, _, _ => throw .outOfFuel
  | fuel + 1, left, right => do
    let array ← get
    -- the index is signed and the count is not
    if intValue left > 0 ∧ unsigned (intValue right) < unsigned (array.length - 1) ∧
        intValue left ≥ intValue right then pure ()
    else do
      let key ← objectAtIndex (intValue left)
      let (i, j) ← arrange key fuel left right
      setObject (intValue i) key
      quickSort fuel left (intValue j - 1)
      quickSort fuel (intValue i + 1) right

end CommonUtil

end RCSdk
