/-!
# Lists that grow at their end

A `Trail` holds a list newest element first, together with its length, so that a few elements
more cost no more than those few elements, however long the list has become.

`Trail.toList` is the list in its order.  Every operation says what it does to that view, and
a trail is determined by it (`ext_toList`).
-/

namespace Outflow

/-- A list that grows at its end. -/
structure Trail (α : Type) where
  newestFirst : List α
  size : Nat
  size_eq : size = newestFirst.length
  deriving DecidableEq, Repr

namespace Trail

variable {α : Type}

/-- The elements in order. -/
def toList (t : Trail α) : List α := t.newestFirst.reverse

/-- No elements. -/
def empty : Trail α := ⟨[], 0, rfl⟩

/-- Some elements. -/
def ofList (xs : List α) : Trail α := ⟨xs.reverse, xs.length, by simp⟩

/-- Some elements more. -/
def append (t : Trail α) (xs : List α) : Trail α :=
  ⟨xs.reverseAux t.newestFirst, t.size + xs.length,
    by simp [List.reverseAux_eq, t.size_eq, Nat.add_comm]⟩

/-- What is left without the first `n` elements. -/
def dropFirst (t : Trail α) (n : Nat) : Trail α :=
  ⟨t.newestFirst.take (t.size - n), t.size - n, by simp [t.size_eq]⟩

@[simp] theorem toList_empty : (empty : Trail α).toList = [] := rfl

@[simp] theorem toList_ofList (xs : List α) : (ofList xs).toList = xs := by
  simp [ofList, toList]

@[simp] theorem toList_append (t : Trail α) (xs : List α) :
    (t.append xs).toList = t.toList ++ xs := by
  simp [append, toList, List.reverseAux_eq]

@[simp] theorem length_toList (t : Trail α) : t.toList.length = t.size := by
  simp [toList, t.size_eq]

@[simp] theorem size_append (t : Trail α) (xs : List α) :
    (t.append xs).size = t.size + xs.length := rfl

@[simp] theorem toList_dropFirst (t : Trail α) (n : Nat) :
    (t.dropFirst n).toList = t.toList.drop n := by
  simp only [dropFirst, toList, t.size_eq, List.drop_reverse]

@[simp] theorem size_dropFirst (t : Trail α) (n : Nat) : (t.dropFirst n).size = t.size - n := rfl

/-- A trail is determined by its elements. -/
theorem ext_toList {t u : Trail α} (h : t.toList = u.toList) : t = u := by
  obtain ⟨xs, n, hn⟩ := t
  obtain ⟨ys, m, hm⟩ := u
  have hxy : xs = ys := List.reverse_inj.1 h
  subst hxy
  subst hn
  subst hm
  rfl

@[simp] theorem append_nil (t : Trail α) : t.append [] = t := ext_toList (by simp)

theorem append_append (t : Trail α) (xs ys : List α) :
    (t.append xs).append ys = t.append (xs ++ ys) := ext_toList (by simp)

end Trail

end Outflow
