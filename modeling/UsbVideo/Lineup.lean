/-!
# Lines of things that come and go

Transfers line up at a device and mostly leave in the order they came, but any of them may leave. A
`Lineup` is such a line: joining it takes the same time however long it is, and so does leaving it at
the front.

    front │ back, the latest first

`Lineup.toList` is the line in order; every operation is described by what it does to that list.
-/

namespace UsbVideo

/-- A line, in two parts. -/
structure Lineup (α : Type) where
  front : List α := []
  /-- Those who joined behind `front`, the latest first. -/
  back : List α := []
  deriving DecidableEq

namespace Lineup

variable {α : Type}

/-- The line, who came first at the head. -/
def toList (l : Lineup α) : List α := l.front ++ l.back.reverse

def length (l : Lineup α) : Nat := l.front.length + l.back.length

def isEmpty (l : Lineup α) : Bool := l.front.isEmpty && l.back.isEmpty

/-- Join at the end. -/
def push (l : Lineup α) (a : α) : Lineup α := { l with back := a :: l.back }

/-- The first of a kind. -/
def find? (p : α → Bool) (l : Lineup α) : Option α :=
  (l.front.find? p).or (l.back.reverse.find? p)

/-- The first of a kind leaves. -/
def eraseP (p : α → Bool) (l : Lineup α) : Lineup α :=
  if l.front.any p then { l with front := l.front.eraseP p }
  else { front := l.front ++ l.back.reverse.eraseP p }

/-- The one at a place leaves. -/
def eraseIdx (l : Lineup α) (n : Nat) : Lineup α := { front := l.toList.eraseIdx n }

/-! ### What the operations do to the list -/

@[simp] theorem toList_empty : ({} : Lineup α).toList = [] := rfl

@[simp] theorem length_toList (l : Lineup α) : l.toList.length = l.length := by
  simp [toList, length]

@[simp] theorem isEmpty_toList (l : Lineup α) : l.toList.isEmpty = l.isEmpty := by
  rw [Bool.eq_iff_iff]
  simp [toList, isEmpty]

@[simp] theorem toList_push (l : Lineup α) (a : α) : (l.push a).toList = l.toList ++ [a] := by
  simp [toList, push]

@[simp] theorem find?_toList (p : α → Bool) (l : Lineup α) : l.toList.find? p = l.find? p := by
  rw [toList, find?, List.find?_append]

@[simp] theorem toList_eraseP (p : α → Bool) (l : Lineup α) :
    (l.eraseP p).toList = l.toList.eraseP p := by
  unfold eraseP
  by_cases h : l.front.any p = true
  · obtain ⟨a, hmem, hp⟩ := List.any_eq_true.mp h
    simp only [h, if_true, toList]
    exact (List.eraseP_append_left hp l.back.reverse hmem).symm
  · have hnone : ∀ b ∈ l.front, ¬ p b = true := fun b hb hp =>
      h (List.any_eq_true.mpr ⟨b, hb, hp⟩)
    simp only [h, toList]
    rw [List.eraseP_append_right _ hnone]
    simp

@[simp] theorem toList_eraseIdx (l : Lineup α) (n : Nat) :
    (l.eraseIdx n).toList = l.toList.eraseIdx n := by
  simp [toList, eraseIdx]

end Lineup

end UsbVideo
