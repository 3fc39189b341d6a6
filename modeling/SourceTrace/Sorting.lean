/-!
# Stable sorting

Sorting by insertion from the right. Elements that compare as equal keep their order, and a list
that is already in order is left as it is after one pass.
-/
namespace SourceTrace.Sorting

/-- Inserts an element in front of the first one that it may precede. -/
def insert {α : Type} (le : α → α → Bool) (a : α) : List α → List α
  | [] => [a]
  | b :: rest => if le a b then a :: b :: rest else b :: insert le a rest

def sort {α : Type} (le : α → α → Bool) : List α → List α
  | [] => []
  | a :: rest => insert le a (sort le rest)

/-- The list without elements that equal the one in front of them. -/
def dedup {α : Type} [DecidableEq α] : List α → List α
  | [] => []
  | [a] => [a]
  | a :: b :: rest => if a = b then dedup (b :: rest) else a :: dedup (b :: rest)

def textLe (left right : String) : Bool := !decide (right < left)

theorem insert_perm {α : Type} (le : α → α → Bool) (a : α) (list : List α) :
    List.Perm (insert le a list) (a :: list) := by
  induction list with
  | nil => exact .refl _
  | cons b rest ih =>
    unfold insert
    split
    · exact .refl _
    · exact (ih.cons b).trans (.swap a b rest)

/-- Sorting only rearranges. -/
theorem sort_perm {α : Type} (le : α → α → Bool) (list : List α) :
    List.Perm (sort le list) list := by
  induction list with
  | nil => exact .refl _
  | cons a rest ih => exact (insert_perm le a (sort le rest)).trans (ih.cons a)

end SourceTrace.Sorting
