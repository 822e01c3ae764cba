/-!
# Totals

The sum of a measure over a list, which is how bytes, room and work left are counted.
-/

namespace LogPipeline

variable {α : Type}

/-- The sum of a measure over a list. -/
def total (f : α → Nat) : List α → Nat
  | [] => 0
  | a :: l => f a + total f l

@[simp] theorem total_nil (f : α → Nat) : total f [] = 0 := rfl

@[simp] theorem total_cons (f : α → Nat) (a : α) (l : List α) :
    total f (a :: l) = f a + total f l := rfl

@[simp] theorem total_map {β : Type} (f : β → Nat) (g : α → β) (l : List α) :
    total f (l.map g) = total (fun a => f (g a)) l := by
  induction l with
  | nil => rfl
  | cons a l ih => simp [ih]

@[simp] theorem total_append (f : α → Nat) (k l : List α) :
    total f (k ++ l) = total f k + total f l := by
  induction k with
  | nil => simp
  | cons a k ih => simp [ih, Nat.add_assoc]

end LogPipeline
