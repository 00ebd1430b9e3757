namespace ChainRisk

variable {α : Type}

def batches (size : Nat) (positive : 0 < size) : List α → List (List α)
  | [] => []
  | a :: l => (a :: l).take size :: batches size positive ((a :: l).drop size)
termination_by l => l.length
decreasing_by simp only [List.length_drop, List.length_cons]; omega

theorem flatten_batches (size : Nat) (positive : 0 < size) (l : List α) :
    (batches size positive l).flatten = l := by
  fun_induction batches size positive l with
  | case1 => rfl
  | case2 a l ih => rw [List.flatten_cons, ih, List.take_append_drop]

end ChainRisk
