namespace WindowDoc.Text

-- Whether a code point lies in one of the ranges. The ranges ascend, so the first one that
-- does not end before the code point decides.
def covers : List (Nat × Nat) → Nat → Bool
  | [], _ => false
  | (low, high) :: rest, n => if n ≤ high then decide (low ≤ n) else covers rest n

-- Ranges from `bound` on, each of them after the one before it.
def ascending (bound : Nat) : List (Nat × Nat) → Bool
  | [] => true
  | (low, high) :: rest => decide (bound ≤ low ∧ low ≤ high) && ascending (high + 1) rest

private theorem bound_le_of_mem {bound : Nat} {ranges : List (Nat × Nat)} {r : Nat × Nat}
    (h : ascending bound ranges = true) (hr : r ∈ ranges) : bound ≤ r.1 := by
  induction ranges generalizing bound with
  | nil => cases hr
  | cons head rest ih =>
      simp only [ascending, Bool.and_eq_true, decide_eq_true_eq] at h
      cases List.mem_cons.mp hr with
      | inl heq =>
          rw [heq]
          exact h.1.1
      | inr hmem =>
          have hrest := ih h.2 hmem
          omega

-- Over ascending ranges nothing is missed by stopping early.
theorem covers_iff {bound n : Nat} {ranges : List (Nat × Nat)}
    (h : ascending bound ranges = true) :
    covers ranges n = true ↔ ∃ r ∈ ranges, r.1 ≤ n ∧ n ≤ r.2 := by
  induction ranges generalizing bound with
  | nil => simp [covers]
  | cons head rest ih =>
      simp only [ascending, Bool.and_eq_true, decide_eq_true_eq] at h
      simp only [covers]
      split
      · rename_i hhigh
        constructor
        · intro hlow
          exact ⟨head, List.mem_cons_self, of_decide_eq_true hlow, hhigh⟩
        · intro ⟨r, hr, hlow, _⟩
          apply decide_eq_true
          cases List.mem_cons.mp hr with
          | inl heq =>
              rw [heq] at hlow
              exact hlow
          | inr hmem =>
              have hbound := bound_le_of_mem h.2 hmem
              omega
      · rename_i hhigh
        rw [ih h.2]
        constructor
        · intro ⟨r, hr, hin⟩
          exact ⟨r, List.mem_cons_of_mem _ hr, hin⟩
        · intro ⟨r, hr, hin⟩
          cases List.mem_cons.mp hr with
          | inl heq =>
              rw [heq] at hin
              exact absurd hin.2 hhigh
          | inr hmem => exact ⟨r, hmem, hin⟩

theorem covers_eq_false {bound n : Nat} {ranges : List (Nat × Nat)}
    (h : ascending bound ranges = true) (hout : ∀ r ∈ ranges, n < r.1 ∨ r.2 < n) :
    covers ranges n = false := by
  rw [Bool.eq_false_iff]
  intro hn
  rw [covers_iff h] at hn
  obtain ⟨r, hr, hlow, hhigh⟩ := hn
  have houtside := hout r hr
  omega

-- Ranges that lie apart have nothing in common.
theorem covers_apart {bound bound' n : Nat} {ranges others : List (Nat × Nat)}
    (h : ascending bound ranges = true) (h' : ascending bound' others = true)
    (hapart : ∀ r ∈ ranges, ∀ other ∈ others, r.2 < other.1 ∨ other.2 < r.1)
    (hn : covers ranges n = true) : covers others n = false := by
  rw [covers_iff h] at hn
  obtain ⟨r, hr, hlow, hhigh⟩ := hn
  rw [Bool.eq_false_iff]
  intro hother
  rw [covers_iff h'] at hother
  obtain ⟨other, hmem, hlow', hhigh'⟩ := hother
  have hranges := hapart r hr other hmem
  omega

end WindowDoc.Text
