namespace WindowDoc.Numeral

-- The digits of a number in a base above one, most significant first and without leading
-- zeros. Digits past nine are the letters from `a`.
def digits (base n : Nat) : List Char :=
  if _ : 1 < base ∧ base ≤ n then
    digits base (n / base) ++ [Nat.digitChar (n % base)]
  else
    [Nat.digitChar n]
termination_by n
decreasing_by exact Nat.div_lt_self (by omega) (by omega)

-- A whole number in base ten, with a sign only when it is negative.
def ofInt (n : Int) : List Char :=
  if n < 0 then '-' :: digits 10 n.natAbs else digits 10 n.natAbs

def text (n : Nat) : String :=
  String.ofList (digits 10 n)

def signed (n : Int32) : String :=
  String.ofList (ofInt n.toInt)

-- The number that a run of decimal digits stands for, whatever its leading zeros.
def value (ds : List Char) : Nat :=
  ds.foldl (fun n d => 10 * n + (d.toNat - '0'.toNat)) 0

theorem value_append_singleton (ds : List Char) (d : Char) :
    value (ds ++ [d]) = 10 * value ds + (d.toNat - '0'.toNat) := by
  simp [value]

private theorem toNat_digitChar {d : Nat} (h : d < 10) :
    (Nat.digitChar d).toNat - '0'.toNat = d := by
  revert d
  decide

private theorem isDigit_digitChar {d : Nat} (h : d < 10) : (Nat.digitChar d).isDigit = true := by
  revert d
  decide

-- Digits read back as the number they were written for.
theorem value_digits (n : Nat) : value (digits 10 n) = n := by
  induction n using Nat.strongRecOn with
  | ind n ih =>
      rw [digits]
      split
      · have hlt : n / 10 < n := Nat.div_lt_self (by omega) (by omega)
        have hdigit := toNat_digitChar (Nat.mod_lt n (by omega : 10 > 0))
        rw [value_append_singleton, ih (n / 10) hlt, hdigit]
        omega
      · simpa [value] using toNat_digitChar (d := n) (by omega)

theorem isDigit_of_mem_digits {n : Nat} {d : Char} (h : d ∈ digits 10 n) : d.isDigit = true := by
  induction n using Nat.strongRecOn with
  | ind n ih =>
      rw [digits] at h
      split at h
      · cases List.mem_append.mp h with
        | inl hmem => exact ih (n / 10) (Nat.div_lt_self (by omega) (by omega)) hmem
        | inr hmem =>
            rw [List.mem_singleton.mp hmem]
            exact isDigit_digitChar (Nat.mod_lt n (by omega))
      · rw [List.mem_singleton.mp h]
        exact isDigit_digitChar (by omega)

theorem digits_ne_nil (base n : Nat) : digits base n ≠ [] := by
  rw [digits]
  split <;> simp

end WindowDoc.Numeral
