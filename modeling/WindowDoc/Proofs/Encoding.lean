import Mathlib.Data.List.Basic
import WindowDoc.Parse

namespace WindowDoc.Utf8

-- Which bytes make up a text, told by the bytes alone.

def Within (range : Nat × Nat) (b : UInt8) : Prop := range.1 ≤ b.toNat ∧ b.toNat ≤ range.2

theorem Within.mono {range range' : Nat × Nat} {b : UInt8} (h : Within range b)
    (hwider : range'.1 ≤ range.1 ∧ range.2 ≤ range'.2) : Within range' b :=
  ⟨Nat.le_trans hwider.1 h.1, Nat.le_trans h.2 hwider.2⟩

-- The bytes that a character goes on with.
def tail : Nat × Nat := (0x80, 0xbf)

-- How a character of several bytes may begin, and how many bytes there are behind the second.
structure Row where
  first : Nat × Nat
  second : Nat × Nat
  more : Nat
deriving DecidableEq

-- What is not here would be longer than need be, above the last character, or in the gap that
-- surrogates leave.
def rows : List Row :=
  [⟨(0xc2, 0xdf), tail, 0⟩,
    ⟨(0xe0, 0xe0), (0xa0, 0xbf), 1⟩, ⟨(0xe1, 0xec), tail, 1⟩, ⟨(0xed, 0xed), (0x80, 0x9f), 1⟩,
    ⟨(0xee, 0xef), tail, 1⟩,
    ⟨(0xf0, 0xf0), (0x90, 0xbf), 2⟩, ⟨(0xf1, 0xf3), tail, 2⟩, ⟨(0xf4, 0xf4), (0x80, 0x8f), 2⟩]

inductive Character : List UInt8 → Prop where
  | ascii {a} : Within (0, 0x7f) a → Character [a]
  | wide {row a b tails} : row ∈ rows → Within row.first a → Within row.second b →
      tails.length = row.more → (∀ t ∈ tails, Within tail t) → Character (a :: b :: tails)

inductive WellFormed : List UInt8 → Prop where
  | nil : WellFormed []
  | cons {bytes rest} : Character bytes → WellFormed rest → WellFormed (bytes ++ rest)

-- A byte is within a range if the number is that it is made of.
theorem within_ofNat {low high n : Nat} (hlow : low ≤ n) (hhigh : n ≤ high) (h : n < 256) :
    Within (low, high) (UInt8.ofNat n) := by
  have hn : (UInt8.ofNat n).toNat = n := by
    rw [UInt8.toNat_ofNat']
    exact Nat.mod_eq_of_lt h
  rw [Within, hn]
  exact ⟨hlow, hhigh⟩

theorem within_tail (n : Nat) : Within tail (UInt8.ofNat (n % 0x40 + 0x80)) :=
  within_ofNat (by omega) (by omega) (by omega)

theorem character_encode (c : Char) : Character (String.utf8EncodeChar c) := by
  have hvalid : c.val.toNat < 0xd800 ∨ 0xdfff < c.val.toNat ∧ c.val.toNat < 0x110000 := c.valid
  unfold String.utf8EncodeChar
  generalize c.val.toNat = v at hvalid
  simp only []
  split
  · exact .ascii (within_ofNat (by omega) (by omega) (by omega))
  split
  · have hrow : (⟨(0xc2, 0xdf), tail, 0⟩ : Row) ∈ rows := by decide
    exact .wide hrow (within_ofNat (by omega) (by omega) (by omega)) (within_tail v) rfl (by simp)
  split
  · have htails : ∀ t ∈ [UInt8.ofNat (v % 0x40 + 0x80)], Within tail t :=
      List.forall_mem_singleton.mpr (within_tail v)
    by_cases hfirst : v < 0x1000
    · have hrow : (⟨(0xe0, 0xe0), (0xa0, 0xbf), 1⟩ : Row) ∈ rows := by decide
      exact .wide hrow (within_ofNat (by omega) (by omega) (by omega))
        (within_ofNat (by omega) (by omega) (by omega)) rfl htails
    by_cases hlow : v < 0xd000
    · have hrow : (⟨(0xe1, 0xec), tail, 1⟩ : Row) ∈ rows := by decide
      exact .wide hrow (within_ofNat (by omega) (by omega) (by omega)) (within_tail _) rfl htails
    by_cases hgap : v < 0xe000
    · have hrow : (⟨(0xed, 0xed), (0x80, 0x9f), 1⟩ : Row) ∈ rows := by decide
      exact .wide hrow (within_ofNat (by omega) (by omega) (by omega))
        (within_ofNat (by omega) (by omega) (by omega)) rfl htails
    · have hrow : (⟨(0xee, 0xef), tail, 1⟩ : Row) ∈ rows := by decide
      exact .wide hrow (within_ofNat (by omega) (by omega) (by omega)) (within_tail _) rfl htails
  · have htails : ∀ t ∈ [UInt8.ofNat (v / 64 % 0x40 + 0x80), UInt8.ofNat (v % 0x40 + 0x80)],
        Within tail t :=
      List.forall_mem_cons.mpr
        ⟨within_tail (v / 64), List.forall_mem_singleton.mpr (within_tail v)⟩
    by_cases hfirst : v < 0x40000
    · have hrow : (⟨(0xf0, 0xf0), (0x90, 0xbf), 2⟩ : Row) ∈ rows := by decide
      exact .wide hrow (within_ofNat (by omega) (by omega) (by omega))
        (within_ofNat (by omega) (by omega) (by omega)) rfl htails
    by_cases hlow : v < 0x100000
    · have hrow : (⟨(0xf1, 0xf3), tail, 2⟩ : Row) ∈ rows := by decide
      exact .wide hrow (within_ofNat (by omega) (by omega) (by omega)) (within_tail _) rfl htails
    · have hrow : (⟨(0xf4, 0xf4), (0x80, 0x8f), 2⟩ : Row) ∈ rows := by decide
      exact .wide hrow (within_ofNat (by omega) (by omega) (by omega))
        (within_ofNat (by omega) (by omega) (by omega)) rfl htails

-- The other way round, a character is found by its number.

theorem exists_char {v : Nat} (h : v < 0xd800 ∨ 0xdfff < v ∧ v < 0x110000) :
    ∃ c : Char, c.val.toNat = v := ⟨Char.ofNatAux v h, rfl⟩

theorem ofNat_eq {n : Nat} {b : UInt8} (h : n = b.toNat) : UInt8.ofNat n = b := by
  rw [h, UInt8.ofNat_toNat]

theorem exists_encode_two {a b : UInt8} (ha : Within (0xc2, 0xdf) a) (hb : Within tail b) :
    ∃ c, [a, b] = String.utf8EncodeChar c := by
  simp only [Within, tail] at ha hb
  obtain ⟨c, hc⟩ := @exists_char ((a.toNat - 0xc0) * 64 + (b.toNat - 0x80)) (by omega)
  refine ⟨c, ?_⟩
  rw [String.utf8EncodeChar]
  simp only [hc]
  rw [if_neg (by omega), if_pos (by omega), @ofNat_eq _ a (by omega), @ofNat_eq _ b (by omega)]

theorem exists_encode_three {a b t : UInt8} (ha : Within (0xe0, 0xef) a) (hb : Within tail b)
    (ht : Within tail t) (hleast : 0xe0 < a.toNat ∨ 0xa0 ≤ b.toNat)
    (hgap : a.toNat ≠ 0xed ∨ b.toNat ≤ 0x9f) : ∃ c, [a, b, t] = String.utf8EncodeChar c := by
  simp only [Within, tail] at ha hb ht
  obtain ⟨c, hc⟩ :=
    @exists_char ((a.toNat - 0xe0) * 4096 + (b.toNat - 0x80) * 64 + (t.toNat - 0x80)) (by omega)
  refine ⟨c, ?_⟩
  rw [String.utf8EncodeChar]
  simp only [hc]
  rw [if_neg (by omega), if_neg (by omega), if_pos (by omega), @ofNat_eq _ a (by omega),
    @ofNat_eq _ b (by omega), @ofNat_eq _ t (by omega)]

theorem exists_encode_four {a b s t : UInt8} (ha : Within (0xf0, 0xf4) a) (hb : Within tail b)
    (hs : Within tail s) (ht : Within tail t) (hleast : 0xf0 < a.toNat ∨ 0x90 ≤ b.toNat)
    (hmost : a.toNat < 0xf4 ∨ b.toNat ≤ 0x8f) : ∃ c, [a, b, s, t] = String.utf8EncodeChar c := by
  simp only [Within, tail] at ha hb hs ht
  obtain ⟨c, hc⟩ := @exists_char ((a.toNat - 0xf0) * 262144 + (b.toNat - 0x80) * 4096
    + (s.toNat - 0x80) * 64 + (t.toNat - 0x80)) (by omega)
  refine ⟨c, ?_⟩
  rw [String.utf8EncodeChar]
  simp only [hc]
  rw [if_neg (by omega), if_neg (by omega), if_neg (by omega), @ofNat_eq _ a (by omega),
    @ofNat_eq _ b (by omega), @ofNat_eq _ s (by omega), @ofNat_eq _ t (by omega)]

-- What the rows rule out, by the number of bytes.
theorem rows_bounds : ∀ row ∈ rows,
    row.more = 0 ∧ row.first = (0xc2, 0xdf) ∧ row.second = tail ∨
    row.more = 1 ∧ (0xe0 ≤ row.first.1 ∧ row.first.2 ≤ 0xef) ∧
      (0x80 ≤ row.second.1 ∧ row.second.2 ≤ 0xbf) ∧
      (0xe0 < row.first.1 ∨ 0xa0 ≤ row.second.1) ∧
      (row.first.2 < 0xed ∨ 0xed < row.first.1 ∨ row.second.2 ≤ 0x9f) ∨
    row.more = 2 ∧ (0xf0 ≤ row.first.1 ∧ row.first.2 ≤ 0xf4) ∧
      (0x80 ≤ row.second.1 ∧ row.second.2 ≤ 0xbf) ∧
      (0xf0 < row.first.1 ∨ 0x90 ≤ row.second.1) ∧
      (row.first.2 < 0xf4 ∨ row.second.2 ≤ 0x8f) := by
  decide

-- The bytes of a character are those that it is encoded with.
theorem Character.exists_encode {bytes : List UInt8} (h : Character bytes) :
    ∃ c, bytes = String.utf8EncodeChar c := by
  cases h with
  | @ascii a ha =>
      simp only [Within] at ha
      obtain ⟨c, hc⟩ := @exists_char a.toNat (by omega)
      refine ⟨c, ?_⟩
      rw [String.utf8EncodeChar]
      simp only [hc]
      rw [if_pos (by omega), ofNat_eq rfl]
  | @wide row a b tails hrow ha hb hlength htails =>
      obtain ⟨hmore, hfirst, hsecond⟩ | ⟨hmore, hfirst, hsecond, hleast, hgap⟩ |
        ⟨hmore, hfirst, hsecond, hleast, hmost⟩ := rows_bounds row hrow
      · rw [hmore] at hlength
        obtain rfl := List.length_eq_zero_iff.mp hlength
        rw [hfirst] at ha
        rw [hsecond] at hb
        exact exists_encode_two ha hb
      · rw [hmore] at hlength
        obtain ⟨t, rfl⟩ := List.length_eq_one_iff.mp hlength
        have ht := htails t (by simp)
        have hb' : Within tail b := hb.mono hsecond
        have ha' : Within (0xe0, 0xef) a := ha.mono hfirst
        simp only [Within] at ha hb
        apply exists_encode_three ha' hb' ht
        · omega
        · omega
      · rw [hmore] at hlength
        obtain ⟨s, t, rfl⟩ := List.length_eq_two.mp hlength
        have hs := htails s (by simp)
        have ht := htails t (by simp)
        have hb' : Within tail b := hb.mono hsecond
        have ha' : Within (0xf0, 0xf4) a := ha.mono hfirst
        simp only [Within] at ha hb
        apply exists_encode_four ha' hb' hs ht
        · omega
        · omega

theorem wellFormed_iff_exists_chars {bytes : List UInt8} :
    WellFormed bytes ↔ ∃ cs : List Char, bytes = cs.flatMap String.utf8EncodeChar := by
  constructor
  · intro h
    induction h with
    | nil => exact ⟨[], rfl⟩
    | cons hbytes _ ih =>
        obtain ⟨c, rfl⟩ := hbytes.exists_encode
        obtain ⟨cs, rfl⟩ := ih
        exact ⟨c :: cs, rfl⟩
  · rintro ⟨cs, rfl⟩
    induction cs with
    | nil => exact .nil
    | cons c cs ih => exact .cons (character_encode c) ih

-- The well-formed bytes are those that there is a text for.
theorem isValidUTF8_iff {bytes : ByteArray} : bytes.IsValidUTF8 ↔ WellFormed bytes.data.toList := by
  rw [wellFormed_iff_exists_chars]
  constructor
  · rintro ⟨cs, rfl⟩
    exact ⟨cs, List.toList_data_toByteArray⟩
  · rintro ⟨cs, hcs⟩
    refine ⟨cs, ?_⟩
    rw [List.utf8Encode, ← hcs]
    apply ByteArray.ext
    rw [List.data_toByteArray, Array.toArray_toList]

theorem exists_source_iff {bytes : ByteArray} :
    WellFormed bytes.data.toList ↔ ∃ source : String, bytes = source.toUTF8 := by
  rw [← isValidUTF8_iff]
  constructor
  · intro h
    exact ⟨String.fromUTF8 bytes h, rfl⟩
  · rintro ⟨source, rfl⟩
    exact source.isValidUTF8

theorem fromUTF8?_toUTF8 (source : String) : String.fromUTF8? source.toUTF8 = some source :=
  dif_pos source.isValidUTF8

theorem fromUTF8?_of_not_wellFormed {bytes : ByteArray} (h : ¬ WellFormed bytes.data.toList) :
    String.fromUTF8? bytes = none :=
  dif_neg (mt isValidUTF8_iff.mp h)

end WindowDoc.Utf8
