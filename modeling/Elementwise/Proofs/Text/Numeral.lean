import Elementwise.Text.Numeral
import Elementwise.Text.Search

/-!
Texts that are taken apart, and the numerals in them read back.  A text whose first part is free of
the separator splits into that part and the parts of what follows the separator.  The digits of a
number are digits, zeros before them change nothing, and so many digits as a width says are written
for every number below that power of ten.
-/

namespace Elementwise.Text

variable {sep c : Char} {n width : Nat} {front ds rest : List Char}

/-! ### Separators -/

theorem splitOn_ne_nil (sep : Char) (cs : List Char) : splitOn sep cs ≠ [] := by
  cases cs with
  | nil => exact List.cons_ne_nil _ _
  | cons c cs =>
      rw [splitOn]
      split
      · exact List.cons_ne_nil _ _
      · split <;> exact List.cons_ne_nil _ _

theorem splitOn_cons_sep (sep : Char) (cs : List Char) :
    splitOn sep (sep :: cs) = [] :: splitOn sep cs := by
  rw [splitOn]
  split
  · rename_i h
    exact absurd h (splitOn_ne_nil _ _)
  · rename_i h
    rw [if_pos rfl, h]

theorem splitOn_of_notMem (h : sep ∉ front) : splitOn sep front = [front] := by
  induction front with
  | nil => rfl
  | cons c cs ih =>
      have hc := List.ne_of_not_mem_cons h
      have hcs := List.not_mem_of_not_mem_cons h
      simp only [splitOn, ih hcs, if_neg hc.symm]

theorem splitOn_append_cons (h : sep ∉ front) :
    splitOn sep (front ++ sep :: rest) = front :: splitOn sep rest := by
  induction front with
  | nil => exact splitOn_cons_sep _ _
  | cons c cs ih =>
      have hc := List.ne_of_not_mem_cons h
      have hcs := List.not_mem_of_not_mem_cons h
      simp only [List.cons_append, splitOn, ih hcs, if_neg hc.symm]

theorem splitOnce?_of_notMem (h : sep ∉ front) : splitOnce? sep front = none := by
  induction front with
  | nil => rfl
  | cons c cs ih =>
      have hc := List.ne_of_not_mem_cons h
      have hcs := List.not_mem_of_not_mem_cons h
      rw [splitOnce?, if_neg hc.symm, ih hcs]
      rfl

theorem splitOnce?_append_cons (h : sep ∉ front) :
    splitOnce? sep (front ++ sep :: rest) = some (front, rest) := by
  induction front with
  | nil => exact if_pos rfl
  | cons c cs ih =>
      have hc := List.ne_of_not_mem_cons h
      have hcs := List.not_mem_of_not_mem_cons h
      rw [List.cons_append, splitOnce?, if_neg hc.symm, ih hcs]
      rfl

theorem splitOnce?_eq_none_iff : splitOnce? sep front = none ↔ sep ∉ front := by
  refine ⟨fun h => ?_, splitOnce?_of_notMem⟩
  induction front with
  | nil => exact List.not_mem_nil
  | cons c cs ih =>
      rw [splitOnce?] at h
      split at h
      · cases h
      · rename_i hc
        exact List.not_mem_cons_of_ne_of_not_mem (Ne.symm hc) (ih (Option.map_eq_none_iff.1 h))

theorem splitOnce?_eq_some {cs : List Char} (h : splitOnce? sep cs = some (front, rest)) :
    cs = front ++ sep :: rest ∧ sep ∉ front := by
  induction cs generalizing front with
  | nil => cases h
  | cons c cs ih =>
      rw [splitOnce?] at h
      split at h
      · rename_i hc
        cases h
        exact ⟨hc ▸ rfl, List.not_mem_nil⟩
      · rename_i hc
        obtain ⟨⟨front', rest'⟩, h', heq⟩ := Option.map_eq_some_iff.1 h
        cases heq
        obtain ⟨rfl, hfront⟩ := ih h'
        exact ⟨rfl, List.not_mem_cons_of_ne_of_not_mem (Ne.symm hc) hfront⟩

/-- The first part of a text ends at its first separator, if there is one. -/
theorem splitOn_eq_cons {cs : List Char} {parts : List (List Char)}
    (h : splitOn sep cs = front :: parts) : sep ∉ front ∧
      (parts = [] ∧ cs = front ∨ ∃ rest, cs = front ++ sep :: rest ∧ splitOn sep rest = parts) := by
  cases hsplit : splitOnce? sep cs with
  | none =>
      have hcs := splitOnce?_eq_none_iff.1 hsplit
      rw [splitOn_of_notMem hcs] at h
      cases h
      exact ⟨hcs, Or.inl ⟨rfl, rfl⟩⟩
  | some split =>
      obtain ⟨first, others⟩ := split
      obtain ⟨rfl, hfirst⟩ := splitOnce?_eq_some hsplit
      rw [splitOn_append_cons hfirst] at h
      cases h
      exact ⟨hfirst, Or.inr ⟨others, rfl, rfl⟩⟩

/-! ### Digits -/

theorem isAsciiDigit_iff_isDigit : isAsciiDigit c = true ↔ c.isDigit = true := by
  simp [isAsciiDigit, Char.isDigit, Char.le_def]

theorem isAsciiDigit_of_mem_digits (h : c ∈ digits n) : isAsciiDigit c = true :=
  isAsciiDigit_iff_isDigit.2 (Nat.isDigit_of_mem_toDigits (by decide) (by decide) h)

theorem digits_ne_nil (n : Nat) : digits n ≠ [] :=
  Nat.toDigits_ne_nil

theorem all_digits (n : Nat) : (digits n).all isAsciiDigit = true :=
  List.all_eq_true.2 fun _ h => isAsciiDigit_of_mem_digits h

theorem toNat_of_isAsciiDigit (h : isAsciiDigit c = true) : 48 ≤ c.toNat ∧ c.toNat ≤ 57 := by
  simpa [isAsciiDigit, Char.le_def, UInt32.le_iff_toNat_le] using h

theorem ofDigitChars_lt (h : ds.all isAsciiDigit = true) (start : Nat) :
    Nat.ofDigitChars 10 ds start < (start + 1) * Nat.pow 10 ds.length := by
  induction ds generalizing start with
  | nil =>
      show start < (start + 1) * 1
      omega
  | cons c ds ih =>
      rw [List.all_cons, Bool.and_eq_true] at h
      have hc : c.toNat - 48 < 10 := by
        have := toNat_of_isAsciiDigit h.1
        omega
      calc Nat.ofDigitChars 10 ds (10 * start + (c.toNat - 48))
          < (10 * start + (c.toNat - 48) + 1) * Nat.pow 10 ds.length := ih h.2 _
        _ ≤ ((start + 1) * 10) * Nat.pow 10 ds.length := Nat.mul_le_mul_right _ (by omega)
        _ = (start + 1) * Nat.pow 10 (ds.length + 1) := by
            rw [Nat.mul_assoc, Nat.mul_comm 10]
            rfl

theorem ofDigits_lt (h : ds.all isAsciiDigit = true) : ofDigits ds < Nat.pow 10 ds.length :=
  Nat.lt_of_lt_of_eq (ofDigitChars_lt h 0) (Nat.one_mul _)

/-! ### Padding -/

theorem padded_ne_nil (width n : Nat) : padded width n ≠ [] := by
  rw [padded, Ne, List.append_eq_nil_iff]
  exact fun h => digits_ne_nil n h.2

theorem isAsciiDigit_of_mem_padded (h : c ∈ padded width n) : isAsciiDigit c = true := by
  rcases List.mem_append.1 h with h | h
  · rw [List.eq_of_mem_replicate h]
    rfl
  · exact isAsciiDigit_of_mem_digits h

theorem all_padded (width n : Nat) : (padded width n).all isAsciiDigit = true :=
  List.all_eq_true.2 fun _ h => isAsciiDigit_of_mem_padded h

theorem length_padded (hw : 0 < width) (hn : n < Nat.pow 10 width) :
    (padded width n).length = width := by
  have hlength : (digits n).length ≤ width := (Nat.length_toDigits_le_iff (by decide) hw).2 hn
  rw [padded, List.length_append, List.length_replicate]
  omega

theorem ofDigits_padded (width n : Nat) : ofDigits (padded width n) = n := by
  rw [ofDigits, padded, Nat.ofDigitChars_append, Nat.ofDigitChars_replicate_zero, Nat.mul_zero]
  exact ofDigits_digits n

/-! ### Reading numbers -/

theorem natural?_of_all (hne : ds ≠ []) (h : ds.all isAsciiDigit = true) :
    natural? ds = some (ofDigits ds) := by
  have hempty : ds.isEmpty = false := by
    cases ds with
    | nil => exact absurd rfl hne
    | cons d ds => rfl
  rw [natural?, hempty, h]
  rfl

/-- A string of digits is an integer without a sign. -/
theorem integer?_of_all (hne : ds ≠ []) (h : ds.all isAsciiDigit = true) :
    integer? ds = some (ofDigits ds : Int) := by
  unfold integer?
  split
  · simp [isAsciiDigit] at h
  · simp [isAsciiDigit] at h
  · rw [natural?_of_all hne h]
    rfl

theorem integer?_digits (n : Nat) : integer? (digits n) = some (n : Int) := by
  rw [integer?_of_all (digits_ne_nil n) (all_digits n), ofDigits_digits]

theorem integer?_padded (width n : Nat) : integer? (padded width n) = some (n : Int) := by
  rw [integer?_of_all (padded_ne_nil width n) (all_padded width n), ofDigits_padded]

end Elementwise.Text
