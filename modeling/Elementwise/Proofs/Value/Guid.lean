import Elementwise.Guid

/-!
Identifiers read back from their text.  The text is the 32 hexadecimal digits of the number with
hyphens between their groups; taking the hyphens out gives the digits again, and the digits give the
number.
-/

namespace Elementwise

namespace Text

/-! ### Hexadecimal digits -/

theorem hexDigitValue_digitChar : ∀ d < 16, hexDigitValue (Nat.digitChar d) = d := by
  decide

theorem isAsciiHexDigit_digitChar : ∀ d < 16, isAsciiHexDigit (Nat.digitChar d) = true := by
  decide

theorem ofHexDigits_append_singleton (ds : List Char) (c : Char) :
    ofHexDigits (ds ++ [c]) = ofHexDigits ds * 16 + hexDigitValue c := by
  rw [ofHexDigits, List.foldl_append]
  rfl

/-- The digits of a number in base 16 are hexadecimal digits, and they denote the number. -/
theorem hexDigits_spec (n : Nat) : ofHexDigits (Nat.toDigits 16 n) = n ∧
    (Nat.toDigits 16 n).all isAsciiHexDigit = true := by
  induction n using Nat.strongRecOn with
  | _ n ih =>
    by_cases hlt : n < 16
    · rw [Nat.toDigits_of_lt_base hlt]
      refine ⟨?_, ?_⟩
      · rw [← List.nil_append [n.digitChar], ofHexDigits_append_singleton,
          hexDigitValue_digitChar n hlt]
        exact Nat.zero_add n
      · rw [List.all_cons, isAsciiHexDigit_digitChar n hlt]
        rfl
    · obtain ⟨hvalue, hall⟩ := ih (n / 16) (by omega)
      have hmod : n % 16 < 16 := Nat.mod_lt n (by decide)
      rw [Nat.toDigits_of_base_le (by decide) (Nat.le_of_not_lt hlt)]
      refine ⟨?_, ?_⟩
      · rw [ofHexDigits_append_singleton, hvalue, hexDigitValue_digitChar _ hmod]
        omega
      · rw [List.all_append, hall, List.all_cons, isAsciiHexDigit_digitChar _ hmod]
        rfl

theorem ofHexDigits_replicate_append (k : Nat) (ds : List Char) :
    ofHexDigits (List.replicate k '0' ++ ds) = ofHexDigits ds := by
  induction k with
  | zero => rfl
  | succ k ih => exact ih

end Text

namespace Guid

/-! ### Digits -/

variable {ds : List Char}

theorem length_hexDigits (g : Guid) : (hexDigits g.code.val).length = 32 := by
  have hlength : (Nat.toDigits 16 g.code.val).length ≤ 32 :=
    (Nat.length_toDigits_le_iff (by decide) (by decide)).2 g.code.isLt
  rw [hexDigits, List.length_append, List.length_replicate]
  omega

theorem all_hexDigits (n : Nat) : (hexDigits n).all Text.isAsciiHexDigit = true := by
  rw [hexDigits, List.all_append, (Text.hexDigits_spec n).2, Bool.and_true]
  exact List.all_eq_true.2 fun c hc => List.eq_of_mem_replicate hc ▸ rfl

theorem ofDigits?_hexDigits (g : Guid) : ofDigits? (hexDigits g.code.val) = some g := by
  have hvalue : Text.ofHexDigits (hexDigits g.code.val) = g.code.val :=
    (Text.ofHexDigits_replicate_append _ _).trans (Text.hexDigits_spec g.code.val).1
  simp only [ofDigits?, hvalue, length_hexDigits, all_hexDigits]
  rw [dif_pos g.code.isLt, if_pos ⟨trivial, trivial⟩]

/-! ### Groups -/

section Groups

variable {A B C D E : List Char} (hA : A.length = 8) (hB : B.length = 4) (hC : C.length = 4)
  (hD : D.length = 4) (hE : E.length = 12)
include hA hB hC hD hE

/-- Five groups with hyphens between them are read as the digits of the groups. -/
theorem ofGroups?_append :
    ofGroups? (A ++ '-' :: (B ++ '-' :: (C ++ '-' :: (D ++ '-' :: E)))) =
      ofDigits? (A ++ B ++ C ++ D ++ E) := by
  simp [ofGroups?, List.drop_append, List.drop_eq_nil_of_le, hA, hB, hC, hD, hE]

end Groups

/-- The text of an identifier is its digits in groups. -/
theorem exists_groups (g : Guid) : ∃ A B C D E : List Char, A.length = 8 ∧ B.length = 4 ∧
    C.length = 4 ∧ D.length = 4 ∧ E.length = 12 ∧ A ++ B ++ C ++ D ++ E = hexDigits g.code.val ∧
    g.text = A ++ '-' :: (B ++ '-' :: (C ++ '-' :: (D ++ '-' :: E))) := by
  have hlength := length_hexDigits g
  refine ⟨(hexDigits g.code.val).take 8, ((hexDigits g.code.val).drop 8).take 4,
    ((hexDigits g.code.val).drop 12).take 4, ((hexDigits g.code.val).drop 16).take 4,
    (hexDigits g.code.val).drop 20, ?_, ?_, ?_, ?_, ?_, ?_, ?_⟩
  · simp [hlength]
  · simp [hlength]
  · simp [hlength]
  · simp [hlength]
  · simp [hlength]
  · have hgroup (i : Nat) : ((hexDigits g.code.val).drop i).take 4 ++
        (hexDigits g.code.val).drop (i + 4) = (hexDigits g.code.val).drop i := by
      rw [← List.drop_drop, List.take_append_drop]
    simp only [List.append_assoc]
    rw [hgroup 16, hgroup 12, hgroup 8, List.take_append_drop]
  · rw [text]
    simp only [List.append_assoc, List.cons_append]

/-- An identifier is read back from its text. -/
theorem parse?_text (g : Guid) : parse? g.text = some g := by
  obtain ⟨A, B, C, D, E, hA, hB, hC, hD, hE, hdigits, htext⟩ := exists_groups g
  have hgroups := ofGroups?_append hA hB hC hD hE
  rw [hdigits, ofDigits?_hexDigits] at hgroups
  obtain ⟨c, cs, rfl⟩ := List.exists_cons_of_length_pos (l := A) (by omega)
  have hc : Text.isAsciiHexDigit c = true :=
    List.all_eq_true.1 (all_hexDigits g.code.val) c (hdigits ▸ List.mem_cons_self ..)
  have hlength : g.text.length = 36 := by
    rw [htext]
    simp [hB, hC, hD, hE] at hA ⊢
    omega
  have hu : ('u' == c) = false := by
    rw [beq_eq_false_iff_ne]
    rintro rfl
    cases hc
  have hurn : "urn:uuid:".toList.isPrefixOf g.text = false := by
    rw [htext]
    simp [List.isPrefixOf, hu]
  -- none of the other forms: no braces, hyphens between the digits, nothing before them
  unfold parse?
  split
  · rename_i hbrace
    rw [htext] at hbrace
    cases hbrace
    cases hc
  · dsimp only
    rw [hlength, if_neg (by decide), hurn, if_neg Bool.false_ne_true, htext]
    exact hgroups

end Guid

end Elementwise
