import Elementwise.Eval.Term
import Mathlib.Algebra.Group.Nat.Defs
import Mathlib.Order.Bounds.Basic

/-!
Positions in strings.  The members of strings that take or give a position agree on them: a part that
starts at a position has the character there in front, the parts before and after a position are the
whole, and what is looked for is the part at the position that is found, and at none before.  Positions
count characters; looking for the bytes of a text among those of another finds the same position,
since no character starts in the middle of another one.
-/

namespace Elementwise

/-! ### Occurrences -/

namespace Text

variable {sought cs : List Char} {k : Nat}

/-- The text that is sought stands at the position. -/
def OccursAt (sought cs : List Char) (k : Nat) : Prop :=
  k ≤ cs.length ∧ sought <+: cs.drop k

theorem occursAt_zero : OccursAt sought cs 0 ↔ sought <+: cs :=
  and_iff_right (Nat.zero_le _)

theorem occursAt_succ {c : Char} : OccursAt sought (c :: cs) (k + 1) ↔ OccursAt sought cs k :=
  and_congr_left' Nat.succ_le_succ_iff

theorem OccursAt.add_length_le (h : OccursAt sought cs k) : k + sought.length ≤ cs.length := by
  have hlength := h.2.length_le
  rw [List.length_drop] at hlength
  have := h.1
  omega

theorem occursAt_iff_take :
    OccursAt sought cs k ↔ k + sought.length ≤ cs.length ∧ (cs.drop k).take sought.length = sought := by
  constructor
  · intro h
    exact ⟨h.add_length_le, (List.prefix_iff_eq_take.1 h.2).symm⟩
  · rintro ⟨hlength, htake⟩
    exact ⟨by omega, List.prefix_iff_eq_take.2 htake.symm⟩

/-- What is found is where the text stands first. -/
theorem indexOf?_spec (sought cs : List Char) :
    match indexOf? sought cs with
    | some k => IsLeast {k | OccursAt sought cs k} k
    | none => ∀ k, ¬OccursAt sought cs k := by
  induction cs with
  | nil =>
      cases sought with
      | nil => exact ⟨occursAt_zero.2 (List.prefix_refl _), fun _ _ => Nat.zero_le _⟩
      | cons d ds =>
          intro k hk
          have := hk.add_length_le
          rw [List.length_cons, List.length_nil] at this
          omega
  | cons c cs ih =>
      rw [indexOf?]
      by_cases hfront : sought.isPrefixOf (c :: cs) = true
      · rw [if_pos hfront]
        exact ⟨occursAt_zero.2 (List.isPrefixOf_iff_prefix.1 hfront), fun _ _ => Nat.zero_le _⟩
      · -- not here, so where it stands in the rest
        rw [if_neg hfront]
        have hzero : ¬OccursAt sought (c :: cs) 0 :=
          fun h => hfront (List.isPrefixOf_iff_prefix.2 (occursAt_zero.1 h))
        cases hrest : indexOf? sought cs with
        | none =>
            rw [hrest] at ih
            intro k hk
            cases k with
            | zero => exact hzero hk
            | succ k => exact ih k (occursAt_succ.1 hk)
        | some i =>
            rw [hrest] at ih
            refine ⟨occursAt_succ.2 ih.1, fun k hk => ?_⟩
            cases k with
            | zero => exact absurd hk hzero
            | succ k => exact Nat.succ_le_succ (ih.2 (occursAt_succ.1 hk))

theorem indexOf?_eq_some_iff :
    indexOf? sought cs = some k ↔ IsLeast {k | OccursAt sought cs k} k := by
  have hspec := indexOf?_spec sought cs
  cases hfound : indexOf? sought cs with
  | none =>
      rw [hfound] at hspec
      exact ⟨nofun, fun h => absurd h.1 (hspec k)⟩
  | some i =>
      rw [hfound] at hspec
      rw [Option.some.injEq]
      exact ⟨fun h => h ▸ hspec, hspec.unique⟩

theorem indexOf?_eq_none_iff : indexOf? sought cs = none ↔ ∀ k, ¬OccursAt sought cs k := by
  have hspec := indexOf?_spec sought cs
  cases hfound : indexOf? sought cs with
  | none =>
      rw [hfound] at hspec
      exact iff_of_true rfl hspec
  | some i =>
      rw [hfound] at hspec
      exact iff_of_false nofun fun h => h i hspec.1

/-- One character stands where it is one of the characters. -/
theorem isSome_indexOf?_singleton (c : Char) (cs : List Char) :
    (indexOf? [c] cs).isSome = cs.contains c := by
  induction cs with
  | nil => rfl
  | cons d cs ih =>
      rw [indexOf?, List.contains_cons]
      by_cases hc : c = d
      · subst hc
        simp
      · simp [hc, ih]

/-! ### Occurrences among bytes -/

/-- The bytes of a text in UTF-8. -/
def utf8 (cs : List Char) : List UInt8 :=
  cs.flatMap String.utf8EncodeChar

/-- The bytes of the text that is sought stand in those of the other from a number of bytes on. -/
def OccursAtByte (sought cs : List Char) (b : Nat) : Prop :=
  b ≤ (utf8 cs).length ∧ utf8 sought <+: (utf8 cs).drop b

theorem utf8_cons (c : Char) (cs : List Char) : utf8 (c :: cs) = String.utf8EncodeChar c ++ utf8 cs :=
  List.flatMap_cons

theorem utf8_append (cs cs' : List Char) : utf8 (cs ++ cs') = utf8 cs ++ utf8 cs' :=
  List.flatMap_append

/-- Bytes start with the code of one character only. -/
theorem utf8EncodeChar_prefix {c d : Char} {bs bs' : List UInt8}
    (h : String.utf8EncodeChar c ++ bs <+: String.utf8EncodeChar d ++ bs') : c = d ∧ bs <+: bs' := by
  obtain ⟨rest, hrest⟩ := h
  have hdecode (c : Char) (bs : List UInt8) :
      (String.utf8EncodeChar c ++ bs).toByteArray.utf8DecodeChar? 0 = some c := by
    rw [List.toByteArray_append]
    exact ByteArray.utf8DecodeChar?_utf8EncodeChar_append
  have hsame : c = d := by
    have hc := hdecode c (bs ++ rest)
    rw [← List.append_assoc, hrest, hdecode d bs'] at hc
    exact (Option.some.inj hc).symm
  subst hsame
  rw [List.append_assoc] at hrest
  exact ⟨rfl, rest, List.append_cancel_left hrest⟩

theorem utf8_prefix_iff : utf8 sought <+: utf8 cs ↔ sought <+: cs := by
  constructor
  · intro h
    induction sought generalizing cs with
    | nil => exact List.nil_prefix
    | cons d ds ih =>
        rw [utf8_cons] at h
        cases cs with
        | nil =>
            have hnil := List.prefix_nil.1 h
            exact absurd (List.append_eq_nil_iff.1 hnil).1 String.utf8EncodeChar_ne_nil
        | cons c cs =>
            rw [utf8_cons] at h
            obtain ⟨rfl, hrest⟩ := utf8EncodeChar_prefix h
            exact List.cons_prefix_cons.2 ⟨rfl, ih hrest⟩
  · rintro ⟨rest, rfl⟩
    rw [utf8_append]
    exact List.prefix_append _ _

/-- No character starts within the code of another. -/
theorem not_utf8_prefix_of_lt {c d : Char} {ds : List Char} {bs : List UInt8} {b : Nat} (hpos : 0 < b)
    (hlt : b < (String.utf8EncodeChar c).length) :
    ¬utf8 (d :: ds) <+: (String.utf8EncodeChar c ++ bs).drop b := by
  intro h
  rw [utf8_cons] at h
  have hcode : 0 < (String.utf8EncodeChar d).length :=
    List.length_pos_iff.2 String.utf8EncodeChar_ne_nil
  have hfirst : (String.utf8EncodeChar d)[0] = (String.utf8EncodeChar c)[b] := by
    have hhead := List.IsPrefix.getElem h (i := 0) (by rw [List.length_append]; omega)
    rw [List.getElem_append_left hcode, List.getElem_drop] at hhead
    rw [hhead, List.getElem_append_left (by omega)]
    rfl
  have hstart : (String.utf8EncodeChar d)[0].IsUTF8FirstByte :=
    UInt8.isUTF8FirstByte_getElem_utf8EncodeChar.2 rfl
  rw [hfirst, UInt8.isUTF8FirstByte_getElem_utf8EncodeChar] at hstart
  omega

/-- The number of bytes of the characters before a position. -/
def byteOffset (cs : List Char) (k : Nat) : Nat :=
  (utf8 (cs.take k)).length

theorem byteOffset_succ (c : Char) (cs : List Char) (k : Nat) :
    byteOffset (c :: cs) (k + 1) = (String.utf8EncodeChar c).length + byteOffset cs k := by
  rw [byteOffset, List.take_succ_cons, utf8_cons, List.length_append, byteOffset]

theorem byteOffset_lt {j : Nat} (hlt : j < k) (hk : k ≤ cs.length) :
    byteOffset cs j < byteOffset cs k := by
  induction cs generalizing j k with
  | nil =>
      rw [List.length_nil] at hk
      omega
  | cons c cs ih =>
      obtain ⟨k, rfl⟩ := Nat.exists_eq_succ_of_ne_zero (Nat.ne_zero_of_lt hlt)
      have hcode : 0 < (String.utf8EncodeChar c).length :=
        List.length_pos_iff.2 String.utf8EncodeChar_ne_nil
      rw [Nat.succ_eq_add_one, byteOffset_succ]
      cases j with
      | zero => exact Nat.lt_of_lt_of_le hcode (Nat.le_add_right _ _)
      | succ j =>
          rw [byteOffset_succ]
          exact Nat.add_lt_add_left (ih (Nat.lt_of_succ_lt_succ hlt) (Nat.le_of_succ_le_succ hk)) _

theorem OccursAt.occursAtByte (h : OccursAt sought cs k) : OccursAtByte sought cs (byteOffset cs k) := by
  have hsplit : utf8 cs = utf8 (cs.take k) ++ utf8 (cs.drop k) := by
    rw [← utf8_append, List.take_append_drop]
  rw [OccursAtByte, byteOffset, hsplit, List.drop_left, List.length_append]
  exact ⟨Nat.le_add_right _ _, utf8_prefix_iff.2 h.2⟩

/-- Where the bytes of a text stand that is not empty, there stand its characters. -/
theorem OccursAtByte.exists_occursAt {b : Nat} (hne : sought ≠ []) (h : OccursAtByte sought cs b) :
    ∃ k, OccursAt sought cs k ∧ byteOffset cs k = b := by
  obtain ⟨d, ds, rfl⟩ := List.exists_cons_of_ne_nil hne
  induction cs generalizing b with
  | nil =>
      have hlength := h.2.length_le
      have hcode : 0 < (String.utf8EncodeChar d).length :=
        List.length_pos_iff.2 String.utf8EncodeChar_ne_nil
      rw [utf8_cons, List.length_append, List.length_drop, show utf8 [] = [] from rfl,
        List.length_nil] at hlength
      omega
  | cons c cs ih =>
      rcases Nat.eq_zero_or_pos b with rfl | hpos
      · exact ⟨0, occursAt_zero.2 (utf8_prefix_iff.1 h.2), rfl⟩
      · obtain ⟨hb, hprefix⟩ := h
        rw [utf8_cons c] at hb hprefix
        have hle : (String.utf8EncodeChar c).length ≤ b :=
          Nat.le_of_not_lt fun hlt => not_utf8_prefix_of_lt hpos hlt hprefix
        rw [List.length_append] at hb
        rw [List.drop_append, List.drop_eq_nil_of_le hle, List.nil_append] at hprefix
        obtain ⟨k, hk, hoffset⟩ := ih ⟨by omega, hprefix⟩
        refine ⟨k + 1, occursAt_succ.2 hk, ?_⟩
        rw [byteOffset_succ, hoffset]
        omega

/-- The first position among the bytes is that of the first position among the characters. -/
theorem isLeast_occursAtByte (h : IsLeast {k | OccursAt sought cs k} k) :
    IsLeast {b | OccursAtByte sought cs b} (byteOffset cs k) := by
  refine ⟨h.1.occursAtByte, fun b hb => ?_⟩
  by_cases hne : sought = []
  · have hzero : k ≤ 0 := h.2 (occursAt_zero.2 (hne ▸ List.nil_prefix))
    rw [Nat.le_zero.1 hzero]
    exact Nat.zero_le b
  · obtain ⟨j, hj, rfl⟩ := hb.exists_occursAt hne
    rcases Nat.lt_or_eq_of_le (h.2 hj) with hlt | rfl
    · exact Nat.le_of_lt (byteOffset_lt hlt hj.1)
    · exact Nat.le_refl _

end Text

namespace Eval

open Number (Word WordKind)

variable {s t : String} {i n : Word .int32}

/-! ### Parts of a string -/

/-- The fault of a position or a length that is out of range. -/
def IsOutOfRange (o : Outcome) : Prop :=
  ∃ index length, o = .error (.indexOutOfRange index length)

theorem count_of_lt {n : Nat} (h : n < 2 ^ 31) :
    ∃ w : Word .int32, Value.count n = .int32 w ∧ w.val = n := by
  let w : Word .int32 := ⟨n, Int.le_trans (by decide) (Int.natCast_nonneg n), by
    have hmax : WordKind.int32.max = 2147483647 := by decide
    omega⟩
  exact ⟨w, congrArg Value.int32 (Word.wrap_val w), rfl⟩

theorem invoke_stringLength (h : s.length < 2 ^ 31) (given : Option Regex) :
    ∃ w : Word .int32, invoke .stringLength [.string s] given = .ok (.int32 w) ∧
      w.val = s.length := by
  rw [← String.length_toList] at h ⊢
  obtain ⟨w, hw, hval⟩ := count_of_lt h
  exact ⟨w, congrArg Except.ok hw, hval⟩

/-- The characters from a position on, as many as the length says. -/
def partOf (s : String) (i n : Int) : String :=
  String.ofList ((s.toList.drop i.toNat).take n.toNat)

theorem length_partOf (hi : 0 ≤ i.val) (hn : 0 ≤ n.val) (h : i.val + n.val ≤ s.length) :
    ((partOf s i.val n.val).length : Int) = n.val := by
  rw [← String.length_toList] at h
  rw [partOf, String.length_ofList, List.length_take, List.length_drop]
  omega

theorem invoke_substring_of_le (given : Option Regex) (hi : 0 ≤ i.val) (hn : 0 ≤ n.val)
    (h : i.val + n.val ≤ s.length) :
    invoke .substring [.string s, .int32 i, .int32 n] given = .ok (.string (partOf s i.val n.val)) := by
  rw [← String.length_toList] at h
  show (substring s.toList i.val (some n.val)).map ofChars = _
  rw [substring, if_neg (by omega), if_neg (by omega)]
  rfl

theorem invoke_substring_outside (given : Option Regex)
    (h : ¬(0 ≤ i.val ∧ 0 ≤ n.val ∧ i.val + n.val ≤ s.length)) :
    IsOutOfRange (invoke .substring [.string s, .int32 i, .int32 n] given) := by
  rw [← String.length_toList] at h
  show IsOutOfRange ((substring s.toList i.val (some n.val)).map ofChars)
  rw [substring]
  split
  · exact ⟨_, _, rfl⟩
  · rw [if_pos (by omega)]
    exact ⟨_, _, rfl⟩

/-- The parts before a position and from it on are the whole. -/
theorem substring_append (given : Option Regex) (hi : 0 ≤ i.val) (h : i.val ≤ s.length) :
    ∃ front back, invoke .substring [.string s, .int32 (.zero .int32), .int32 i] given = .ok front ∧
      invoke .substring [.string s, .int32 i] given = .ok back ∧
      binaryOn .concat false front back = .ok (.string s) := by
  have hzero : (Word.zero .int32).val = 0 := rfl
  refine ⟨.string (String.ofList (s.toList.take i.val.toNat)),
    .string (String.ofList (s.toList.drop i.val.toNat)), ?_, ?_, ?_⟩
  · exact invoke_substring_of_le given (le_refl 0) hi (by omega)
  · rw [← String.length_toList] at h
    show (substring s.toList i.val none).map ofChars = _
    rw [substring, if_neg (by omega)]
    rfl
  · show Except.ok (Value.string (String.ofList _ ++ String.ofList _)) = _
    rw [← String.ofList_append, List.take_append_drop, String.ofList_toList]

/-! ### Characters by position -/

theorem elementAt_of_lt (hi : 0 ≤ i.val) (h : i.val < s.length) :
    ∃ c, elementAt (.string s) (.int32 i) = .ok (.char c) ∧ partOf s i.val 1 = String.singleton c := by
  rw [← String.length_toList] at h
  have hlt : i.val.toNat < s.toList.length := by omega
  refine ⟨s.toList[i.val.toNat], ?_, ?_⟩
  · have hnonneg : ¬i.val < 0 := by omega
    show elementAt (.string s) (.number (.word .int32 i)) = _
    simp only [elementAt, if_neg hnonneg, List.getElem?_eq_getElem hlt]
    rfl
  · rw [partOf, List.drop_eq_getElem_cons hlt, String.singleton_eq_ofList]
    rfl

theorem elementAt_string_outside (h : ¬(0 ≤ i.val ∧ i.val < s.length)) :
    IsOutOfRange (elementAt (.string s) (.int32 i)) := by
  rw [← String.length_toList] at h
  have hnone : (if i.val < 0 then none else s.toList[i.val.toNat]?) = none := by
    split
    · rfl
    · rw [List.getElem?_eq_none_iff]
      omega
  refine ⟨i.val, s.toList.length, ?_⟩
  show elementAt (.string s) (.number (.word .int32 i)) = _
  simp only [elementAt, hnone]
  rfl

/-! ### Parts that are sought -/

/-- The part of the first string that starts at the position and is as long as the second string is
the second string. -/
def IsPartAt (s t : String) (k : Word .int32) : Prop :=
  ∃ length, invoke .stringLength [.string t] none = .ok (.int32 length) ∧
    invoke .substring [.string s, .int32 k, .int32 length] none = .ok (.string t)

theorem isPartAt_iff (ht : t.length < 2 ^ 31) (k : Word .int32) :
    IsPartAt s t k ↔ ∃ i : Nat, k.val = i ∧ Text.OccursAt t.toList s.toList i := by
  obtain ⟨w, hw, hval⟩ := invoke_stringLength ht none
  constructor
  · rintro ⟨length, hlength, hpart⟩
    rw [hw] at hlength
    cases hlength
    by_cases hrange : 0 ≤ k.val ∧ 0 ≤ w.val ∧ k.val + w.val ≤ s.length
    · obtain ⟨hk, hn, hsum⟩ := hrange
      rw [invoke_substring_of_le none hk hn hsum, hval] at hpart
      have htake := congrArg String.toList (Value.string.inj (Except.ok.inj hpart))
      rw [partOf, String.toList_ofList, Int.toNat_natCast, ← String.length_toList] at htake
      rw [hval, ← String.length_toList, ← String.length_toList] at hsum
      exact ⟨k.val.toNat, by omega, Text.occursAt_iff_take.2 ⟨by omega, htake⟩⟩
    · obtain ⟨_, _, herror⟩ := invoke_substring_outside none hrange
      rw [herror] at hpart
      cases hpart
  · rintro ⟨j, hj, hoccurs⟩
    obtain ⟨hlength, htake⟩ := Text.occursAt_iff_take.1 hoccurs
    rw [String.length_toList, String.length_toList] at hlength
    refine ⟨w, hw, ?_⟩
    rw [invoke_substring_of_le none (by omega) (by omega) (by omega), partOf, hj, hval,
      Int.toNat_natCast, Int.toNat_natCast, ← String.length_toList, htake, String.ofList_toList]

/-- A string or a character to look for, with its text. -/
inductive Seeks : Value → String → Prop where
  | string (t : String) : Seeks (.string t) t
  | char (c : Char) : Seeks (.char c) (String.singleton c)

theorem Seeks.invoke_indexOf {v : Value} (h : Seeks v t) (s : String) (given : Option Regex) :
    invoke .indexOf [.string s, v] given = .ok (position s.toList t.toList) := by
  cases h with
  | string => rfl
  | char c =>
      rw [String.toList_singleton]
      rfl

theorem Seeks.invoke_contains {v : Value} (h : Seeks v t) (s : String) (given : Option Regex) :
    invoke .contains [.string s, v] given =
      .ok (.boolean (Text.indexOf? t.toList s.toList).isSome) := by
  cases h with
  | string => rfl
  | char c =>
      rw [String.toList_singleton, Text.isSome_indexOf?_singleton]
      rfl

/-- The first position at which the part of a string is the text that is sought, or minus one if there
is none. -/
def IsFirstPart (s t : String) (found : Word .int32) : Prop :=
  IsPartAt s t found ∧ (∀ k, IsPartAt s t k → found.val ≤ k.val) ∨
    found.val = -1 ∧ ∀ k, ¬IsPartAt s t k

/-- What is found is the first part that is the text that is sought. -/
theorem exists_position (hs : s.length < 2 ^ 31) (ht : t.length < 2 ^ 31) :
    ∃ found : Word .int32, position s.toList t.toList = .int32 found ∧ IsFirstPart s t found ∧
      (0 ≤ found.val → IsLeast {b | Text.OccursAtByte t.toList s.toList b}
        (Text.byteOffset s.toList found.val.toNat)) ∧
      (Text.indexOf? t.toList s.toList).isSome = decide (0 ≤ found.val) := by
  rw [position]
  cases hfound : Text.indexOf? t.toList s.toList with
  | none =>
      have hnone := Text.indexOf?_eq_none_iff.1 hfound
      refine ⟨.wrap .int32 (-1), rfl, Or.inr ⟨by decide, fun k hk => ?_⟩,
        fun h => absurd h (by decide), by decide⟩
      obtain ⟨j, -, hj⟩ := (isPartAt_iff ht k).1 hk
      exact hnone j hj
  | some j =>
      have hleast := Text.indexOf?_eq_some_iff.1 hfound
      have hj : j ≤ s.length := String.length_toList ▸ hleast.1.1
      obtain ⟨w, hw, hval⟩ := count_of_lt (Nat.lt_of_le_of_lt hj hs)
      have hnat : w.val.toNat = j := by rw [hval, Int.toNat_natCast]
      refine ⟨w, hw, Or.inl ⟨(isPartAt_iff ht w).2 ⟨j, hval, hleast.1⟩, fun k hk => ?_⟩, fun _ => ?_, ?_⟩
      · obtain ⟨j', hj', hoccurs⟩ := (isPartAt_iff ht k).1 hk
        have hle : j ≤ j' := hleast.2 hoccurs
        omega
      · rw [hnat]
        exact Text.isLeast_occursAtByte hleast
      · exact (decide_eq_true (by omega)).symm

/-! ### Main result -/

/-- The members of a string agree on positions.  `Substring` gives a part of the length asked for if the
part lies in the string and is out of range otherwise, and the parts before and from a position are the
whole string; the indexer gives the character of the part of length one and is out of range where there
is none; `IndexOf` finds the first part that is the text that is sought, which is the first among the
bytes as well, and `Contains` says whether there is one. -/
theorem string_positions_agree (hs : s.length < 2 ^ 31) (ht : t.length < 2 ^ 31)
    (given : Option Regex) :
    (∃ length : Word .int32, invoke .stringLength [.string s] given = .ok (.int32 length) ∧
      length.val = s.length) ∧
    (∀ i n : Word .int32,
      (0 ≤ i.val ∧ 0 ≤ n.val ∧ i.val + n.val ≤ s.length → ∃ part : String,
        invoke .substring [.string s, .int32 i, .int32 n] given = .ok (.string part) ∧
          part.length = n.val) ∧
      (¬(0 ≤ i.val ∧ 0 ≤ n.val ∧ i.val + n.val ≤ s.length) →
        IsOutOfRange (invoke .substring [.string s, .int32 i, .int32 n] given))) ∧
    (∀ i : Word .int32, 0 ≤ i.val ∧ i.val ≤ s.length → ∃ front back,
      invoke .substring [.string s, .int32 (.zero .int32), .int32 i] given = .ok front ∧
        invoke .substring [.string s, .int32 i] given = .ok back ∧
        binaryOn .concat false front back = .ok (.string s)) ∧
    (∀ i : Word .int32,
      (0 ≤ i.val ∧ i.val < s.length → ∃ c, elementAt (.string s) (.int32 i) = .ok (.char c) ∧
        invoke .substring [.string s, .int32 i, .int32 (.wrap .int32 1)] given =
          .ok (.string (String.singleton c))) ∧
      (¬(0 ≤ i.val ∧ i.val < s.length) → IsOutOfRange (elementAt (.string s) (.int32 i)))) ∧
    ∀ v, Seeks v t → ∃ found : Word .int32,
      invoke .indexOf [.string s, v] given = .ok (.int32 found) ∧ IsFirstPart s t found ∧
      (0 ≤ found.val → IsLeast {b | Text.OccursAtByte t.toList s.toList b}
        (Text.byteOffset s.toList found.val.toNat)) ∧
      invoke .contains [.string s, v] given = .ok (.boolean (decide (0 ≤ found.val))) := by
  refine ⟨invoke_stringLength hs given, fun i n => ⟨?_, invoke_substring_outside given⟩, ?_,
    fun i => ⟨?_, elementAt_string_outside⟩, fun v hv => ?_⟩
  · rintro ⟨hi, hn, hsum⟩
    exact ⟨_, invoke_substring_of_le given hi hn hsum, length_partOf hi hn hsum⟩
  · rintro i ⟨hi, hle⟩
    exact substring_append given hi hle
  · rintro ⟨hi, hlt⟩
    have hone : (Word.wrap .int32 1).val = 1 := by decide
    obtain ⟨c, hc, hpart⟩ := elementAt_of_lt hi hlt
    refine ⟨c, hc, ?_⟩
    rw [invoke_substring_of_le given hi (by omega) (by omega), hone, hpart]
  · obtain ⟨found, hposition, hfirst, hbytes, hcontains⟩ := exists_position hs ht
    refine ⟨found, ?_, hfirst, hbytes, ?_⟩
    · rw [hv.invoke_indexOf, hposition]
    · rw [hv.invoke_contains, hcontains]

/-- A face stands in a text at position 2, behind five bytes, and as a character as well. -/
theorem string_positions_agree_face :
    let s := "aé😀é😀"
    let face := "😀"
    (s.length < 2 ^ 31 ∧ face.length < 2 ^ 31) ∧
      invoke .indexOf [.string s, .string face] none = .ok (.int32 (.wrap .int32 2)) ∧
      IsFirstPart s face (.wrap .int32 2) ∧
      IsLeast {b | Text.OccursAtByte face.toList s.toList b} 3 ∧
      invoke .contains [.string s, .char '😀'] none = .ok (.boolean true) ∧
      IsOutOfRange (invoke .substring
        [.string s, .int32 (.wrap .int32 2), .int32 (.wrap .int32 2147483647)] none) := by
  intro s face
  have hs : s.length < 2 ^ 31 := by decide
  have hface : face.length < 2 ^ 31 := by decide
  obtain ⟨-, hsubstring, -, -, hseeks⟩ := string_positions_agree hs hface none
  have hchar : Seeks (.char '😀') face := by
    have hface : String.singleton '😀' = face := by decide
    exact hface ▸ .char '😀'
  have hindex : Text.indexOf? face.toList s.toList = some 2 := by decide
  have hposition : position s.toList face.toList = .int32 (.wrap .int32 2) := by
    rw [position, hindex]
    rfl
  obtain ⟨found, hfound, hfirst, hbytes, -⟩ := hseeks _ (.string face)
  obtain ⟨found', hfound', -, -, hcontains⟩ := hseeks _ hchar
  rw [(Seeks.string face).invoke_indexOf, hposition] at hfound
  rw [hchar.invoke_indexOf, hposition] at hfound'
  cases hfound
  cases hfound'
  have hoffset : Text.byteOffset s.toList (Word.wrap .int32 2).val.toNat = 3 := by decide
  refine ⟨⟨hs, hface⟩, ?_, hfirst, hoffset ▸ hbytes (by decide), hcontains,
    (hsubstring _ _).2 (by decide)⟩
  rw [(Seeks.string face).invoke_indexOf, hposition]

end Eval

end Elementwise
