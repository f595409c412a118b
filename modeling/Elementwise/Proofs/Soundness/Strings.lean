import Elementwise.Proofs.Soundness.Builtin

/-!
The functions of characters, strings, arrays and regular expressions give what they promise.
-/

namespace Elementwise

open Number (NumericKind)
open Eval

namespace Builtin

/-! ### Characters and strings -/

theorem charTest_isSound (test : CharTest) : IsSound (.charTest test) := by
  refine isSound_of_takes_one (fun _ => rfl) fun v _ hv => ?_
  obtain ⟨c, rfl⟩ := Value.hasType_char.1 hv
  exact .ok (hasType_truth _)

theorem isNullOrEmpty_isSound : IsSound .isNullOrEmpty := by
  refine isSound_of_takes_one (fun _ => rfl) fun v _ hv => ?_
  obtain rfl | ⟨s, rfl⟩ := Value.hasType_string.1 hv
  · exact .ok (hasType_truth _)
  · exact .ok (hasType_truth _)

theorem isNullOrWhiteSpace_isSound : IsSound .isNullOrWhiteSpace := by
  refine isSound_of_takes_one (fun _ => rfl) fun v _ hv => ?_
  obtain rfl | ⟨s, rfl⟩ := Value.hasType_string.1 hv
  · exact .ok (hasType_truth _)
  · exact .ok (hasType_truth _)

theorem stringLength_isSound : IsSound .stringLength :=
  isSound_of_takes_one (fun _ => rfl) fun _ _ hv =>
    (stringArgument_yields rfl hv).bind fun _ _ => .ok (hasType_count _)

theorem toUpper_isSound : IsSound .toUpper :=
  isSound_of_takes_one (fun _ => rfl) fun _ _ hv =>
    (stringArgument_yields rfl hv).bind fun _ _ => .ok (hasType_text _)

theorem toLower_isSound : IsSound .toLower :=
  isSound_of_takes_one (fun _ => rfl) fun _ _ hv =>
    (stringArgument_yields rfl hv).bind fun _ _ => .ok (hasType_text _)

theorem trim_isSound : IsSound .trim :=
  isSound_of_takes_one (fun _ => rfl) fun _ _ hv =>
    (stringArgument_yields rfl hv).bind fun _ _ => .ok (hasType_text _)

theorem startsWith_isSound : IsSound .startsWith :=
  isSound_of_takes_two (fun _ => rfl) fun _ _ _ hv hw =>
    (stringArgument_yields rfl hv).bind fun _ _ =>
      (stringArgument_yields rfl hw).bind fun _ _ => .ok (hasType_truth _)

theorem endsWith_isSound : IsSound .endsWith :=
  isSound_of_takes_two (fun _ => rfl) fun _ _ _ hv hw =>
    (stringArgument_yields rfl hv).bind fun _ _ =>
      (stringArgument_yields rfl hw).bind fun _ _ => .ok (hasType_truth _)

theorem needle_yields {v : Value} (place : String) (hv : v.HasType .string ∨ v.HasType .char) :
    Yields (fun _ => True) (needle v place) := by
  rcases hv with hv | hv
  · obtain rfl | ⟨s, rfl⟩ := Value.hasType_string.1 hv
    · exact .error rfl
    · exact .ok trivial
  · obtain ⟨c, rfl⟩ := Value.hasType_char.1 hv
    exact .ok trivial

theorem position_hasType (cs sought : List Char) : (position cs sought).HasType .int32 := by
  rw [position]
  split
  · exact hasType_count _
  · exact Value.hasType_word.2 ⟨_, rfl⟩

/-- A function of a string and of a string or character to look for. -/
theorem isSound_of_takesNeedle
    (hb : ∀ params, b.result? params = takes [[.string, .string], [.string, .char]] r params)
    (h : ∀ v w given, v.HasType .string → w.HasType .string ∨ w.HasType .char →
      HasType (invokeNonNull b [v, w] given) r) : b.IsSound := by
  refine isSound_of_takes_either hb ?_ ?_
  · intro args given hargs
    obtain ⟨v, w, rfl, hv, hw⟩ := arguments_two hargs
    exact h v w given hv (Or.inl hw)
  · intro args given hargs
    obtain ⟨v, w, rfl, hv, hw⟩ := arguments_two hargs
    exact h v w given hv (Or.inr hw)

theorem contains_isSound : IsSound .contains := by
  refine isSound_of_takesNeedle (fun _ => rfl) fun _ w _ hv hw =>
    (stringArgument_yields rfl hv).bind fun cs _ => ?_
  rcases hw with hw | hw
  · obtain rfl | ⟨s, rfl⟩ := Value.hasType_string.1 hw
    · exact .error rfl
    · exact .ok (hasType_truth _)
  · obtain ⟨c, rfl⟩ := Value.hasType_char.1 hw
    exact .ok (hasType_truth _)

theorem indexOf_isSound : IsSound .indexOf :=
  isSound_of_takesNeedle (fun _ => rfl) fun _ _ _ hv hw =>
    (stringArgument_yields rfl hv).bind fun cs _ =>
      (needle_yields "IndexOf" hw).bind fun sought _ => .ok (position_hasType cs sought)

theorem substring_yields (cs : List Char) (start : Int) (length : Option Int) :
    HasType ((Eval.substring cs start length).map ofChars) .string := by
  unfold Eval.substring
  split
  · exact .error rfl
  · split
    · exact .ok (hasType_text _)
    · split
      · exact .error rfl
      · exact .ok (hasType_text _)

theorem substring_isSound : IsSound .substring := by
  refine isSound_of_takes_either (fun _ => rfl) ?_ ?_
  · intro args given hargs
    obtain ⟨v, w, rfl, hv, hw⟩ := arguments_two hargs
    exact (stringArgument_yields rfl hv).bind fun cs _ =>
      (int32Argument_yields rfl hw).bind fun start _ => substring_yields cs start.val none
  · intro args given hargs
    obtain ⟨v, w, x, rfl, hv, hw, hx⟩ := arguments_three hargs
    obtain ⟨n, rfl⟩ := Value.hasType_word.1 hx
    exact (stringArgument_yields rfl hv).bind fun cs _ =>
      (int32Argument_yields rfl hw).bind fun start _ =>
        substring_yields cs start.val (some n.val)

/-- Strings are replaced by strings, and characters by characters. -/
theorem replace_yields (cs : List Char) {old new : Value}
    (h : old.HasType .string ∧ new.HasType .string ∨ old.HasType .char ∧ new.HasType .char) :
    HasType ((Eval.replace cs old new).map ofChars) .string := by
  rcases h with ⟨ho, hn⟩ | ⟨ho, hn⟩
  · obtain rfl | ⟨s, rfl⟩ := Value.hasType_string.1 ho
    · exact .error rfl
    · obtain rfl | ⟨t, rfl⟩ := Value.hasType_string.1 hn
      · simp only [Eval.replace]
        split
        · exact .error rfl
        · exact .ok (hasType_text _)
      · simp only [Eval.replace]
        split
        · exact .error rfl
        · exact .ok (hasType_text _)
  · obtain ⟨c, rfl⟩ := Value.hasType_char.1 ho
    obtain ⟨d, rfl⟩ := Value.hasType_char.1 hn
    exact .ok (hasType_text _)

theorem replace_isSound : IsSound .replace := by
  refine isSound_of_takes_either (fun _ => rfl) ?_ ?_
  · intro args given hargs
    obtain ⟨v, w, x, rfl, hv, hw, hx⟩ := arguments_three hargs
    exact (stringArgument_yields rfl hv).bind fun cs _ =>
      replace_yields cs (Or.inl ⟨hw, hx⟩)
  · intro args given hargs
    obtain ⟨v, w, x, rfl, hv, hw, hx⟩ := arguments_three hargs
    exact (stringArgument_yields rfl hv).bind fun cs _ =>
      replace_yields cs (Or.inr ⟨hw, hx⟩)

/-- The receiver has to be there: this function, alone, gives `null` no fault of its own. -/
theorem arrayLength_isSound : IsSound .arrayLength := by
  intro args params t given ht hargs hr
  simp only [result?] at ht
  split at ht
  · cases ht
    obtain ⟨v, rfl, hv⟩ := arguments_one hargs
    obtain rfl | ⟨items, rfl, -⟩ := hv.items rfl
    · exact absurd rfl (hr rfl)
    · exact .ok (hasType_count _)
  · cases ht

theorem toByteArray_isSound : IsSound .toByteArray := by
  refine isSound_of_takes_one (fun _ => rfl) fun v _ hv => ?_
  obtain ⟨g, rfl⟩ := Value.hasType_guid.1 hv
  refine .ok (Value.array_hasType_array.2 fun v hv => ?_)
  obtain ⟨b, -, rfl⟩ := List.mem_map.1 hv
  exact Value.hasType_word.2 ⟨_, rfl⟩

/-! ### Regular expressions -/

theorem pattern_yields {args : List Value} {v : Value} (given : Option Regex)
    (h : args[1]? = some v) (hv : v.HasType .string) :
    Yields (fun _ => True) (pattern given args) := by
  refine (stringArgument_yields h hv).bind fun text _ => ?_
  cases given with
  | some r => exact .ok trivial
  | none =>
      cases Regex.compile? (String.ofList text) with
      | some r => exact .ok trivial
      | none => exact .error rfl

theorem regexIsMatch_isSound : IsSound .regexIsMatch :=
  isSound_of_takes_two (fun _ => rfl) fun _ _ given hv hw =>
    (pattern_yields given rfl hw).bind fun _ _ =>
      (stringArgument_yields rfl hv).bind fun _ _ => .ok (hasType_truth _)

theorem regexReplace_isSound : IsSound .regexReplace := by
  intro args params t given ht hargs _
  obtain ⟨hp, rfl⟩ := eq_of_takes ht
  obtain rfl := List.mem_singleton.1 hp
  obtain ⟨v, w, x, rfl, hv, hw, hx⟩ := arguments_three hargs
  exact (pattern_yields given rfl hw).bind fun _ _ =>
    (stringArgument_yields rfl hv).bind fun _ _ =>
      (stringArgument_yields rfl hx).bind fun _ _ => .ok (hasType_text _)

end Builtin

end Elementwise
