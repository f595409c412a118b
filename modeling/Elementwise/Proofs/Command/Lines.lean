import Elementwise.Command.Stream
import Elementwise.Proofs.Text.Numeral

/-!
The lines of a text, as a relation: a line ends before a line feed, or before a carriage return and
the line feed after it, and what follows the last line feed is a line if it is not empty.  Every
text has exactly one list of lines.
-/

namespace Elementwise.Command

inductive Lined : List Char → List (List Char) → Prop where
  | nil : Lined [] []
  | last {line : List Char} (hne : line ≠ []) (h : '\n' ∉ line) : Lined line [line]
  | feed {line rest : List Char} {others : List (List Char)} (h : '\n' ∉ line)
      (hreturn : line.getLast? ≠ some '\r') (hrest : Lined rest others) :
      Lined (line ++ '\n' :: rest) (line :: others)
  | returnFeed {line rest : List Char} {others : List (List Char)} (h : '\n' ∉ line)
      (hrest : Lined rest others) : Lined (line ++ '\r' :: '\n' :: rest) (line :: others)

theorem linesOf_cons {line : List Char} {parts : List (List Char)} (h : parts ≠ []) :
    linesOf (line :: parts) = dropReturn line :: linesOf parts := by
  cases parts with
  | nil => exact absurd rfl h
  | cons part parts => rfl

theorem dropReturn_append_return (line : List Char) : dropReturn (line ++ ['\r']) = line := by
  rw [dropReturn, List.getLast?_concat, if_pos rfl, List.dropLast_concat]

theorem linesOf_splitOn_append (line rest : List Char) (h : '\n' ∉ line) :
    linesOf (Text.splitOn '\n' (line ++ '\n' :: rest)) =
      dropReturn line :: linesOf (Text.splitOn '\n' rest) := by
  rw [Text.splitOn_append_cons h, linesOf_cons (Text.splitOn_ne_nil _ _)]

theorem Lined.linesOf_eq {cs : List Char} {ls : List (List Char)} (h : Lined cs ls) :
    linesOf (Text.splitOn '\n' cs) = ls := by
  induction h with
  | nil => rfl
  | last hne h =>
      rw [Text.splitOn_of_notMem h, linesOf, if_neg]
      rwa [List.isEmpty_iff]
  | feed h hreturn _ ih =>
      rw [linesOf_splitOn_append _ _ h, ih, dropReturn, if_neg hreturn]
  | @returnFeed line rest others h _ ih =>
      have hline : '\n' ∉ line ++ ['\r'] := by simpa using h
      have := linesOf_splitOn_append _ rest hline
      rw [List.append_assoc, List.singleton_append] at this
      rw [this, ih, dropReturn_append_return]

theorem lined_append {line rest : List Char} {others : List (List Char)} (h : '\n' ∉ line)
    (hrest : Lined rest others) : Lined (line ++ '\n' :: rest) (dropReturn line :: others) := by
  rw [dropReturn]
  split
  · rename_i hreturn
    obtain ⟨front, rfl⟩ := List.getLast?_eq_some_iff.1 hreturn
    rw [List.dropLast_concat, List.append_assoc]
    exact .returnFeed (fun hfeed => h (List.mem_append_left _ hfeed)) hrest
  · rename_i hreturn
    exact .feed h hreturn hrest

/-- Every text has lines. -/
theorem lined_linesOf (cs : List Char) : Lined cs (linesOf (Text.splitOn '\n' cs)) := by
  -- by the length of the text, since a line takes more than one constructor off it
  induction hn : cs.length using Nat.strongRecOn generalizing cs with
  | ind n ih =>
    by_cases hfeed : '\n' ∈ cs
    · obtain ⟨line, rest, rfl, hline⟩ := List.eq_append_cons_of_mem hfeed
      rw [linesOf_splitOn_append _ _ hline]
      rw [List.length_append, List.length_cons] at hn
      exact lined_append hline (ih rest.length (by omega) rest rfl)
    · rw [Text.splitOn_of_notMem hfeed, linesOf]
      split
      · rename_i hempty
        rw [List.isEmpty_iff.1 hempty]
        exact .nil
      · rename_i hempty
        exact .last (fun h => hempty (List.isEmpty_iff.2 h)) hfeed

theorem Lined.lines_eq {text : String} {ls : List String}
    (h : Lined text.toList (ls.map String.toList)) : lines text = ls := by
  have hid : String.ofList ∘ String.toList = id := funext fun _ => String.ofList_toList
  rw [lines, h.linesOf_eq, List.map_map, hid, List.map_id]

theorem lined_lines (text : String) : Lined text.toList ((lines text).map String.toList) := by
  have hid : String.toList ∘ String.ofList = id := funext fun _ => String.toList_ofList
  rw [lines, List.map_map, hid, List.map_id]
  exact lined_linesOf text.toList

/-! ### Beginnings -/

/-- The items up to the first that has the property, which is the last one kept. -/
def throughFirst {α : Type} (p : α → Bool) : List α → List α
  | [] => []
  | x :: xs => if p x then [x] else x :: throughFirst p xs

theorem throughFirst_prefix {α : Type} (p : α → Bool) (xs : List α) : throughFirst p xs <+: xs := by
  induction xs with
  | nil => exact List.prefix_rfl
  | cons x xs ih =>
      rw [throughFirst]
      split
      · exact ⟨xs, rfl⟩
      · exact (List.prefix_cons_inj x).2 ih

/-- The lines up to the first that has a property are the lines of a beginning of the text. -/
theorem Lined.exists_throughFirst {cs : List Char} {ls : List (List Char)} (h : Lined cs ls)
    (p : List Char → Bool) : ∃ front, front <+: cs ∧ Lined front (throughFirst p ls) := by
  induction h with
  | nil => exact ⟨[], List.prefix_rfl, .nil⟩
  | last hne h =>
      refine ⟨_, List.prefix_rfl, ?_⟩
      rw [throughFirst, throughFirst, ite_self]
      exact .last hne h
  | @feed line rest others h hreturn hrest ih =>
      obtain ⟨front, hfront, hlined⟩ := ih
      by_cases hp : p line
      · refine ⟨line ++ ['\n'], ?_, ?_⟩
        · exact (List.prefix_append_right_inj _).2 (by simp)
        · rw [throughFirst, if_pos hp]
          exact .feed h hreturn .nil
      · refine ⟨line ++ '\n' :: front, ?_, ?_⟩
        · exact (List.prefix_append_right_inj _).2 (by simpa using hfront)
        · rw [throughFirst, if_neg hp]
          exact .feed h hreturn hlined
  | @returnFeed line rest others h hrest ih =>
      obtain ⟨front, hfront, hlined⟩ := ih
      by_cases hp : p line
      · refine ⟨line ++ ['\r', '\n'], ?_, ?_⟩
        · exact (List.prefix_append_right_inj _).2 (by simp)
        · rw [throughFirst, if_pos hp]
          exact .returnFeed h .nil
      · refine ⟨line ++ '\r' :: '\n' :: front, ?_, ?_⟩
        · exact (List.prefix_append_right_inj _).2 (by simpa using hfront)
        · rw [throughFirst, if_neg hp]
          exact .returnFeed h hlined

end Elementwise.Command
