import Elementwise.Proofs.Query.Predicate
import Elementwise.Proofs.Value.Equality
import Mathlib.Data.List.Induction

/-!
Queries that pass items on.  They lose and repeat none but those that they are asked to: `Take` and
`Skip` share a list between them, a filter keeps what its predicate holds for, `Reverse` undoes
itself, and `Distinct` keeps those items that equal no earlier one.  Values that equal nothing, not
even themselves, are distinct from all and stay.
-/

namespace Elementwise.Eval

variable {p : ItemFunction} {items kept before : List Value} {u v : Value}

/-! ### Filtering -/

theorem holds_eq_true_iff : holds p v = .ok true ↔ p v = .ok (.boolean true) := by
  rw [holds]
  constructor
  · intro h
    obtain ⟨r, hr, htruth⟩ := bind_eq_ok h
    cases r with
    | boolean b =>
        cases htruth
        exact hr
    | _ => cases htruth
  · intro h
    rw [h]
    rfl

theorem keep_sublist (h : keep p items = .ok kept) : kept.Sublist items := by
  induction items generalizing kept with
  | nil =>
      cases h
      exact .slnil
  | cons v vs ih =>
      obtain ⟨b, others, hb, hothers, rfl⟩ := keep_cons_eq_ok h
      cases b with
      | true => exact (ih hothers).cons_cons v
      | false => exact (ih hothers).cons v

theorem mem_keep (h : keep p items = .ok kept) :
    v ∈ kept ↔ v ∈ items ∧ p v = .ok (.boolean true) := by
  induction items generalizing kept with
  | nil =>
      cases h
      simp only [List.not_mem_nil, false_and]
  | cons u us ih =>
      obtain ⟨b, others, hb, hothers, rfl⟩ := keep_cons_eq_ok h
      rw [← holds_eq_true_iff] at ih ⊢
      rw [List.mem_cons, or_and_right, ← ih hothers]
      cases b with
      | true =>
          have hu : v = u → holds p v = .ok true := fun huv => huv ▸ hb
          rw [if_pos rfl, List.mem_cons, and_iff_left_of_imp hu]
      | false =>
          have hu : ¬(v = u ∧ holds p v = .ok true) := by
            rintro ⟨rfl, hv⟩
            cases hb.symm.trans hv
          rw [if_neg Bool.false_ne_true, or_iff_right hu]

/-! ### Distinct items -/

theorem memberOf_append_singleton (before : List Value) (u v : Value) :
    memberOf v (before ++ [u]) = (memberOf v before || u.same v) := by
  rw [memberOf, List.any_append, List.any_cons, List.any_nil, Bool.or_false]
  rfl

/-- What equals a member equals what that is equal to. -/
theorem memberOf_of_same (hu : memberOf u items = true) (huv : u.same v = true) :
    memberOf v items = true := by
  obtain ⟨w, hw, hwu⟩ := List.any_eq_true.1 hu
  exact List.any_eq_true.2 ⟨w, hw, Value.same_trans hwu huv⟩

theorem distinct_step (before : List Value) (v : Value) :
    distinct (before ++ [v]) =
      if memberOf v (distinct before) then distinct before else distinct before ++ [v] := by
  rw [distinct, List.foldl_append]
  rfl

/-- A value that equals an item equals a distinct one. -/
theorem memberOf_distinct (v : Value) (items : List Value) :
    memberOf v (distinct items) = memberOf v items := by
  induction items using List.reverseRecOn generalizing v with
  | nil => rfl
  | append_singleton before u ih =>
      rw [distinct_step, memberOf_append_singleton, ih u]
      split
      · rename_i hu
        rw [ih v]
        cases huv : u.same v with
        | true => rw [memberOf_of_same hu huv, Bool.or_true]
        | false => rw [Bool.or_false]
      · rw [memberOf_append_singleton, ih v]

/-- The next item is kept unless it equals an earlier one, kept or not. -/
theorem distinct_append_singleton (before : List Value) (v : Value) :
    distinct (before ++ [v]) = distinct before ++ if memberOf v before then [] else [v] := by
  rw [distinct_step, memberOf_distinct]
  split
  · rw [List.append_nil]
  · rfl

theorem distinct_sublist (items : List Value) : (distinct items).Sublist items := by
  induction items using List.reverseRecOn with
  | nil => exact .slnil
  | append_singleton before v ih =>
      rw [distinct_append_singleton]
      refine ih.append ?_
      split
      · exact List.nil_sublist _
      · exact .refl _

theorem distinct_pairwise (items : List Value) :
    (distinct items).Pairwise fun u v => u.same v = false := by
  induction items using List.reverseRecOn with
  | nil => exact .nil
  | append_singleton before v ih =>
      rw [distinct_step]
      split
      · exact ih
      · rename_i hnone
        rw [Bool.not_eq_true] at hnone
        refine List.pairwise_append.2 ⟨ih, List.pairwise_singleton _ _, fun u hu w hw => ?_⟩
        rw [List.mem_singleton.1 hw, ← Bool.not_eq_true]
        exact List.any_eq_false.1 hnone u hu

/-- Items of which no two are equal are distinct as they are. -/
theorem distinct_of_pairwise (h : items.Pairwise fun u v => u.same v = false) :
    distinct items = items := by
  induction items using List.reverseRecOn with
  | nil => rfl
  | append_singleton before v ih =>
      obtain ⟨hbefore, -, hv⟩ := List.pairwise_append.1 h
      have hnone : memberOf v before = false := by
        refine List.any_eq_false.2 fun u hu => ?_
        rw [Bool.not_eq_true]
        exact hv u hu v (List.mem_singleton_self v)
      rw [distinct_append_singleton, ih hbefore, hnone]
      rfl

/-- The items that are kept are those that equal none of the items before them. -/
theorem distinct_eq_filter (items : List Value) :
    distinct items =
      (items.zipIdx.filter fun item => !memberOf item.1 (items.take item.2)).map (·.1) := by
  induction items using List.reverseRecOn with
  | nil => rfl
  | append_singleton before v ih =>
      have hbefore :
          before.zipIdx.filter (fun item => !memberOf item.1 ((before ++ [v]).take item.2)) =
            before.zipIdx.filter fun item => !memberOf item.1 (before.take item.2) := by
        refine List.filter_congr fun item hitem => ?_
        rw [List.take_append_of_le_length (List.snd_lt_of_mem_zipIdx hitem).le]
      have hv : (before ++ [v]).take before.length = before := List.take_left
      rw [distinct_append_singleton, ih, List.zipIdx_append, List.filter_append, List.map_append,
        hbefore, List.zipIdx_singleton, Nat.zero_add, List.filter_cons, hv]
      cases memberOf v before <;> rfl

/-! ### Queries -/

/-- `Take` and `Skip` of one number cut a list in two, and two reversals cancel.  What a filter or
`Distinct` keeps stands in the order of the items; the filter keeps what the predicate holds for, and
`Distinct` the items that equal no earlier one, so that no two of them are equal, each item that
equals itself equals one of them, and they are distinct as they are. -/
theorem query_passes_items (items : List Value) (body : Option ItemFunction)
    (args : List Value) :
    (∀ n : Number.Word .int32, ∃ taken skipped,
      query .take items body [.int32 n] = .ok (.array taken) ∧
      query .skip items body [.int32 n] = .ok (.array skipped) ∧
      taken ++ skipped = items ∧ taken.length = min n.val.toNat items.length) ∧
    (∀ (p : ItemFunction) (kept : List Value),
      query .filter items (some p) args = .ok (.array kept) →
      kept.Sublist items ∧ ∀ v, v ∈ kept ↔ v ∈ items ∧ p v = .ok (.boolean true)) ∧
    (∃ kept, query .distinct items body args = .ok (.array kept) ∧
      kept.Sublist items ∧
      kept.Pairwise (fun u v => u.same v = false ∧ v.same u = false) ∧
      (∀ v ∈ items, v.same v = true → ∃ u ∈ kept, u.same v = true) ∧
      kept = (items.zipIdx.filter fun item =>
        (items.take item.2).all fun u => !u.same item.1).map (·.1) ∧
      query .distinct kept body args = .ok (.array kept)) ∧
    ∃ turned, query .reverse items body args = .ok (.array turned) ∧
      query .reverse turned body args = .ok (.array items) := by
  refine ⟨fun n => ?_, fun p kept hkept => ?_, ?_, ?_⟩
  · refine ⟨items.take n.val.toNat, items.drop n.val.toNat, rfl, rfl, ?_, List.length_take⟩
    exact List.take_append_drop n.val.toNat items
  · have hkeep := keep_of_query_filter hkept
    exact ⟨keep_sublist hkeep, fun v => mem_keep hkeep⟩
  · refine ⟨distinct items, rfl, distinct_sublist items, ?_, fun v hv hself => ?_, ?_, ?_⟩
    · refine (distinct_pairwise items).imp fun {u v} huv => ⟨huv, ?_⟩
      rw [← Bool.not_eq_true] at huv ⊢
      exact fun hvu => huv (Value.same_symm hvu)
    · have hmem : memberOf v (distinct items) = true := by
        rw [memberOf_distinct]
        exact List.any_eq_true.2 ⟨v, hv, hself⟩
      exact List.any_eq_true.1 hmem
    · rw [distinct_eq_filter]
      simp only [memberOf, List.not_any_eq_all_not]
    · show Except.ok (Value.array (distinct (distinct items))) = _
      rw [distinct_of_pairwise (distinct_pairwise items)]
  · refine ⟨items.reverse, rfl, ?_⟩
    show Except.ok (Value.array items.reverse.reverse) = _
    rw [List.reverse_reverse]

/-- Of 1.0, what is no number and 1.00, those that equal themselves are filtered, and the first stands
for the last among the distinct ones. -/
theorem query_passes_items_scales :
    let short := Value.decimal ⟨false, 10, 1, by decide, by decide⟩
    let long := Value.decimal ⟨false, 100, 2, by decide, by decide⟩
    let items := [short, .double (0 / 0), long]
    query .filter items (some fun v => .ok (.boolean (v.same v))) [] =
        .ok (.array [short, long]) ∧
      [short, long].Sublist items ∧ long.same long = true ∧
      ∃ kept u, query .distinct items none [] = .ok (.array kept) ∧ u ∈ kept ∧
        u.same long = true := by
  intro short long items
  have hfilter : query .filter items (some fun v => .ok (.boolean (v.same v))) [] =
      .ok (.array [short, long]) := by
    rfl
  obtain ⟨-, hsublist, ⟨kept, hdistinct, -, -, hequal, -⟩, -⟩ := query_passes_items items none []
  have hself : long.same long = true := by decide
  obtain ⟨u, hu, hsame⟩ := hequal long (by simp [items]) hself
  exact ⟨hfilter, (hsublist _ _ hfilter).1, hself, kept, u, hdistinct, hu, hsame⟩

end Elementwise.Eval
