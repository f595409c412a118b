import Elementwise.Eval.Query
import Elementwise.Proofs.Order.Rank

/-!
Sorting by key.  The order of values is a total preorder on values of all kinds, and sorting items by
key arranges them in that order, or against it, without a change of order among items whose keys are
equal in it.

Extrema are the ends of a sorting.  A single pass that changes its candidate only for a value that
comes strictly before it ends with the first of those values that may stand before all, and a stable
sorting puts this very value in front; so they agree on ties too, where values that are equal in the
order differ in scale or sign.
-/

namespace Elementwise

namespace Value

instance : Std.TransCmp sortOrder :=
  have heq : sortOrder = compareOn rank := funext fun a => funext (sortOrder_eq a)
  heq ▸ inferInstance

theorem sortOrder_swap (a b : Value) : a.sortOrder b = (b.sortOrder a).swap :=
  Std.OrientedCmp.eq_swap

theorem sortOrder_trans {a b c : Value} (hab : (a.sortOrder b).isLE) (hbc : (b.sortOrder c).isLE) :
    (a.sortOrder c).isLE :=
  Std.TransCmp.isLE_trans hab hbc

end Value

namespace Eval

variable {items sorted : List Value} {f : ItemFunction} {key : Value → Value}
  {descending : Bool} {a b c : Value}

/-- The sorted items are the given ones, in the order of their keys or against it, and those whose
keys are equal in that order stand as they are given. -/
structure StablySorted (descending : Bool) (key : Value → Value) (items sorted : List Value) :
    Prop where
  perm : sorted.Perm items
  ordered : sorted.Pairwise fun v w =>
    (key v).sortOrder (key w) ≠ if descending then .lt else .gt
  stable : ∀ k : Value, sorted.filter (fun v => (key v).sortOrder k = .eq) =
    items.filter fun v => (key v).sortOrder k = .eq

/-! ### Keys -/

theorem keyBefore_iff : keyBefore descending a b ↔
    a.sortOrder b ≠ if descending then .lt else .gt := by
  cases descending with
  | true =>
      show (b.sortOrder a).isLE = true ↔ _
      rw [Value.sortOrder_swap b a]
      cases a.sortOrder b <;> decide
  | false =>
      show (a.sortOrder b).isLE = true ↔ _
      cases a.sortOrder b <;> decide

theorem keyBefore_trans (hab : keyBefore descending a b) (hbc : keyBefore descending b c) :
    keyBefore descending a c := by
  cases descending with
  | true => exact Value.sortOrder_trans hbc hab
  | false => exact Value.sortOrder_trans hab hbc

theorem keyBefore_total (a b : Value) : keyBefore descending a b || keyBefore descending b a := by
  rw [Bool.or_eq_true, keyBefore_iff, keyBefore_iff, Value.sortOrder_swap b a]
  cases descending <;> cases a.sortOrder b <;> decide

/-- Keys that are equal to one key may stand in either order. -/
theorem keyBefore_of_eq {k : Value} (ha : a.sortOrder k = .eq) (hb : b.sortOrder k = .eq) :
    keyBefore descending a b := by
  have hkb : k.sortOrder b = .eq := Std.OrientedCmp.eq_symm hb
  have hab : a.sortOrder b = .eq := Std.TransCmp.eq_trans ha hkb
  rw [keyBefore_iff, hab]
  cases descending <;> decide

/-! ### Items -/

/-- Whether one item may stand before another. -/
def itemBefore (descending : Bool) (key : Value → Value) (v w : Value) : Bool :=
  keyBefore descending (key v) (key w)

theorem mergeSort_stablySorted (descending : Bool) (key : Value → Value) (items : List Value) :
    StablySorted descending key items (items.mergeSort (itemBefore descending key)) := by
  have htrans : ∀ u v w, itemBefore descending key u v → itemBefore descending key v w →
      itemBefore descending key u w := fun u v w => keyBefore_trans
  have htotal : ∀ v w, itemBefore descending key v w || itemBefore descending key w v :=
    fun v w => keyBefore_total _ _
  have hperm := List.mergeSort_perm items (itemBefore descending key)
  refine ⟨hperm, ?_, fun k => ?_⟩
  · exact (List.pairwise_mergeSort htrans htotal items).imp fun h => keyBefore_iff.1 h
  · -- the items of one key are sorted already, so they stand in this order among all
    let equal := fun v => decide ((key v).sortOrder k = .eq)
    have hsorted : (items.filter equal).Pairwise fun v w => itemBefore descending key v w := by
      refine List.pairwise_of_forall_mem_list fun v hv w hw => ?_
      exact keyBefore_of_eq (of_decide_eq_true (List.mem_filter.1 hv).2)
        (of_decide_eq_true (List.mem_filter.1 hw).2)
    have hsub := List.sublist_mergeSort htrans htotal hsorted List.filter_sublist
    have hsub := hsub.filter equal
    rw [List.filter_filter] at hsub
    simp only [Bool.and_self] at hsub
    exact (hsub.eq_of_length (hperm.filter equal).length_eq.symm).symm

theorem project_ok (h : ∀ v ∈ items, f v = .ok (key v)) :
    project f items = .ok (items.map key) := by
  induction items with
  | nil => rfl
  | cons v vs ih =>
      obtain ⟨hv, hvs⟩ := List.forall_mem_cons.1 h
      rw [project, hv, ih hvs]
      rfl

theorem sortByKey_ok (descending : Bool) (h : ∀ v ∈ items, f v = .ok (key v)) :
    sortByKey items f descending = .ok (items.mergeSort (itemBefore descending key)) := by
  have hzip : (items.map key).zip items = items.map fun v => (key v, v) := by
    conv => lhs; rw [← List.map_id items, List.map_map, List.zip_map']
    rfl
  have hsort : ((items.map fun v => (key v, v)).mergeSort
        fun a b => keyBefore descending a.1 b.1).map (·.2) =
      items.mergeSort (itemBefore descending key) := by
    rw [List.map_mergeSort (s := itemBefore descending key), List.map_map]
    · exact congrArg (List.mergeSort · _) (List.map_id items)
    · intro a ha b hb
      obtain ⟨v, -, rfl⟩ := List.mem_map.1 ha
      obtain ⟨w, -, rfl⟩ := List.mem_map.1 hb
      rfl
  rw [sortByKey, project_ok h]
  show Except.ok (((items.map key).zip items).mergeSort _ |>.map _) = _
  rw [hzip, hsort]

/-! ### Queries -/

/-- The order of values is a total preorder, and a query that orders items by keys, none of which
faults, returns them stably sorted. -/
theorem query_orderBy_sorts :
    (∀ a : Value, a.sortOrder a = .eq) ∧
    (∀ a b : Value, a.sortOrder b = (b.sortOrder a).swap) ∧
    (∀ a b c : Value, (a.sortOrder b).isLE → (b.sortOrder c).isLE → (a.sortOrder c).isLE) ∧
    ∀ (descending : Bool) (items : List Value) (f : ItemFunction) (key : Value → Value)
      (args : List Value), (∀ v ∈ items, f v = .ok (key v)) →
      ∃ sorted, query (.orderBy descending) items (some f) args = .ok (.array sorted) ∧
        StablySorted descending key items sorted := by
  refine ⟨fun a => Std.ReflCmp.compare_self, Value.sortOrder_swap,
    fun a b c => Value.sortOrder_trans, fun descending items f key args h => ?_⟩
  refine ⟨_, ?_, mergeSort_stablySorted descending key items⟩
  show (sortByKey items f descending >>= fun sorted => .ok (Value.array sorted)) = _
  rw [sortByKey_ok descending h]
  rfl

theorem query_orderBy_sorts_mixed :
    ∃ sorted, query (.orderBy true) [.string "b", .null, .boolean true, .string "a"]
        (some fun v => .ok (.string v.kindName)) [] = .ok (.array sorted) ∧
      StablySorted true (fun v => .string v.kindName)
        [.string "b", .null, .boolean true, .string "a"] sorted :=
  query_orderBy_sorts.2.2.2 true [.string "b", .null, .boolean true, .string "a"]
    (fun v => .ok (.string v.kindName)) (fun v => .string v.kindName) [] fun _ _ => rfl

end Eval

namespace Eval

variable {items values : List Value} {descending : Bool} {m m' v : Value}

/-- The value may stand before all others, and is the first of those that are equal to it in the
order. -/
structure IsForemost (descending : Bool) (values : List Value) (m : Value) : Prop where
  before : ∀ v ∈ values, keyBefore descending m v
  first : (values.filter fun v => v.sortOrder m = .eq).head? = some m

/-! ### Equal values -/

theorem keyBefore_refl (descending : Bool) (v : Value) : keyBefore descending v v :=
  keyBefore_of_eq (k := v) Std.ReflCmp.compare_self Std.ReflCmp.compare_self

theorem head?_filter_self (v : Value) (others : List Value) :
    ((v :: others).filter fun u => u.sortOrder v = .eq).head? = some v := by
  have hself : v.sortOrder v = .eq := Std.ReflCmp.compare_self
  rw [List.filter_cons, if_pos (decide_eq_true hself), List.head?_cons]

/-- Values that may stand before each other are equal in the order. -/
theorem sortOrder_eq_iff (descending : Bool) :
    v.sortOrder m = .eq ↔ keyBefore descending v m ∧ keyBefore descending m v := by
  rw [keyBefore_iff, keyBefore_iff, Value.sortOrder_swap m v]
  cases descending <;> cases v.sortOrder m <;> decide

theorem IsForemost.mem (h : IsForemost descending values m) : m ∈ values :=
  List.mem_of_mem_filter (List.mem_of_head? h.first)

/-- There is one foremost value at most, whatever values are equal in the order. -/
theorem IsForemost.unique (h : IsForemost descending values m)
    (h' : IsForemost descending values m') : m = m' := by
  have heq : m.sortOrder m' = .eq :=
    (sortOrder_eq_iff descending).2 ⟨h.before m' h'.mem, h'.before m h.mem⟩
  have hsame : (fun v : Value => decide (v.sortOrder m = .eq)) =
      fun v => decide (v.sortOrder m' = .eq) := by
    funext v
    rw [Std.TransCmp.congr_right heq]
  have hfirst := h.first
  rw [hsame, h'.first] at hfirst
  exact (Option.some.inj hfirst).symm

/-! ### The ends of a sorting -/

/-- The first of the values that are stably sorted by themselves. -/
theorem StablySorted.isForemost {others : List Value}
    (h : StablySorted descending id items (m :: others)) : IsForemost descending items m where
  before v hv := by
    rcases List.mem_cons.1 (h.perm.mem_iff.2 hv) with rfl | hv
    · exact keyBefore_refl descending v
    · exact keyBefore_iff.2 (List.rel_of_pairwise_cons h.ordered hv)
  first := by
    have hstable := h.stable m
    simp only [id] at hstable
    rw [← hstable, head?_filter_self]

/-- A query that orders values by themselves puts the foremost one in front. -/
theorem exists_orderBy_self (descending : Bool) (args : List Value) (h : values ≠ []) :
    ∃ m others, query (.orderBy descending) values (some fun v => .ok v) args =
      .ok (.array (m :: others)) ∧ IsForemost descending values m := by
  obtain ⟨sorted, hquery, hsorted⟩ :=
    query_orderBy_sorts.2.2.2 descending values (fun v => .ok v) id args fun _ _ => rfl
  cases sorted with
  | nil => exact absurd hsorted.perm.symm.eq_nil h
  | cons m others => exact ⟨m, others, hquery, hsorted.isForemost⟩

/-! ### A single pass -/

/-- What the order says of a value that comes strictly before another. -/
def towards (descending : Bool) : Ordering :=
  if descending then .gt else .lt

theorem sortOrder_eq_towards_iff :
    v.sortOrder m = towards descending ↔ keyBefore descending m v = false := by
  rw [← Bool.not_eq_true, keyBefore_iff, Value.sortOrder_swap m v]
  cases descending <;> cases v.sortOrder m <;> decide

/-- A candidate stays unless the next value comes strictly before it. -/
def candidate (descending : Bool) (current : Option Value) (v : Value) : Option Value :=
  match current with
  | some c => if v.sortOrder c = towards descending then some v else some c
  | none => some v

theorem IsForemost.replace (h : IsForemost descending values m)
    (hv : v.sortOrder m = towards descending) : IsForemost descending (values ++ [v]) v := by
  have hnot : keyBefore descending m v = false := sortOrder_eq_towards_iff.1 hv
  have hbefore : keyBefore descending v m := by
    have htotal : (keyBefore descending m v || keyBefore descending v m) = true :=
      keyBefore_total m v
    rwa [hnot, Bool.false_or] at htotal
  -- a value equal to the new one would come strictly before the old candidate as well
  have hnone : values.filter (fun u => u.sortOrder v = .eq) = [] := by
    refine List.filter_eq_nil_iff.2 fun u hu heq => ?_
    have hequal := (sortOrder_eq_iff descending).1 (of_decide_eq_true heq)
    have hmv := keyBefore_trans (h.before u hu) hequal.1
    rw [hnot] at hmv
    cases hmv
  constructor
  · intro u hu
    rcases List.mem_append.1 hu with hu | hu
    · exact keyBefore_trans hbefore (h.before u hu)
    · rw [List.mem_singleton.1 hu]
      exact keyBefore_refl descending v
  · rw [List.filter_append, hnone, List.nil_append, head?_filter_self]

theorem IsForemost.stay (h : IsForemost descending values m)
    (hv : v.sortOrder m ≠ towards descending) : IsForemost descending (values ++ [v]) m := by
  constructor
  · intro u hu
    rcases List.mem_append.1 hu with hu | hu
    · exact h.before u hu
    · rw [List.mem_singleton.1 hu]
      rw [Ne, sortOrder_eq_towards_iff, Bool.not_eq_false] at hv
      exact hv
  · rw [List.filter_append, List.head?_append, h.first, Option.some_or]

theorem isForemost_singleton (descending : Bool) (v : Value) :
    IsForemost descending [v] v := by
  constructor
  · intro u hu
    rw [List.mem_singleton.1 hu]
    exact keyBefore_refl descending v
  · exact head?_filter_self v []

/-- After one more value the candidate is still the foremost value so far. -/
theorem IsForemost.step (h : IsForemost descending values m) (v : Value) :
    ∃ m', candidate descending (some m) v = some m' ∧
      IsForemost descending (values ++ [v]) m' := by
  rw [candidate]
  split
  · rename_i hv
    exact ⟨v, rfl, h.replace hv⟩
  · rename_i hv
    exact ⟨m, rfl, h.stay hv⟩

theorem IsForemost.foldl (h : IsForemost descending values m) (others : List Value) :
    ∃ m', others.foldl (candidate descending) (some m) = some m' ∧
      IsForemost descending (values ++ others) m' := by
  induction others generalizing values m with
  | nil =>
      rw [List.append_nil]
      exact ⟨m, rfl, h⟩
  | cons v vs ih =>
      obtain ⟨m₁, hm₁, h₁⟩ := h.step v
      obtain ⟨m₂, hm₂, h₂⟩ := ih h₁
      rw [List.foldl_cons, hm₁]
      rw [List.append_assoc] at h₂
      exact ⟨m₂, hm₂, h₂⟩

/-- The extreme of values is the foremost of those that are there. -/
theorem extreme_isForemost (descending : Bool) (h : values.filter (!·.isNull) ≠ []) :
    IsForemost descending (values.filter (!·.isNull)) (extreme (towards descending) values) := by
  have hextreme : extreme (towards descending) values =
      ((values.filter (!·.isNull)).foldl (candidate descending) none).getD .null := rfl
  rw [hextreme]
  cases hpresent : values.filter (!·.isNull) with
  | nil => exact absurd hpresent h
  | cons v vs =>
      obtain ⟨m, hm, hforemost⟩ := (isForemost_singleton descending v).foldl vs
      rw [List.foldl_cons, candidate, hm, Option.getD_some]
      exact hforemost

/-- The extreme is `null` only if there is no other value. -/
theorem extreme_eq_null_iff (descending : Bool) :
    extreme (towards descending) values = .null ↔ ∀ v ∈ values, v = .null := by
  constructor
  · intro hextreme
    by_cases h : values.filter (!·.isNull) = []
    · intro v hv
      have hnull : v.isNull = true := by
        simpa using List.filter_eq_nil_iff.1 h v hv
      cases v with
      | null => rfl
      | _ => cases hnull
    · have hmem := (extreme_isForemost descending h).mem
      rw [hextreme] at hmem
      cases (List.mem_filter.1 hmem).2
  · intro h
    have hnone : values.filter (!·.isNull) = [] := by
      refine List.filter_eq_nil_iff.2 fun v hv => ?_
      rw [h v hv]
      exact Bool.false_ne_true
    rw [extreme, hnone]
    rfl

theorem extreme_filter (wanted : Ordering) (values : List Value) :
    extreme wanted (values.filter (!·.isNull)) = extreme wanted values := by
  rw [extreme, extreme, List.filter_filter]
  simp only [Bool.and_self]

/-! ### Queries for extrema -/

theorem query_extremum (descending : Bool) (args : List Value) (h : items ≠ []) :
    query (if descending then .max else .min) items none args =
      .ok (extreme (towards descending) items) := by
  cases items with
  | nil => exact absurd rfl h
  | cons v vs => cases descending <;> rfl

/-- Without a selector the minimum of values is the very value that sorting them puts first, and the
maximum the one that sorting them downwards does.  Both leave out what is `null`, and are `null` only
if all values are. -/
theorem query_extremum_sorted (descending : Bool) (args : List Value) (hne : items ≠ []) :
    ((∀ v ∈ items, v.isNull = false) →
      ∃ m others,
        query (.orderBy descending) items (some fun v => .ok v) args =
          .ok (.array (m :: others)) ∧
        query (if descending then .max else .min) items none args = .ok m) ∧
    (items.filter (!·.isNull) ≠ [] →
      query (if descending then .max else .min) items none args =
        query (if descending then .max else .min) (items.filter (!·.isNull)) none args) ∧
    (query (if descending then .max else .min) items none args = .ok .null ↔
      ∀ v ∈ items, v = .null) := by
  refine ⟨fun hnull => ?_, fun hpresent => ?_, ?_⟩
  · have hall : items.filter (!·.isNull) = items := by
      refine List.filter_eq_self.2 fun v hv => ?_
      rw [hnull v hv]
      rfl
    obtain ⟨m, others, hsort, hforemost⟩ := exists_orderBy_self descending args hne
    have hextreme : IsForemost descending (items.filter (!·.isNull))
        (extreme (towards descending) items) :=
      extreme_isForemost descending (by rwa [hall])
    rw [hall] at hextreme
    refine ⟨m, others, hsort, ?_⟩
    rw [hforemost.unique hextreme]
    exact query_extremum descending args hne
  · rw [query_extremum descending args hne, query_extremum descending args hpresent,
      extreme_filter]
  · rw [query_extremum descending args hne, Except.ok.injEq, extreme_eq_null_iff]

/-- Of 2, 1.00 and 1.0 the least is 1.00, the first of the two that are equal. -/
theorem query_extremum_sorted_scales :
    let items : List Value := [.decimal ⟨false, 2, 0, by decide, by decide⟩,
      .decimal ⟨false, 100, 2, by decide, by decide⟩, .decimal ⟨false, 10, 1, by decide, by decide⟩]
    items ≠ [] ∧ (∀ v ∈ items, v.isNull = false) ∧
      ∃ m others,
        query (.orderBy false) items (some fun v => .ok v) [] = .ok (.array (m :: others)) ∧
        query .min items none [] = .ok m ∧
        query .min items none [] = .ok (.decimal ⟨false, 100, 2, by decide, by decide⟩) := by
  intro items
  have hnull : ∀ v ∈ items, v.isNull = false := by
    simp [items, Value.decimal, Value.isNull]
  obtain ⟨m, others, hsort, hmin⟩ := (query_extremum_sorted false [] (by simp [items])).1 hnull
  exact ⟨by simp [items], hnull, m, others, hsort, hmin, by rfl⟩

end Eval

end Elementwise
