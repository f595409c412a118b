import Elementwise.Eval.Arithmetic
import Elementwise.Eval.Term
import Elementwise.Proofs.Outcome

/-!
Queries with a predicate.  Those that count or pick items do it with the items that a filter would
keep, faults of the filter included.  `Any` and `All` stop at the first item that decides, so they can
give an answer where the filter faults on a later item; where it does not, `Any` tells whether it
keeps an item, and in any case `All` of a predicate is the opposite of `Any` of the negated one.
-/

namespace Elementwise

/-- Whether a query works on the items for which its predicate holds, or on all items without one. -/
def Query.isOfMatching : Query → Bool
  | count | first | firstOrDefault _ | last | lastOrDefault _ => true
  | _ => false

namespace Eval

variable {p : ItemFunction} {items kept : List Value} {args : List Value} {v : Value} {q : Query}

/-- The predicate of an item is a truth value, if it does not fault. -/
def IsPredicate (p : ItemFunction) (items : List Value) : Prop :=
  ∀ v ∈ items, Ensures (fun b => ∃ holds, b = Value.boolean holds) (p v)

/-- The function `!p`. -/
def negated (p : ItemFunction) : ItemFunction := fun v => do
  unary .not (← p v)

/-! ### Filtering first -/

theorem keep_cons_eq_ok (h : keep p (v :: items) = .ok kept) :
    ∃ b others, holds p v = .ok b ∧ keep p items = .ok others ∧
      kept = if b then v :: others else others := by
  obtain ⟨b, hb, h⟩ := bind_eq_ok h
  obtain ⟨others, hothers, h⟩ := bind_eq_ok h
  exact ⟨b, others, hb, hothers, (Except.ok.inj h).symm⟩

theorem query_filter (p : ItemFunction) (items args : List Value) :
    query .filter items (some p) args = (keep p items).map .array := by
  show (keep p items >>= fun kept => .ok (Value.array kept)) = _
  cases keep p items <;> rfl

theorem keep_of_query_filter (h : query .filter items (some p) args = .ok (.array kept)) :
    keep p items = .ok kept := by
  rw [query_filter] at h
  obtain ⟨kept', hkeep, harray⟩ := map_eq_ok h
  cases harray
  exact hkeep

/-- The items that a filter keeps, as the items of the next query. -/
theorem filtered_items (p : ItemFunction) (items args : List Value) (q : Query) :
    (query .filter items (some p) args >>= itemsOf q) = keep p items := by
  rw [query_filter]
  cases keep p items <;> rfl

theorem query_of_matching (hq : q.isOfMatching = true) (body : Option ItemFunction) :
    query q items body args = matching items body >>= fun kept => query q kept none args := by
  cases q with
  | count | first | firstOrDefault | last | lastOrDefault =>
      rw [query]
      cases matching items body <;> rfl
  | _ => cases hq

/-! ### Stopping early -/

theorem holds_negated (hv : Ensures (fun b => ∃ holds, b = Value.boolean holds) (p v)) :
    holds (negated p) v = (holds p v).map not := by
  rw [holds, holds, negated]
  generalize p v = o at hv
  cases hv with
  | ok h =>
      obtain ⟨b, rfl⟩ := h
      rfl
  | error => rfl

/-- All items have the property unless one of them lacks it, and a fault on the way is the same. -/
theorem allM_eq_not_anyM (hp : IsPredicate p items) :
    items.allM (holds p) = (items.anyM (holds (negated p))).map not := by
  induction items with
  | nil => rfl
  | cons v vs ih =>
      obtain ⟨hv, hvs⟩ := List.forall_mem_cons.1 hp
      rw [List.allM, List.anyM, holds_negated hv, ih hvs]
      cases holds p v with
      | error f => rfl
      | ok b => cases b <;> rfl

theorem anyM_of_keep (h : keep p items = .ok kept) :
    items.anyM (holds p) = .ok !kept.isEmpty := by
  induction items generalizing kept with
  | nil =>
      cases h
      rfl
  | cons v vs ih =>
      obtain ⟨b, others, hb, hothers, rfl⟩ := keep_cons_eq_ok h
      rw [List.anyM, hb, ok_bind]
      cases b with
      | true => rfl
      | false => exact ih hothers

/-! ### Queries -/

/-- Counting and picking with a predicate is filtering first, a fault of which is the result. -/
theorem query_filtered (hp : IsPredicate p items) (args : List Value) :
    (∀ q : Query, q.isOfMatching = true →
      query q items (some p) args =
        (query .filter items (some p) args >>= itemsOf q) >>= fun kept => query q kept none args) ∧
    query .all items (some p) args =
      (query .any items (some (negated p)) args >>= unary .not) ∧
    ∀ kept, query .filter items (some p) args = .ok (.array kept) →
      query .any items (some p) args = .ok (.boolean !kept.isEmpty) := by
  refine ⟨fun q hq => ?_, ?_, fun kept hkept => ?_⟩
  · rw [filtered_items]
    exact query_of_matching hq (some p)
  · show (items.allM (holds p) >>= fun b => .ok (Value.boolean b)) =
      ((items.anyM (holds (negated p)) >>= fun b => .ok (Value.boolean b)) >>= unary .not)
    rw [allM_eq_not_anyM hp]
    cases items.anyM (holds (negated p)) <;> rfl
  · show (items.anyM (holds p) >>= fun b => .ok (Value.boolean b)) = _
    rw [anyM_of_keep (keep_of_query_filter hkept)]
    rfl

/-- Of the quotients of 6 by 1, 2 and 0 the first is not 3, the second is 3 and the third faults. -/
theorem query_filtered_quotients :
    let p : ItemFunction := fun v => do
      let quotient ← binaryOn .divide false (.int32 (.wrap .int32 6)) v
      binaryOn .equal false quotient (.int32 (.wrap .int32 3))
    let items := [1, 2, 0].map fun n : Int => Value.int32 (.wrap .int32 n)
    IsPredicate p items ∧
      query .last items (some p) [] = ((query .filter items (some p) [] >>= itemsOf .last) >>=
        fun kept => query .last kept none []) ∧
      query .filter items (some p) [] = .error .divisionByZero ∧
      query .all items (some p) [] =
        (query .any items (some (negated p)) [] >>= unary .not) ∧
      query .all items (some p) [] = .ok (.boolean false) := by
  intro p items
  have hp : IsPredicate p items := by
    refine List.forall_mem_cons.2 ⟨.ok ⟨false, rfl⟩, List.forall_mem_cons.2 ⟨.ok ⟨true, rfl⟩, ?_⟩⟩
    exact List.forall_mem_singleton.2 .error
  obtain ⟨hmatching, hall, -⟩ := query_filtered hp []
  exact ⟨hp, hmatching .last rfl, rfl, hall, rfl⟩

end Eval

end Elementwise
