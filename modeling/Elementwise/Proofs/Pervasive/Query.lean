import Elementwise.Proofs.Hereditary.Operator
import Elementwise.Proofs.Pervasive.Value
import Elementwise.Proofs.Soundness.Query

/-!
Queries keep pervasive properties: what comes out is made of items, of what the function of the query
makes of them, and of the default of a type.
-/

namespace Elementwise.Eval

open Number (NumericKind)
open Value (Pervasive)

variable {P : Value → Prop} {items values args : List Value} {body : Option ItemFunction}
  {f : ItemFunction}

/-- The function of a query, if it has one, gives values with the property for its items. -/
def FunctionEnsures (P : Value → Prop) (items : List Value) (body : Option ItemFunction) : Prop :=
  ∀ f, body = some f → ∀ v ∈ items, Ensures P (f v)

/-! ### Items and images -/

theorem keep_ensures (p : ItemFunction) (hi : ∀ v ∈ items, P v) :
    Ensures (fun vs => ∀ v ∈ vs, P v) (keep p items) := by
  induction items with
  | nil => exact .ok nofun
  | cons v vs ih =>
      obtain ⟨hv, hvs⟩ := List.forall_mem_cons.1 hi
      refine (Ensures.trivial (holds p v)).bind fun kept _ => (ih hvs).bind fun others ho => .ok ?_
      cases kept with
      | true => exact List.forall_mem_cons.2 ⟨hv, ho⟩
      | false => exact ho

theorem matching_ensures (body : Option ItemFunction) (hi : ∀ v ∈ items, P v) :
    Ensures (fun vs => ∀ v ∈ vs, P v) (matching items body) := by
  cases body with
  | none => exact .ok hi
  | some p => exact keep_ensures p hi

theorem project_ensures (hf : ∀ v ∈ items, Ensures P (f v)) :
    Ensures (fun vs => ∀ v ∈ vs, P v) (project f items) := by
  induction items with
  | nil => exact .ok nofun
  | cons v vs ih =>
      obtain ⟨hv, hvs⟩ := List.forall_mem_cons.1 hf
      exact hv.bind fun image himage => (ih hvs).bind fun others ho =>
        .ok (List.forall_mem_cons.2 ⟨himage, ho⟩)

theorem projected_ensures (hb : FunctionEnsures P items body) (hi : ∀ v ∈ items, P v) :
    Ensures (fun vs => ∀ v ∈ vs, P v) (projected items body) := by
  cases body with
  | none => exact .ok hi
  | some f => exact project_ensures (hb f rfl)

theorem requireBody_ensures (q : Query) (hb : FunctionEnsures P items body) :
    Ensures (fun f => ∀ v ∈ items, Ensures P (f v)) (requireBody q body) := by
  cases body with
  | none => exact .error
  | some f => exact .ok (hb f rfl)

theorem sortByKey_ensures (f : ItemFunction) (descending : Bool) (hi : ∀ v ∈ items, P v) :
    Ensures (fun vs => ∀ v ∈ vs, P v) (sortByKey items f descending) := by
  refine (Ensures.trivial (project f items)).bind fun keys _ => .ok fun v hv => ?_
  obtain ⟨⟨key, v⟩, hmem, rfl⟩ := List.mem_map.1 hv
  exact hi v (List.of_mem_zip (List.mem_mergeSort.1 hmem)).2

/-! ### Extrema and sums -/

theorem getD_of_forall {o : Option Value} {default : Value} (ho : ∀ v ∈ o, P v)
    (hd : P default) : P (o.getD default) := by
  cases o with
  | none => exact hd
  | some v => exact ho v rfl

section Sums

variable (hP : Pervasive P)
include hP

theorem extreme_of_forall (wanted : Ordering) (hv : ∀ v ∈ values, P v) :
    P (extreme wanted values) := by
  refine getD_of_forall ?_ (hP.plain rfl)
  have hnone : ∀ v ∈ (none : Option Value), P v := nofun
  refine List.foldlRecOn (motive := fun o => ∀ v ∈ o, P v) _ _ hnone fun o ho v hmem => ?_
  have hsome : ∀ w ∈ some v, P w := by
    rintro w ⟨⟩
    exact hv v (List.mem_filter.1 hmem).1
  split
  · split
    · exact hsome
    · exact ho
  · exact hsome

theorem extremum_ensures (q : Query) (wanted : Ordering) (hb : FunctionEnsures P items body)
    (hi : ∀ v ∈ items, P v) : Ensures P (extremum q wanted items body) := by
  refine (projected_ensures hb hi).bind fun values hv => ?_
  split
  · exact .error
  · exact .ok (extreme_of_forall hP wanted hv)

theorem sum_ensures (k : NumericKind) (values : List Value) : Ensures P (sum k values) := by
  unfold sum
  split
  · refine (Ensures.trivial (sumWords values)).bind fun n _ => ?_
    split
    · exact .ok (hP.plain rfl)
    · exact .error
  · exact ensures_plain hP _ fun _ => rfl
  · exact ensures_plain hP _ fun _ => rfl
  · exact ensures_plain hP _ fun _ => rfl
  · exact ensures_plain hP _ fun _ => rfl
  · exact .error

theorem average_ensures (k : NumericKind) (values : List Value) : Ensures P (average k values) := by
  unfold average
  dsimp only
  split
  · exact ensures_plain hP _ fun _ => rfl
  · exact ensures_plain hP _ fun _ => rfl
  · exact ensures_plain hP _ fun _ => rfl
  · exact ensures_plain hP _ fun _ => rfl
  · refine (Ensures.trivial (sumDecimals values)).bind fun d _ => ?_
    split
    · exact .ok (hP.plain rfl)
    · exact .error
  · exact .error

end Sums

/-! ### Queries -/

theorem itemOr_ensures (q : Query) {o : Option Value} (ho : ∀ v ∈ o, P v) :
    Ensures P (itemOr q o) := by
  cases o with
  | none => exact .error
  | some v => exact .ok (ho v rfl)

theorem sequence_ensures (hP : Pervasive P) {vs : Except Fault (List Value)}
    (h : Ensures (fun vs => ∀ v ∈ vs, P v) vs) : Ensures P (vs >>= fun vs => .ok (.array vs)) :=
  h.bind fun _ h => .ok (hP.array_iff.2 h)

theorem query_ensures (hP : Pervasive P) (q : Query) (hd : ∀ v, q.default? = some v → P v)
    (hb : FunctionEnsures P items body) (hi : ∀ v ∈ items, P v) :
    Ensures P (query q items body args) := by
  cases q with
  | select =>
      exact (requireBody_ensures _ hb).bind fun f hf => sequence_ensures hP (project_ensures hf)
  | filter =>
      exact (Ensures.trivial (requireBody _ body)).bind fun p _ =>
        sequence_ensures hP (keep_ensures p hi)
  | orderBy descending =>
      exact (Ensures.trivial (requireBody _ body)).bind fun f _ =>
        sequence_ensures hP (sortByKey_ensures f descending hi)
  | toArray => exact .ok (hP.array_iff.2 hi)
  | count => exact ensures_plain hP _ fun _ => rfl
  | any =>
      cases body with
      | none => exact .ok (hP.plain rfl)
      | some p => exact ensures_plain hP _ fun _ => rfl
  | all =>
      exact (Ensures.trivial (requireBody _ body)).bind fun p _ => ensures_plain hP _ fun _ => rfl
  | first =>
      exact (matching_ensures body hi).bind fun kept hk =>
        itemOr_ensures _ fun v hv => hk v (List.mem_of_mem_head? hv)
  | last =>
      exact (matching_ensures body hi).bind fun kept hk =>
        itemOr_ensures _ fun v hv => hk v (List.mem_of_getLast? hv)
  | firstOrDefault default =>
      exact (matching_ensures body hi).bind fun kept hk =>
        .ok (getD_of_forall (fun v hv => hk v (List.mem_of_mem_head? hv)) (hd default rfl))
  | lastOrDefault default =>
      exact (matching_ensures body hi).bind fun kept hk =>
        .ok (getD_of_forall (fun v hv => hk v (List.mem_of_getLast? hv)) (hd default rfl))
  | sum k =>
      exact (Ensures.trivial (projected items body)).bind fun values _ => sum_ensures hP k values
  | average k =>
      refine (Ensures.trivial (projected items body)).bind fun values _ => ?_
      split
      · exact .error
      · exact average_ensures hP k values
  | min => exact extremum_ensures hP _ .lt hb hi
  | max => exact extremum_ensures hP _ .gt hb hi
  | contains =>
      cases args with
      | nil => exact .error
      | cons v vs => exact .ok (hP.plain rfl)
  | take =>
      exact (Ensures.trivial (itemCount args)).bind fun n _ =>
        .ok (hP.array_iff.2 fun v hv => hi v (List.mem_of_mem_take hv))
  | skip =>
      exact (Ensures.trivial (itemCount args)).bind fun n _ =>
        .ok (hP.array_iff.2 fun v hv => hi v (List.mem_of_mem_drop hv))
  | distinct => exact .ok (hP.array_iff.2 fun v hv => hi v (distinct_subset items v hv))
  | reverse => exact .ok (hP.array_iff.2 fun v hv => hi v (List.mem_reverse.1 hv))

end Elementwise.Eval
