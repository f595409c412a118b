import Elementwise.Eval.Query
import Elementwise.Proofs.Soundness.Outcome
import Elementwise.Typing.Query

/-!
Queries give what they promise.  The items of a query have one type, its function maps that type to
another, and what comes out is made of items or of their images.
-/

namespace Elementwise

open Number (NumericKind)
open Typing.Query (aggregateKinds averageType)

/-- Whether a query on items of a type, with a function and arguments of the types given, has a
result of the last type. -/
def Query.Gives (q : Query) (item : Ty) (body : Option Ty) (args : List Ty) (result : Ty) : Prop :=
  match q with
  | .select => ∃ t, body = some t ∧ result = .sequence t
  | .filter => body = some .boolean ∧ result = .sequence item
  | .orderBy _ => body.isSome = true ∧ result = .sequence item
  | .toArray => result = .array item
  | .count => (body = none ∨ body = some .boolean) ∧ result = .int32
  | .any => (body = none ∨ body = some .boolean) ∧ result = .boolean
  | .all => body = some .boolean ∧ result = .boolean
  | .first | .last => (body = none ∨ body = some .boolean) ∧ result = item
  | .firstOrDefault default | .lastOrDefault default =>
    (body = none ∨ body = some .boolean) ∧ default.HasType item ∧ result = item
  | .sum k => k ∈ aggregateKinds ∧ body = some (.numeric k) ∧ result = .numeric k
  | .average k => k ∈ aggregateKinds ∧ body = some (.numeric k) ∧ result = averageType k
  | .min | .max => body = some result
  | .contains => args.length = 1 ∧ result = .boolean
  | .take | .skip => args = [.int32] ∧ result = .sequence item
  | .distinct | .reverse => result = .sequence item

namespace Eval

/-- The function maps values of one type to values of the other. -/
def Maps (f : ItemFunction) (item t : Ty) : Prop :=
  ∀ v, v.HasType item → HasType (f v) t

/-- All values of a list have the type. -/
abbrev AllHaveType (vs : List Value) (t : Ty) : Prop :=
  ∀ v ∈ vs, v.HasType t

variable {f : ItemFunction} {items vs : List Value} {item t : Ty} {body : Option ItemFunction}

/-! ### Predicates -/

theorem holds_yields (hf : Maps f item .boolean) {v : Value} (hv : v.HasType item) :
    Yields (fun _ => True) (holds f v) := by
  refine (hf v hv).bind fun b hb => ?_
  obtain ⟨b, rfl⟩ := Value.hasType_boolean.1 hb
  exact .ok trivial

theorem keep_yields (hf : Maps f item .boolean) (hi : AllHaveType items item) :
    Yields (AllHaveType · item) (keep f items) := by
  induction items with
  | nil => exact .ok nofun
  | cons v vs ih =>
      obtain ⟨hv, hvs⟩ := List.forall_mem_cons.1 hi
      refine (holds_yields hf hv).bind fun kept _ => (ih hvs).bind fun others ho => .ok ?_
      cases kept with
      | true => exact List.forall_mem_cons.2 ⟨hv, ho⟩
      | false => exact ho

theorem anyM_yields (hf : Maps f item .boolean) (hi : AllHaveType items item) :
    Yields (fun _ => True) (items.anyM (holds f)) := by
  induction items with
  | nil => exact .ok trivial
  | cons v vs ih =>
      obtain ⟨hv, hvs⟩ := List.forall_mem_cons.1 hi
      refine (holds_yields hf hv).bind fun b _ => ?_
      cases b with
      | true => exact .ok trivial
      | false => exact ih hvs

theorem allM_yields (hf : Maps f item .boolean) (hi : AllHaveType items item) :
    Yields (fun _ => True) (items.allM (holds f)) := by
  induction items with
  | nil => exact .ok trivial
  | cons v vs ih =>
      obtain ⟨hv, hvs⟩ := List.forall_mem_cons.1 hi
      refine (holds_yields hf hv).bind fun b _ => ?_
      cases b with
      | true => exact ih hvs
      | false => exact .ok trivial

/-- The function of a query is there if and only if its type is, and maps the items to it. -/
abbrev FunctionHasType (body : Option ItemFunction) (item : Ty) (t : Option Ty) : Prop :=
  Option.Rel (Maps · item) body t

theorem matching_yields {b : Option Ty} (hb : FunctionHasType body item b)
    (h : b = none ∨ b = some .boolean) (hi : AllHaveType items item) :
    Yields (AllHaveType · item) (matching items body) := by
  cases hb with
  | none => exact .ok hi
  | some hf =>
      obtain rfl := Option.some.inj (h.resolve_left nofun)
      exact keep_yields hf hi

theorem requireBody_yields (q : Query) (hb : FunctionHasType body item (some t)) :
    Yields (Maps · item t) (requireBody q body) := by
  cases hb with
  | some hf => exact .ok hf

/-! ### Images -/

theorem project_yields (hf : Maps f item t) (hi : AllHaveType items item) :
    Yields (AllHaveType · t) (project f items) := by
  induction items with
  | nil => exact .ok nofun
  | cons v vs ih =>
      obtain ⟨hv, hvs⟩ := List.forall_mem_cons.1 hi
      exact (hf v hv).bind fun image hi => (ih hvs).bind fun others ho =>
        .ok (List.forall_mem_cons.2 ⟨hi, ho⟩)

theorem projected_yields (hb : FunctionHasType body item (some t)) (hi : AllHaveType items item) :
    Yields (AllHaveType · t) (projected items body) := by
  cases hb with
  | some hf => exact project_yields hf hi

theorem sortByKey_yields (hf : Maps f item t) (hi : AllHaveType items item) (descending : Bool) :
    Yields (AllHaveType · item) (sortByKey items f descending) := by
  refine (project_yields hf hi).bind fun keys _ => .ok fun v hv => ?_
  obtain ⟨⟨key, v⟩, hmem, rfl⟩ := List.mem_map.1 hv
  exact hi v (List.of_mem_zip (List.mem_mergeSort.1 hmem)).2

/-! ### Extrema -/

/-- Folding by choices between what was found and the next value ends in one of the values, if there
is one to choose. -/
theorem foldl_choice_hasType {best : Option Value → Value → Option Value} {default : Value}
    (hbest : ∀ o v, best o v = some v ∨ best o v = o ∧ o ≠ none) {o : Option Value}
    (ho : ∀ v, o = some v → v.HasType t) (hv : AllHaveType vs t) (hne : o ≠ none ∨ vs ≠ []) :
    ((vs.foldl best o).getD default).HasType t := by
  induction vs generalizing o with
  | nil =>
      obtain ⟨v, rfl⟩ := Option.ne_none_iff_exists'.1 (hne.resolve_right (absurd rfl))
      exact ho v rfl
  | cons w ws ih =>
      obtain ⟨hw, hws⟩ := List.forall_mem_cons.1 hv
      rw [List.foldl_cons]
      rcases hbest o w with h | ⟨h, hne⟩
      · rw [h]
        exact ih (fun v h => Option.some.inj h ▸ hw) hws (Or.inl nofun)
      · rw [h]
        exact ih ho hws (Or.inl hne)

/-- An extreme is one of the values, or `null` if they are all `null`. -/
theorem extreme_hasType (wanted : Ordering) (hne : vs ≠ []) (hv : AllHaveType vs t) :
    (extreme wanted vs).HasType t := by
  cases hf : vs.filter (!·.isNull) with
  | nil =>
      obtain ⟨v, hmem⟩ := List.exists_mem_of_ne_nil vs hne
      have hnull : v.isNull = true := by
        simpa using List.filter_eq_nil_iff.1 hf v hmem
      have hextreme : extreme wanted vs = .null := by
        rw [extreme, hf]
        rfl
      rw [hextreme]
      cases v with
      | null => exact hv .null hmem
      | _ => cases hnull
  | cons w ws =>
      have hw : AllHaveType (w :: ws) t := fun v h => hv v (List.mem_of_mem_filter (hf ▸ h))
      simp only [extreme, hf]
      refine foldl_choice_hasType ?_ (fun v h => by cases h) hw (Or.inr nofun)
      rintro (_ | c) v
      · exact Or.inl rfl
      · dsimp only
        split
        · exact Or.inl rfl
        · exact Or.inr ⟨rfl, nofun⟩

theorem extremum_hasType (q : Query) (wanted : Ordering)
    (hb : FunctionHasType body item (some t)) (hi : AllHaveType items item) :
    HasType (extremum q wanted items body) t := by
  refine (projected_yields hb hi).bind fun vs hv => ?_
  cases vs with
  | nil => exact .error rfl
  | cons v vs => exact .ok (extreme_hasType wanted nofun hv)

/-! ### Sums -/

theorem foldlM_yields {α : Type} {P : α → Prop} {g : α → Value → Except Fault α} {a : α}
    (hg : ∀ a v, P a → v.HasType t → Yields P (g a v)) (ha : P a) (hv : AllHaveType vs t) :
    Yields P (vs.foldlM g a) := by
  induction vs generalizing a with
  | nil => exact .ok ha
  | cons v vs ih =>
      obtain ⟨hv, hvs⟩ := List.forall_mem_cons.1 hv
      rw [List.foldlM_cons]
      exact (hg a v ha hv).bind fun b hb => ih hb hvs

theorem sumWords_yields (hv : AllHaveType vs t) (ht : t = .int32 ∨ t = .int64) :
    Yields (fun _ => True) (sumWords vs) := by
  refine foldlM_yields (fun total v _ hv => ?_) trivial hv
  rcases ht with rfl | rfl
  all_goals
    obtain ⟨w, rfl⟩ := Value.hasType_word.1 hv
    refine Yields.bind (P := fun _ => True) (.ok trivial) fun n _ => ?_
    dsimp only
    split
    · exact .ok trivial
    · exact .error rfl

theorem sumSingles_yields (hv : AllHaveType vs .single) :
    Yields (fun _ => True) (sumSingles vs) := by
  refine foldlM_yields (fun total v _ hv => ?_) trivial hv
  obtain ⟨x, rfl⟩ := Value.hasType_single.1 hv
  exact .ok trivial

theorem sumDoubles_yields (hv : AllHaveType vs .double) :
    Yields (fun _ => True) (sumDoubles vs) := by
  refine foldlM_yields (fun total v _ hv => ?_) trivial hv
  obtain ⟨x, rfl⟩ := Value.hasType_double.1 hv
  exact .ok trivial

theorem sumDecimals_yields (hv : AllHaveType vs .decimal) :
    Yields (fun _ => True) (sumDecimals vs) := by
  refine foldlM_yields (fun total v _ hv => ?_) trivial hv
  obtain ⟨d, rfl⟩ := Value.hasType_decimal.1 hv
  simp only [Value.decimal]
  split
  · exact .ok trivial
  · exact .error rfl

theorem mem_aggregateKinds {k : NumericKind} : k ∈ aggregateKinds ↔
    k = .word .int32 ∨ k = .word .int64 ∨ k = .single ∨ k = .double ∨ k = .decimal := by
  simp [aggregateKinds]

theorem sum_hasType {k : NumericKind} (hk : k ∈ aggregateKinds)
    (hv : AllHaveType vs (.numeric k)) : HasType (sum k vs) (.numeric k) := by
  rcases mem_aggregateKinds.1 hk with rfl | rfl | rfl | rfl | rfl
  · refine (sumWords_yields hv (Or.inl rfl)).bind fun n _ => ?_
    split
    · exact .ok (Value.hasType_word.2 ⟨_, rfl⟩)
    · exact .error rfl
  · exact (sumWords_yields hv (Or.inr rfl)).bind fun n _ => .ok (Value.hasType_word.2 ⟨_, rfl⟩)
  · exact (sumSingles_yields hv).bind fun x _ => .ok (Value.hasType_single.2 ⟨_, rfl⟩)
  · exact (sumDoubles_yields hv).bind fun x _ => .ok (Value.hasType_double.2 ⟨_, rfl⟩)
  · exact (sumDecimals_yields hv).bind fun d _ => .ok (Value.hasType_decimal.2 ⟨_, rfl⟩)

theorem average_hasType {k : NumericKind} (hk : k ∈ aggregateKinds)
    (hv : AllHaveType vs (.numeric k)) : HasType (average k vs) (averageType k) := by
  rcases mem_aggregateKinds.1 hk with rfl | rfl | rfl | rfl | rfl
  · exact (sumWords_yields hv (Or.inl rfl)).bind fun n _ => .ok (Value.hasType_double.2 ⟨_, rfl⟩)
  · exact (sumWords_yields hv (Or.inr rfl)).bind fun n _ => .ok (Value.hasType_double.2 ⟨_, rfl⟩)
  · exact (sumSingles_yields hv).bind fun x _ => .ok (Value.hasType_single.2 ⟨_, rfl⟩)
  · exact (sumDoubles_yields hv).bind fun x _ => .ok (Value.hasType_double.2 ⟨_, rfl⟩)
  · refine (sumDecimals_yields hv).bind fun d _ => ?_
    split
    · exact .ok (Value.hasType_decimal.2 ⟨_, rfl⟩)
    · exact .error rfl

/-! ### Selections -/

theorem distinct_subset (vs : List Value) : ∀ v ∈ distinct vs, v ∈ vs := by
  have step (seen vs : List Value) :
      ∀ v ∈ vs.foldl (fun seen v => if memberOf v seen then seen else seen ++ [v]) seen,
        v ∈ seen ∨ v ∈ vs := by
    induction vs generalizing seen with
    | nil => exact fun v hv => Or.inl hv
    | cons w ws ih =>
        intro v hv
        rcases ih _ v hv with h | h
        · dsimp only at h
          split at h
          · exact Or.inl h
          · rcases List.mem_append.1 h with h | h
            · exact Or.inl h
            · exact Or.inr (List.mem_cons.2 (Or.inl (List.mem_singleton.1 h)))
        · exact Or.inr (List.mem_cons_of_mem _ h)
  exact fun v hv => (step [] vs v hv).resolve_left nofun

theorem itemCount_yields {args : List Value}
    (h : List.Forall₂ Value.HasType args [.int32]) : Yields (fun _ => True) (itemCount args) := by
  cases h with
  | cons hv _ =>
      obtain ⟨w, rfl⟩ := Value.hasType_word.1 hv
      exact .ok trivial

theorem itemOr_hasType (q : Query) {o : Option Value} (h : ∀ v ∈ o, v.HasType t) :
    HasType (itemOr q o) t := by
  cases o with
  | none => exact .error rfl
  | some v => exact .ok (h v rfl)

theorem getD_hasType {o : Option Value} {default : Value} (h : ∀ v ∈ o, v.HasType t)
    (hd : default.HasType t) : (o.getD default).HasType t := by
  cases o with
  | none => exact hd
  | some v => exact h v rfl

/-! ### All queries -/

theorem of_mem_head? {o : Value} (hv : AllHaveType vs t) (h : o ∈ vs.head?) : o.HasType t :=
  hv o (List.mem_of_mem_head? h)

theorem of_mem_getLast? {o : Value} (hv : AllHaveType vs t) (h : o ∈ vs.getLast?) : o.HasType t :=
  hv o (List.mem_of_getLast? h)

theorem sequence_hasType (hv : AllHaveType vs t) : (Value.array vs).HasType (.sequence t) :=
  Value.array_hasType_sequence.2 hv

theorem query_hasType {q : Query} {args : List Value} {argTypes : List Ty} {b : Option Ty}
    {result : Ty} (h : q.Gives item b argTypes result) (hi : AllHaveType items item)
    (hb : FunctionHasType body item b) (hargs : List.Forall₂ Value.HasType args argTypes) :
    HasType (query q items body args) result := by
  cases q with
  | select =>
      obtain ⟨t, rfl, rfl⟩ := h
      exact (requireBody_yields .select hb).bind fun f hf => (project_yields hf hi).bind fun vs hv =>
        .ok (sequence_hasType hv)
  | filter =>
      obtain ⟨rfl, rfl⟩ := h
      exact (requireBody_yields .filter hb).bind fun f hf => (keep_yields hf hi).bind fun vs hv =>
        .ok (sequence_hasType hv)
  | orderBy descending =>
      obtain ⟨hs, rfl⟩ := h
      obtain ⟨t, rfl⟩ := Option.isSome_iff_exists.1 hs
      exact (requireBody_yields (.orderBy descending) hb).bind fun f hf =>
        (sortByKey_yields hf hi descending).bind fun vs hv => .ok (sequence_hasType hv)
  | toArray =>
      obtain rfl := h
      exact .ok (Value.array_hasType_array.2 hi)
  | count =>
      obtain ⟨hp, rfl⟩ := h
      exact (matching_yields hb hp hi).bind fun vs _ => .ok (Value.hasType_word.2 ⟨_, rfl⟩)
  | any =>
      obtain ⟨hp, rfl⟩ := h
      cases hb with
      | none => exact .ok (Value.hasType_boolean.2 ⟨_, rfl⟩)
      | some hf =>
          obtain rfl := Option.some.inj (hp.resolve_left nofun)
          exact (anyM_yields hf hi).bind fun b _ => .ok (Value.hasType_boolean.2 ⟨b, rfl⟩)
  | all =>
      obtain ⟨rfl, rfl⟩ := h
      exact (requireBody_yields .all hb).bind fun f hf => (allM_yields hf hi).bind fun b _ =>
        .ok (Value.hasType_boolean.2 ⟨b, rfl⟩)
  | first =>
      obtain ⟨hp, rfl⟩ := h
      exact (matching_yields hb hp hi).bind fun vs hv =>
        itemOr_hasType .first fun _ => of_mem_head? hv
  | firstOrDefault default =>
      obtain ⟨hp, hd, rfl⟩ := h
      exact (matching_yields hb hp hi).bind fun vs hv =>
        .ok (getD_hasType (fun _ => of_mem_head? hv) hd)
  | last =>
      obtain ⟨hp, rfl⟩ := h
      exact (matching_yields hb hp hi).bind fun vs hv =>
        itemOr_hasType .last fun _ => of_mem_getLast? hv
  | lastOrDefault default =>
      obtain ⟨hp, hd, rfl⟩ := h
      exact (matching_yields hb hp hi).bind fun vs hv =>
        .ok (getD_hasType (fun _ => of_mem_getLast? hv) hd)
  | sum k =>
      obtain ⟨hk, rfl, rfl⟩ := h
      exact (projected_yields hb hi).bind fun vs hv => sum_hasType hk hv
  | average k =>
      obtain ⟨hk, rfl, rfl⟩ := h
      exact (projected_yields hb hi).bind fun vs hv =>
        .ite (.error rfl) (average_hasType hk hv)
  | min =>
      obtain rfl := h
      exact extremum_hasType .min .lt hb hi
  | max =>
      obtain rfl := h
      exact extremum_hasType .max .gt hb hi
  | contains =>
      obtain ⟨hl, rfl⟩ := h
      cases hargs with
      | nil => cases hl
      | cons _ _ => exact .ok (Value.hasType_boolean.2 ⟨_, rfl⟩)
  | take =>
      obtain ⟨rfl, rfl⟩ := h
      exact (itemCount_yields hargs).bind fun n _ =>
        .ok (sequence_hasType fun v hv => hi v (List.mem_of_mem_take hv))
  | skip =>
      obtain ⟨rfl, rfl⟩ := h
      exact (itemCount_yields hargs).bind fun n _ =>
        .ok (sequence_hasType fun v hv => hi v (List.mem_of_mem_drop hv))
  | distinct =>
      obtain rfl := h
      exact .ok (sequence_hasType fun v hv => hi v (distinct_subset items v hv))
  | reverse =>
      obtain rfl := h
      exact .ok (sequence_hasType fun v hv => hi v (List.mem_reverse.1 hv))

end Eval

end Elementwise
