import Elementwise.Proofs.Value.Decoding

/-!
The places of a value.  A type leads to the places of its values: through the nullable type to the
value itself, through arrays and sequences to the items, and through a record type to the fields.
Conforming reaches the places on this side of the first field, and says of a record there which
fields it has, but not what they hold.  Where the value is well formed, too, every place holds a
value of the type that is expected there, and no stage is led into an internal fault.
-/

namespace Elementwise

namespace Value

/-- `Place n t v u w`: in the value `v`, of which `t` is expected, there is a place that holds `w` and
of which `u` is expected, and the way to it leads through `n` fields. -/
inductive Place : Nat → Ty → Value → Ty → Value → Prop where
  | here {t : Ty} {v : Value} : Place 0 t v t v
  | nullable {n : Nat} {t u : Ty} {v w : Value} (h : Place n t v u w) :
    Place n (.nullable t) v u w
  | array {n : Nat} {t u : Ty} {items : List Value} {x w : Value} (hx : x ∈ items)
    (h : Place n t x u w) : Place n (.array t) (.array items) u w
  | sequence {n : Nat} {t u : Ty} {items : List Value} {x w : Value} (hx : x ∈ items)
    (h : Place n t x u w) : Place n (.sequence t) (.array items) u w
  | field {n i : Nat} {fields fields' : List (String × Ty)} {values : List Value} {name : String}
    {t u : Ty} {x w : Value} (ht : fields[i]? = some (name, t)) (hx : values[i]? = some x)
    (h : Place n t x u w) : Place (n + 1) (.record fields) (.record fields' values) u w

namespace Place

variable {n : Nat} {t u : Ty} {v w : Value}

/-- There is nothing but `null` inside `null`. -/
theorem eq_null (h : Place n t v u w) (hv : v = .null) : w = .null := by
  induction h with
  | here => exact hv
  | nullable _ ih => exact ih hv
  | array | sequence | field => cases hv

/-- What conforms does so at every place before the first field, unless it is `null` there. -/
theorem conformsTo (h : Place n t v u w) (hn : n = 0) (hv : v.conformsTo t = true) :
    w = .null ∨ w.conformsTo u = true := by
  induction h with
  | here => exact Or.inr hv
  | @nullable _ _ _ v _ h ih =>
      rw [Value.conformsTo, Bool.or_eq_true] at hv
      rcases hv with hnull | hv
      · cases v with
        | null => exact Or.inl (h.eq_null rfl)
        | _ => cases hnull
      · exact ih hn hv
  | array hx _ ih | sequence hx _ ih =>
      rw [Value.conformsTo, List.all_eq_true] at hv
      exact ih hn (hv _ hx)
  | field => cases hn

/-- A value of a type has at every place a value of the type expected there, unless it is `null`. -/
theorem hasType (h : Place n t v u w) (hv : v.HasType t) : w = .null ∨ w.HasType u := by
  induction h with
  | here => exact Or.inr hv
  | nullable h ih =>
      rcases hasType_nullable.1 hv with rfl | hv
      · exact Or.inl (h.eq_null rfl)
      · exact ih hv
  | array hx _ ih => exact ih (array_hasType_array.1 hv _ hx)
  | sequence hx _ ih => exact ih (array_hasType_sequence.1 hv _ hx)
  | field ht hx _ ih =>
      obtain ⟨values, heq, hvalues⟩ := hv.fields.resolve_left nofun
      cases heq
      obtain ⟨f, hf, hxt⟩ := Eval.exists_partner hvalues.flip hx
      cases ht.symm.trans hf
      exact ih hxt

end Place

end Value

end Elementwise
