import Elementwise.Proofs.Exact.Sum
import Mathlib.Algebra.Order.BigOperators.Group.List
import Mathlib.Data.List.Perm.Basic

/-!
When sums of words overflow.  The items are added from the first to the last, and every total on the
way has to be a word of 64 bits.  Words of 32 bits do not lead out of that range, so their sum is
found in every order if it fits, and in none if it does not.  Words of 64 bits may lead out of it and
back: the order decides whether their sum is found, and some order finds it exactly if it fits.
-/

namespace Elementwise.Eval

open Number (Word WordKind)

variable {j k : WordKind} {start : Int} {w : Word k} {ws : List (Word k)}

/-! ### Totals -/

/-- Whether all totals of the words, added to the start one by one, are words of the kind `j`. -/
def StaysWithin (j : WordKind) (start : Int) (ws : List (Word k)) : Prop :=
  ∀ n, j.Holds (start + ((ws.take n).map (·.val)).sum)

theorem staysWithin_nil : StaysWithin j start ([] : List (Word k)) ↔ j.Holds start := by
  simp [StaysWithin]

theorem staysWithin_cons : StaysWithin j start (w :: ws) ↔
    j.Holds start ∧ StaysWithin j (start + w.val) ws := by
  constructor
  · intro h
    exact ⟨by simpa using h 0, fun n => by simpa [add_assoc] using h (n + 1)⟩
  · rintro ⟨hstart, h⟩ n
    cases n with
    | zero => simpa using hstart
    | succ n => simpa [add_assoc] using h n

/-- All words are added if no total on the way is out of range. -/
theorem foldlM_addWord_of_staysWithin (hk : k = .int32 ∨ k = .int64)
    (h : StaysWithin .int64 start ws) :
    (ws.map fun w => Value.number (.word k w)).foldlM addWord start =
      .ok (start + (ws.map (·.val)).sum) := by
  induction ws generalizing start with
  | nil => rw [List.map_nil, List.map_nil, List.sum_nil, add_zero]; rfl
  | cons w ws ih =>
      obtain ⟨-, h⟩ := staysWithin_cons.1 h
      have hnext : WordKind.int64.Holds (start + w.val) := by simpa using h 0
      rw [List.map_cons, List.foldlM_cons, addWord_word hk, Word.ofInt?_of_holds hnext]
      show (ws.map fun w => Value.number (.word k w)).foldlM addWord (start + w.val) = _
      rw [ih h, List.map_cons, List.sum_cons, add_assoc]

/-- The first total out of range is where the sum ends. -/
theorem foldlM_addWord_of_not_staysWithin (hk : k = .int32 ∨ k = .int64)
    (hstart : WordKind.int64.Holds start) (h : ¬StaysWithin .int64 start ws) :
    (ws.map fun w => Value.number (.word k w)).foldlM addWord start =
      .error (sumOverflow (.word .int64)) := by
  induction ws generalizing start with
  | nil => exact absurd (staysWithin_nil.2 hstart) h
  | cons w ws ih =>
      rw [List.map_cons, List.foldlM_cons, addWord_word hk]
      by_cases hnext : WordKind.int64.Holds (start + w.val)
      · rw [Word.ofInt?_of_holds hnext]
        exact ih hnext fun hrest => h (staysWithin_cons.2 ⟨hstart, hrest⟩)
      · rw [Word.ofInt?_of_not_holds hnext]
        rfl

theorem holds_zero (k : WordKind) : k.Holds 0 :=
  ⟨k.min_le_zero, k.zero_le_max⟩

theorem sumWords_of_staysWithin (hk : k = .int32 ∨ k = .int64) (h : StaysWithin .int64 0 ws) :
    sumWords (ws.map fun w => .number (.word k w)) = .ok (ws.map (·.val)).sum := by
  rw [sumWords_eq, foldlM_addWord_of_staysWithin hk h, zero_add]

theorem sumWords_of_not_staysWithin (hk : k = .int32 ∨ k = .int64)
    (h : ¬StaysWithin .int64 0 ws) :
    sumWords (ws.map fun w => .number (.word k w)) = .error (sumOverflow (.word .int64)) := by
  rw [sumWords_eq, foldlM_addWord_of_not_staysWithin hk (holds_zero _) h]

/-! ### Words of 32 bits -/

/-- Fewer than `2 ^ 31` words of 32 bits do not lead out of 64 bits. -/
theorem staysWithin_of_length {ws : List (Word .int32)} (h : ws.length < 2147483648) :
    StaysWithin .int64 0 ws := by
  intro n
  have hmin : ∀ x ∈ (ws.take n).map (·.val), -2147483648 ≤ x :=
    List.forall_mem_map.2 fun w _ => w.min_le
  have hmax : ∀ x ∈ (ws.take n).map (·.val), x ≤ 2147483647 :=
    List.forall_mem_map.2 fun w _ => w.le_max
  have hlower := List.card_nsmul_le_sum _ _ hmin
  have hupper := List.sum_le_card_nsmul _ _ hmax
  rw [List.length_map, nsmul_eq_mul] at hlower hupper
  have hlength : (ws.take n).length ≤ ws.length := List.length_take_le' n ws
  have hint : WordKind.int64.min = -9223372036854775808 := rfl
  have hint' : WordKind.int64.max = 9223372036854775807 := rfl
  constructor <;> omega

/-! ### An order that stays in range -/

/-- Words of one sign lead straight to their total. -/
theorem staysWithin_of_sign (hsign : (∀ w ∈ ws, 0 ≤ w.val) ∨ ∀ w ∈ ws, w.val ≤ 0)
    (hstart : j.Holds start) (htotal : j.Holds (start + (ws.map (·.val)).sum)) :
    StaysWithin j start ws := by
  intro n
  have hsplit : ((ws.take n).map (·.val)).sum + ((ws.drop n).map (·.val)).sum =
      (ws.map (·.val)).sum := by
    rw [← List.sum_append, ← List.map_append, List.take_append_drop]
  obtain ⟨hmin, hmax⟩ := hstart
  obtain ⟨hmin', hmax'⟩ := htotal
  rcases hsign with hpos | hneg
  · have htake : 0 ≤ ((ws.take n).map (·.val)).sum :=
      List.sum_nonneg (List.forall_mem_map.2 fun w hw => hpos w (List.mem_of_mem_take hw))
    have hdrop : 0 ≤ ((ws.drop n).map (·.val)).sum :=
      List.sum_nonneg (List.forall_mem_map.2 fun w hw => hpos w (List.mem_of_mem_drop hw))
    constructor <;> omega
  · have htake := List.sum_le_card_nsmul ((ws.take n).map (·.val)) 0
      (List.forall_mem_map.2 fun w hw => hneg w (List.mem_of_mem_take hw))
    have hdrop := List.sum_le_card_nsmul ((ws.drop n).map (·.val)) 0
      (List.forall_mem_map.2 fun w hw => hneg w (List.mem_of_mem_drop hw))
    rw [nsmul_zero] at htake hdrop
    constructor <;> omega

/-- A total below zero is followed by a word above it and the other way round, for as long as there
are words of both signs; that keeps all totals in the range of the words. -/
theorem exists_alternation (start : Int) (above below : List (Word k))
    (habove : ∀ w ∈ above, 0 ≤ w.val) (hbelow : ∀ w ∈ below, w.val ≤ 0) (hstart : k.Holds start)
    (htotal : k.Holds (start + ((above.map (·.val)).sum + (below.map (·.val)).sum))) :
    ∃ ws : List (Word k), ws.Perm (above ++ below) ∧ StaysWithin k start ws := by
  rcases lt_or_ge start 0 with hneg | hpos
  · cases above with
    | nil =>
        exact ⟨below, .refl _, staysWithin_of_sign (Or.inr hbelow) hstart (by simpa using htotal)⟩
    | cons w above =>
        obtain ⟨hw, habove⟩ := List.forall_mem_cons.1 habove
        have hnext : k.Holds (start + w.val) := by
          have hmin := hstart.1
          have hmax := w.le_max
          constructor <;> omega
        rw [List.map_cons, List.sum_cons, add_assoc, ← add_assoc] at htotal
        obtain ⟨ws, hperm, hws⟩ := exists_alternation _ above below habove hbelow hnext htotal
        exact ⟨w :: ws, hperm.cons w, staysWithin_cons.2 ⟨hstart, hws⟩⟩
  · cases below with
    | nil =>
        rw [List.append_nil]
        exact ⟨above, .refl _, staysWithin_of_sign (Or.inl habove) hstart (by simpa using htotal)⟩
    | cons w below =>
        obtain ⟨hw, hbelow⟩ := List.forall_mem_cons.1 hbelow
        have hnext : k.Holds (start + w.val) := by
          have hmin := w.min_le
          have hmax := hstart.2
          constructor <;> omega
        rw [List.map_cons, List.sum_cons, add_left_comm (above.map (·.val)).sum,
          ← add_assoc] at htotal
        obtain ⟨ws, hperm, hws⟩ := exists_alternation _ above below habove hbelow hnext htotal
        exact ⟨w :: ws, (hperm.cons w).trans List.perm_middle.symm,
          staysWithin_cons.2 ⟨hstart, hws⟩⟩
termination_by above.length + below.length

theorem exists_perm_staysWithin (h : k.Holds (ws.map (·.val)).sum) :
    ∃ ws' : List (Word k), ws'.Perm ws ∧ StaysWithin k 0 ws' := by
  have hsigns := List.filter_append_perm (fun w : Word k => decide (0 ≤ w.val)) ws
  have hsum := (hsigns.map (·.val)).sum_eq
  rw [List.map_append, List.sum_append] at hsum
  obtain ⟨ws', hperm, hws'⟩ := exists_alternation 0
    (ws.filter fun w => decide (0 ≤ w.val)) (ws.filter fun w => !decide (0 ≤ w.val))
    (fun w hw => of_decide_eq_true (List.mem_filter.1 hw).2)
    (fun w hw => by
      have hneg := (List.mem_filter.1 hw).2
      rw [Bool.not_eq_true', decide_eq_false_iff_not] at hneg
      omega)
    (holds_zero k) (by rwa [zero_add, hsum])
  exact ⟨ws', hperm.trans hsigns, hws'⟩

/-! ### Items in another order -/

variable {items items' values : List Value} {body : Option ItemFunction}

/-- What an item is added as. -/
def image (body : Option ItemFunction) (item : Value) : Outcome :=
  match body with
  | some f => f item
  | none => .ok item

theorem projected_eq_ok_iff : projected items body = .ok values ↔
    List.Forall₂ (fun item v => image body item = .ok v) items values := by
  cases body with
  | none =>
      have hself : (fun item v : Value => image none item = .ok v) = Eq :=
        funext fun item => funext fun v => Except.ok.injEq item v
      rw [hself, List.forall₂_eq_eq_eq]
      exact Iff.of_eq (Except.ok.injEq items values)
  | some f =>
      constructor
      · intro h
        induction items generalizing values with
        | nil =>
            cases h
            exact .nil
        | cons item items ih =>
            obtain ⟨v, hv, h⟩ := bind_eq_ok h
            obtain ⟨vs, hvs, h⟩ := bind_eq_ok h
            cases h
            exact .cons hv (ih hvs)
      · intro h
        induction h with
        | nil => rfl
        | @cons item v items values hv _ ih =>
            have hv : f item = .ok v := hv
            have ih : project f items = .ok values := ih
            rw [projected, project, hv, ih]
            rfl

/-- Items in another order are added as the same words in another order. -/
theorem projected_words_perm {f : Word k → Value} (h : projected items body = .ok (ws.map f))
    (hperm : items'.Perm items) :
    ∃ ws' : List (Word k), ws'.Perm ws ∧ projected items' body = .ok (ws'.map f) := by
  rw [projected_eq_ok_iff, List.forall₂_map_right_iff] at h
  obtain ⟨ws', hws', hperm'⟩ := List.perm_comp_forall₂ hperm h
  exact ⟨ws', hperm', projected_eq_ok_iff.2 (List.forall₂_map_right_iff.2 hws')⟩

/-- Every order of the words is that of an order of the items. -/
theorem exists_projected_perm {ws' : List (Word k)} {f : Word k → Value}
    (h : projected items body = .ok (ws.map f)) (hperm : ws'.Perm ws) :
    ∃ items' : List Value, items'.Perm items ∧ projected items' body = .ok (ws'.map f) := by
  rw [projected_eq_ok_iff, List.forall₂_map_right_iff] at h
  obtain ⟨items', hitems', hperm'⟩ := List.perm_comp_forall₂ hperm h.flip
  exact ⟨items', hperm', projected_eq_ok_iff.2 (List.forall₂_map_right_iff.2 hitems'.flip)⟩

/-! ### The query -/

theorem query_sum (k : Number.NumericKind) (items : List Value) (body : Option ItemFunction)
    (args : List Value) : query (.sum k) items body args = projected items body >>= sum k :=
  rfl

/-- The integer as a word of the kind. -/
def wordOf? (k : WordKind) (n : Int) : Option Value :=
  (Word.ofInt? k n).map fun w => .number (.word k w)

theorem sum_int32 {ws : List (Word .int32)} (h : ws.length < 2147483648) :
    sum (.word .int32) (ws.map fun w => .number (.word .int32 w)) =
      match Word.ofInt? .int32 (ws.map (·.val)).sum with
      | some w => .ok (.int32 w)
      | none => .error (sumOverflow (.word .int32)) := by
  rw [sum, sumWords_of_staysWithin (Or.inl rfl) (staysWithin_of_length h)]
  rfl

theorem sum_int64 {ws : List (Word .int64)} (h : StaysWithin .int64 0 ws) :
    ∃ w : Word .int64, w.val = (ws.map (·.val)).sum ∧
      sum (.word .int64) (ws.map fun w => .number (.word .int64 w)) = .ok (.int64 w) := by
  have htotal : WordKind.int64.Holds (ws.map (·.val)).sum := by
    simpa using h ws.length
  refine ⟨⟨_, htotal.1, htotal.2⟩, rfl, ?_⟩
  rw [sum, sumWords_of_staysWithin (Or.inr rfl) h, ok_bind, Word.wrap_val ⟨_, htotal.1, htotal.2⟩]

/-- A sum of words of 32 bits is the total if that fits and an overflow if not, in any order of the
items.  A sum of words of 64 bits is the total if all totals on the way fit, and an overflow if one
does not; if the total fits, the items have an order in which it is found. -/
theorem query_sum_total (body : Option ItemFunction) (args : List Value) :
    (∀ (items : List Value) (ws : List (Word .int32)),
      projected items body = .ok (ws.map fun w => .number (.word .int32 w)) →
      ws.length < 2147483648 →
      ExactOrOverflows (wordOf? .int32 (ws.map (·.val)).sum)
          (query (.sum (.word .int32)) items body args) ∧
        ∀ items' : List Value, items'.Perm items →
          query (.sum (.word .int32)) items' body args =
            query (.sum (.word .int32)) items body args) ∧
    ∀ (items : List Value) (ws : List (Word .int64)),
      projected items body = .ok (ws.map fun w => .number (.word .int64 w)) →
      (StaysWithin .int64 0 ws → ∃ w : Word .int64, w.val = (ws.map (·.val)).sum ∧
        query (.sum (.word .int64)) items body args = .ok (.int64 w)) ∧
      (¬StaysWithin .int64 0 ws →
        Overflows (query (.sum (.word .int64)) items body args)) ∧
      ∀ w : Word .int64, w.val = (ws.map (·.val)).sum ↔
        ∃ items' : List Value, items'.Perm items ∧
          query (.sum (.word .int64)) items' body args = .ok (.int64 w) := by
  refine ⟨fun items ws hitems hlength => ⟨?_, fun items' hperm => ?_⟩,
    fun items ws hitems => ⟨fun h => ?_, fun h => ?_, fun w => ⟨fun hw => ?_, ?_⟩⟩⟩
  · rw [query_sum, hitems, ok_bind, sum_int32 hlength, wordOf?]
    cases Word.ofInt? .int32 (ws.map (·.val)).sum with
    | some w => rfl
    | none => exact ⟨_, _, rfl⟩
  · obtain ⟨ws', hws, hitems'⟩ := projected_words_perm hitems hperm
    rw [query_sum, query_sum, hitems, hitems', ok_bind, ok_bind, sum_int32 hlength,
      sum_int32 (hws.length_eq ▸ hlength), (hws.map (·.val)).sum_eq]
  · obtain ⟨w, hw, hsum⟩ := sum_int64 h
    exact ⟨w, hw, by rw [query_sum, hitems, ok_bind, hsum]⟩
  · rw [query_sum, hitems, ok_bind, sum, sumWords_of_not_staysWithin (Or.inr rfl) h]
    exact ⟨_, _, rfl⟩
  · have htotal : WordKind.int64.Holds (ws.map (·.val)).sum := hw ▸ w.holds
    obtain ⟨ws', hws, hwithin⟩ := exists_perm_staysWithin htotal
    obtain ⟨items', hperm, hitems'⟩ := exists_projected_perm hitems hws
    obtain ⟨w', hw', hsum⟩ := sum_int64 hwithin
    obtain rfl : w' = w := Word.ext (hw'.trans ((hws.map (·.val)).sum_eq.trans hw.symm))
    exact ⟨items', hperm, by rw [query_sum, hitems', ok_bind, hsum]⟩
  · rintro ⟨items', hperm, h⟩
    obtain ⟨ws', hws, hitems'⟩ := projected_words_perm hitems hperm
    rw [query_sum, hitems', ok_bind] at h
    obtain ⟨w', hw', hval⟩ := sum_words (Or.inr rfl) h
    cases hw'
    rw [hval, (hws.map (·.val)).sum_eq]

/-- The greatest word, one and minus one: with 32 bits every order finds the sum, with 64 bits the
order that begins with the greatest word and one does not. -/
theorem query_sum_total_greatest :
    let narrow := [2147483647, 1, -1].map (Word.wrap .int32)
    let wide := [9223372036854775807, 1, -1].map (Word.wrap .int64)
    projected (narrow.map fun w => .number (.word .int32 w)) none =
        .ok (narrow.map fun w => .number (.word .int32 w)) ∧
      narrow.length < 2147483648 ∧
      projected (wide.map fun w => .number (.word .int64 w)) none =
        .ok (wide.map fun w => .number (.word .int64 w)) ∧
      ¬StaysWithin .int64 0 wide ∧
      query (.sum (.word .int32)) (narrow.map fun w => .number (.word .int32 w)) none [] =
        .ok (.int32 (.wrap .int32 2147483647)) ∧
      Overflows
        (query (.sum (.word .int64)) (wide.map fun w => .number (.word .int64 w)) none []) := by
  intro narrow wide
  have hbeyond : ¬StaysWithin .int64 0 wide := fun h => absurd (h 2) (by decide)
  obtain ⟨hnarrow, hwide⟩ := query_sum_total none []
  exact ⟨rfl, by decide, rfl, hbeyond, (hnarrow _ narrow rfl (by decide)).1,
    (hwide _ wide rfl).2.1 hbeyond⟩

/-- Three words of 64 bits whose sum is the greatest word: it is not found in their order, but in the
opposite one. -/
theorem query_sum_order_matters :
    let items := [9223372036854775807, 1, -1].map fun n => Value.int64 (.wrap .int64 n)
    WordKind.int64.Holds ([9223372036854775807, 1, -1] : List Int).sum ∧
      query (.sum (.word .int64)) items none [] = .error (sumOverflow (.word .int64)) ∧
      items.reverse.Perm items ∧
      query (.sum (.word .int64)) items.reverse none [] =
        .ok (.int64 (.wrap .int64 9223372036854775807)) :=
  ⟨by decide, rfl, List.reverse_perm _, rfl⟩

end Elementwise.Eval
