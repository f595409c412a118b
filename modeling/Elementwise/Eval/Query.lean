import Elementwise.Eval.Fault
import Elementwise.Term
import Elementwise.Value.Order
import Elementwise.Decimal.Arithmetic

/-!
Evaluation of queries.  The items of a sequence are all at hand; the function of a query is
evaluated on them from first to last, and its first fault is that of the query.
-/

namespace Elementwise.Eval

open Number

/-- The function of a query: its body, evaluated with an item as innermost parameter. -/
abbrev ItemFunction : Type :=
  Value → Outcome

def requireBody (q : Query) (body : Option ItemFunction) : Except Fault ItemFunction :=
  match body with
  | some f => .ok f
  | none => .error (.internal (q.name ++ " without a lambda"))

/-! ### Predicates -/

def truth (v : Value) : Except Fault Bool :=
  match v with
  | .boolean b => .ok b
  | v => .error (.unexpected v "predicate")

def holds (p : ItemFunction) (v : Value) : Except Fault Bool := do
  truth (← p v)

/-- The items for which a predicate holds. -/
def keep (p : ItemFunction) : List Value → Except Fault (List Value)
  | [] => .ok []
  | v :: vs => do
    let kept ← holds p v
    let others ← keep p vs
    .ok (if kept then v :: others else others)

def matching (items : List Value) (body : Option ItemFunction) : Except Fault (List Value) :=
  match body with
  | some p => keep p items
  | none => .ok items

/-- The images of the items. -/
def project (f : ItemFunction) : List Value → Except Fault (List Value)
  | [] => .ok []
  | v :: vs => do
    let image ← f v
    let others ← project f vs
    .ok (image :: others)

def projected (items : List Value) (body : Option ItemFunction) : Except Fault (List Value) :=
  match body with
  | some f => project f items
  | none => .ok items

/-! ### Order -/

/-- Whether one key may stand before another. -/
def keyBefore (descending : Bool) (a b : Value) : Bool :=
  (if descending then b.sortOrder a else a.sortOrder b).isLE

/-- Sorts by the images of the items; items with equal images keep their order. -/
def sortByKey (items : List Value) (f : ItemFunction) (descending : Bool) :
    Except Fault (List Value) := do
  let keys ← project f items
  let sorted := (keys.zip items).mergeSort fun a b => keyBefore descending a.1 b.1
  .ok (sorted.map (·.2))

/-- The first of the values, `null` aside, that is no further from the wanted end than any. -/
def extreme (wanted : Ordering) (values : List Value) : Value :=
  let best (current : Option Value) (v : Value) : Option Value :=
    match current with
    | some c => if v.sortOrder c = wanted then some v else some c
    | none => some v
  ((values.filter (!·.isNull)).foldl best none).getD .null

/-! ### Sums -/

def sumOverflow (k : NumericKind) : Fault :=
  .overflow "sum" k.name

/-- The sum of words, which must stay in the 64-bit range with every item. -/
def sumWords (values : List Value) : Except Fault Int :=
  values.foldlM (fun total v => do
    let n ← match v with
      | .number (.word .int32 w) => .ok w.val
      | .number (.word .int64 w) => .ok w.val
      | v => .error (.unexpected v "Sum")
    match Word.ofInt? .int64 (total + n) with
    | some w => .ok w.val
    | none => .error (sumOverflow (.word .int64))) 0

def sumSingles (values : List Value) : Except Fault Float :=
  values.foldlM (fun total v =>
    match v with
    | .number (.single x) => .ok (total + widen x)
    | v => .error (.unexpected v "Sum")) 0

def sumDoubles (values : List Value) : Except Fault Float :=
  values.foldlM (fun total v =>
    match v with
    | .number (.double x) => .ok (total + x)
    | v => .error (.unexpected v "Sum")) 0

def sumDecimals (values : List Value) : Except Fault Decimal :=
  values.foldlM (fun total v =>
    match v with
    | .number (.decimal d) =>
      match Decimal.add? total d with
      | some total => .ok total
      | none => .error (sumOverflow .decimal)
    | v => .error (.unexpected v "Sum")) Decimal.zero

def sum (k : NumericKind) (values : List Value) : Outcome :=
  match k with
  | .word .int32 => do
    match Word.ofInt? .int32 (← sumWords values) with
    | some w => .ok (.int32 w)
    | none => .error (sumOverflow k)
  | .word .int64 => do .ok (.int64 (.wrap .int64 (← sumWords values)))
  | .single => do .ok (.single (narrow (← sumSingles values)))
  | .double => do .ok (.double (← sumDoubles values))
  | .decimal => do .ok (.decimal (← sumDecimals values))
  | k => .error (.internal ("Sum over " ++ k.name))

/-- The sum divided by the number of values; words are averaged in double precision. -/
def average (k : NumericKind) (values : List Value) : Outcome :=
  let n : Int := values.length
  match k with
  | .word .int32 | .word .int64 => do
    .ok (.double (floatOfInt (← sumWords values) / floatOfInt n))
  | .single => do .ok (.single (narrow (← sumSingles values) / float32OfInt n))
  | .double => do .ok (.double ((← sumDoubles values) / floatOfInt n))
  | .decimal => do
    match (Decimal.ofInt? n).bind (Decimal.div? (← sumDecimals values)) with
    | some d => .ok (.decimal d)
    | none => .error (.overflow "average" NumericKind.decimal.name)
  | k => .error (.internal ("Sum over " ++ k.name))

/-! ### Selections -/

/-- The number of items to take or to skip; a negative one counts as zero. -/
def itemCount (args : List Value) : Except Fault Nat :=
  match args with
  | .number (.word .int32 w) :: _ => .ok w.val.toNat
  | v :: _ => .error (.unexpected v "Take/Skip")
  | [] => .error (.internal "Take/Skip without a count")

def memberOf (v : Value) (items : List Value) : Bool :=
  items.any (·.same v)

/-- The items without those that equal an earlier one. -/
def distinct (items : List Value) : List Value :=
  items.foldl (fun seen v => if memberOf v seen then seen else seen ++ [v]) []

def emptySequence (q : Query) : Fault :=
  .emptySequence q.name

def itemOr (q : Query) (item : Option Value) : Outcome :=
  match item with
  | some v => .ok v
  | none => .error (emptySequence q)

/-- The extreme of the images, of which there has to be one. -/
def extremum (q : Query) (wanted : Ordering) (items : List Value) (body : Option ItemFunction) :
    Outcome := do
  let values ← projected items body
  if values.isEmpty then .error (emptySequence q) else .ok (extreme wanted values)

/-! ### Queries -/

/-- Evaluates a query on items; `args` are the arguments that are no functions of them. -/
def query (q : Query) (items : List Value) (body : Option ItemFunction) (args : List Value) :
    Outcome := do
  match q with
  | .select => .ok (.array (← project (← requireBody q body) items))
  | .filter => .ok (.array (← keep (← requireBody q body) items))
  | .orderBy descending => .ok (.array (← sortByKey items (← requireBody q body) descending))
  | .toArray => .ok (.array items)
  | .count => .ok (.count (← matching items body).length)
  | .any =>
    match body with
    | some p => .ok (.boolean (← items.anyM (holds p)))
    | none => .ok (.boolean !items.isEmpty)
  | .all => .ok (.boolean (← items.allM (holds (← requireBody q body))))
  | .first => itemOr q (← matching items body).head?
  | .firstOrDefault default => .ok ((← matching items body).head?.getD default)
  | .last => itemOr q (← matching items body).getLast?
  | .lastOrDefault default => .ok ((← matching items body).getLast?.getD default)
  | .sum k => sum k (← projected items body)
  | .average k =>
    let values ← projected items body
    if values.isEmpty then .error (emptySequence q) else average k values
  | .min => extremum q .lt items body
  | .max => extremum q .gt items body
  | .contains =>
    match args with
    | v :: _ => .ok (.boolean (memberOf v items))
    | [] => .error (.internal "Contains without a value")
  | .take => .ok (.array (items.take (← itemCount args)))
  | .skip => .ok (.array (items.drop (← itemCount args)))
  | .distinct => .ok (.array (distinct items))
  | .reverse => .ok (.array items.reverse)

end Elementwise.Eval
