import Elementwise.Text.Case

/-!
The query operators that arrays and sequences have, with a line on how each is used.
-/

namespace Elementwise

inductive QueryOperator where
  | select | filter | orderBy | orderByDescending | toArray | count | any | all
  | first | firstOrDefault | last | lastOrDefault | sum | min | max | average
  | contains | take | skip | distinct | reverse
  deriving DecidableEq

namespace QueryOperator

/-- The operators in their order of presentation, with their names and uses. -/
def table : List (QueryOperator × String × String) :=
  [(select, "Select", "Select(x => f(x)) projects every element"),
   (filter, "Where", "Where(x => p(x)) keeps the elements matching a predicate"),
   (orderBy, "OrderBy", "OrderBy(x => key) sorts ascending by a key"),
   (orderByDescending, "OrderByDescending",
     "OrderByDescending(x => key) sorts descending by a key"),
   (toArray, "ToArray", "ToArray() materializes a sequence into an array"),
   (count, "Count", "Count() or Count(x => p(x)) counts elements"),
   (any, "Any", "Any() or Any(x => p(x)) tests for at least one element"),
   (all, "All", "All(x => p(x)) tests every element"),
   (first, "First", "First() or First(x => p(x)); faults when there is none"),
   (firstOrDefault, "FirstOrDefault",
     "FirstOrDefault() or FirstOrDefault(x => p(x)); default when there is none"),
   (last, "Last", "Last() or Last(x => p(x)); faults when there is none"),
   (lastOrDefault, "LastOrDefault",
     "LastOrDefault() or LastOrDefault(x => p(x)); default when there is none"),
   (sum, "Sum", "Sum() or Sum(x => n(x)) adds numeric elements"),
   (min, "Min", "Min() or Min(x => key) smallest element or key"),
   (max, "Max", "Max() or Max(x => key) largest element or key"),
   (average, "Average", "Average() or Average(x => n(x)) arithmetic mean"),
   (contains, "Contains", "Contains(value) tests membership"),
   (take, "Take", "Take(n) keeps the first n elements"),
   (skip, "Skip", "Skip(n) drops the first n elements"),
   (distinct, "Distinct", "Distinct() removes duplicates, keeping first occurrences"),
   (reverse, "Reverse", "Reverse() reverses the order")]

/-- The operator with a name, whose ASCII letters may be spelled in either case. -/
def ofName? (name : String) : Option QueryOperator :=
  (table.find? fun (_, n, _) => Text.sameIgnoringAsciiCase n name).map (·.1)

def name (op : QueryOperator) : String :=
  ((table.find? fun (o, _, _) => o = op).map (·.2.1)).getD ""

end QueryOperator

end Elementwise
