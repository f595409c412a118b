/-!
The pages of the manual that the program prints.
-/

namespace Elementwise.Command.Manual

/-- Lines as a page. -/
def page (lines : List String) : String :=
  String.join (lines.map (· ++ "\n"))

def overview : String :=
  page [
    "QUILL DOCUMENTATION",
    "",
    "Quill compiles a small, statically typed expression over one input element",
    "into a function that maps each element of a stream to one output value.",
    "The element is called `it`. Names, keywords and members are",
    "case-insensitive.",
    "",
    "DOCUMENTATION CATEGORIES",
    "",
    "  syntax            Literals, `it`, member access, indexers, records, lambdas",
    "  operators         Arithmetic, comparison, logical, conditional and `??`",
    "  types             Primitive types, nullable and array forms, promotion",
    "  conversions       Cast-style conversions and the checked Convert class",
    "  members           Library classes and the members of values",
    "  queries           Select, Where, OrderBy and the other sequence operators",
    "  nulls             null, nullable values, np() and lifted operators",
    "",
    "QUICK REFERENCE",
    "",
    "  it                         The input element",
    "  it * 2                     Arithmetic",
    "  float(it)                  Conversion by type name",
    "  long?(it).HasValue         Nullable conversion",
    "  Math.PI                    Static member",
    "  new(it as Data).Data       Anonymous record",
    "  new[] \x7b it, 1 \x7d            Array literal",
    "  it.Select(x => x * 2)      Query operator with a lambda",
    "  np(it.Name.Length) ?? 0    Null propagation and coalescing",
    "",
    "Run 'quill doc <category>' for detailed documentation.",
    "Run 'quill types' to list library types, 'quill describe <type>' for members."]

def grammar : String :=
  page [
    "SYNTAX - Literals, Access and Lambdas",
    "",
    "THE INPUT ELEMENT",
    "  it",
    "    The element being processed. Its type is the declared input type.",
    "",
    "    Example:",
    "      Input:  42 (int)",
    "      Expr:   it",
    "      Output: 42",
    "",
    "LITERALS",
    "  42  42L  42U  42UL        Int32, Int64, UInt32, UInt64",
    "  1.5  1.5f  1.5m           Double, Single, Decimal",
    "  \"text\"  'text'            String",
    "  'c'                       Char (a single-quoted single character)",
    "  true  false  null",
    "",
    "  Integer literals too large for Int32 become UInt32, Int64 or UInt64.",
    "",
    "MEMBER ACCESS",
    "  it.Length",
    "  DateTime.MinValue.Second",
    "    Static members are reached through a library type name, instance",
    "    members through a value. See 'quill doc members'.",
    "",
    "INDEXERS",
    "  \"abc\"[1]                  Char at a position",
    "  new[] \x7b 1, 2, 3 \x7d[0]      Array element",
    "",
    "ARRAYS AND RECORDS",
    "  new[] \x7b it, it + 1 \x7d",
    "    An array whose element type is the common type of the items.",
    "",
    "  new(it as Value, it * 2 as Twice)",
    "    An anonymous record with named fields; read them back with '.Value'.",
    "",
    "LAMBDAS",
    "  x => x * 2",
    "  (x) => x * 2",
    "    Only allowed as arguments of query operators. A lambda parameter",
    "    shadows outer names; 'it' still refers to the input element.",
    "",
    "CASE",
    "  Keywords, type names, members and record fields ignore case:",
    "  math.pi, MATH.PI and Math.PI are the same expression."]

def operators : String :=
  page [
    "OPERATORS - Arithmetic, Comparison and Logic",
    "",
    "PRECEDENCE (lowest first)",
    "  c ? a : b   iif(c, a, b)    Conditional",
    "  a ?? b                      Null coalescing",
    "  ||  or                      Logical or (short-circuit)",
    "  &&  and                     Logical and (short-circuit)",
    "  ==  !=                      Equality",
    "  <  >  <=  >=                Relational",
    "  +  -                        Additive, string concatenation",
    "  *  /  %  mod                Multiplicative",
    "  -x  !x  not x               Unary",
    "  .m  (..)  [..]              Member, call, index",
    "",
    "ARITHMETIC",
    "  Operands are promoted to a common numeric type: Int32, then UInt32,",
    "  Int64, UInt64, Single, Double, Decimal. Integer arithmetic wraps on",
    "  overflow; Decimal arithmetic faults. Integer division and modulo by",
    "  zero fault.",
    "",
    "  DateTime - DateTime       -> TimeSpan",
    "  DateTime + TimeSpan       -> DateTime",
    "  TimeSpan + TimeSpan       -> TimeSpan",
    "",
    "STRINGS",
    "  \"a\" + it",
    "    '+' with a String operand concatenates the text form of the other",
    "    operand.",
    "",
    "COMPARISON",
    "  Numbers compare after promotion. Strings compare ordinally. Char,",
    "  DateTime, DateTimeOffset, TimeSpan and enum values compare with their",
    "  own kind.",
    "",
    "CONDITIONAL",
    "  it > 0 ? Convert.ToInt16(it) : Int16.MinValue",
    "    Both branches must share a type, or one must convert to the other."]

def types : String :=
  page [
    "TYPES - Primitive, Nullable and Array Types",
    "",
    "PRIMITIVES",
    "  Boolean (bool)   Char (char)     SByte (sbyte)   Byte (byte)",
    "  Int16 (short)    UInt16 (ushort) Int32 (int)     UInt32 (uint)",
    "  Int64 (long)     UInt64 (ulong)  Single (float)  Double (double)",
    "  Decimal (decimal) String (string) Object (object)",
    "  DateTime  DateTimeOffset  TimeSpan  Guid  DayOfWeek",
    "",
    "NULLABLE",
    "  int?  DateTime?",
    "    Value types may be wrapped as nullable. Strings, arrays and Object",
    "    already accept null.",
    "",
    "ARRAYS",
    "  int[]  string[]  double?[]",
    "",
    "IMPLICIT CONVERSIONS",
    "  Numeric widening happens wherever a wider type is expected:",
    "  Int32 -> Int64 -> Single -> Double, Int32 -> Decimal, Char -> UInt16 ...",
    "  Any value converts to Object; any value type converts to its nullable.",
    "",
    "Run 'quill types' to list every library type."]

def conversions : String :=
  page [
    "CONVERSIONS - Casts and Convert",
    "",
    "CAST-STYLE",
    "  int(it)  float(it)  Single(it)  long?(it)  object(it)  DayOfWeek(it)",
    "    Calling a type name converts its single argument. Numeric casts are",
    "    unchecked: integers wrap and floating point values truncate toward",
    "    zero. Conversions to or from Decimal are checked and fault on",
    "    overflow.",
    "",
    "  string(it)",
    "    Not allowed for numbers. Use it.ToString() or Convert.ToString(it).",
    "",
    "CONVERT CLASS",
    "  Convert.ToInt16(it)  Convert.ToByte(it)  Convert.ToDouble(it) ...",
    "    Checked conversions. Out-of-range values fault, fractional values",
    "    round half to even, strings are parsed, booleans become 0 or 1.",
    "",
    "    Example:",
    "      Input:  300 (int)",
    "      Expr:   Convert.ToByte(it)",
    "      Output: fault: value 300 does not fit in Byte",
    "",
    "PARSING",
    "  int.Parse(\"42\")  double.Parse(it)  Guid.Parse(it)"]

def members : String :=
  page [
    "MEMBERS - Library Classes and Value Members",
    "",
    "STATIC MEMBERS",
    "  Math.PI  Math.Abs(x)  Math.Round(x, digits)  Math.Max(a, b) ...",
    "  Int32.MaxValue  Double.NaN  Boolean.TrueString",
    "  DateTime.MinValue  TimeSpan.TicksPerMillisecond  Guid.Empty",
    "  Regex.IsMatch(text, pattern)",
    "",
    "INSTANCE MEMBERS",
    "  Every value      ToString()",
    "  String           Length, ToUpper(), Substring(i, n), IndexOf(s) ...",
    "  DateTime         Year, Month, Day, Hour, DayOfWeek, AddDays(n) ...",
    "  TimeSpan         Days, Hours, TotalSeconds, Ticks ...",
    "  Guid             ToByteArray()",
    "  Arrays           Length and the query operators",
    "  Nullable<T>      HasValue, Value, GetValueOrDefault()",
    "",
    "Run 'quill describe <type>' for the full member list of a type."]

def queries : String :=
  page [
    "QUERIES - Sequence Operators",
    "",
    "Arrays and sequences support query operators. A lambda argument names the",
    "element; without a lambda, 'it' inside the argument is the element.",
    "",
    "    Example:",
    "      Input:  21 (int)",
    "      Expr:   new[] \x7b it \x7d.Select(x => x * 2).ToArray()",
    "      Output: [42]",
    "",
    "OPERATORS",
    "  Select  Where  OrderBy  OrderByDescending  ToArray",
    "  Count  Any  All  First  FirstOrDefault  Last  LastOrDefault",
    "  Sum  Min  Max  Average  Contains  Take  Skip  Distinct  Reverse",
    "",
    "  First, Last, Min, Max and Average fault on an empty sequence.",
    "  Sum of integers faults on overflow. OrderBy is stable.",
    "",
    "Run 'quill describe int[]' to see usage for every operator."]

def nulls : String :=
  page [
    "NULLS - null, Nullable Values and Propagation",
    "",
    "NULL LITERAL",
    "  null",
    "    Takes the type its context requires. A bare 'null' expression has",
    "    type Object.",
    "",
    "LIFTED OPERATORS",
    "  Arithmetic with a null operand yields null. Relational comparisons",
    "  with a null operand are false. 'null == null' is true.",
    "",
    "NULL PROPAGATION",
    "  np(it.Name.Length)",
    "    Evaluates the member chain, yielding null as soon as any link is null.",
    "    A non-nullable result becomes nullable.",
    "",
    "COALESCING",
    "  np(string(null).Length) ?? it",
    "    The left side unless it is null, otherwise the right side.",
    "",
    "NULLABLE MEMBERS",
    "  long?(it).HasValue",
    "  long?(it).Value          faults when there is no value",
    "  long?(it).GetValueOrDefault()"]

end Elementwise.Command.Manual
