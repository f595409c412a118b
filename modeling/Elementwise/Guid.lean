import Elementwise.Text.Numeral

/-!
Globally unique identifiers: numbers of 128 bits, written as hexadecimal digits in groups.
-/

namespace Elementwise

structure Guid where
  code : Fin (Nat.pow 2 128)
  deriving DecidableEq

namespace Guid

def zero : Guid := ⟨0⟩

/-! ### Text -/

def hexDigits (n : Nat) : List Char :=
  let ds := Nat.toDigits 16 n
  List.replicate (32 - ds.length) '0' ++ ds

/-- Groups of 8, 4, 4, 4 and 12 lowercase digits. -/
def text (g : Guid) : List Char :=
  let ds := hexDigits g.code.val
  ds.take 8 ++ '-' :: (ds.drop 8).take 4 ++ '-' :: (ds.drop 12).take 4 ++ '-' ::
    (ds.drop 16).take 4 ++ '-' :: ds.drop 20

/-! ### Reading -/

def ofDigits? (ds : List Char) : Option Guid :=
  let n := Text.ofHexDigits ds
  if h : n < Nat.pow 2 128 then
    if ds.length = 32 ∧ ds.all Text.isAsciiHexDigit then some ⟨⟨n, h⟩⟩ else none
  else none

/-- Reads the groups with the hyphens between them. -/
def ofGroups? (cs : List Char) : Option Guid :=
  let hyphen (i : Nat) : Bool := cs[i]? == some '-'
  if cs.length = 36 ∧ hyphen 8 ∧ hyphen 13 ∧ hyphen 18 ∧ hyphen 23 then
    ofDigits? (cs.take 8 ++ (cs.drop 9).take 4 ++ (cs.drop 14).take 4 ++ (cs.drop 19).take 4 ++
      cs.drop 24)
  else none

/-- Digits of either case, in groups or not; groups may stand in braces or after `urn:uuid:`. -/
def parse? (cs : List Char) : Option Guid :=
  let urn := "urn:uuid:".toList
  match cs with
  | '\x7b' :: rest => if rest.getLast? == some '\x7d' then ofGroups? rest.dropLast else none
  | cs =>
    if cs.length = 32 then ofDigits? cs
    else if urn.isPrefixOf cs then ofGroups? (cs.drop urn.length)
    else ofGroups? cs

/-! ### Bytes -/

/-- The bytes, most significant first. -/
def bytes (g : Guid) : List Nat :=
  (List.range 16).map fun i => g.code.val / Nat.pow 256 (15 - i) % 256

/-- The bytes with each of the first three groups reversed. -/
def mixedBytes (g : Guid) : List Nat :=
  let bs := g.bytes
  (bs.take 4).reverse ++ ((bs.drop 4).take 2).reverse ++ ((bs.drop 6).take 2).reverse ++ bs.drop 8

end Guid

end Elementwise
