import Elementwise.Proofs.Substitution.Binding
import Elementwise.Stage

/-!
The substitution law of the functions of items: to evaluate one on a literal is to evaluate its body
with the literal in the place of the parameter.
-/

namespace Elementwise

open Eval

namespace Typing

variable {catalog : Catalog} {scopes : List Scope} (l : Literal) (x : Ident) (b : Expr)
  (offsets : Fin 5 → Nat)

variable {l x b}

end Typing

end Elementwise
