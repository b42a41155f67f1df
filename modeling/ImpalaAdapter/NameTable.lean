/-
This file describes tables whose entries come in the order of their names.
-/

import Std.Data.ExtTreeMap

namespace ImpalaAdapter

abbrev NameTable (Entry : Type) := Std.ExtTreeMap String Entry

end ImpalaAdapter
