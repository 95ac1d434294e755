import Std.Data.ExtTreeMap

set_option autoImplicit false

namespace GraphBrowser

-- A finite map from identifiers, in the order of their code points. Two of these are equal when they
-- hold the same entries.
abbrev IdMap (β : Type) := Std.ExtTreeMap String β

end GraphBrowser
