import Cafce.Correctness.Configuration
import Cafce.Correctness.Containment
import Cafce.Model.Probe

/-! When the keys of a configuration are single nonempty lines. Only the project is checked
after expansion, so a key is what its template and the variables make of it.
-/

namespace Cafce

open DelimitedTemplate DirectoryTree Fallible

end Cafce
