/-!
# Powers

Powers of naturals and integers are those of the core library wherever this namespace is open. A
library of algebra has a second way to read `x ^ n`; a definition is to mean the same with it and
without it.
-/

namespace PgRole

attribute [scoped instance (high)] instPowNat

-- for an exponent that is a numeral
attribute [default_instance (high + 1)] instPowNat

end PgRole
