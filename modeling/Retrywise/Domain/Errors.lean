import Retrywise.Foundation.Raise

/-!
# Domain failures

`errors.py`: the exceptions a domain call can end with, with the attributes and
messages the callers see. `overflow` is not a class of that file: it is the
`OverflowError` of datetime arithmetic that leaves the calendar, which the
domain code lets through.
-/

namespace Retrywise.Domain

inductive DomainError where
  | domain (message : String)
  | invalidValue (message : String)
  | versionConflict (expected actual : Int)
  | invalidTransition (machine current target : String)
  | authorizationBinding (message : String)
  | overflow
deriving DecidableEq, Repr

end Retrywise.Domain
