import GitDelivery.Connection
import GitDelivery.Repository.Revision

set_option autoImplicit false

/-! Remote repositories, and what is asked of them when a subscription is synchronised. -/

namespace GitDelivery

structure Remote where
  url : String
  connection : Connection
  deriving DecidableEq

/-- The revision to fetch, into which directory and from where. The second remote is tried when the
first one fails. -/
structure CloneOptions where
  revision : Revision
  depth : Nat
  directory : String
  primary : Remote
  secondary : Option Remote
  deriving DecidableEq

namespace CloneOptions

/-- The remotes in the order in which they are tried. -/
def remotes (options : CloneOptions) : List Remote :=
  options.primary :: options.secondary.toList

end CloneOptions

end GitDelivery
