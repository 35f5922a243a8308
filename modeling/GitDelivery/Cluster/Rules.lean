import GitDelivery.Resource.Kind
import GitDelivery.Resource.Subscription

set_option autoImplicit false

/-! Which kinds of objects a subscription may deploy. -/

namespace GitDelivery

/-- Does a rule speak of a kind? A star stands for every kind of the rule's version. -/
def KindRule.covers (kind : ResourceKind) (rule : KindRule) : Bool :=
  rule.apiVersion = kind.apiVersion
    && rule.kinds.any fun name => name = "*" || name = kind.kind

/-- May objects of a kind be deployed? Without rules that allow something everything is allowed, and
a rule that denies something always counts. -/
def ResourceKind.isAllowed (allow deny : List KindRule) (kind : ResourceKind) : Bool :=
  (allow.isEmpty || allow.any (KindRule.covers kind)) && !deny.any (KindRule.covers kind)

end GitDelivery
