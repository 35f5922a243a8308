import GitDelivery.Hook.Template
import GitDelivery.Resource.Kind
import GitDelivery.Settings

set_option autoImplicit false

/-! What is the same for every delivery. -/

namespace GitDelivery

/-- The settings, which kinds of objects live in namespaces, and what tells the jobs of one revision
of a subscription from those of another. -/
structure Context where
  settings : Settings
  isNamespaced : ResourceKind → Bool
  hookSuffix : Subscription → String := HookJob.revisionSuffix

end GitDelivery
