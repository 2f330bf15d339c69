import RuntimeProfiles.Capabilities
import RuntimeProfiles.Layout
import RuntimeProfiles.Log

/-!
# Runtime configurations

A `RuntimeConfig` is a toggle set together with everything derived from it.
`RuntimeConfig.ofToggles` is the rule, `RuntimeConfig.resolve` the same with a log of what happened.
-/

namespace RuntimeProfiles

/-- A fully resolved build: the toggles, the flags derived from them, and the layout. -/
structure RuntimeConfig where
  toggles : ToggleSet
  capabilities : Capabilities
  layout : Layout
deriving DecidableEq, Repr

namespace RuntimeConfig

/-- Resolves a toggle set under the native layout. -/
def ofToggles (toggles : ToggleSet) : Except Rejection RuntimeConfig := do
  let capabilities ← Capabilities.resolve toggles
  return ⟨toggles, capabilities, .native⟩

/-- The warning about the transitional override. -/
def forcedBarrierEntry : Log.Entry :=
  ⟨.warn, "`force-read-barrier` is transitional; compiler read barriers are emitted without a read barrier collector"⟩

/-- The entry about a rejected toggle set. -/
def rejectedEntry (rejection : Rejection) : Log.Entry :=
  ⟨.error, "rejected toggle set (" ++ rejection.category.title ++ "): " ++ rejection.message⟩

/-- The entry about a resolved configuration. -/
def resolvedEntry (capabilities : Capabilities) : Log.Entry :=
  ⟨.debug, "resolved " ++ capabilities.platform.name ++ " configuration: read barrier "
    ++ capabilities.readBarrier.title ++ ", emit compiler read barrier "
    ++ toString capabilities.emitCompilerReadBarrier ++ ", heap poisoning "
    ++ toString capabilities.poisonHeapReferences ++ ", tlab " ++ toString capabilities.useTlab⟩

/-- What `resolve` logs about its result. A rejected toggle set is reported as such and nothing
more is said about it. -/
def entries : Except Rejection RuntimeConfig → List Log.Entry
  | .error rejection => [rejectedEntry rejection]
  | .ok config =>
    (if config.toggles.forceReadBarrier then [forcedBarrierEntry] else [])
      ++ [resolvedEntry config.capabilities]

/-- Resolves a toggle set and logs the outcome. -/
def resolve (toggles : ToggleSet) : Except Rejection RuntimeConfig × List Log.Entry :=
  (ofToggles toggles, entries (ofToggles toggles))

/-- Whether an access at `offset` from null is sure to fault under the layout of the
configuration. -/
def canDoImplicitNullCheckOn (config : RuntimeConfig) (offset : UInt64) : Bool :=
  config.layout.canDoImplicitNullCheckOn offset

end RuntimeConfig

end RuntimeProfiles
