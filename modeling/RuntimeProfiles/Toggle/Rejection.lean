import RuntimeProfiles.Toggle

/-!
# Rejected toggle sets

`Rejection` lists every reason for which a toggle set describes no build, with the text of each.
`ReadBarrier.ofFlags` combines the three independent mechanism flags of a build system, of which at
most one may be set.
-/

namespace RuntimeProfiles

/-- Why a toggle set describes no build. -/
inductive Rejection where
  /-- A device build that names no operating system. -/
  | missingDevicePlatform
  /-- A device build that names both operating systems. -/
  | ambiguousDevicePlatform
  /-- A host build with a switch that only devices have. -/
  | deviceFlagOnHost (flag : Toggle)
  /-- Two read barrier mechanisms at once. -/
  | multipleReadBarriers (first second : ReadBarrier)
  /-- A read barrier without a collector that moves objects. -/
  | readBarrierWithoutMovingCollector (barrier : ReadBarrier)
deriving DecidableEq, Repr

namespace Rejection

/-- The two broad reasons behind a rejection. -/
inductive Category where
  /-- Switches that exclude each other, or a required choice that was not made. -/
  | configurationConflict
  /-- A meaningful combination that nothing implements. -/
  | unsupportedCombination
deriving DecidableEq, Repr

/-- The name under which logs show a category. -/
def Category.title : Category → String
  | .configurationConflict => "ConfigurationConflict"
  | .unsupportedCombination => "UnsupportedCombination"

def category : Rejection → Category
  | .missingDevicePlatform | .ambiguousDevicePlatform | .deviceFlagOnHost _ =>
    .configurationConflict
  | .multipleReadBarriers _ _ | .readBarrierWithoutMovingCollector _ => .unsupportedCombination

/-- The text of a rejection. -/
def message : Rejection → String
  | .missingDevicePlatform =>
    "either `" ++ Toggle.targetLinux.key ++ "` or `" ++ Toggle.targetAndroid.key
      ++ "` must be set for device builds"
  | .ambiguousDevicePlatform =>
    "`" ++ Toggle.targetLinux.key ++ "` and `" ++ Toggle.targetAndroid.key
      ++ "` are mutually exclusive for device builds"
  | .deviceFlagOnHost flag =>
    "`" ++ flag.key ++ "` set for host build (`" ++ Toggle.deviceTarget.key ++ "` is off)"
  | .multipleReadBarriers first second =>
    "read barriers `" ++ first.featureName ++ "` and `" ++ second.featureName
      ++ "` cannot be combined"
  | .readBarrierWithoutMovingCollector barrier =>
    "read barrier `" ++ barrier.featureName ++ "` requires `" ++ Toggle.movingCollector.key ++ "`"

end Rejection

/-- The mechanism that three independent flags select. The flags come unchecked from a build
system, so two of them are a rejection and not a silent choice. -/
def ReadBarrier.ofFlags (baker brooks tableLookup : Bool) : Except Rejection ReadBarrier :=
  match baker, brooks, tableLookup with
  | false, false, false => .ok .none
  | true, false, false => .ok .baker
  | false, true, false => .ok .brooks
  | false, false, true => .ok .tableLookup
  | true, true, _ => .error (.multipleReadBarriers .baker .brooks)
  | true, false, true => .error (.multipleReadBarriers .baker .tableLookup)
  | false, true, true => .error (.multipleReadBarriers .brooks .tableLookup)

end RuntimeProfiles
