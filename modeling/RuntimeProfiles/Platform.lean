import RuntimeProfiles.Toggle.Rejection

/-!
# Platforms

Three switches describe the platform of a build; `Platform.ofFlags` reduces them to one identity or
says why they describe none.
-/

namespace RuntimeProfiles

/-- What a build is for. -/
inductive Platform where
  /-- The development host. -/
  | host
  /-- A device with a plain Linux kernel. -/
  | deviceLinux
  /-- A device that runs Android. -/
  | deviceAndroid
deriving DecidableEq, Repr, Inhabited

namespace Platform

/-- All platforms, in the order in which messages list them. -/
def all : List Platform := [.host, .deviceLinux, .deviceAndroid]

/-- The name used in dumps, reports and logs. -/
def name : Platform → String
  | .host => "host"
  | .deviceLinux => "device-linux"
  | .deviceAndroid => "device-android"

/-- Whether the build is for any device. -/
def isTargetBuild : Platform → Bool
  | .host => false
  | _ => true

/-- Whether the build is for a device with a plain Linux kernel. -/
def isTargetLinux : Platform → Bool
  | .deviceLinux => true
  | _ => false

/-- Whether the operating system of the platform runs a Linux kernel. Every device does, and the
development host is a Linux machine. -/
def runsLinuxKernel : Platform → Bool
  | .host => true
  | .deviceLinux | .deviceAndroid => true

/-- The platform that the three platform switches describe. -/
def ofFlags (deviceTarget targetLinux targetAndroid : Bool) : Except Rejection Platform :=
  match deviceTarget, targetLinux, targetAndroid with
  | true, true, false => .ok .deviceLinux
  | true, false, true => .ok .deviceAndroid
  | true, false, false => .error .missingDevicePlatform
  | true, true, true => .error .ambiguousDevicePlatform
  | false, false, false => .ok .host
  | false, true, _ => .error (.deviceFlagOnHost .targetLinux)
  | false, false, true => .error (.deviceFlagOnHost .targetAndroid)

end Platform

/-- The platform of a toggle set. -/
def ToggleSet.platform (toggles : ToggleSet) : Except Rejection Platform :=
  Platform.ofFlags toggles.deviceTarget toggles.targetLinux toggles.targetAndroid

/-- The clock that method tracing reads. -/
inductive TraceClock where
  /-- Processor time of the running thread. -/
  | threadCpu
  | wall
  /-- Wall time and processor time side by side. -/
  | dual
deriving DecidableEq, Repr, Inhabited

namespace TraceClock

/-- All clocks, in the order in which messages list them. -/
def all : List TraceClock := [.threadCpu, .wall, .dual]

/-- The name used in dumps. -/
def key : TraceClock → String
  | .threadCpu => "thread-cpu"
  | .wall => "wall"
  | .dual => "dual"

/-- The name used in reports. -/
def title : TraceClock → String
  | .threadCpu => "ThreadCpu"
  | .wall => "Wall"
  | .dual => "Dual"

/-- A Linux kernel has a cheap thread clock beside the wall clock, so both are read there. -/
def defaultFor (platform : Platform) : TraceClock :=
  if platform.runsLinuxKernel then .dual else .wall

end TraceClock

end RuntimeProfiles
