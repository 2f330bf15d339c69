import RuntimeProfiles.Proofs.Session

/-!
# Configurations are consistent

A toggle set describes a platform or it does not (`ToggleSet.Describes`), and its read barrier is
served by the collector or it is not (`ToggleSet.ServesBarrier`). Resolution succeeds exactly if
both hold, and what it reports otherwise is fixed by `ToggleSet.IsRejectedFor`.

The invariants of a configuration (`RuntimeConfig.Consistent`) follow from the one fact that it is
the resolution of its own toggles. This fact is carried through everything that hands a
configuration out:

* **`RuntimeConfig.ofToggles_eq_ok_iff`** — what resolution gives;
* **`RuntimeConfig.consistent_of_ofToggles`** — so what it gives is consistent;
* **`HandedOut.ofToggles_toggles`** — profiles, builds and sessions hand out nothing else;
* **`resolution_consistent`** — both together.
-/

namespace RuntimeProfiles

/-! ## Which toggle sets resolve -/

namespace ToggleSet

/-- The platform switches are those of a platform. -/
def Describes (toggles : ToggleSet) : Platform → Prop
  | .host =>
    toggles.deviceTarget = false ∧ toggles.targetLinux = false ∧ toggles.targetAndroid = false
  | .deviceLinux =>
    toggles.deviceTarget = true ∧ toggles.targetLinux = true ∧ toggles.targetAndroid = false
  | .deviceAndroid =>
    toggles.deviceTarget = true ∧ toggles.targetLinux = false ∧ toggles.targetAndroid = true

/-- There is no read barrier, or a collector that moves objects. -/
def ServesBarrier (toggles : ToggleSet) : Prop :=
  toggles.readBarrier = .none ∨ toggles.movingCollector = true

/-- Why a toggle set does not resolve. The read barrier counts only if the switches describe a
platform. -/
inductive IsRejectedFor (toggles : ToggleSet) : Rejection → Prop where
  | missing (hdevice : toggles.deviceTarget = true) (hlinux : toggles.targetLinux = false)
      (handroid : toggles.targetAndroid = false) : IsRejectedFor toggles .missingDevicePlatform
  | ambiguous (hdevice : toggles.deviceTarget = true) (hlinux : toggles.targetLinux = true)
      (handroid : toggles.targetAndroid = true) : IsRejectedFor toggles .ambiguousDevicePlatform
  | linuxOnHost (hdevice : toggles.deviceTarget = false) (hlinux : toggles.targetLinux = true) :
      IsRejectedFor toggles (.deviceFlagOnHost .targetLinux)
  | androidOnHost (hdevice : toggles.deviceTarget = false) (hlinux : toggles.targetLinux = false)
      (handroid : toggles.targetAndroid = true) :
      IsRejectedFor toggles (.deviceFlagOnHost .targetAndroid)
  | barrier {platform : Platform} (hplatform : toggles.Describes platform)
      (hserves : ¬ toggles.ServesBarrier) :
      IsRejectedFor toggles (.readBarrierWithoutMovingCollector toggles.readBarrier)

theorem platform_eq_ok_iff {toggles : ToggleSet} {platform : Platform} :
    toggles.platform = .ok platform ↔ toggles.Describes platform := by
  obtain ⟨device, linux, android⟩ := toggles
  unfold ToggleSet.platform Platform.ofFlags
  cases device <;> cases linux <;> cases android <;> cases platform <;> simp [Describes]

theorem isRejectedFor_of_platform {toggles : ToggleSet} {rejection : Rejection}
    (h : toggles.platform = .error rejection) : toggles.IsRejectedFor rejection := by
  unfold ToggleSet.platform Platform.ofFlags at h
  split at h <;> cases h
  · next hd hl ha => exact .missing hd hl ha
  · next hd hl ha => exact .ambiguous hd hl ha
  · next hd hl => exact .linuxOnHost hd hl
  · next hd hl ha => exact .androidOnHost hd hl ha

theorem servesBarrier_iff (toggles : ToggleSet) :
    toggles.ServesBarrier ↔ (toggles.readBarrier.isActive && !toggles.movingCollector) = false := by
  rw [ServesBarrier]
  cases toggles.readBarrier <;> cases toggles.movingCollector <;> simp [ReadBarrier.isActive]

end ToggleSet

namespace Capabilities

/-- Once the platform is known, only the read barrier can be rejected. -/
theorem resolve_of_platform {toggles : ToggleSet} {platform : Platform}
    (h : toggles.Describes platform) :
    (toggles.ServesBarrier ∧ resolve toggles = .ok (ofPlatform toggles platform))
    ∨ (¬ toggles.ServesBarrier
      ∧ resolve toggles = .error (.readBarrierWithoutMovingCollector toggles.readBarrier)) := by
  have hplatform : toggles.platform = .ok platform := ToggleSet.platform_eq_ok_iff.2 h
  have hserves := toggles.servesBarrier_iff
  -- this is the very test that resolution makes
  cases hbarrier : toggles.readBarrier.isActive && !toggles.movingCollector with
  | false =>
    refine .inl ⟨hserves.2 hbarrier, ?_⟩
    simp only [resolve, hplatform, hbarrier]
    rfl
  | true =>
    refine .inr ⟨fun h => ?_, ?_⟩
    · rw [hserves.1 h] at hbarrier
      cases hbarrier
    · simp only [resolve, hplatform, hbarrier]
      rfl

theorem resolve_of_platform_error {toggles : ToggleSet} {rejection : Rejection}
    (h : toggles.platform = .error rejection) : resolve toggles = .error rejection := by
  rw [resolve, h]
  rfl

theorem resolve_eq_ok_iff {toggles : ToggleSet} {capabilities : Capabilities} :
    resolve toggles = .ok capabilities
      ↔ ∃ platform, toggles.Describes platform ∧ toggles.ServesBarrier
        ∧ capabilities = ofPlatform toggles platform := by
  constructor
  · intro h
    cases hplatform : toggles.platform with
    | error rejection =>
      rw [resolve_of_platform_error hplatform] at h
      cases h
    | ok platform =>
      have hdescribes := ToggleSet.platform_eq_ok_iff.1 hplatform
      rcases resolve_of_platform hdescribes with ⟨hserves, hok⟩ | ⟨-, herror⟩
      · rw [hok] at h
        exact ⟨platform, hdescribes, hserves, (Except.ok.inj h).symm⟩
      · rw [herror] at h
        cases h
  · rintro ⟨platform, hdescribes, hserves, rfl⟩
    rcases resolve_of_platform hdescribes with ⟨-, hok⟩ | ⟨hnot, -⟩
    · exact hok
    · exact absurd hserves hnot

theorem resolve_eq_error_iff {toggles : ToggleSet} {rejection : Rejection} :
    resolve toggles = .error rejection ↔ toggles.IsRejectedFor rejection := by
  constructor
  · intro h
    cases hplatform : toggles.platform with
    | error found =>
      rw [resolve_of_platform_error hplatform] at h
      cases h
      exact ToggleSet.isRejectedFor_of_platform hplatform
    | ok platform =>
      have hdescribes := ToggleSet.platform_eq_ok_iff.1 hplatform
      rcases resolve_of_platform hdescribes with ⟨-, hok⟩ | ⟨hnot, herror⟩
      · rw [hok] at h
        cases h
      · rw [herror] at h
        cases h
        exact .barrier hdescribes hnot
  · rintro h
    cases h with
    | barrier hdescribes hnot =>
      rcases resolve_of_platform hdescribes with ⟨hserves, -⟩ | ⟨-, herror⟩
      · exact absurd hserves hnot
      · exact herror
    | missing hd hl ha | ambiguous hd hl ha | androidOnHost hd hl ha =>
      apply resolve_of_platform_error
      simp [ToggleSet.platform, Platform.ofFlags, hd, hl, ha]
    | linuxOnHost hd hl =>
      apply resolve_of_platform_error
      simp [ToggleSet.platform, Platform.ofFlags, hd, hl]

end Capabilities

/-! ## The invariants of a configuration -/

/-- Every flag of a configuration agrees with the toggles and with the other flags. -/
structure RuntimeConfig.Consistent (config : RuntimeConfig) : Prop where
  layout : config.layout = .native
  platform : config.toggles.Describes config.capabilities.platform
  isTargetBuild : config.capabilities.isTargetBuild = true ↔ config.capabilities.platform ≠ .host
  isTargetLinux :
    config.capabilities.isTargetLinux = true ↔ config.capabilities.platform = .deviceLinux
  hostStatic : config.capabilities.hostStaticBuildEnabled = true
    ↔ config.capabilities.platform = .host ∧ config.toggles.staticHostBinaries = true
  readBarrier : config.capabilities.readBarrier = config.toggles.readBarrier
  useReadBarrier :
    config.capabilities.useReadBarrier = true ↔ config.capabilities.readBarrier ≠ .none
  oneMechanism : config.capabilities.useReadBarrier = true
    ↔ [config.capabilities.useBakerReadBarrier, config.capabilities.useBrooksReadBarrier,
        config.capabilities.useTableLookupReadBarrier].count true = 1
  bakerOrBrooks : config.capabilities.useBakerOrBrooksReadBarrier = true
    ↔ config.capabilities.readBarrier = .baker ∨ config.capabilities.readBarrier = .brooks
  forced : config.capabilities.forceReadBarrier = config.toggles.forceReadBarrier
  emit : config.capabilities.emitCompilerReadBarrier = true
    ↔ config.capabilities.forceReadBarrier = true ∨ config.capabilities.useReadBarrier = true
  movingCollector : config.capabilities.movingCollector = config.toggles.movingCollector
  servesBarrier :
    config.capabilities.useReadBarrier = true → config.capabilities.movingCollector = true
  markCompact : config.capabilities.markCompactSupport = true
    ↔ config.toggles.markCompact = true ∧ config.capabilities.movingCollector = true
  movingClasses : config.capabilities.movingClasses = true
    ↔ config.capabilities.movingCollector = true ∧ config.capabilities.markCompactSupport = false
  carried : config.capabilities.isDebugBuild = config.toggles.debugBuild
    ∧ config.capabilities.poisonHeapReferences = config.toggles.heapPoisoning
    ∧ config.capabilities.useTlab = config.toggles.tlab
    ∧ config.capabilities.isVdexEnabled = config.toggles.vdex
  traceClock : config.capabilities.traceClock = .defaultFor config.capabilities.platform
  objectAlignment : config.layout.objectAlignment.toNat.isPowerOfTwo
    ∧ config.layout.objectAlignment = 1 <<< config.layout.objectAlignmentShift
  largeObjectAlignment :
    config.layout.objectAlignment.toNat ∣ config.layout.largeObjectAlignment.toNat
      ∧ config.layout.largeObjectAlignment = config.layout.pageSize

theorem RuntimeConfig.consistent_ofPlatform {toggles : ToggleSet} {platform : Platform}
    (hdescribes : toggles.Describes platform) (hserves : toggles.ServesBarrier) :
    Consistent ⟨toggles, .ofPlatform toggles platform, .native⟩ where
  layout := rfl
  platform := hdescribes
  isTargetBuild := by
    show platform.isTargetBuild = true ↔ platform ≠ .host
    cases platform <;> decide
  isTargetLinux := by
    show platform.isTargetLinux = true ↔ platform = .deviceLinux
    cases platform <;> decide
  hostStatic := by
    show (!platform.isTargetBuild && toggles.staticHostBinaries) = true
      ↔ platform = .host ∧ toggles.staticHostBinaries = true
    cases platform <;> simp [Platform.isTargetBuild]
  readBarrier := rfl
  useReadBarrier := ReadBarrier.isActive_eq_true_iff
  oneMechanism := by
    show toggles.readBarrier.isActive = true ↔ [toggles.readBarrier == .baker,
      toggles.readBarrier == .brooks, toggles.readBarrier == .tableLookup].count true = 1
    cases toggles.readBarrier <;> decide
  bakerOrBrooks := by
    show (toggles.readBarrier == .baker || toggles.readBarrier == .brooks) = true
      ↔ toggles.readBarrier = .baker ∨ toggles.readBarrier = .brooks
    rw [Bool.or_eq_true, beq_iff_eq, beq_iff_eq]
  forced := rfl
  emit := by
    show (toggles.forceReadBarrier || toggles.readBarrier.isActive) = true
      ↔ toggles.forceReadBarrier = true ∨ toggles.readBarrier.isActive = true
    rw [Bool.or_eq_true]
  movingCollector := rfl
  servesBarrier := by
    intro hactive
    have hbarrier : toggles.readBarrier ≠ .none := ReadBarrier.isActive_eq_true_iff.1 hactive
    exact hserves.resolve_left hbarrier
  markCompact := by
    show (toggles.markCompact && toggles.movingCollector) = true
      ↔ toggles.markCompact = true ∧ toggles.movingCollector = true
    rw [Bool.and_eq_true]
  movingClasses := by
    show (toggles.movingCollector && !(toggles.markCompact && toggles.movingCollector)) = true
      ↔ toggles.movingCollector = true ∧ (toggles.markCompact && toggles.movingCollector) = false
    rw [Bool.and_eq_true, Bool.not_eq_true']
  carried := ⟨rfl, rfl, rfl, rfl⟩
  traceClock := rfl
  objectAlignment := by
    show Layout.native.objectAlignment.toNat.isPowerOfTwo
      ∧ Layout.native.objectAlignment = 1 <<< Layout.native.objectAlignmentShift
    exact ⟨⟨3, rfl⟩, rfl⟩
  largeObjectAlignment := by
    show Layout.native.objectAlignment.toNat ∣ Layout.native.largeObjectAlignment.toNat
      ∧ Layout.native.largeObjectAlignment = Layout.native.pageSize
    decide

namespace RuntimeConfig

theorem ofToggles_eq_ok_iff {toggles : ToggleSet} {config : RuntimeConfig} :
    ofToggles toggles = .ok config
      ↔ ∃ platform, toggles.Describes platform ∧ toggles.ServesBarrier
        ∧ config = ⟨toggles, .ofPlatform toggles platform, .native⟩ := by
  constructor
  · intro h
    cases hresolve : Capabilities.resolve toggles with
    | error rejection =>
      rw [ofToggles, hresolve] at h
      cases h
    | ok capabilities =>
      obtain ⟨platform, hdescribes, hserves, rfl⟩ := Capabilities.resolve_eq_ok_iff.1 hresolve
      rw [ofToggles, hresolve] at h
      exact ⟨platform, hdescribes, hserves, (Except.ok.inj h).symm⟩
  · rintro ⟨platform, hdescribes, hserves, rfl⟩
    rw [ofToggles, Capabilities.resolve_eq_ok_iff.2 ⟨platform, hdescribes, hserves, rfl⟩]
    rfl

theorem ofToggles_eq_error_iff {toggles : ToggleSet} {rejection : Rejection} :
    ofToggles toggles = .error rejection ↔ toggles.IsRejectedFor rejection := by
  rw [← Capabilities.resolve_eq_error_iff, ofToggles]
  cases Capabilities.resolve toggles with
  | error found =>
    show Except.error found = Except.error rejection ↔ Except.error found = Except.error rejection
    rw [Except.error.injEq, Except.error.injEq]
  | ok capabilities =>
    constructor
    · intro h
      cases h
    · intro h
      cases h

theorem exists_ofToggles_iff {toggles : ToggleSet} :
    (∃ config, ofToggles toggles = .ok config)
      ↔ (∃ platform, toggles.Describes platform) ∧ toggles.ServesBarrier := by
  constructor
  · rintro ⟨config, h⟩
    obtain ⟨platform, hdescribes, hserves, -⟩ := ofToggles_eq_ok_iff.1 h
    exact ⟨⟨platform, hdescribes⟩, hserves⟩
  · rintro ⟨⟨platform, hdescribes⟩, hserves⟩
    exact ⟨_, ofToggles_eq_ok_iff.2 ⟨platform, hdescribes, hserves, rfl⟩⟩

theorem toggles_of_ofToggles {toggles : ToggleSet} {config : RuntimeConfig}
    (h : ofToggles toggles = .ok config) : config.toggles = toggles := by
  obtain ⟨platform, -, -, rfl⟩ := ofToggles_eq_ok_iff.1 h
  rfl

theorem consistent_of_ofToggles {toggles : ToggleSet} {config : RuntimeConfig}
    (h : ofToggles toggles = .ok config) : config.Consistent := by
  obtain ⟨platform, hdescribes, hserves, rfl⟩ := ofToggles_eq_ok_iff.1 h
  exact consistent_ofPlatform hdescribes hserves

end RuntimeConfig

/-! ## What the program hands out -/

/-- The active configuration of a process is the compiled-in one, or one that it has installed. -/
theorem Session.active_cases {calls : List Call} {config : RuntimeConfig}
    (h : (answerAfter calls .askActive).reply = .active config) :
    config = Build.standardConfig ∨ ∃ source, .install source config ∈ calls := by
  have hactive : ((chosen? calls).getD compiledIn).config = config := by
    rw [answerAfter, after_fresh] at h
    exact Reply.active.inj h
  cases hchosen : chosen? calls with
  | none =>
    rw [hchosen] at hactive
    exact .inl hactive.symm
  | some first =>
    rw [hchosen] at hactive
    obtain ⟨call, hmem, hchoice⟩ := List.exists_of_findSome?_eq_some hchosen
    cases call with
    | install source installed =>
      cases hchoice
      cases hactive
      exact .inr ⟨source, hmem⟩
    | askActive =>
      cases hchoice
      exact .inl hactive.symm
    | askSource => cases hchoice
    | resolve profile => cases hchoice

/-- The configurations that the program hands out: those that profiles resolve to, those that builds
contain, and the active ones of processes that install only such configurations. -/
inductive HandedOut : RuntimeConfig → Prop where
  | profile {profile : Profile} {config : RuntimeConfig} (h : profile.resolve.1 = .ok config) :
      HandedOut config
  | build {build : Build} {config : RuntimeConfig} (h : build.config = .ok config) :
      HandedOut config
  | active {calls : List Session.Call} {config : RuntimeConfig}
      (hinstalled : ∀ source installed, .install source installed ∈ calls → HandedOut installed)
      (h : (Session.answerAfter calls .askActive).reply = .active config) : HandedOut config

/-- Everything that is handed out is the resolution of its own toggles. -/
theorem HandedOut.ofToggles_toggles {config : RuntimeConfig} (h : HandedOut config) :
    RuntimeConfig.ofToggles config.toggles = .ok config := by
  induction h with
  | @profile profile config h =>
    have hresolve : RuntimeConfig.ofToggles profile.toggles = .ok config := h
    rwa [RuntimeConfig.toggles_of_ofToggles hresolve]
  | @build build config h =>
    cases htoggles : build.toggles with
    | error rejection =>
      rw [Build.config, htoggles] at h
      cases h
    | ok toggles =>
      rw [Build.config, htoggles] at h
      have hresolve : RuntimeConfig.ofToggles toggles = .ok config := h
      rwa [RuntimeConfig.toggles_of_ofToggles hresolve]
  | active _ h ih =>
    -- what was installed has been handed out before, so the induction covers it
    rcases Session.active_cases h with rfl | ⟨source, hmem⟩
    · rfl
    · exact ih source _ hmem

/-- **Configurations are consistent.** A profile, whatever text it was read from, resolves exactly
if its switches describe a platform and its read barrier is served, and a fault in the switches is
reported before one in the barrier. Whatever the program hands out satisfies all invariants of a
configuration. -/
theorem resolution_consistent :
    (∀ profile : Profile,
      ((∃ config, profile.resolve.1 = .ok config)
        ↔ (∃ platform, profile.toggles.Describes platform) ∧ profile.toggles.ServesBarrier)
      ∧ ∀ rejection,
        profile.resolve.1 = .error rejection ↔ profile.toggles.IsRejectedFor rejection)
    ∧ ∀ config, HandedOut config → config.Consistent := by
  refine ⟨fun profile => ⟨?_, fun rejection => ?_⟩, fun config h => ?_⟩
  · exact RuntimeConfig.exists_ofToggles_iff
  · exact RuntimeConfig.ofToggles_eq_error_iff
  · exact RuntimeConfig.consistent_of_ofToggles h.ofToggles_toggles

/-- A process installs the configuration of an Android device and fails to install another one. The
first stays active, and it is consistent. -/
theorem resolution_consistent_android :
    HandedOut ⟨Profile.deviceAndroidCc.toggles,
        .ofPlatform Profile.deviceAndroidCc.toggles .deviceAndroid, .native⟩
      ∧ RuntimeConfig.Consistent ⟨Profile.deviceAndroidCc.toggles,
        .ofPlatform Profile.deviceAndroidCc.toggles .deviceAndroid, .native⟩ := by
  let config : RuntimeConfig := ⟨Profile.deviceAndroidCc.toggles,
    .ofPlatform Profile.deviceAndroidCc.toggles .deviceAndroid, .native⟩
  have hresolved : Profile.deviceAndroidCc.resolve.1 = .ok config := rfl
  have hreply : (Session.answerAfter
      [.install "device" config, .askSource, .install "build" Build.standardConfig]
      .askActive).reply = .active config := rfl
  have hactive : HandedOut config := by
    refine .active ?_ hreply
    intro source installed hmem
    simp only [List.mem_cons, List.not_mem_nil, or_false, reduceCtorEq, false_or,
      Session.Call.install.injEq] at hmem
    rcases hmem with ⟨-, rfl⟩ | ⟨-, rfl⟩
    · exact .profile hresolved
    · exact .build Build.config_standard
  exact ⟨hactive, resolution_consistent.2 config hactive⟩

end RuntimeProfiles
