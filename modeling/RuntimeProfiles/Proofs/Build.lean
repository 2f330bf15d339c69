import Mathlib.Data.List.Nodup
import RuntimeProfiles.Proofs.Config.Consistency

/-!
# Guards and resolution agree

The rules that stop a build are written down apart from the resolution of its toggles, which would
reject the same builds later. What both depend on is which features are requested (`Build.has`), and
neither the order nor the number of the requests:

* **`Build.conflicts_eq_nil_iff`** — a build goes through if at most one mechanism is requested and
  the features describe a platform;
* **`Build.selects_of_toggles`**, **`Build.exists_config_iff`** — its toggles resolve under the same
  conditions;
* **`Build.has_eq_isIn`**, **`Build.enabledFeatures_eq_iff`** — the configuration of a build tells
  which features it has, and so does the report about them;
* **`Build.guards_agree`** — all of it.
-/

namespace RuntimeProfiles

namespace ReadBarrier

/-- Flags select a mechanism if no two of them are set. -/
theorem exists_ofFlags_iff {baker brooks tableLookup : Bool} :
    (∃ barrier, ofFlags baker brooks tableLookup = .ok barrier)
      ↔ (baker && brooks) = false ∧ (baker && tableLookup) = false
        ∧ (brooks && tableLookup) = false := by
  cases baker <;> cases brooks <;> cases tableLookup <;> simp [ofFlags]

/-- A mechanism tells the flags that have selected it. -/
theorem flags_of_ofFlags {baker brooks tableLookup : Bool} {barrier : ReadBarrier}
    (h : ofFlags baker brooks tableLookup = .ok barrier) :
    baker = (barrier == .baker) ∧ brooks = (barrier == .brooks)
      ∧ tableLookup = (barrier == .tableLookup) := by
  unfold ofFlags at h
  split at h <;> cases h <;> decide

end ReadBarrier

/-- Flags describe a platform if a device has one operating system and the host has none. -/
theorem Platform.exists_ofFlags_iff {deviceTarget targetLinux targetAndroid : Bool} :
    (∃ platform, ofFlags deviceTarget targetLinux targetAndroid = .ok platform)
      ↔ (deviceTarget && !(targetLinux || targetAndroid)) = false
        ∧ (targetLinux && targetAndroid) = false ∧ (targetLinux && !deviceTarget) = false
        ∧ (targetAndroid && !deviceTarget) = false := by
  cases deviceTarget <;> cases targetLinux <;> cases targetAndroid <;> simp [ofFlags]

namespace Feature

theorem mem_all (feature : Feature) : feature ∈ all := by cases feature <;> decide

theorem nodup_names : (all.map name).Nodup := by decide

theorem name_injective : Function.Injective name := by
  intro first second h
  exact List.inj_on_of_nodup_map nodup_names first.mem_all second.mem_all h

/-- Whether a toggle set has what a feature selects. -/
def isIn (toggles : ToggleSet) : Feature → Bool
  | .deviceTarget => toggles.deviceTarget
  | .targetLinux => toggles.targetLinux
  | .targetAndroid => toggles.targetAndroid
  | .readBarrierBaker => toggles.readBarrier == .baker
  | .readBarrierBrooks => toggles.readBarrier == .brooks
  | .readBarrierTableLookup => toggles.readBarrier == .tableLookup
  | .heapPoisoning => toggles.heapPoisoning
  | .tlab => toggles.tlab
  | .vdex => toggles.vdex
  | .forceReadBarrier => toggles.forceReadBarrier

end Feature

namespace Build

variable {build first second : Build} {toggles : ToggleSet} {config : RuntimeConfig}

/-! ## Guards -/

/-- No two mechanisms are requested. -/
def HasOneBarrier (build : Build) : Prop :=
  ∃ barrier, ReadBarrier.ofFlags (build.has .readBarrierBaker) (build.has .readBarrierBrooks)
    (build.has .readBarrierTableLookup) = .ok barrier

/-- The requested features describe a platform. -/
def HasPlatform (build : Build) : Prop :=
  ∃ platform, Platform.ofFlags (build.has .deviceTarget) (build.has .targetLinux)
    (build.has .targetAndroid) = .ok platform

theorem conflicts_eq_nil_iff : build.conflicts = [] ↔ build.HasPlatform ∧ build.HasOneBarrier := by
  have hguards : build.conflicts = [] ↔ ∀ guard ∈ guards, guard.applies build = false := by
    simp [conflicts]
  rw [hguards, HasPlatform, HasOneBarrier, Platform.exists_ofFlags_iff,
    ReadBarrier.exists_ofFlags_iff]
  simp only [guards, List.forall_mem_cons, Guard.deviceNeedsPlatform, Guard.exclusive,
    Guard.deviceOnly, List.not_mem_nil, false_implies, implies_true, and_true, and_assoc]

/-! ## Toggles -/

/-- The toggles of a build are those that its features select. -/
structure Selects (build : Build) (toggles : ToggleSet) : Prop where
  readBarrier : ReadBarrier.ofFlags (build.has .readBarrierBaker) (build.has .readBarrierBrooks)
    (build.has .readBarrierTableLookup) = .ok toggles.readBarrier
  deviceTarget : build.has .deviceTarget = toggles.deviceTarget
  targetLinux : build.has .targetLinux = toggles.targetLinux
  targetAndroid : build.has .targetAndroid = toggles.targetAndroid
  heapPoisoning : build.has .heapPoisoning = toggles.heapPoisoning
  tlab : build.has .tlab = toggles.tlab
  vdex : build.has .vdex = toggles.vdex
  forceReadBarrier : build.has .forceReadBarrier = toggles.forceReadBarrier
  debugBuild : build.debugAssertions = toggles.debugBuild
  movingCollector : toggles.movingCollector = true

theorem selects_of_toggles (h : build.toggles = .ok toggles) : build.Selects toggles := by
  cases hbarrier : ReadBarrier.ofFlags (build.has .readBarrierBaker) (build.has .readBarrierBrooks)
    (build.has .readBarrierTableLookup) with
  | error rejection =>
    rw [Build.toggles, hbarrier] at h
    cases h
  | ok barrier =>
    rw [Build.toggles, hbarrier] at h
    cases h
    exact ⟨hbarrier, rfl, rfl, rfl, rfl, rfl, rfl, rfl, rfl, rfl⟩

theorem exists_toggles_iff : (∃ toggles, build.toggles = .ok toggles) ↔ build.HasOneBarrier := by
  constructor
  · rintro ⟨toggles, h⟩
    exact ⟨toggles.readBarrier, (selects_of_toggles h).readBarrier⟩
  · rintro ⟨barrier, h⟩
    rw [Build.toggles, h]
    exact ⟨_, rfl⟩

theorem exists_describes_iff (h : build.Selects toggles) :
    (∃ platform, toggles.Describes platform) ↔ build.HasPlatform := by
  rw [HasPlatform, h.deviceTarget, h.targetLinux, h.targetAndroid]
  exact exists_congr fun _ => ToggleSet.platform_eq_ok_iff.symm

theorem config_eq_ok_iff : build.config = .ok config
    ↔ ∃ toggles, build.toggles = .ok toggles ∧ RuntimeConfig.ofToggles toggles = .ok config := by
  rw [Build.config]
  cases build.toggles with
  | error rejection =>
    constructor
    · intro h
      cases h
    · rintro ⟨toggles, h, -⟩
      cases h
  | ok toggles =>
    constructor
    · exact fun h => ⟨toggles, rfl, h⟩
    · rintro ⟨_, ⟨⟩, h⟩
      exact h

/-- A build has a configuration under the conditions under which the guards let it through. Its
collector always moves, so that its read barrier is no further condition. -/
theorem exists_config_iff :
    (∃ config, build.config = .ok config) ↔ build.HasPlatform ∧ build.HasOneBarrier := by
  constructor
  · rintro ⟨config, h⟩
    obtain ⟨toggles, htoggles, hconfig⟩ := config_eq_ok_iff.1 h
    obtain ⟨hdescribes, -⟩ := RuntimeConfig.exists_ofToggles_iff.1 ⟨config, hconfig⟩
    exact ⟨(exists_describes_iff (selects_of_toggles htoggles)).1 hdescribes,
      exists_toggles_iff.1 ⟨toggles, htoggles⟩⟩
  · rintro ⟨hplatform, hbarrier⟩
    obtain ⟨toggles, htoggles⟩ := exists_toggles_iff.2 hbarrier
    have hselects := selects_of_toggles htoggles
    have hserves : toggles.ServesBarrier := .inr hselects.movingCollector
    obtain ⟨config, hconfig⟩ := RuntimeConfig.exists_ofToggles_iff.2
      ⟨(exists_describes_iff hselects).2 hplatform, hserves⟩
    exact ⟨config, config_eq_ok_iff.2 ⟨toggles, htoggles, hconfig⟩⟩

/-! ## Features -/

theorem has_eq_true_iff {feature : Feature} :
    build.has feature = true ↔ feature ∈ build.features := by
  rw [has, List.contains_iff_mem]

/-- The toggles of a build tell which features it has. -/
theorem has_eq_isIn (h : build.Selects toggles) (feature : Feature) :
    build.has feature = feature.isIn toggles := by
  obtain ⟨hbaker, hbrooks, htableLookup⟩ := ReadBarrier.flags_of_ofFlags h.readBarrier
  cases feature with
  | deviceTarget => exact h.deviceTarget
  | targetLinux => exact h.targetLinux
  | targetAndroid => exact h.targetAndroid
  | readBarrierBaker => exact hbaker
  | readBarrierBrooks => exact hbrooks
  | readBarrierTableLookup => exact htableLookup
  | heapPoisoning => exact h.heapPoisoning
  | tlab => exact h.tlab
  | vdex => exact h.vdex
  | forceReadBarrier => exact h.forceReadBarrier

theorem mem_enabledFeatures_iff {feature : Feature} :
    feature.name ∈ build.enabledFeatures ↔ build.has feature = true := by
  rw [enabledFeatures, List.mem_map_of_injective Feature.name_injective, List.mem_filter]
  exact and_iff_right feature.mem_all

theorem mem_enabledFeatures_iff_given {name : String} :
    name ∈ build.enabledFeatures ↔ name ∈ build.features.map Feature.name := by
  constructor
  · intro h
    obtain ⟨feature, hmem, rfl⟩ := List.mem_map.1 h
    exact List.mem_map_of_mem (has_eq_true_iff.1 (List.mem_filter.1 hmem).2)
  · intro h
    obtain ⟨feature, hmem, rfl⟩ := List.mem_map.1 h
    exact mem_enabledFeatures_iff.2 (has_eq_true_iff.2 hmem)

theorem enabledFeatures_sublist (build : Build) :
    build.enabledFeatures.Sublist (Feature.all.map Feature.name) :=
  List.filter_sublist.map _

/-- The report about features says which ones there are, and nothing more. -/
theorem enabledFeatures_eq_iff : first.enabledFeatures = second.enabledFeatures
    ↔ ∀ feature, first.has feature = second.has feature := by
  constructor
  · intro h feature
    rw [Bool.eq_iff_iff, ← mem_enabledFeatures_iff, h, mem_enabledFeatures_iff]
  · intro h
    rw [enabledFeatures, enabledFeatures, funext h]

theorem config_congr (hfeatures : ∀ feature, first.has feature = second.has feature)
    (hassertions : first.debugAssertions = second.debugAssertions) :
    first.config = second.config := by
  simp only [Build.config, Build.toggles, hfeatures, hassertions]

/-- The configuration of a build tells which features it has, and whether assertions are on. -/
theorem features_of_config (hfirst : first.config = .ok config)
    (hsecond : second.config = .ok config) :
    (∀ feature, first.has feature = second.has feature)
      ∧ first.debugAssertions = second.debugAssertions := by
  obtain ⟨toggles, htoggles, hconfig⟩ := config_eq_ok_iff.1 hfirst
  obtain ⟨toggles', htoggles', hconfig'⟩ := config_eq_ok_iff.1 hsecond
  obtain rfl : toggles = toggles' :=
    (RuntimeConfig.toggles_of_ofToggles hconfig).symm.trans
      (RuntimeConfig.toggles_of_ofToggles hconfig')
  have hselects := selects_of_toggles htoggles
  have hselects' := selects_of_toggles htoggles'
  refine ⟨fun feature => ?_, ?_⟩
  · rw [has_eq_isIn hselects, has_eq_isIn hselects']
  · rw [hselects.debugBuild, hselects'.debugBuild]

/-- **Guards and resolution agree.** A build is stopped exactly if its toggles are rejected. One
that goes through contains what its toggles resolve to. The report about its features lists those
that have been requested, each once and in the order of the table, however often and in whatever
order they have been requested. Another build contains the same configuration exactly if it has the
same report and the same assertions. -/
theorem guards_agree (build : Build) :
    (build.conflicts ≠ [] ↔ ∃ rejection, build.config = .error rejection)
    ∧ (build.conflicts = [] →
      (∃ toggles config, build.toggles = .ok toggles ∧ RuntimeConfig.ofToggles toggles = .ok config
        ∧ build.config = .ok config)
      ∧ build.enabledFeatures.Nodup
      ∧ build.enabledFeatures.Sublist (Feature.all.map Feature.name)
      ∧ (∀ name, name ∈ build.enabledFeatures ↔ name ∈ build.features.map Feature.name)
      ∧ (∀ other : Build, (∀ feature, feature ∈ other.features ↔ feature ∈ build.features) →
        other.enabledFeatures = build.enabledFeatures)
      ∧ ∀ other : Build, other.config = build.config
        ↔ other.enabledFeatures = build.enabledFeatures
          ∧ other.debugAssertions = build.debugAssertions) := by
  have hagree : build.conflicts = [] ↔ ∃ config, build.config = .ok config :=
    conflicts_eq_nil_iff.trans exists_config_iff.symm
  refine ⟨?_, fun hthrough => ⟨?_, ?_, ?_, ?_, ?_, ?_⟩⟩
  · rw [Ne, hagree]
    cases build.config with
    | error rejection => simp
    | ok config => simp
  · obtain ⟨config, h⟩ := hagree.1 hthrough
    obtain ⟨toggles, htoggles, hconfig⟩ := config_eq_ok_iff.1 h
    exact ⟨toggles, config, htoggles, hconfig, h⟩
  · exact Feature.nodup_names.sublist build.enabledFeatures_sublist
  · exact build.enabledFeatures_sublist
  · exact fun name => mem_enabledFeatures_iff_given
  · intro other hsame
    refine enabledFeatures_eq_iff.2 fun feature => ?_
    rw [Bool.eq_iff_iff, has_eq_true_iff, has_eq_true_iff, hsame]
  · intro other
    obtain ⟨config, h⟩ := hagree.1 hthrough
    rw [enabledFeatures_eq_iff]
    constructor
    · intro hsame
      exact features_of_config (hsame.trans h) h
    · rintro ⟨hfeatures, hassertions⟩
      exact config_congr hfeatures hassertions

/-- An Android device with a read barrier, requested in two ways. -/
theorem guards_agree_android :
    let build : Build := ⟨[.vdex, .readBarrierBaker, .targetAndroid, .vdex, .deviceTarget], false⟩
    let other : Build := ⟨[.deviceTarget, .targetAndroid, .readBarrierBaker, .vdex], false⟩
    build.conflicts = []
      ∧ (∀ feature, feature ∈ other.features ↔ feature ∈ build.features)
      ∧ other.enabledFeatures = build.enabledFeatures
      ∧ ∃ config, other.config = .ok config ∧ build.config = .ok config := by
  intro build other
  have hthrough : build.conflicts = [] := by decide
  have hsame : ∀ feature, feature ∈ other.features ↔ feature ∈ build.features := by
    intro feature
    cases feature <;> decide
  obtain ⟨⟨_, config, -, -, hconfig⟩, -, -, -, hreport, hcontains⟩ :=
    (guards_agree build).2 hthrough
  have hfeatures := hreport other hsame
  exact ⟨hthrough, hsame, hfeatures, config, ((hcontains other).2 ⟨hfeatures, rfl⟩).trans hconfig,
    hconfig⟩

end Build

end RuntimeProfiles
