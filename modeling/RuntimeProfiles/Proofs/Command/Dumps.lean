import RuntimeProfiles.Proofs.Command.Agreement

/-!
# What is printed for other programs

A profile is described in JSON, a configuration is dumped in JSON and in TOML. The values come back
from these texts, whatever they are: a profile may have any name and any description, and nothing
asks the toggles, the capabilities and the layout of a configuration to agree with each other.

* **`Project.find_single`** — every profile is found in some tree, so there are none that cannot be
  described;
* **`dumps_decode`** — what has been dumped is decoded as it was. In JSON the text may have space
  (`Json.IsBlank`) after it, such as the end of line that is printed with it.
-/

namespace RuntimeProfiles

/-- A tree with one profile in it, and without a manifest. -/
def FileTree.single (profile : Profile) : FileTree :=
  ⟨"", [(["profiles"], .directory),
    (["profiles", "single.profile.toml"], .file profile.toToml.toUTF8)],
    (IsTree.nil.concat (by simp) (by simp) (.inl rfl)).concat (by simp) (by simp) (.inr (by simp))⟩

theorem Manifest.find_single (profile : Profile) :
    Manifest.find (.single profile) [] = .ok none := rfl

/-- The name of the file finds the profile, whichever name the profile gives itself. -/
theorem Project.find_single (profile : Profile) :
    Project.find (.single profile) (some []) "single" = .ok profile := by
  have hfile : (FileTree.single profile).contains (filePath [] "single") = true := rfl
  have hload : load (.single profile) (filePath [] "single") = .ok profile := load_of_file rfl
  rw [find_eq, hfile, Bool.and_true, if_pos (by decide)]
  exact hload

/-- **Dumps are decoded as what was dumped.** A profile that is found is printed in JSON with an end
of line, and every profile can be found. Every profile and every configuration is decoded from its
text in JSON, and a configuration also from its text in TOML, if its layout leaves room for a
sign. -/
theorem dumps_decode :
    (∀ (tree : FileTree) (directory : Path) (found : Option (Manifest × Path)) (name : String)
        (profile : Profile) (verbosity : Nat), Manifest.find tree directory = .ok found →
      Project.find tree (some (Invocation.projectOf found directory)) name = .ok profile →
      let shown := Invocation.describe tree directory name verbosity
      shown.status = 0 ∧ shown.stdout = profile.toJson ++ "\n")
    ∧ (∀ profile : Profile, ∃ tree directory name, ∀ verbosity,
      let shown := Invocation.describe tree directory name verbosity
      shown.status = 0 ∧ shown.stdout = profile.toJson ++ "\n")
    ∧ (∀ (profile : Profile) (after : String), Json.IsBlank after →
      Json.decode Profile.codec (profile.toJson ++ after) = .ok profile)
    ∧ (∀ (config : RuntimeConfig) (after : String), Json.IsBlank after →
      Json.decode RuntimeConfig.codec (Json.write (RuntimeConfig.codec.encode config) ++ after)
        = .ok config)
    ∧ ∀ config : RuntimeConfig, config.layout.FitsSigned →
      Toml.decode RuntimeConfig.codec (Toml.write (RuntimeConfig.codec.encode config))
        = .ok config := by
  have hdescribed : ∀ (tree : FileTree) (directory : Path) (found : Option (Manifest × Path))
      (name : String) (profile : Profile) (verbosity : Nat),
      Manifest.find tree directory = .ok found →
      Project.find tree (some (Invocation.projectOf found directory)) name = .ok profile →
      (Invocation.describe tree directory name verbosity).status = 0
        ∧ (Invocation.describe tree directory name verbosity).stdout = profile.toJson ++ "\n" := by
    intro tree directory found name profile verbosity hmanifest hfind
    rw [Invocation.describe_eq hmanifest hfind, Report.unlines_singleton]
    exact ⟨rfl, rfl⟩
  refine ⟨hdescribed, ?_, ?_, ?_, ?_⟩
  · intro profile
    refine ⟨.single profile, [], "single", fun verbosity => ?_⟩
    exact hdescribed _ _ none _ _ verbosity (Manifest.find_single profile)
      (Project.find_single profile)
  · intro profile after hafter
    exact Json.decode_write Profile.codec_lawful profile.comesBack hafter
  · intro config after hafter
    exact Json.decode_write RuntimeConfig.codec_lawful config.comesBack hafter
  · intro config hlayout
    exact config.decode_dump .toml fun _ => hlayout

/-- A profile whose name and description need escapes. -/
def Profile.escaped : Profile :=
  ⟨"\"\\\n\x00\x7f", "\t\u00e9 \u2028\ufeff𝄞", .android⟩

/-- A configuration that contradicts itself: the toggles are those of a device, the capabilities
those of the host, and the page size is given. -/
def RuntimeConfig.contradictory (pageSize : UInt64) : RuntimeConfig :=
  ⟨.android, Build.standardConfig.capabilities, { Layout.native with pageSize := pageSize }⟩

/-- Dumps of a profile that needs escapes and of contradictory configurations, with the greatest
number that each format can hold. -/
theorem dumps_decode_extreme :
    (Invocation.describe (.single .escaped) [] "single" 2).status = 0
    ∧ Json.decode Profile.codec (Invocation.describe (.single .escaped) [] "single" 2).stdout
      = .ok .escaped
    ∧ Json.decode RuntimeConfig.codec
        (Json.write (RuntimeConfig.codec.encode (.contradictory 0xffffffffffffffff)) ++ "\n")
      = .ok (.contradictory 0xffffffffffffffff)
    ∧ (RuntimeConfig.contradictory 0x7fffffffffffffff).layout.FitsSigned
    ∧ Toml.decode RuntimeConfig.codec
        (Toml.write (RuntimeConfig.codec.encode (.contradictory 0x7fffffffffffffff)))
      = .ok (.contradictory 0x7fffffffffffffff) := by
  have hlayout : (RuntimeConfig.contradictory 0x7fffffffffffffff).layout.FitsSigned := by
    simp only [Layout.FitsSigned, Layout.constants, List.forall_mem_cons]
    refine ⟨?_, ?_, ?_, ?_, ?_, ?_, ?_, ?_, ?_, by simp⟩
    all_goals decide
  obtain ⟨hdescribed, -, hprofile, hconfig, htoml⟩ := dumps_decode
  obtain ⟨hstatus, hstdout⟩ := hdescribed (.single .escaped) [] none "single" .escaped 2
    (Manifest.find_single _) (Project.find_single _)
  refine ⟨hstatus, ?_, hconfig _ "\n" Json.isBlank_endOfLine, hlayout, htoml _ hlayout⟩
  rw [hstdout]
  exact hprofile _ "\n" Json.isBlank_endOfLine

end RuntimeProfiles
