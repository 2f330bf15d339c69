import RuntimeProfiles.Project.Manifest
import RuntimeProfiles.Proofs.Data.Schema
import RuntimeProfiles.Proofs.Toml.Document

/-!
# The text of a new manifest

`Manifest.template` puts a name between quotes as it is, without escapes. It does not check the
name, so it writes a manifest only for names that would be written like this anyway:

* **`Toml.encode_verbatim`** — which strings are written as they are;
* **`Manifest.template_eq_write`** — for such a name the template is what the writer of documents
  makes;
* **`Manifest.ofToml_template`** — so it is read as a manifest with that name.

A built-in profile has such a name (`Profile.isVerbatim_of_builtin`), and only those get this far.
-/

namespace RuntimeProfiles

namespace Toml

/-- No character of a text is written differently in a basic string. -/
def IsVerbatim (text : List Char) : Prop :=
  ∀ c ∈ text, needsEscape c = false ∧ c ≠ '"' ∧ c ≠ '\n'

instance (text : List Char) : Decidable (IsVerbatim text) :=
  List.decidableBAll (fun c => needsEscape c = false ∧ c ≠ '"' ∧ c ≠ '\n') text

variable {text : List Char}

theorem longestRun_of_notMem {quote : Char} (h : quote ∉ text) : longestRun quote 0 text = 0 := by
  induction text with
  | nil => rfl
  | cons c text ih =>
    obtain ⟨hc, htext⟩ := not_or.1 (mt List.mem_cons.2 h)
    rw [longestRun, if_neg (Ne.symm hc), ih htext]
    rfl

theorem IsVerbatim.basicChars (h : IsVerbatim text) : basicChars text = text := by
  induction text with
  | nil => rfl
  | cons c text ih =>
    obtain ⟨hescape, hquote, hline⟩ := h c List.mem_cons_self
    have hchar : (needsEscape c || c = '"' || c = '\n') = false := by simp [hescape, hquote, hline]
    have htext : Toml.basicChars text = text := ih fun d hd => h d (List.mem_cons_of_mem c hd)
    rw [Toml.basicChars, List.flatMap_cons, hchar]
    exact congrArg (c :: ·) htext

/-- A string without anything to escape is written as it is. -/
theorem encode_verbatim (h : IsVerbatim text) : encode text = '"' :: text ++ ['"'] := by
  have hcontrols : text.any isControl = false := by
    apply List.any_eq_false.2
    intro c hc hcontrol
    have hescape := (h c hc).1
    rw [needsEscape, hcontrol, Bool.or_true] at hescape
    cases hescape
  have hescapes : '\\' ∉ text := fun hmem => absurd (h _ hmem).1 (by decide)
  have hquotes : '"' ∉ text := fun hmem => (h _ hmem).2.1 rfl
  have hlines : '\n' ∉ text := fun hmem => (h _ hmem).2.2 rfl
  have hform : formOf text = .basic := by
    simp [formOf, hcontrols, hescapes, hlines, longestRun_of_notMem hquotes]
  rw [encode, hform]
  simp only [h.basicChars]

end Toml

namespace Manifest

/-- The lines of the text of a manifest. -/
def scalars (defaultProfile : String) : List (String × Data) :=
  [("default-profile", .text defaultProfile)]

/-- The section of the text of a manifest. -/
def profilesSection : Toml.Section := ("profiles", [("deny-warnings", .bool false)])

theorem isDocument (defaultProfile : String) :
    Toml.IsDocument (scalars defaultProfile) [profilesSection] where
  flat :=
    { keys := by simp only [scalars, List.forall_mem_singleton]; decide
      scalars := by
        simp only [scalars, List.forall_mem_singleton]
        exact Toml.comesBack_text _
      nodup := by simp [scalars] }
  keys := by simp only [List.forall_mem_singleton, profilesSection]; decide
  flatSections := by
    simp only [List.forall_mem_singleton, profilesSection]
    exact {
      keys := by simp only [List.forall_mem_singleton]; decide
      scalars := by
        simp only [List.forall_mem_singleton]
        exact Toml.comesBack_bool _
      nodup := by simp }
  nodup := by simp [scalars, profilesSection]

/-- Where nothing has to be escaped, the template is what the writer makes of the data. -/
theorem template_eq_write {defaultProfile : String} (h : Toml.IsVerbatim defaultProfile.toList) :
    template defaultProfile
      = Toml.write
        (.ofFields (scalars defaultProfile ++ [profilesSection].map Toml.Section.field)) := by
  have hflat : Toml.IsFlat (scalars defaultProfile) := (isDocument defaultProfile).flat
  have hline : (scalars defaultProfile).flatMap Toml.fieldLine
      = "default-profile".toList
        ++ ' ' :: '=' :: ' ' :: ('"' :: defaultProfile.toList ++ ['"']) ++ ['\n'] := by
    rw [← Toml.encode_verbatim h, scalars, List.flatMap_singleton]
    rfl
  have hrender : Toml.render (scalars defaultProfile ++ [profilesSection].map Toml.Section.field)
      = ['\n'].intercalate [(scalars defaultProfile).flatMap Toml.fieldLine,
        profilesSection.text] := by
    rw [Toml.render, List.flatMap_append, Toml.flatMap_fieldLine_sections, List.append_nil,
      List.filterMap_append, Toml.filterMap_section?_scalars hflat,
      Toml.filterMap_section?_sections, hline]
    rfl
  have hboth : ∀ lines part : List Char,
      ['\n'].intercalate [lines, part] = lines ++ '\n' :: part := by
    intro lines part
    simp [List.intercalate]
  have hhead : "default-profile = \"".toList
      = "default-profile".toList ++ [' ', '=', ' ', '"'] := by decide
  have htail : "\"\n\n[profiles]\ndeny-warnings = false\n".toList
      = '"' :: '\n' :: '\n' :: profilesSection.text := by decide +kernel
  apply String.toList_inj.1
  show ("default-profile = \"" ++ defaultProfile
    ++ "\"\n\n[profiles]\ndeny-warnings = false\n").toList = (String.ofList (Toml.render _)).toList
  rw [String.toList_ofList, hrender, hline, hboth, String.toList_append, String.toList_append,
    hhead, htail]
  simp only [List.append_assoc, List.cons_append, List.nil_append]

/-- The template is read as a manifest that names the profile and denies nothing. -/
theorem ofToml_template {defaultProfile : String} (h : Toml.IsVerbatim defaultProfile.toList) :
    ofToml (template defaultProfile) = .ok ⟨some defaultProfile, false⟩ := by
  rw [ofToml, template_eq_write h, Toml.decode, Toml.read?_write (isDocument defaultProfile)]
  rfl

end Manifest

/-- The names of built-in profiles have nothing to escape. -/
theorem Profile.isVerbatim_of_builtin {name : String} (h : (builtin? name).isSome = true) :
    Toml.IsVerbatim name.toList := by
  have hall : ∀ profile ∈ builtins, Toml.IsVerbatim profile.name.toList := by decide
  obtain ⟨builtin, hbuiltin⟩ := Option.isSome_iff_exists.1 h
  have hname : builtin.name = name := by simpa using List.find?_some hbuiltin
  exact hname ▸ hall builtin (List.mem_of_find?_eq_some hbuiltin)

end RuntimeProfiles
