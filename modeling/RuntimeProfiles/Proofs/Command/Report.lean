import Mathlib.Data.List.Count
import RuntimeProfiles.Command.Run

/-!
# Lines of reports

Commands print lines, and a line is a line of the text only if there is no end of line in it. Every
message about the issues of a profile is one, as long as the name of the profile is:

* **`Report.lines_unlines`** — a text of lines holds these lines;
* **`Profile.isLine_message`** — what is said about an issue takes one line;
* **`Report.indented_unlines`** — so the issues that a text shows can be counted in it.
-/

namespace RuntimeProfiles

/-! ## Lines -/

namespace Report

theorem unlines_append (first second : List String) :
    unlines (first ++ second) = unlines first ++ unlines second := by
  rw [unlines, List.map_append, String.join_append]
  rfl

theorem unlines_cons (line : String) (lines : List String) :
    unlines (line :: lines) = line ++ "\n" ++ unlines lines := by
  rw [unlines, List.map_cons, String.join_cons]
  rfl

/-- A text without an end of line in it. -/
def IsLine (text : String) : Prop := '\n' ∉ text.toList

instance (text : String) : Decidable (IsLine text) := inferInstanceAs (Decidable (¬ _))

theorem isLine_append {first second : String} :
    IsLine (first ++ second) ↔ IsLine first ∧ IsLine second := by
  rw [IsLine, String.toList_append, List.mem_append, not_or]
  rfl

/-- The lines of a text; what follows the last end of line counts as a line, even if it is empty. -/
def lines (text : String) : List (List Char) := text.toList.splitOn '\n'

theorem lines_unlines {texts : List String} (h : ∀ text ∈ texts, IsLine text) :
    lines (unlines texts) = texts.map String.toList ++ [[]] := by
  have hchars : ∀ texts : List String, (unlines texts).toList
      = ['\n'].intercalate (texts.map String.toList ++ [[]]) := by
    intro texts
    induction texts with
    | nil => rfl
    | cons text texts ih =>
      have hne : texts.map String.toList ++ [[]] ≠ [] := by simp
      rw [unlines_cons, String.toList_append, String.toList_append, ih, List.map_cons,
        List.cons_append, List.intercalate_cons_of_ne_nil hne]
      rfl
  rw [lines, hchars]
  refine List.splitOn_intercalate '\n' ?_ (by simp)
  intro line hline
  rcases List.mem_append.1 hline with hline | hline
  · obtain ⟨text, htext, rfl⟩ := List.mem_map.1 hline
    exact h text htext
  · rw [List.mem_singleton.1 hline]
    exact List.not_mem_nil

/-- A line that is not empty is in a text as often as it has been put there. -/
theorem count_lines_unlines {texts : List String} (h : ∀ text ∈ texts, IsLine text) {line : String}
    (hline : line ≠ "") : (lines (unlines texts)).count line.toList = texts.count line := by
  have hend : ¬ ([] == line.toList) = true := by
    intro hsame
    exact hline (String.toList_eq_nil_iff.1 (eq_of_beq hsame).symm)
  have hinjective : Function.Injective String.toList := fun _ _ => String.toList_inj.1
  rw [lines_unlines h, List.count_append, List.count_cons, if_neg hend, List.count_nil,
    List.count_map_of_injective texts _ hinjective]
  rfl

theorem mem_lines_unlines {texts : List String} (h : ∀ text ∈ texts, IsLine text) {line : String}
    (hline : line ≠ "") : line.toList ∈ lines (unlines texts) ↔ line ∈ texts := by
  rw [← List.count_pos_iff, count_lines_unlines h hline, List.count_pos_iff]

/-- The number of lines that begin with two blanks. -/
def indented (text : String) : Nat := (lines text).countP ([' ', ' '].isPrefixOf ·)

end Report

/-! ## The lines about issues -/

theorem Toggle.isLine_key (toggle : Toggle) : Report.IsLine toggle.key := by
  cases toggle <;> decide +kernel

theorem ReadBarrier.isLine_featureName (barrier : ReadBarrier) :
    Report.IsLine barrier.featureName := by
  cases barrier <;> decide +kernel

theorem Rejection.isLine_message (rejection : Rejection) : Report.IsLine rejection.message := by
  cases rejection with
  | missingDevicePlatform => decide +kernel
  | ambiguousDevicePlatform => decide +kernel
  | deviceFlagOnHost flag =>
    unfold message
    simp only [Report.isLine_append]
    exact ⟨⟨⟨⟨by decide +kernel, flag.isLine_key⟩, by decide +kernel⟩, Toggle.isLine_key _⟩,
      by decide +kernel⟩
  | multipleReadBarriers first second =>
    unfold message
    simp only [Report.isLine_append]
    exact ⟨⟨⟨⟨by decide +kernel, first.isLine_featureName⟩, by decide +kernel⟩,
      second.isLine_featureName⟩, by decide +kernel⟩
  | readBarrierWithoutMovingCollector barrier =>
    unfold message
    simp only [Report.isLine_append]
    exact ⟨⟨⟨⟨by decide +kernel, barrier.isLine_featureName⟩, by decide +kernel⟩,
      Toggle.isLine_key _⟩, by decide +kernel⟩

/-- Only the name of a profile can break the line about an issue. -/
theorem Profile.isLine_message {profile : Profile} (hname : Report.IsLine profile.name) :
    ∀ issue ∈ profile.issues, Report.IsLine issue.message := by
  intro issue hissue
  rw [issues, List.mem_append, List.mem_append, List.mem_append] at hissue
  rcases hissue with ((hissue | hissue) | hissue) | hissue
  · unfold nameIssues at hissue
    split at hissue
    · next fault hfault =>
      have hreason : Report.IsLine fault.reason := by cases fault <;> decide +kernel
      have hmessage : Report.IsLine (ConfigError.invalidName profile.name fault).message := by
        have hquoted : Report.IsLine ("invalid profile name '" ++ profile.name ++ "': ") :=
          Report.isLine_append.2 ⟨Report.isLine_append.2 ⟨by decide +kernel, hname⟩,
            by decide +kernel⟩
        exact Report.isLine_append.2 ⟨hquoted, hreason⟩
      obtain rfl := List.mem_singleton.1 hissue
      exact hmessage
    · cases hissue
  · unfold toggleIssues at hissue
    split at hissue
    · next rejection _ =>
      obtain rfl := List.mem_singleton.1 hissue
      exact rejection.isLine_message
    · cases hissue
  · split at hissue
    · obtain rfl := List.mem_singleton.1 hissue
      decide +kernel
    · cases hissue
  · split at hissue
    · obtain rfl := List.mem_singleton.1 hissue
      decide +kernel
    · cases hissue

namespace Command

theorem isLine_issueLine {issue : Issue} (h : Report.IsLine issue.message) :
    Report.IsLine (issueLine issue) := by
  have hseverity : Report.IsLine issue.severity.name := by cases issue.severity <;> decide +kernel
  simp only [issueLine, Report.isLine_append]
  exact ⟨⟨⟨by decide +kernel, hseverity⟩, by decide +kernel⟩, h⟩

/-- The line about an issue tells which one it is. -/
theorem issueLine_injective : Function.Injective issueLine := by
  rintro ⟨severity, message⟩ ⟨severity', message'⟩ h
  have hchars := congrArg String.toList h
  simp only [issueLine, String.toList_append] at hchars
  cases severity <;> cases severity' <;> simp_all [Severity.name, String.toList_inj]

theorem isPrefixOf_issueLine (issue : Issue) :
    [' ', ' '].isPrefixOf (issueLine issue).toList = true := by
  simp [issueLine, List.isPrefixOf]

end Command

/-- The issues of a profile can be counted in a text that shows them, if there is nothing else in it
that is indented. -/
theorem Report.indented_unlines {profile : Profile} (hname : IsLine profile.name)
    {others : List String}
    (hothers : ∀ text ∈ others, IsLine text ∧ [' ', ' '].isPrefixOf text.toList = false) :
    indented (unlines (profile.issues.map Command.issueLine ++ others))
      = profile.issues.length := by
  have hbreaks : ∀ text ∈ profile.issues.map Command.issueLine ++ others, IsLine text := by
    intro text htext
    rcases List.mem_append.1 htext with htext | htext
    · obtain ⟨issue, hissue, rfl⟩ := List.mem_map.1 htext
      exact Command.isLine_issueLine (Profile.isLine_message hname issue hissue)
    · exact (hothers text htext).1
  have hissues : (profile.issues.map Command.issueLine).countP
      (fun text : String => [' ', ' '].isPrefixOf text.toList) = profile.issues.length := by
    rw [List.countP_map, List.countP_eq_length]
    exact fun issue _ => Command.isPrefixOf_issueLine issue
  have hrest : others.countP (fun text : String => [' ', ' '].isPrefixOf text.toList) = 0 := by
    rw [List.countP_eq_zero]
    intro text htext
    rw [(hothers text htext).2]
    exact Bool.false_ne_true
  -- the empty line at the end is not indented either
  have hend : [[]].countP ([' ', ' '].isPrefixOf ·) = 0 := rfl
  rw [indented, lines_unlines hbreaks, List.countP_append, hend, List.countP_map, Nat.add_zero]
  show List.countP (fun text : String => [' ', ' '].isPrefixOf text.toList) (_ ++ _) = _
  rw [List.countP_append, hissues, hrest, Nat.add_zero]

end RuntimeProfiles
