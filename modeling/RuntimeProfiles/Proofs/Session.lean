import RuntimeProfiles.Profile
import RuntimeProfiles.Session

/-!
# One configuration for a process

A process may install configurations, ask for the active one or for its source, and resolve
profiles, in any order and any number of times. Everything that it learns follows from the first
call that fixes the configuration, which is the first installation or the first question for the
active one. The compiled-in configuration is that of the standard build (`Build.standard`):

* **`answer_after`** — a call fixes the configuration if it can and none is fixed;
* **`after_eq`** — so after any calls the session holds the choice of the first call that makes one;
* **`answerAfter_askActive`** — the first question for the active one is answered with the
  compiled-in one;
* **`infos_fresh`** — an installation that succeeds is the only thing that is logged as information;
* **`fixed_once`** — what the calls of a process answer.
-/

namespace RuntimeProfiles.Session

/-! ## Calls -/

/-- What a process can do. Resolving a profile has no part in the session, but it logs as well. -/
inductive Call where
  | install (source : String) (config : RuntimeConfig)
  | askActive
  | askSource
  | resolve (profile : Profile)

inductive Reply where
  | install (result : Except ConfigError RuntimeConfig)
  | active (config : RuntimeConfig)
  | source (source : Option String)
  | resolve (result : Except Rejection RuntimeConfig)

/-- What comes of a call. -/
structure Answer where
  reply : Reply
  after : Session
  log : List Log.Entry

def answer (session : Session) : Call → Answer
  | .install source config =>
    let (result, after, log) := session.install source config
    ⟨.install result, after, log⟩
  | .askActive =>
    let (config, after) := session.active
    ⟨.active config, after, []⟩
  | .askSource => ⟨.source session.source?, session, []⟩
  | .resolve profile =>
    let (result, log) := profile.resolve
    ⟨.resolve result, session, log⟩

/-- The answers to calls one after the other. -/
def answers (session : Session) : List Call → List Answer
  | [] => []
  | call :: calls => session.answer call :: answers (session.answer call).after calls

def after (session : Session) : List Call → Session
  | [] => session
  | call :: calls => after (session.answer call).after calls

/-- The answer to a call after earlier calls of a process. -/
def answerAfter (earlier : List Call) (call : Call) : Answer := (fresh.after earlier).answer call

/-- The configuration that a call fixes if none is fixed. -/
def Call.choice? : Call → Option Installed
  | .install source config => some ⟨source, config⟩
  | .askActive => some compiledIn
  | .askSource | .resolve _ => none

/-- Whether a call fixes the configuration if none is fixed. -/
def Call.fixes (call : Call) : Bool := call.choice?.isSome

/-- The choice of the first call that makes one. -/
def chosen? (calls : List Call) : Option Installed := calls.findSome? Call.choice?

/-- Whether an answer is that of an installation that has succeeded. -/
def Answer.installs (answer : Answer) : Bool :=
  match answer.reply with
  | .install (.ok _) => true
  | _ => false

/-- What answers have logged as information. -/
def infos (answers : List Answer) : List Log.Entry :=
  (answers.flatMap (·.log)).filter (·.level = .info)

/-! ## The session after calls -/

theorem eq_fresh_or (session : Session) :
    session = fresh ∨ ∃ first, session = ⟨some first⟩ := by
  obtain ⟨installed⟩ := session
  cases installed with
  | none => exact .inl rfl
  | some first => exact .inr ⟨first, rfl⟩

/-- A call fixes the configuration if it can, and if none is fixed. -/
theorem answer_after (session : Session) (call : Call) :
    (session.answer call).after = ⟨session.installed.or call.choice?⟩ := by
  rcases eq_fresh_or session with rfl | ⟨first, rfl⟩ <;> cases call <;> rfl

/-- After calls the session holds what was fixed before, or else the choice of the first call that
makes one. -/
theorem after_eq (session : Session) (calls : List Call) :
    session.after calls = ⟨session.installed.or (chosen? calls)⟩ := by
  induction calls generalizing session with
  | nil => simp [after, chosen?]
  | cons call calls ih =>
    rw [after, ih, answer_after, Option.or_assoc]
    congr 2
    rw [chosen?, chosen?, List.findSome?_cons]
    cases call.choice? <;> rfl

theorem after_fresh (calls : List Call) :
    fresh.after calls = ⟨chosen? calls⟩ :=
  after_eq fresh calls

theorem chosen?_append (calls later : List Call) :
    chosen? (calls ++ later) = (chosen? calls).or (chosen? later) :=
  List.findSome?_append

theorem chosen?_eq_none_iff (calls : List Call) :
    chosen? calls = none ↔ ∀ call ∈ calls, call.fixes = false := by
  simp [chosen?, Call.fixes]

theorem chosen?_eq_bind (calls : List Call) :
    chosen? calls = (calls.find? Call.fixes).bind Call.choice? := by
  induction calls with
  | nil => rfl
  | cons call calls ih =>
    rw [chosen?, List.findSome?_cons, List.find?_cons, Call.fixes]
    cases hchoice : call.choice? with
    | none => exact ih
    | some first => exact hchoice.symm

/-! ## What is logged -/

/-- Resolution is never logged as information. -/
theorem level_resolve {profile : Profile} {entry : Log.Entry} (h : entry ∈ profile.resolve.2) :
    entry.level ≠ .info := by
  have hcases : entry = profile.resolvingEntry
      ∨ entry ∈ (RuntimeConfig.resolve profile.toggles).2 :=
    List.mem_cons.1 h
  rcases hcases with rfl | hmem
  · exact fun h => by cases h
  unfold RuntimeConfig.resolve RuntimeConfig.entries at hmem
  dsimp only at hmem
  split at hmem
  · rw [List.mem_singleton.1 hmem]
    exact fun h => by cases h
  · rcases List.mem_append.1 hmem with hforced | hresolved
    · split at hforced
      · rw [List.mem_singleton.1 hforced]
        exact fun h => by cases h
      · cases hforced
    · rw [List.mem_singleton.1 hresolved]
      exact fun h => by cases h

theorem infos_cons (answer : Answer) (answers : List Answer) :
    infos (answer :: answers) = answer.log.filter (·.level = .info) ++ infos answers := by
  rw [infos, infos, List.flatMap_cons, List.filter_append]

theorem infos_resolve (profile : Profile) : profile.resolve.2.filter (·.level = .info) = [] := by
  rw [List.filter_eq_nil_iff]
  intro entry hentry
  simpa using level_resolve hentry

/-- Once the configuration is fixed, a call logs no information, and it is no installation that
succeeds. -/
theorem silent (first : Installed) (call : Call) :
    (answer ⟨some first⟩ call).log.filter (·.level = .info) = []
    ∧ (answer ⟨some first⟩ call).installs = false := by
  cases call with
  | install | askActive | askSource => exact ⟨rfl, rfl⟩
  | resolve profile => exact ⟨infos_resolve profile, rfl⟩

/-- Once the configuration is fixed, no installation succeeds and no information is logged. -/
theorem infos_fixed (first : Installed) (calls : List Call) :
    infos (answers ⟨some first⟩ calls) = []
    ∧ (answers ⟨some first⟩ calls).any Answer.installs = false := by
  induction calls with
  | nil => exact ⟨rfl, rfl⟩
  | cons call calls ih =>
    have hsession : (answer ⟨some first⟩ call).after = ⟨some first⟩ := by
      rw [answer_after, Option.some_or]
    obtain ⟨hlog, hinstalls⟩ := silent first call
    rw [answers, hsession, infos_cons, hlog, ih.1, List.any_cons, hinstalls, ih.2]
    exact ⟨rfl, rfl⟩

/-- A process logs information about the one installation that succeeds, which then is the first
call that fixes the configuration; or none succeeds, and it logs no information. -/
theorem infos_fresh (calls : List Call) :
    (∃ source config, calls.find? Call.fixes = some (.install source config)
      ∧ (fresh.answers calls).any Answer.installs = true
      ∧ infos (fresh.answers calls) = [installedEntry ⟨source, config⟩])
    ∨ ((fresh.answers calls).any Answer.installs = false ∧ infos (fresh.answers calls) = []) := by
  induction calls with
  | nil => exact .inr ⟨rfl, rfl⟩
  | cons call calls ih =>
    rw [answers, infos_cons, answer_after, List.any_cons]
    cases call with
    | install source config =>
      -- this installation fixes the configuration, so no later one is logged
      refine .inl ⟨source, config, rfl, rfl, ?_⟩
      show [installedEntry ⟨source, config⟩] ++ infos (answers ⟨some ⟨source, config⟩⟩ calls) = _
      rw [(infos_fixed ⟨source, config⟩ calls).1, List.append_nil]
    | askActive =>
      -- a question fixes the configuration as well, but silently
      obtain ⟨hinfos, hinstalls⟩ := infos_fixed compiledIn calls
      exact .inr ⟨hinstalls, hinfos⟩
    | askSource => exact ih
    | resolve profile =>
      rw [show (fresh.answer (.resolve profile)).log = profile.resolve.2 from rfl,
        infos_resolve profile]
      exact ih

/-! ## The law of a process -/

/-- The configuration of a process is fixed after calls: it answers with this one whatever it is
asked for, and it refuses every other one without changing anything. -/
structure Keeps (first : Installed) (calls : List Call) : Prop where
  session : fresh.after calls = ⟨some first⟩
  active : answerAfter calls .askActive = ⟨.active first.config, fresh.after calls, []⟩
  source : answerAfter calls .askSource = ⟨.source (some first.source), fresh.after calls, []⟩
  refuses : ∀ source config, answerAfter calls (.install source config)
    = ⟨.install (.error (.alreadyInstalled first.source)), fresh.after calls, []⟩

theorem Keeps.of_chosen {first : Installed} {calls : List Call} (h : chosen? calls = some first) :
    Keeps first calls := by
  have hsession : fresh.after calls = ⟨some first⟩ := by rw [after_fresh, h]
  exact {
    session := hsession
    active := by rw [answerAfter, hsession]; rfl
    source := by rw [answerAfter, hsession]; rfl
    refuses := fun source config => by rw [answerAfter, hsession]; rfl }

/-- As long as no call has fixed the configuration, a question for the active one is answered with
the compiled-in one, and this fixes it. -/
theorem answerAfter_askActive {calls : List Call} (h : ∀ call ∈ calls, call.fixes = false) :
    answerAfter calls .askActive = ⟨.active compiledIn.config, ⟨some compiledIn⟩, []⟩ := by
  rw [answerAfter, after_fresh, (chosen?_eq_none_iff calls).2 h]
  rfl

/-- What the first call that fixes the configuration has chosen stays for all later calls. -/
theorem Keeps.of_find? {first : Installed} {calls : List Call} {call : Call}
    (hfind : calls.find? Call.fixes = some call) (hchoice : call.choice? = some first)
    (later : List Call) : Keeps first (calls ++ later) := by
  apply Keeps.of_chosen
  rw [chosen?_append, chosen?_eq_bind, hfind, Option.bind_some, hchoice, Option.some_or]

/-- **One configuration for a process.** Let a process make any calls. Where its configuration came
from is unknown as long as no call has fixed it, and then a question for the active one is answered
with the compiled-in one; an installation succeeds exactly if no earlier call has fixed any, and it
gives back what it was given. What the first call has fixed stays for all later calls, which is the
compiled-in configuration if that call asked for the active one. Information is logged once if an
installation has succeeded, and otherwise never. -/
theorem fixed_once (calls : List Call) :
    ((answerAfter calls .askSource).reply = .source none ↔ ∀ call ∈ calls, call.fixes = false)
    ∧ ((∀ call ∈ calls, call.fixes = false) →
      (answerAfter calls .askActive).reply = .active Build.standardConfig
        ∧ (answerAfter calls .askActive).after = ⟨some ⟨"<build>", Build.standardConfig⟩⟩)
    ∧ (∀ source config result,
      (answerAfter calls (.install source config)).reply = .install (.ok result)
        ↔ (∀ call ∈ calls, call.fixes = false) ∧ result = config)
    ∧ (∀ source config, calls.find? Call.fixes = some (.install source config) →
      ∀ later, Keeps ⟨source, config⟩ (calls ++ later))
    ∧ (calls.find? Call.fixes = some .askActive →
      ∀ later, Keeps ⟨"<build>", Build.standardConfig⟩ (calls ++ later))
    ∧ ((fresh.answers calls).any Answer.installs = true →
      ∃ source config, infos (fresh.answers calls) = [installedEntry ⟨source, config⟩]
        ∧ calls.find? Call.fixes = some (.install source config))
    ∧ ((fresh.answers calls).any Answer.installs = false → infos (fresh.answers calls) = []) := by
  have hnone := chosen?_eq_none_iff calls
  refine ⟨?_, ?_, ?_, ?_, ?_, ?_, ?_⟩
  · rw [← hnone, answerAfter, after_fresh]
    cases hchosen : chosen? calls with
    | none => exact ⟨fun _ => rfl, fun _ => rfl⟩
    | some first =>
      constructor
      · intro h
        cases h
      · intro h
        cases h
  · intro h
    rw [answerAfter_askActive h]
    exact ⟨rfl, rfl⟩
  · intro source config result
    rw [← hnone, answerAfter, after_fresh]
    cases hchosen : chosen? calls with
    | none =>
      constructor
      · intro h
        cases h
        exact ⟨rfl, rfl⟩
      · rintro ⟨-, rfl⟩
        rfl
    | some first =>
      constructor
      · intro h
        cases h
      · intro h
        cases h.1
  · exact fun source config hfind later => Keeps.of_find? hfind rfl later
  · exact fun hfind later => Keeps.of_find? hfind rfl later
  · intro hinstalls
    rcases infos_fresh calls with ⟨source, config, hfind, -, hinfos⟩ | ⟨hnever, -⟩
    · exact ⟨source, config, hinfos, hfind⟩
    · rw [hinstalls] at hnever
      cases hnever
  · intro hinstalls
    rcases infos_fresh calls with ⟨source, config, -, honce, -⟩ | ⟨-, hinfos⟩
    · rw [hinstalls] at honce
      cases honce
    · exact hinfos

/-- A process asks for the active configuration first, and then cannot install another one under the
name of the compiled-in one. -/
theorem fixed_once_imitated :
    (∀ call ∈ [Call.askSource], call.fixes = false)
    ∧ (answerAfter [.askSource] .askActive).reply = .active Build.standardConfig
    ∧ ∀ other, Keeps ⟨"<build>", Build.standardConfig⟩
      [.askSource, .askActive, .install "<build>" other] := by
  have hnone : ∀ call ∈ [Call.askSource], call.fixes = false := by simp [Call.fixes, Call.choice?]
  have hfirst : [Call.askSource, .askActive].find? Call.fixes = some .askActive := rfl
  obtain ⟨-, hactive, -⟩ := fixed_once [.askSource]
  obtain ⟨-, -, -, -, hkeeps, -⟩ := fixed_once [.askSource, .askActive]
  exact ⟨hnone, (hactive hnone).1, fun other => hkeeps hfirst [.install "<build>" other]⟩

end RuntimeProfiles.Session
