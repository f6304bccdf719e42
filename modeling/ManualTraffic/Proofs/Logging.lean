/-
# ManualTraffic.Proofs.Logging -- what is logged reaches nothing else

A journal is written and never read.  So a session comes to the same whatever its threshold is,
and without a log, and the lines that a threshold keeps are those of the whole log that reach
it: at two desks with one console, of which one keeps every line, the logs stay so
(`Journal.Filters`), call by call (`Session.accounts_heard`).

A run of the program looks up a handful of variables, and the level of the log is for its
journal alone (`Settings.load_alike`).  Two runs whose hosts differ in that variable write the
same, the log aside, and end alike (`CommandLine.execute_unlogged`).
-/
import ManualTraffic.Proofs.CommandLine.Opening
import ManualTraffic.Proofs.CommandLine.Pairing
import ManualTraffic.Proofs.Session.Pairing

namespace ManualTraffic

set_option autoImplicit false

/-! ## Logs at two thresholds -/

namespace Journal

variable {δ : Type} {threshold : Option LogLevel} {full kept : Journal δ}

/-- The lines that a journal of a threshold keeps. -/
def heard (threshold : Option LogLevel) (lines : List (LogLine δ)) : List (LogLine δ) :=
  lines.filter fun line => keeps threshold line.level

/-- A journal that keeps every line, and one of a threshold that was told the same. -/
structure Filters (threshold : Option LogLevel) (full kept : Journal δ) : Prop where
  ofFull : full.threshold = some .debug
  ofKept : kept.threshold = threshold
  lines : kept.lines = heard threshold full.lines

theorem keeps_debug (level : LogLevel) : keeps (some .debug) level = true := by
  simp [keeps, LogLevel.rank]

theorem heard_none (lines : List (LogLine δ)) : heard none lines = [] := by
  simp [heard, keeps]

theorem Filters.note (filters : Filters threshold full kept) (line : LogLine δ) :
    Filters threshold (full.note line) (kept.note line) := by
  obtain ⟨ofFull, ofKept, lines⟩ := filters
  have grown : full.note line = { full with lines := full.lines ++ [line] } := by
    rw [Journal.note, ofFull, if_pos (keeps_debug line.level)]
  rw [grown]
  unfold Journal.note
  rw [ofKept]
  by_cases reaches : keeps threshold line.level
  · rw [if_pos reaches]
    exact ⟨ofFull, rfl, by simp [heard, lines, reaches]⟩
  · rw [if_neg reaches]
    exact ⟨ofFull, ofKept, by simp [heard, lines, reaches]⟩

end Journal

theorem filters_abreast {σ : Type} [Console σ] (threshold : Option LogLevel)
    (Excused : Fault → Prop) :
    Abreast (Eq : σ → σ → Prop) (Journal.Filters threshold) Excused :=
  ⟨eq_inStep Excused, fun filters line => filters.note line⟩

/-! ## Sessions -/

namespace Session

variable {ε : Type} {threshold : Option LogLevel}

/-- An account without its log. -/
def Account.unlogged (told : Account ε) : Account ε := { told with lines := [] }

/-- An account with the lines of its log that a threshold keeps. -/
def Account.heard (threshold : Option LogLevel) (told : Account ε) : Account ε :=
  { told with lines := Journal.heard threshold told.lines }

/-- A call at a threshold, from the account with its whole log. -/
theorem account_heard (generator : Generator) (threshold : Option LogLevel)
    (answers : List String) (step : Step ε) :
    account generator threshold answers step =
      (account generator (some .debug) answers step).heard threshold := by
  have queueable : Queueable (Eq : ScriptedOperator → ScriptedOperator → Prop) := by
    intro s t same answers
    rw [same]
  have start : Desk.Beside Eq (Journal.Filters threshold)
      (⟨⟨answers, []⟩, ⟨some .debug, []⟩⟩ : Desk ScriptedOperator)
      ⟨⟨answers, []⟩, ⟨threshold, []⟩⟩ := ⟨rfl, rfl, rfl, rfl⟩
  have agree := paired_run (filters_abreast threshold Unexcused) queueable step generator _ _ start
  unfold account
  generalize run generator step ⟨⟨answers, []⟩, ⟨some .debug, []⟩⟩ = whole at agree
  generalize run generator step ⟨⟨answers, []⟩, ⟨threshold, []⟩⟩ = told at agree
  cases agree with
  | excused excuse => exact excuse.elim
  | ok related => simp [Account.heard, related.console, related.journal.lines]
  | error related => simp [Account.heard, related.console, related.journal.lines]

/-- **The accounts of a session at a threshold** are those with the whole log, and of that the
lines that the threshold keeps. -/
theorem accounts_heard (generator : Generator) (threshold : Option LogLevel)
    (answers : List String) (steps : List (Step ε)) :
    accounts generator threshold answers steps =
      (accounts generator (some .debug) answers steps).map (Account.heard threshold) := by
  induction steps generalizing answers with
  | nil => rfl
  | cons step steps ih =>
      have same := account_heard generator threshold answers step
      have left : (account generator threshold answers step).remaining =
          (account generator (some .debug) answers step).remaining := by
        rw [same]
        rfl
      simp only [accounts, List.map_cons]
      rw [left, ih, same]

theorem unlogged_heard (told : Account ε) : (told.heard threshold).unlogged = told.unlogged := rfl

/-- Without its log a session is the same at every threshold. -/
theorem accounts_unlogged (generator : Generator) (threshold : Option LogLevel)
    (answers : List String) (steps : List (Step ε)) :
    (accounts generator threshold answers steps).map Account.unlogged =
      (accounts generator (some .debug) answers steps).map Account.unlogged := by
  rw [accounts_heard, List.map_map]
  exact List.map_congr_left fun told _ => unlogged_heard told

end Session

/-! ## What a run looks up -/

/-- Two hosts that differ in nothing but the level of the log: in their environments, and when
the assignments of their working directories are added.  Their starts are told alike. -/
structure Host.AlikeButLevel (host other : Host) : Prop where
  environment : ∀ name ≠ Settings.logLevelVariable,
    host.environment.get? name = other.environment.get? name
  extended : ∀ name ≠ Settings.logLevelVariable,
    host.extended.get? name = other.extended.get? name
  notice : host.startup.notice = other.startup.notice
  failure : host.startup.failure = other.startup.failure
  read : host.read = other.read
  bundledFile : host.bundledFile = other.bundledFile

namespace Environment

variable {environment other : Environment} {name : String}

/-- The level of the log is not set, or to one of the four in any letter case. -/
def LevelValid (environment : Environment) : Prop :=
  ∀ text, environment.nonEmpty? Settings.logLevelVariable = some text →
    Text.lower text ∈ LogLevel.all.map LogLevel.name

theorem nonEmpty?_congr (same : environment.get? name = other.get? name) :
    environment.nonEmpty? name = other.nonEmpty? name := by
  simp only [nonEmpty?, same]

theorem get?_extend (environment : Environment) (assignments : List (String × String)) :
    (environment.extend assignments).get? name =
      (environment.get? name).or ((ofAssignments assignments).get? name) :=
  List.lookup_append

end Environment

/-- With the same start it is enough that the environments differ so. -/
theorem Host.AlikeButLevel.of_environment {host other : Host}
    (environment : ∀ name ≠ Settings.logLevelVariable,
      host.environment.get? name = other.environment.get? name)
    (startup : host.startup = other.startup) (read : host.read = other.read)
    (bundledFile : host.bundledFile = other.bundledFile) : host.AlikeButLevel other where
  environment := environment
  extended name apart := by
    simp only [Host.extended, startup, Environment.get?_extend, environment name apart]
  notice := congrArg Startup.notice startup
  failure := congrArg Startup.failure startup
  read := read
  bundledFile := bundledFile

/-- Whether styles are written depends on the variables that are looked at for their sake. -/
theorem Color.styles_congr {environment other : Environment}
    (same : ∀ name ∈ Color.watched, environment.get? name = other.get? name)
    (words : List String) : Color.styles environment words = Color.styles other words := by
  have sets (name : String) (watched : name ∈ Color.watched) :
      Color.sets environment name = Color.sets other name := by
    simp only [Color.sets, same name watched]
  have services : Color.services.any (Color.sets environment) =
      Color.services.any (Color.sets other) := by
    refine Bool.eq_iff_iff.2 ?_
    simp only [List.any_eq_true]
    refine exists_congr fun name => and_congr_right fun service => ?_
    rw [sets name (List.mem_append_right _ service)]
  have wish : Color.wish environment words = Color.wish other words := by
    simp only [Color.wish, same Color.variableName (by decide)]
  have agent : Color.isColorAgent environment = Color.isColorAgent other := by
    simp only [Color.isColorAgent, sets "TF_BUILD" (by decide), sets "AGENT_NAME" (by decide)]
  have told : Color.told? environment = Color.told? other := by
    simp only [Color.told?, services, same "TERM" (by decide), sets "CI" (by decide),
      same "CI_NAME" (by decide), same "TEAMCITY_VERSION" (by decide),
      sets "COLORTERM" (by decide), same "TERM_PROGRAM" (by decide)]
  simp only [Color.styles, wish, agent, told]

namespace Settings

variable {environment : Environment} {host other : Host}

theorem exists_level (valid : environment.LevelValid) :
    ∃ level, chooseLogLevel environment = .ok level := by
  have named : Text.lower ((environment.nonEmpty? logLevelVariable).getD "info") ∈
      LogLevel.all.map LogLevel.name := by
    cases set : environment.nonEmpty? logLevelVariable with
    | none => decide +kernel
    | some text => exact valid text set
  obtain ⟨level, listed, name⟩ := List.mem_map.1 named
  have found : (LogLevel.ofName?
      (Text.lower ((environment.nonEmpty? logLevelVariable).getD "info"))).isSome := by
    rw [LogLevel.ofName?, List.find?_isSome]
    exact ⟨level, listed, decide_eq_true name⟩
  obtain ⟨chosen, isChosen⟩ := Option.isSome_iff_exists.1 found
  exact ⟨chosen, by simp only [chooseLogLevel, isChosen]⟩

/-- **The level of the log is all that the settings of such hosts differ in**, and where the
ones are refused the others are, for the same fault. -/
theorem load_alike (alike : host.AlikeButLevel other) (valid : host.extended.LevelValid)
    (otherValid : other.extended.LevelValid) :
    (∃ fault, load host.extended host.read host.bundledFile = .error fault ∧
        load other.extended other.read other.bundledFile = .error fault) ∨
      ∃ settings level, load host.extended host.read host.bundledFile = .ok settings ∧
        load other.extended other.read other.bundledFile =
          .ok { settings with logLevel := level } := by
  have file : host.extended.nonEmpty? fileVariable = other.extended.nonEmpty? fileVariable :=
    Environment.nonEmpty?_congr (alike.extended _ (by decide))
  have size : host.extended.nonEmpty? frameSizeVariable =
      other.extended.nonEmpty? frameSizeVariable :=
    Environment.nonEmpty?_congr (alike.extended _ (by decide))
  have chosen : chooseDefaults host.extended host.read host.bundledFile =
      chooseDefaults other.extended other.read other.bundledFile := by
    simp only [chooseDefaults, file, alike.read, alike.bundledFile]
  have sized (config : FlowConfig) :
      withFrameSize host.extended config = withFrameSize other.extended config := by
    simp only [withFrameSize, size]
  obtain ⟨level, here⟩ := exists_level valid
  obtain ⟨level', there⟩ := exists_level otherValid
  unfold load
  rw [chosen]
  cases chooseDefaults other.extended other.read other.bundledFile with
  | error fault => exact .inl ⟨fault, rfl, rfl⟩
  | ok found =>
      obtain ⟨file, config⟩ := found
      simp only [bind, Except.bind, sized, here, there]
      cases withFrameSize other.extended config with
      | error fault => exact .inl ⟨fault, rfl, rfl⟩
      | ok defaults => exact .inr ⟨⟨file, defaults, level⟩, level', rfl, rfl⟩

end Settings

/-! ## Runs -/

/-- An outcome without what was logged. -/
def Outcome.unlogged (outcome : Outcome) : Outcome := { outcome with log := "" }

namespace CommandLine

variable {host other : Host}

/-- Two runs of tests, from settings that differ in the level of the log. -/
theorem runTests_unlogged (alike : host.AlikeButLevel other) (valid : host.extended.LevelValid)
    (otherValid : other.extended.LevelValid) (color : Bool) (input : List Char)
    (request : Request (List Test)) :
    (runTests host color input request).unlogged =
      (runTests other color input request).unlogged := by
  rcases Settings.load_alike alike valid otherValid with ⟨fault, here, there⟩ |
    ⟨settings, level, here, there⟩
  · simp only [runTests, here, there]
  · have abreast : Abreast (Eq : LineConsole → LineConsole → Prop) (fun _ _ => True) Unexcused :=
      ⟨eq_inStep Unexcused, fun _ _ => trivial⟩
    have agree := abreast.perform color settings request
      (⟨⟨input, ""⟩, ⟨some settings.logLevel, []⟩⟩ : Desk LineConsole)
      ⟨⟨input, ""⟩, ⟨some level, []⟩⟩ ⟨rfl, trivial⟩
    -- the level is in the journal, and of the settings the run reads the rest
    have same : perform color { settings with logLevel := level } request =
        (perform color settings request : EStateM Fault (Desk LineConsole) Unit) := rfl
    simp only [runTests, here, there, same]
    generalize perform color settings request
      (⟨⟨input, ""⟩, ⟨some settings.logLevel, []⟩⟩ : Desk LineConsole) = one at agree ⊢
    generalize perform color settings request
      (⟨⟨input, ""⟩, ⟨some level, []⟩⟩ : Desk LineConsole) = two at agree ⊢
    cases agree with
    | excused excuse => exact excuse.elim
    | ok related => simp only [Outcome.unlogged, related.console]
    | error related => simp only [Outcome.unlogged, related.console]

/-- Two runs of the program whose hosts differ in the level of the log. -/
theorem execute_unlogged (alike : host.AlikeButLevel other) (valid : host.extended.LevelValid)
    (otherValid : other.extended.LevelValid) (words : List String) (input : List Char) :
    (execute host words input).unlogged = (execute other words input).unlogged := by
  have apart : Settings.logLevelVariable ∉ Color.watched := by decide
  have styles : Color.styles host.environment words = Color.styles other.environment words := by
    refine Color.styles_congr (fun name watched => alike.environment name ?_) words
    rintro rfl
    exact apart watched
  have responds : (respond host words input).unlogged = (respond other words input).unlogged := by
    unfold respond
    cases Invocation.ofWords words with
    | answer text => rfl
    | guide text => rfl
    | refuse fault => rfl
    | run request =>
        rw [styles]
        exact runTests_unlogged alike valid otherValid _ input request
  rcases failure_or_start other with ⟨complaint, failed⟩ | started
  · rw [execute_of_failure (alike.failure.trans failed), execute_of_failure failed, alike.notice]
  · rw [execute_of_start (alike.failure.trans started), execute_of_start started, alike.notice]
    show (respond host words input).unlogged.after _ = (respond other words input).unlogged.after _
    rw [responds]

end CommandLine

/-! ## The log aside -/

/-- **What is logged reaches nothing else.**  The calls of a session have the same outcomes, show
the same and leave the same answers at any two thresholds and without a log; at a level they log
the lines of the whole log that are at least as urgent, in order, and without a log none.  Runs
of the program on hosts that differ in nothing but the level of the log, which is valid on both,
write the same to their output and end alike. -/
theorem log_reaches_nothing :
    (∀ (ε : Type) (generator : Generator) (answers : List String) (steps : List (Step ε)),
      (∀ threshold other : Option LogLevel,
        (Session.accounts generator threshold answers steps).map Session.Account.unlogged =
          (Session.accounts generator other answers steps).map Session.Account.unlogged) ∧
      (∀ level : LogLevel,
        (Session.accounts generator (some level) answers steps).map Session.Account.lines =
          (Session.accounts generator (some .debug) answers steps).map fun told =>
            told.lines.filter fun line => level.rank ≤ line.level.rank) ∧
      ∀ told ∈ Session.accounts generator none answers steps, told.lines = []) ∧
    ∀ host other : Host, host.AlikeButLevel other →
      host.extended.LevelValid → other.extended.LevelValid →
      ∀ (words : List String) (input : List Char),
        (CommandLine.execute host words input).stdout =
            (CommandLine.execute other words input).stdout ∧
          (CommandLine.execute host words input).code =
            (CommandLine.execute other words input).code ∧
          (CommandLine.execute host words input).complaint =
            (CommandLine.execute other words input).complaint := by
  refine ⟨fun ε generator answers steps => ⟨?any, ?level, ?silent⟩, ?runs⟩
  case any =>
    intro threshold other
    rw [Session.accounts_unlogged, ← Session.accounts_unlogged generator other]
  case level =>
    intro level
    rw [Session.accounts_heard, List.map_map]
    rfl
  case silent =>
    rw [Session.accounts_heard]
    intro told among
    obtain ⟨whole, -, rfl⟩ := List.mem_map.1 among
    exact Journal.heard_none whole.lines
  case runs =>
    intro host other alike valid otherValid words input
    have same := CommandLine.execute_unlogged alike valid otherValid words input
    have part {α : Type} (field : Outcome → α) := congrArg field same
    exact ⟨part Outcome.stdout, part Outcome.code, part Outcome.complaint⟩

/-- A burst that logs what it does, and one that does not. -/
theorem log_reaches_nothing_burst :
    let host (level : String) : Host :=
      ⟨[("TRAFFICGEN_LOG_LEVEL", level)], {}, fun _ => .error "no such file", "defaults.json"⟩
    let ended (level : String) := CommandLine.execute (host level) ["burst"]
      "95\n\n0\n\n0\n\n".toList
    (host "Debug").AlikeButLevel (host "error") ∧
      (host "Debug").extended.LevelValid ∧ (host "error").extended.LevelValid ∧
      (ended "Debug").log ≠ (ended "error").log ∧ (ended "error").code = 0 ∧
      (ended "Debug").stdout = (ended "error").stdout ∧
      (ended "Debug").code = (ended "error").code := by
  intro host ended
  have alike : (host "Debug").AlikeButLevel (host "error") := by
    refine .of_environment (fun name apart => ?_) rfl rfl rfl
    have other : (name == "TRAFFICGEN_LOG_LEVEL") = false := beq_false_of_ne apart
    simp [host, Environment.get?, other]
  have valid : (host "Debug").extended.LevelValid := by
    rintro text ⟨⟩
    decide +kernel
  have otherValid : (host "error").extended.LevelValid := by
    rintro text ⟨⟩
    decide +kernel
  obtain ⟨stdout, code, -⟩ := log_reaches_nothing.2 _ _ alike valid otherValid
    ["burst"] "95\n\n0\n\n0\n\n".toList
  exact ⟨alike, valid, otherValid, by decide +kernel, by decide +kernel, stdout, code⟩

end ManualTraffic
