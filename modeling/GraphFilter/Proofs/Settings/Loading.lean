import GraphFilter.Proofs.Except
import GraphFilter.Proofs.Text.Identifiers
import GraphFilter.Settings.Load

/-!
# `GraphFilter.Proofs.Settings.Loading` — the last writer of a setting wins

A setting is written up to three times: by its default, by the settings file, and by its variable of
the environment. The last one counts, and only what counts is checked in the end, since the name of
entities stands unescaped in every query. `Settings.LoadsTo` says what loading comes to, one rule
for each way in which it can end; nothing in it follows the order of the program but the order in
which words of the environment are read.

## Contents
- **Words.** `ReadsByTable`: the words of the three settings that are read, each with its table.
- **Variables.** `SettingsVariable.FirstMisread`: the first variable whose word is no value.
- **Fields.** `Settings.LastWritten`: each setting as it was last written.
- **Checks.** `Settings.FailingChecks`: what the check of settings lists.
- **Files.** `Settings.StartsFrom`: the settings before the environment.
- **Main result.** `Settings.load_last_written`.
-/

namespace GraphFilter

/-! ## Words -/

/-- Words are read by a table: in their plain form they are in the table with what they are read as,
    and the error of a word that is not in the table is a message about its plain form. -/
structure ReadsByTable {α : Type} (ofWord : String → Except String α) (plain : String → String)
    (table : List (String × α)) (message : String → String) : Prop where
  ok_iff : ∀ word a, ofWord word = .ok a ↔ (plain word, a) ∈ table
  error_iff : ∀ word reason, ofWord word = .error reason ↔
    (∀ a, (plain word, a) ∉ table) ∧ reason = message (plain word)

theorem readsByTable_of_find {α : Type} {ofWord : String → Except String α}
    {plain : String → String} {table : List (String × α)} {message : String → String}
    {find? : String → Option α} (hfind : ∀ word a, find? word = some a ↔ (word, a) ∈ table)
    (h : ∀ word, ofWord word = (find? (plain word)).elim (.error (message (plain word))) .ok) :
    ReadsByTable ofWord plain table message := by
  constructor
  · intro word a
    rw [h, ← hfind]
    cases find? (plain word) with
    | none => simp
    | some b => simp
  · intro word reason
    simp only [h, ← hfind]
    cases find? (plain word) with
    | none => simp [eq_comm]
    | some b => simp

/-- The words for identifier strategies. -/
def IdentifierStrategy.table : List (String × IdentifierStrategy) :=
  [("dynamic-key", .dynamicKey), ("inline", .inline)]

theorem IdentifierStrategy.ofName?_eq_some_iff (word : String) (strategy : IdentifierStrategy) :
    ofName? word = some strategy ↔ (word, strategy) ∈ table := by
  unfold ofName?
  split <;> cases strategy <;> simp_all [table]

theorem IdentifierStrategy.ofWord_readsByTable : ReadsByTable ofWord Text.normalizeWord table
    fun word => s!"unknown identifier strategy '{word}'" :=
  readsByTable_of_find ofName?_eq_some_iff fun word => by
    unfold ofWord
    dsimp only
    cases ofName? (Text.normalizeWord word) <;> rfl

/-- The words for execution modes. -/
def ExecutionMode.table : List (String × ExecutionMode) :=
  [("auto", .auto), ("in-memory", .inMemory), ("memory", .inMemory), ("pushdown", .pushdown)]

theorem ExecutionMode.find?_eq_some_iff (word : String) (mode : ExecutionMode) :
    (if word = "memory" then some .inMemory else ofName? word) = some mode ↔
      (word, mode) ∈ table := by
  by_cases hmemory : word = "memory"
  · cases mode <;> simp [hmemory, table]
  · rw [if_neg hmemory]
    unfold ofName?
    split <;> cases mode <;> simp_all [table]

theorem ExecutionMode.ofWord_readsByTable : ReadsByTable ofWord Text.normalizeWord table
    fun word => s!"unknown execution mode '{word}'" := by
  refine readsByTable_of_find find?_eq_some_iff fun word => ?_
  unfold ofWord
  dsimp only
  by_cases hmemory : Text.normalizeWord word = "memory"
  · rw [if_pos hmemory, if_pos hmemory]
    rfl
  · rw [if_neg hmemory, if_neg hmemory]
    cases ofName? (Text.normalizeWord word) <;> rfl

/-- The words for truth values. -/
def Settings.boolTable : List (String × Bool) :=
  [("1", true), ("true", true), ("yes", true), ("on", true),
    ("0", false), ("false", false), ("no", false), ("off", false)]

theorem Settings.boolOfWord_readsByTable :
    ReadsByTable boolOfWord (fun word => Text.lowercase (Text.trim word)) boolTable
      fun _ => "expected a boolean" := by
  constructor
  · intro word b
    unfold boolOfWord
    generalize Text.lowercase (Text.trim word) = word
    split <;> cases b <;> simp_all [boolTable]
  · intro word reason
    unfold boolOfWord
    generalize Text.lowercase (Text.trim word) = word
    split <;> simp_all [boolTable, eq_comm]

/-! ## Variables -/

/-- A variable is set to a word that is no value of its setting, for a reason. Names and log filters
    are taken as they are. -/
inductive SettingsVariable.Misread (env : String → Option String) :
    SettingsVariable → String → String → Prop
  | identifierStrategy {word : String} : env "SIEVE_IDENTIFIER_STRATEGY" = some word →
      (∀ strategy, (Text.normalizeWord word, strategy) ∉ IdentifierStrategy.table) →
      Misread env .identifierStrategy word
        s!"unknown identifier strategy '{Text.normalizeWord word}'"
  | executionMode {word : String} : env "SIEVE_EXECUTION_MODE" = some word →
      (∀ mode, (Text.normalizeWord word, mode) ∉ ExecutionMode.table) →
      Misread env .executionMode word s!"unknown execution mode '{Text.normalizeWord word}'"
  | includeSubsidiary {word : String} : env "SIEVE_INCLUDE_SUBSIDIARY" = some word →
      (∀ b, (Text.lowercase (Text.trim word), b) ∉ Settings.boolTable) →
      Misread env .includeSubsidiary word "expected a boolean"

namespace SettingsVariable

variable {env : String → Option String} {word reason : String}

theorem misread_identifierStrategy_iff : Misread env .identifierStrategy word reason ↔
    env identifierStrategy.name = some word ∧ IdentifierStrategy.ofWord word = .error reason := by
  constructor
  · intro h
    cases h with
    | identifierStrategy hset hword =>
      exact ⟨hset, (IdentifierStrategy.ofWord_readsByTable.error_iff _ _).mpr ⟨hword, rfl⟩⟩
  · rintro ⟨hset, hword⟩
    obtain ⟨hunknown, rfl⟩ := (IdentifierStrategy.ofWord_readsByTable.error_iff _ _).mp hword
    exact .identifierStrategy hset hunknown

theorem misread_executionMode_iff : Misread env .executionMode word reason ↔
    env executionMode.name = some word ∧ ExecutionMode.ofWord word = .error reason := by
  constructor
  · intro h
    cases h with
    | executionMode hset hword =>
      exact ⟨hset, (ExecutionMode.ofWord_readsByTable.error_iff _ _).mpr ⟨hword, rfl⟩⟩
  · rintro ⟨hset, hword⟩
    obtain ⟨hunknown, rfl⟩ := (ExecutionMode.ofWord_readsByTable.error_iff _ _).mp hword
    exact .executionMode hset hunknown

theorem misread_includeSubsidiary_iff : Misread env .includeSubsidiary word reason ↔
    env includeSubsidiary.name = some word ∧ Settings.boolOfWord word = .error reason := by
  constructor
  · intro h
    cases h with
    | includeSubsidiary hset hword =>
      exact ⟨hset, (Settings.boolOfWord_readsByTable.error_iff _ _).mpr ⟨hword, rfl⟩⟩
  · rintro ⟨hset, hword⟩
    obtain ⟨hunknown, rfl⟩ := (Settings.boolOfWord_readsByTable.error_iff _ _).mp hword
    exact .includeSubsidiary hset hunknown

/-- The variables whose words are read, in order. -/
def inTurn : List SettingsVariable :=
  [.identifierStrategy, .executionMode, .includeSubsidiary]

/-- A variable is misread, and none of those before it is. -/
def FirstMisread (env : String → Option String) (key : SettingsVariable)
    (word reason : String) : Prop :=
  Misread env key word reason ∧
    ∀ earlier ∈ inTurn.takeWhile (· ≠ key), ∀ word reason, ¬ Misread env earlier word reason

theorem firstMisread_identifierStrategy_iff : FirstMisread env .identifierStrategy word reason ↔
    Misread env .identifierStrategy word reason := by
  simp [FirstMisread, inTurn]

theorem firstMisread_executionMode_iff : FirstMisread env .executionMode word reason ↔
    (∀ word reason, ¬ Misread env .identifierStrategy word reason) ∧
      Misread env .executionMode word reason := by
  simp [FirstMisread, inTurn, and_comm]

theorem firstMisread_includeSubsidiary_iff : FirstMisread env .includeSubsidiary word reason ↔
    (∀ word reason, ¬ Misread env .identifierStrategy word reason) ∧
      (∀ word reason, ¬ Misread env .executionMode word reason) ∧
        Misread env .includeSubsidiary word reason := by
  simp [FirstMisread, inTurn, and_comm, and_assoc]

end SettingsVariable

namespace Settings

open SettingsVariable

variable {env : String → Option String}

section Reading

variable {α : Type} {key : SettingsVariable} {ofWord : String → Except String α}

theorem readVariable_eq_error_iff {e : SettingsError}
    (hkey : ∀ {word reason}, Misread env key word reason ↔
      env key.name = some word ∧ ofWord word = .error reason) :
    readVariable env key ofWord = .error e ↔
      ∃ word reason, Misread env key word reason ∧ e = .invalidValue key word reason := by
  simp only [hkey]
  unfold readVariable
  cases hset : env key.name with
  | none => simp
  | some word =>
    cases hword : ofWord word with
    | ok a => simp [hword]
    | error reason => simp [hword, eq_comm]

/-- A variable is read unless it is misread. -/
theorem exists_readVariable_iff
    (hkey : ∀ {word reason}, Misread env key word reason ↔
      env key.name = some word ∧ ofWord word = .error reason) :
    (∃ given, readVariable env key ofWord = .ok given) ↔
      ∀ word reason, ¬ Misread env key word reason := by
  constructor
  · rintro ⟨given, hgiven⟩ word reason hmisread
    have herror := (readVariable_eq_error_iff hkey).mpr ⟨word, reason, hmisread, rfl⟩
    exact nomatch hgiven.symm.trans herror
  · intro h
    cases hread : readVariable env key ofWord with
    | ok given => exact ⟨given, rfl⟩
    | error e =>
      obtain ⟨word, reason, hmisread, -⟩ := (readVariable_eq_error_iff hkey).mp hread
      exact absurd hmisread (h word reason)

end Reading

/-- Reading the environment fails at the first variable that is misread. -/
theorem ofEnvironment_eq_error_iff {e : SettingsError} :
    ofEnvironment env = .error e ↔
      ∃ key word reason, FirstMisread env key word reason ∧ e = .invalidValue key word reason := by
  constructor
  · intro h
    rcases bind_eq_error.mp h with h | ⟨strategy, hstrategy, h⟩
    · obtain ⟨word, reason, hmisread, rfl⟩ :=
        (readVariable_eq_error_iff misread_identifierStrategy_iff).mp h
      exact ⟨_, word, reason, firstMisread_identifierStrategy_iff.mpr hmisread, rfl⟩
    -- The first variable was read, so it is not misread; likewise the second one below.
    have hstrategies :=
      (exists_readVariable_iff misread_identifierStrategy_iff).mp ⟨strategy, hstrategy⟩
    rcases bind_eq_error.mp h with h | ⟨mode, hmode, h⟩
    · obtain ⟨word, reason, hmisread, rfl⟩ :=
        (readVariable_eq_error_iff misread_executionMode_iff).mp h
      exact ⟨_, word, reason, firstMisread_executionMode_iff.mpr ⟨hstrategies, hmisread⟩, rfl⟩
    have hmodes := (exists_readVariable_iff misread_executionMode_iff).mp ⟨mode, hmode⟩
    rcases bind_eq_error.mp h with h | ⟨flag, hflag, h⟩
    · obtain ⟨word, reason, hmisread, rfl⟩ :=
        (readVariable_eq_error_iff misread_includeSubsidiary_iff).mp h
      exact ⟨_, word, reason,
        firstMisread_includeSubsidiary_iff.mpr ⟨hstrategies, hmodes, hmisread⟩, rfl⟩
    · exact nomatch h
  · rintro ⟨key, word, reason, hfirst, rfl⟩
    have hmisread := hfirst.1
    -- The run reaches the variable, since those before it are read.
    cases key with
    | entityVariable => cases hmisread
    | logLevel => cases hmisread
    | identifierStrategy =>
      exact bind_eq_error.mpr (Or.inl
        ((readVariable_eq_error_iff misread_identifierStrategy_iff).mpr ⟨_, _, hmisread, rfl⟩))
    | executionMode =>
      obtain ⟨hstrategies, -⟩ := firstMisread_executionMode_iff.mp hfirst
      obtain ⟨strategy, hstrategy⟩ :=
        (exists_readVariable_iff misread_identifierStrategy_iff).mpr hstrategies
      refine bind_eq_error.mpr (Or.inr ⟨strategy, hstrategy, bind_eq_error.mpr (Or.inl ?_)⟩)
      exact (readVariable_eq_error_iff misread_executionMode_iff).mpr ⟨_, _, hmisread, rfl⟩
    | includeSubsidiary =>
      obtain ⟨hstrategies, hmodes, -⟩ := firstMisread_includeSubsidiary_iff.mp hfirst
      obtain ⟨strategy, hstrategy⟩ :=
        (exists_readVariable_iff misread_identifierStrategy_iff).mpr hstrategies
      obtain ⟨mode, hmode⟩ := (exists_readVariable_iff misread_executionMode_iff).mpr hmodes
      refine bind_eq_error.mpr (Or.inr ⟨strategy, hstrategy, bind_eq_error.mpr
        (Or.inr ⟨mode, hmode, bind_eq_error.mpr (Or.inl ?_)⟩)⟩)
      exact (readVariable_eq_error_iff misread_includeSubsidiary_iff).mpr ⟨_, _, hmisread, rfl⟩

/-! ## Fields -/

/-- What a setting is after its variable: what the table has for the word, or what it was. -/
inductive Overrides {α : Type} (plain : String → String) (table : List (String × α)) (old : α) :
    Option String → α → Prop
  | unset : Overrides plain table old none old
  | set {word : String} {new : α} : (plain word, new) ∈ table →
      Overrides plain table old (some word) new

/-- Each setting is the one of the environment, or the one below where its variable is unset. -/
structure LastWritten (env : String → Option String) (base s : Settings) : Prop where
  entityVariable : s.entityVariable = (env "SIEVE_ENTITY_VARIABLE").getD base.entityVariable
  identifierStrategy : Overrides Text.normalizeWord IdentifierStrategy.table
    base.identifierStrategy (env "SIEVE_IDENTIFIER_STRATEGY") s.identifierStrategy
  executionMode : Overrides Text.normalizeWord ExecutionMode.table
    base.executionMode (env "SIEVE_EXECUTION_MODE") s.executionMode
  includeSubsidiary : Overrides (fun word => Text.lowercase (Text.trim word)) boolTable
    base.includeSubsidiary (env "SIEVE_INCLUDE_SUBSIDIARY") s.includeSubsidiary
  logLevel : s.logLevel = (env "SIEVE_LOG_LEVEL").getD base.logLevel

section Overriding

variable {α : Type} {ofWord : String → Except String α} {plain : String → String}
  {table : List (String × α)} {message : String → String} {old new : α}

theorem overrides_iff (hreads : ReadsByTable ofWord plain table message) (key : SettingsVariable) :
    Overrides plain table old (env key.name) new ↔
      ∃ given, readVariable env key ofWord = .ok given ∧ given.getD old = new := by
  unfold readVariable
  constructor
  · intro h
    generalize env key.name = word? at h
    cases h with
    | unset => exact ⟨none, rfl, rfl⟩
    | set hword =>
      have hread := (hreads.ok_iff _ _).mpr hword
      exact ⟨some new, by simp only [hread], rfl⟩
  · rintro ⟨given, hread, rfl⟩
    cases hset : env key.name with
    | none =>
      simp only [hset, Except.ok.injEq] at hread
      subst hread
      exact .unset
    | some word =>
      cases hword : ofWord word with
      | ok new =>
        simp only [hset, hword, Except.ok.injEq] at hread
        subst hread
        exact .set ((hreads.ok_iff _ _).mp hword)
      | error reason => simp [hset, hword] at hread

end Overriding

theorem lastWritten_iff {base s : Settings} :
    LastWritten env base s ↔ ∃ given, ofEnvironment env = .ok given ∧ given.over base = s := by
  constructor
  · rintro ⟨hname, hstrategy, hmode, hflag, hlevel⟩
    obtain ⟨strategy, hstrategy, hs⟩ :=
      (overrides_iff IdentifierStrategy.ofWord_readsByTable .identifierStrategy).mp hstrategy
    obtain ⟨mode, hmode, hm⟩ :=
      (overrides_iff ExecutionMode.ofWord_readsByTable .executionMode).mp hmode
    obtain ⟨flag, hflag, hf⟩ :=
      (overrides_iff boolOfWord_readsByTable .includeSubsidiary).mp hflag
    refine ⟨_, bind_eq_ok.mpr ⟨strategy, hstrategy, bind_eq_ok.mpr ⟨mode, hmode,
      bind_eq_ok.mpr ⟨flag, hflag, rfl⟩⟩⟩, ?_⟩
    show Settings.mk ((env "SIEVE_ENTITY_VARIABLE").getD base.entityVariable) _ _ _
      ((env "SIEVE_LOG_LEVEL").getD base.logLevel) = s
    rw [hs, hm, hf, ← hname, ← hlevel]
  · rintro ⟨given, hgiven, rfl⟩
    obtain ⟨strategy, hstrategy, hgiven⟩ := bind_eq_ok.mp hgiven
    obtain ⟨mode, hmode, hgiven⟩ := bind_eq_ok.mp hgiven
    obtain ⟨flag, hflag, hgiven⟩ := bind_eq_ok.mp hgiven
    obtain rfl := pure_eq_ok.mp hgiven
    exact {
      entityVariable := rfl
      identifierStrategy := (overrides_iff IdentifierStrategy.ofWord_readsByTable
        .identifierStrategy).mpr ⟨strategy, hstrategy, rfl⟩
      executionMode := (overrides_iff ExecutionMode.ofWord_readsByTable
        .executionMode).mpr ⟨mode, hmode, rfl⟩
      includeSubsidiary := (overrides_iff boolOfWord_readsByTable
        .includeSubsidiary).mpr ⟨flag, hflag, rfl⟩
      logLevel := rfl }

/-! ## Checks -/

/-- What the check of settings lists: nothing, or the checks that fail, that of the name first. -/
inductive FailingChecks (libraries : Libraries) (s : Settings) : List SettingsProblem → Prop
  | neither : s.entityVariable.toList ∈ Text.identifiers →
      libraries.filterDefect? s.logLevel = none → FailingChecks libraries s []
  | name : s.entityVariable.toList ∉ Text.identifiers →
      libraries.filterDefect? s.logLevel = none →
      FailingChecks libraries s [.entityVariable s.entityVariable]
  | filter {reason : String} : s.entityVariable.toList ∈ Text.identifiers →
      libraries.filterDefect? s.logLevel = some reason →
      FailingChecks libraries s [.logLevel s.logLevel reason]
  | both {reason : String} : s.entityVariable.toList ∉ Text.identifiers →
      libraries.filterDefect? s.logLevel = some reason →
      FailingChecks libraries s [.entityVariable s.entityVariable, .logLevel s.logLevel reason]

section Checks

variable {libraries : Libraries} {s : Settings} {problems : List SettingsProblem}

theorem failingChecks_iff :
    FailingChecks libraries s problems ↔ libraries.problems s = problems := by
  unfold Libraries.problems
  constructor
  · intro h
    cases h with
    | neither hname hfilter => simp [Text.isIdentifier_iff, hname, hfilter]
    | name hname hfilter => simp [Text.isIdentifier_iff, hname, hfilter]
    | filter hname hfilter => simp [Text.isIdentifier_iff, hname, hfilter]
    | both hname hfilter => simp [Text.isIdentifier_iff, hname, hfilter]
  · rintro rfl
    by_cases hname : s.entityVariable.toList ∈ Text.identifiers
    · rw [if_pos (Text.isIdentifier_iff.mpr hname)]
      cases hfilter : libraries.filterDefect? s.logLevel with
      | none => exact .neither hname hfilter
      | some reason => exact .filter hname hfilter
    · rw [if_neg (Text.isIdentifier_iff.not.mpr hname)]
      cases hfilter : libraries.filterDefect? s.logLevel with
      | none => exact .name hname hfilter
      | some reason => exact .both hname hfilter

theorem failingChecks_nil_iff : FailingChecks libraries s [] ↔
    s.entityVariable.toList ∈ Text.identifiers ∧ libraries.filterDefect? s.logLevel = none := by
  constructor
  · intro h
    cases h with
    | neither hname hfilter => exact ⟨hname, hfilter⟩
  · rintro ⟨hname, hfilter⟩
    exact .neither hname hfilter

end Checks

/-! ## Files -/

/-- The settings before the environment: those that the file gives, or the defaults without one. -/
inductive StartsFrom (libraries : Libraries) : Option File → Settings → Prop
  | defaults : StartsFrom libraries none {}
  | file {path source : String} {base : Settings} : libraries.ofToml source = .ok base →
      StartsFrom libraries (some ⟨path, .ok source⟩) base

/-- What loading comes to: the error of the file, that of the environment, the list of what is wrong
    with the settings as they were last written, or these settings. -/
inductive LoadsTo (libraries : Libraries) (env : String → Option String) :
    Option File → Except SettingsError Settings → Prop
  | unreadable {path cause : String} :
      LoadsTo libraries env (some ⟨path, .error cause⟩) (.error (.unreadable path cause))
  | unparsable {path source cause : String} : libraries.ofToml source = .error cause →
      LoadsTo libraries env (some ⟨path, .ok source⟩) (.error (.noSettings cause))
  | misread {file : Option File} {base : Settings} {key : SettingsVariable}
      {word reason : String} : StartsFrom libraries file base → FirstMisread env key word reason →
      LoadsTo libraries env file (.error (.invalidValue key word reason))
  | refused {file : Option File} {base s : Settings} {problems : List SettingsProblem} :
      StartsFrom libraries file base → LastWritten env base s →
      FailingChecks libraries s problems → problems ≠ [] →
      LoadsTo libraries env file (.error (.invalid problems))
  | loaded {file : Option File} {base s : Settings} : StartsFrom libraries file base →
      LastWritten env base s → FailingChecks libraries s [] → LoadsTo libraries env file (.ok s)

section Loading

variable {libraries : Libraries} {file : Option File} {base s : Settings}

theorem ofText_of_ok {source : String} (h : libraries.ofToml source = .ok base) :
    libraries.ofText source = .ok base := by
  unfold Libraries.ofText
  rw [h]
  rfl

theorem ofText_of_error {source cause : String} (h : libraries.ofToml source = .error cause) :
    libraries.ofText source = .error (.noSettings cause) := by
  unfold Libraries.ofText
  rw [h]
  rfl

theorem startsFrom_iff :
    StartsFrom libraries file base ↔ libraries.ofOptionalFile file = .ok base := by
  constructor
  · intro h
    cases h with
    | defaults => rfl
    | file hsource => exact ofText_of_ok hsource
  · intro h
    match file with
    | none =>
      obtain rfl := Except.ok.inj h
      exact .defaults
    | some ⟨path, .error cause⟩ => exact nomatch h
    | some ⟨path, .ok source⟩ =>
      have hread : libraries.ofText source = .ok base := h
      cases hsource : libraries.ofToml source with
      | error cause => exact nomatch (ofText_of_error hsource).symm.trans hread
      | ok found =>
        obtain rfl := Except.ok.inj ((ofText_of_ok hsource).symm.trans hread)
        exact .file hsource

/-- A file that holds no settings is the error, whatever the environment is. -/
theorem fst_load_of_error {path source cause : String}
    (h : libraries.ofToml source = .error cause) :
    (libraries.load (some ⟨path, .ok source⟩) env).1 = .error (.noSettings cause) := by
  have hread : libraries.ofOptionalFile (some ⟨path, .ok source⟩) = .error (.noSettings cause) :=
    ofText_of_error h
  unfold Libraries.load
  rw [hread]

/-- Settings pass the check, or all that it lists is the error. -/
theorem fst_validate : (libraries.validate s).1 =
    if libraries.problems s = [] then .ok () else .error (.invalid (libraries.problems s)) := by
  unfold Libraries.validate
  cases libraries.problems s with
  | nil => rfl
  | cons problem rest => rfl

/-- Once a file is read, the environment comes on top and the settings are checked. -/
theorem fst_load (hstart : StartsFrom libraries file base) : (libraries.load file env).1 =
    (ofEnvironment env >>= fun given =>
      if libraries.problems (given.over base) = [] then .ok (given.over base)
      else .error (.invalid (libraries.problems (given.over base)))) := by
  unfold Libraries.load
  rw [startsFrom_iff.mp hstart]
  cases ofEnvironment env with
  | error e => rfl
  | ok given =>
    show (libraries.validate (given.over base)).1.map _ = _
    rw [fst_validate]
    by_cases hnone : libraries.problems (given.over base) = []
    · rw [if_pos hnone]
      exact (if_pos hnone).symm
    · rw [if_neg hnone]
      exact (if_neg hnone).symm

theorem loadsTo_load_of_startsFrom (hstart : StartsFrom libraries file base) :
    LoadsTo libraries env file (libraries.load file env).1 := by
  rw [fst_load hstart]
  cases hgiven : ofEnvironment env with
  | error e =>
    obtain ⟨key, word, reason, hfirst, rfl⟩ := ofEnvironment_eq_error_iff.mp hgiven
    exact .misread hstart hfirst
  | ok given =>
    have hwritten : LastWritten env base (given.over base) :=
      lastWritten_iff.mpr ⟨given, hgiven, rfl⟩
    show LoadsTo libraries env file (if _ then _ else _)
    by_cases hnone : libraries.problems (given.over base) = []
    · rw [if_pos hnone]
      exact .loaded hstart hwritten (failingChecks_iff.mpr hnone)
    · rw [if_neg hnone]
      exact .refused hstart hwritten (failingChecks_iff.mpr rfl) hnone

theorem loadsTo_load : LoadsTo libraries env file (libraries.load file env).1 := by
  match file with
  | none => exact loadsTo_load_of_startsFrom .defaults
  | some ⟨path, .error cause⟩ => exact .unreadable
  | some ⟨path, .ok source⟩ =>
    cases hsource : libraries.ofToml source with
    | error cause =>
      rw [fst_load_of_error hsource]
      exact .unparsable hsource
    | ok base => exact loadsTo_load_of_startsFrom (.file hsource)

theorem LoadsTo.load_eq {result : Except SettingsError Settings}
    (h : LoadsTo libraries env file result) : (libraries.load file env).1 = result := by
  cases h with
  | unreadable => rfl
  | unparsable hsource => exact fst_load_of_error hsource
  | misread hstart hfirst =>
    rw [fst_load hstart, ofEnvironment_eq_error_iff.mpr ⟨_, _, _, hfirst, rfl⟩]
    rfl
  | refused hstart hwritten hchecks hsome =>
    obtain ⟨given, hgiven, rfl⟩ := lastWritten_iff.mp hwritten
    obtain rfl := failingChecks_iff.mp hchecks
    rw [fst_load hstart, hgiven]
    exact if_neg hsome
  | loaded hstart hwritten hchecks =>
    obtain ⟨given, hgiven, rfl⟩ := lastWritten_iff.mp hwritten
    rw [fst_load hstart, hgiven]
    exact if_pos (failingChecks_iff.mp hchecks)

theorem load_eq_iff {result : Except SettingsError Settings} :
    (libraries.load file env).1 = result ↔ LoadsTo libraries env file result :=
  ⟨fun h => h ▸ loadsTo_load, LoadsTo.load_eq⟩

/-! ## Main result -/

/-- Settings that differ only where the environment sets a variable. -/
structure AgreeUnset (env : String → Option String) (a b : Settings) : Prop where
  entityVariable : env "SIEVE_ENTITY_VARIABLE" = none → a.entityVariable = b.entityVariable
  identifierStrategy :
    env "SIEVE_IDENTIFIER_STRATEGY" = none → a.identifierStrategy = b.identifierStrategy
  executionMode : env "SIEVE_EXECUTION_MODE" = none → a.executionMode = b.executionMode
  includeSubsidiary :
    env "SIEVE_INCLUDE_SUBSIDIARY" = none → a.includeSubsidiary = b.includeSubsidiary
  logLevel : env "SIEVE_LOG_LEVEL" = none → a.logLevel = b.logLevel

theorem Overrides.congr {α : Type} {plain : String → String} {table : List (String × α)}
    {a b new : α} {word? : Option String} (h : Overrides plain table a word? new)
    (hab : word? = none → a = b) : Overrides plain table b word? new := by
  cases h with
  | unset => exact hab rfl ▸ .unset
  | set hword => exact .set hword

theorem getD_congr {α : Type} {a b : α} {word? : Option α} (hab : word? = none → a = b) :
    word?.getD a = word?.getD b := by
  cases word? with
  | none => exact hab rfl
  | some word => rfl

theorem LastWritten.congr {a b : Settings} (h : LastWritten env a s) (hab : AgreeUnset env a b) :
    LastWritten env b s where
  entityVariable := h.entityVariable.trans (getD_congr hab.entityVariable)
  identifierStrategy := h.identifierStrategy.congr hab.identifierStrategy
  executionMode := h.executionMode.congr hab.executionMode
  includeSubsidiary := h.includeSubsidiary.congr hab.includeSubsidiary
  logLevel := h.logLevel.trans (getD_congr hab.logLevel)

/-- What a file gives for a setting whose variable is set does not matter. -/
theorem load_congr {other : Option File} {base' : Settings} (hfile : StartsFrom libraries file base)
    (hother : StartsFrom libraries other base') (hagree : AgreeUnset env base base') :
    (libraries.load file env).1 = (libraries.load other env).1 := by
  rw [fst_load hfile, fst_load hother]
  cases hgiven : ofEnvironment env with
  | error e => rfl
  | ok given =>
    have hwritten : LastWritten env base (given.over base) :=
      lastWritten_iff.mpr ⟨given, hgiven, rfl⟩
    -- What was written last over the one file was written last over the other as well.
    obtain ⟨given', hgiven', hover⟩ := lastWritten_iff.mp (hwritten.congr hagree)
    obtain rfl := Except.ok.inj (hgiven.symm.trans hgiven')
    show (if _ then _ else _) = (if _ then _ else _)
    rw [hover]

/-- Settings are loaded only as they were last written, and if no check of them fails. -/
theorem load_eq_ok_iff : (libraries.load file env).1 = .ok s ↔
    ∃ base, StartsFrom libraries file base ∧ LastWritten env base s ∧
      s.entityVariable.toList ∈ Text.identifiers ∧ libraries.filterDefect? s.logLevel = none := by
  rw [load_eq_iff]
  constructor
  · intro h
    cases h with
    | loaded hstart hwritten hchecks =>
      exact ⟨_, hstart, hwritten, failingChecks_nil_iff.mp hchecks⟩
  · rintro ⟨base, hstart, hwritten, hchecks⟩
    exact .loaded hstart hwritten (failingChecks_nil_iff.mpr hchecks)

theorem exists_of_load_invalid {problems : List SettingsProblem}
    (h : (libraries.load file env).1 = .error (.invalid problems)) :
    ∃ base s, LastWritten env base s ∧ FailingChecks libraries s problems := by
  cases load_eq_iff.mp h with
  | refused _ hwritten hchecks _ => exact ⟨_, _, hwritten, hchecks⟩

theorem Overrides.mem_table {α : Type} {plain : String → String} {table : List (String × α)}
    {old new : α} {word : String} (h : Overrides plain table old (some word) new) :
    (plain word, new) ∈ table := by
  cases h with
  | set hword => exact hword

theorem LastWritten.not_misread (h : LastWritten env base s) {key : SettingsVariable}
    {word reason : String} : ¬ Misread env key word reason := by
  intro hmisread
  cases hmisread with
  | identifierStrategy hset hword => exact hword _ (hset ▸ h.identifierStrategy).mem_table
  | executionMode hset hword => exact hword _ (hset ▸ h.executionMode).mem_table
  | includeSubsidiary hset hword => exact hword _ (hset ▸ h.includeSubsidiary).mem_table

theorem LastWritten.entityVariable_eq {name : String} (h : LastWritten env base s)
    (hset : env "SIEVE_ENTITY_VARIABLE" = some name) : s.entityVariable = name := by
  rw [h.entityVariable, hset, Option.getD_some]

theorem LastWritten.logLevel_eq {filter : String} (h : LastWritten env base s)
    (hset : env "SIEVE_LOG_LEVEL" = some filter) : s.logLevel = filter := by
  rw [h.logLevel, hset, Option.getD_some]

theorem FailingChecks.not_mem_entityVariable {problems : List SettingsProblem}
    (h : FailingChecks libraries s problems) (hname : s.entityVariable.toList ∈ Text.identifiers)
    (name : String) : .entityVariable name ∉ problems := by
  cases h with
  | neither | filter => simp
  | name hnot | both hnot => exact absurd hname hnot

theorem FailingChecks.not_mem_logLevel {problems : List SettingsProblem}
    (h : FailingChecks libraries s problems) (hfilter : libraries.filterDefect? s.logLevel = none)
    (filter reason : String) : .logLevel filter reason ∉ problems := by
  cases h with
  | neither | name => simp
  | filter _ hsome | both _ hsome => exact absurd (hsome.symm.trans hfilter) (by simp)

end Loading

/-- **The last writer of a setting wins, and only what passes the check after that is loaded.**
    Loading comes to what `LoadsTo` says, for every file and every environment. A file counts only
    where the environment is silent: what the environment sets is refused if it is wrong, and never
    for what the file had in its place. -/
theorem load_last_written (libraries : Libraries) (env : String → Option String)
    (file : Option File) :
    (∀ result, (libraries.load file env).1 = result ↔ LoadsTo libraries env file result) ∧
      (∀ other base base', StartsFrom libraries file base → StartsFrom libraries other base' →
        AgreeUnset env base base' → (libraries.load file env).1 = (libraries.load other env).1) ∧
      (∀ key word reason, Misread env key word reason → ∀ s, (libraries.load file env).1 ≠ .ok s) ∧
      (∀ name, env "SIEVE_ENTITY_VARIABLE" = some name →
        (name.toList ∉ Text.identifiers → ∀ s, (libraries.load file env).1 ≠ .ok s) ∧
        (name.toList ∈ Text.identifiers → ∀ problems,
          (libraries.load file env).1 = .error (.invalid problems) →
            ∀ name, .entityVariable name ∉ problems)) ∧
      ∀ filter, env "SIEVE_LOG_LEVEL" = some filter →
        (libraries.filterDefect? filter ≠ none → ∀ s, (libraries.load file env).1 ≠ .ok s) ∧
        (libraries.filterDefect? filter = none → ∀ problems,
          (libraries.load file env).1 = .error (.invalid problems) →
            ∀ filter reason, .logLevel filter reason ∉ problems) := by
  refine ⟨fun result => load_eq_iff, fun other base base' => load_congr, ?_, ?_, ?_⟩
  · intro key word reason hmisread s hload
    obtain ⟨base, -, hwritten, -⟩ := load_eq_ok_iff.mp hload
    exact hwritten.not_misread hmisread
  · intro name hset
    constructor
    · intro hname s hload
      obtain ⟨base, -, hwritten, hvalid, -⟩ := load_eq_ok_iff.mp hload
      exact hname (hwritten.entityVariable_eq hset ▸ hvalid)
    · intro hname problems hload
      obtain ⟨base, s, hwritten, hchecks⟩ := exists_of_load_invalid hload
      exact hchecks.not_mem_entityVariable (hwritten.entityVariable_eq hset ▸ hname)
  · intro filter hset
    constructor
    · intro hfilter s hload
      obtain ⟨base, -, hwritten, -, hvalid⟩ := load_eq_ok_iff.mp hload
      exact hfilter (hwritten.logLevel_eq hset ▸ hvalid)
    · intro hfilter problems hload
      obtain ⟨base, s, hwritten, hchecks⟩ := exists_of_load_invalid hload
      exact hchecks.not_mem_logLevel (hwritten.logLevel_eq hset ▸ hfilter)

/-- A file with a name that no entity can have is accepted when the environment gives another name,
    and a file with a fitting name is refused when the environment gives one that no entity can
    have. -/
theorem load_last_written_overridden :
    (∃ s, (Libraries.load
        { ofToml := fun _ => .ok { entityVariable := "1n" }, filterDefect? := fun _ => none }
        (some ⟨"settings.toml", .ok "entity_variable = \"1n\""⟩)
        fun key => if key = "SIEVE_ENTITY_VARIABLE" then some "film" else none).1 = .ok s) ∧
      ∀ s, (Libraries.load
        { ofToml := fun _ => .ok { entityVariable := "film" }, filterDefect? := fun _ => none }
        (some ⟨"settings.toml", .ok "entity_variable = \"film\""⟩)
        fun key => if key = "SIEVE_ENTITY_VARIABLE" then some "1n" else none).1 ≠ .ok s := by
  constructor
  · refine ⟨{ entityVariable := "film" }, ((load_last_written _ _ _).1 _).mpr ?_⟩
    have hname : "film".toList ∈ Text.identifiers := Text.isIdentifier_iff.mp (by decide)
    exact .loaded (.file rfl)
      { entityVariable := rfl, identifierStrategy := .unset, executionMode := .unset,
        includeSubsidiary := .unset, logLevel := rfl } (.neither hname rfl)
  · have hname : "1n".toList ∉ Text.identifiers := Text.isIdentifier_iff.not.mp (by decide)
    exact ((load_last_written _ _ _).2.2.2.1 "1n" rfl).1 hname

end Settings

end GraphFilter
