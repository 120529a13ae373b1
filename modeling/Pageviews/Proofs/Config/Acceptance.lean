import Pageviews.Proofs.Config.Reading
import Pageviews.Proofs.Registry.Entries

/-! Which variables are accepted, and which of them is blamed. Main statement: settings are read if
every variable is as it should be, and else the first that is not is the error. -/
namespace Pageviews.Config

open Registry (entries)
open Domain (Accepts)

/-- A text of decimal digits, with a plus sign before them or none, and the number it writes. -/
def Writes (text : String) (n : Nat) : Prop :=
  ∃ digits, digits ≠ [] ∧ (text.toList = digits ∨ text.toList = '+' :: digits) ∧
    (∀ c ∈ digits, c.isDigit = true) ∧ n = Nat.ofDigitChars 10 digits 0

theorem parseNumber_eq_ok_iff_writes {limit n : Nat} {text : String} :
    parseNumber limit text = .ok n ↔ Writes text n ∧ n < limit := by
  rw [parseNumber_eq_ok_iff, Writes]
  constructor
  · rintro ⟨digits, hne, htext, hdigits, hn, hlt⟩
    exact ⟨⟨digits, hne, htext, hdigits, hn⟩, hlt⟩
  · rintro ⟨⟨digits, hne, htext, hdigits, hn⟩, hlt⟩
    exact ⟨digits, hne, htext, hdigits, hn, hlt⟩

inductive Demand where
  /-- If it is set, that it is a number below a limit. -/
  | number (limit : Nat)
  /-- That it is set, and not empty. -/
  | text
  /-- That it is set, and a list of domains. -/
  | domains

def Demand.IsMet : Demand → Option String → Prop
  | number limit, value => ∀ text, value = some text → ∃ n, Writes text n ∧ n < limit
  | text, value => ∃ text, value = some text ∧ text ≠ ""
  | domains, value => ∃ text, value = some text ∧ text ≠ "" ∧ ∀ entry ∈ entries text, Accepts entry

/-- The variables of which something is asked, in the order in which they are read. -/
def demands : List (String × Demand) :=
  [("PRISME_PORT", .number (2 ^ 16)),
    ("PRISME_CLICKHOUSE_HOSTPORT", .text),
    ("PRISME_CLICKHOUSE_USER", .text),
    ("PRISME_CLICKHOUSE_PASSWORD", .text),
    ("PRISME_SOURCE_REGISTRY_SOURCES", .domains),
    ("PRISME_EVENTSTORE_QUEUE_CAPACITY", .number (2 ^ 64)),
    ("PRISME_EVENTSTORE_MAX_BATCH_SIZE", .number (2 ^ 64)),
    ("PRISME_EVENTSTORE_MAX_BATCH_TIMEOUT_MS", .number (2 ^ 64))]

def Demand.complaint (name : String) (demand : Demand) : Option String → String
  | none => name ++ " environment variable not set"
  | some value => match demand with
    | number _ => name ++ " environment variable is not valid: " ++ Text.quoted value
    | _ =>
      if value = "" then name ++ " environment variable is an empty string"
      else name ++ " must be a comma separated list of domains"

variable {vars : Variables} {name : String} {demand : Demand} {config : Config}
  {cause : ConfigError}

/-- A reading succeeds if the value of its variable does what is asked, and else says why not. -/
structure Answers {α : Type} (vars : Variables) (name : String) (demand : Demand)
    (reading : Except ConfigError α) : Prop where
  accepts : (∃ a, reading = .ok a) ↔ demand.IsMet (vars name)
  complains : ∀ cause, reading = .error cause → cause.message = demand.complaint name (vars name)

theorem Answers.not_isMet {α : Type} {reading : Except ConfigError α}
    (h : Answers vars name demand reading) (hcause : reading = .error cause) :
    ¬ demand.IsMet (vars name) := by
  intro hmet
  obtain ⟨a, ha⟩ := h.accepts.mpr hmet
  rw [hcause] at ha
  cases ha

theorem answers_numberOr (vars : Variables) (name : String) (limit fallback : Nat) :
    Answers vars name (.number limit) (vars.numberOr name limit fallback) := by
  constructor
  · simp only [Variables.numberOr_eq_ok_iff, parseNumber_eq_ok_iff_writes, Demand.IsMet]
    cases vars name <;> simp
  · intro cause h
    unfold Variables.numberOr at h
    cases hvalue : vars name with
    | none =>
      rw [hvalue] at h
      cases h
    | some text =>
      rw [hvalue] at h
      dsimp only at h
      cases hnumber : parseNumber limit text with
      | ok n =>
        rw [hnumber] at h
        cases h
      | error fault =>
        rw [hnumber] at h
        cases h
        rfl

/-- A variable that is wanted fails only if it is not set, or set to the empty text. -/
theorem message_of_required (hne : ∀ limit, demand ≠ .number limit)
    (h : vars.required name = .error cause) :
    cause.message = demand.complaint name (vars name) := by
  unfold Variables.required at h
  cases hvalue : vars name with
  | none =>
    rw [hvalue] at h
    cases h
    rfl
  | some text =>
    rw [hvalue] at h
    dsimp only at h
    split at h
    · next hempty =>
      cases h
      cases demand with
      | number limit => exact absurd rfl (hne limit)
      | text | domains => exact (if_pos hempty).symm
    · cases h

theorem answers_required (vars : Variables) (name : String) :
    Answers vars name .text (vars.required name) where
  accepts := by simp only [Variables.required_eq_ok_iff, Demand.IsMet]
  complains _ h := message_of_required nofun h

theorem answers_domains (vars : Variables) :
    Answers vars "PRISME_SOURCE_REGISTRY_SOURCES" .domains
      (vars.required "PRISME_SOURCE_REGISTRY_SOURCES" >>= fun raw =>
        (Registry.parseList raw).mapError .invalidSources) := by
  constructor
  · simp only [bind_eq_ok_iff, mapError_eq_ok_iff, Variables.required_eq_ok_iff, Demand.IsMet,
      ← Registry.exists_parseList_iff]
    constructor
    · rintro ⟨domains, raw, ⟨hset, hne⟩, hread⟩
      exact ⟨raw, hset, hne, domains, hread⟩
    · rintro ⟨raw, hset, hne, domains, hread⟩
      exact ⟨domains, raw, ⟨hset, hne⟩, hread⟩
  · intro cause h
    rcases bind_eq_error_iff.mp h with hmissing | ⟨raw, hraw, hlist⟩
    · exact message_of_required nofun hmissing
    · obtain ⟨hset, hne⟩ := Variables.required_eq_ok_iff.mp hraw
      cases hread : Registry.parseList raw with
      | ok domains =>
        rw [hread] at hlist
        cases hlist
      | error fault =>
        rw [hread] at hlist
        cases hlist
        rw [hset]
        exact (if_neg hne).symm

def AsksForZero (vars : Variables) : Prop :=
  ∃ name ∈ ["PRISME_EVENTSTORE_QUEUE_CAPACITY", "PRISME_EVENTSTORE_MAX_BATCH_SIZE"],
    ∃ text, vars name = some text ∧ Writes text 0

/-- An error blames the first of some variables that is not as asked, or a size of zero if they all
are. -/
def Blames (vars : Variables) (cause : ConfigError) (list : List (String × Demand)) : Prop :=
  HasFirst (fun d => d.2.IsMet (vars d.1))
      (fun d => ¬ d.2.IsMet (vars d.1) ∧ cause.message = d.2.complaint d.1 (vars d.1)) list ∨
    (∀ d ∈ list, d.2.IsMet (vars d.1)) ∧ AsksForZero vars ∧ cause = .zeroSize

/-- A reading goes on to the next variable only if the value of its own does what is asked. -/
theorem Answers.blames {α : Type} {reading : Except ConfigError α}
    {next : α → Except ConfigError Config} {list : List (String × Demand)}
    (h : Answers vars name demand reading)
    (herror : reading >>= next = .error cause)
    (hnext : ∀ a, reading = .ok a → next a = .error cause → Blames vars cause list) :
    Blames vars cause ((name, demand) :: list) := by
  unfold Blames
  rw [hasFirst_cons, List.forall_mem_cons]
  rcases bind_eq_error_iff.mp herror with hfault | ⟨a, ha, hrest⟩
  · exact .inl (.inl ⟨h.not_isMet hfault, h.complains cause hfault⟩)
  · have hmet := h.accepts.mp ⟨a, ha⟩
    rcases hnext a ha hrest with hfirst | ⟨hall, hzero⟩
    · exact .inl (.inr ⟨hmet, hfirst⟩)
    · exact .inr ⟨⟨hmet, hall⟩, hzero⟩

theorem asksForZero_of_numberOr {limit fallback : Nat} (hfallback : fallback ≠ 0)
    (hname : name ∈ ["PRISME_EVENTSTORE_QUEUE_CAPACITY", "PRISME_EVENTSTORE_MAX_BATCH_SIZE"])
    (h : vars.numberOr name limit fallback = .ok 0) : AsksForZero vars := by
  rcases Variables.numberOr_eq_ok_iff.mp h with ⟨-, hzero⟩ | ⟨text, hset, hnumber⟩
  · exact absurd hzero.symm hfallback
  · exact ⟨name, hname, text, hset, (parseNumber_eq_ok_iff_writes.mp hnumber).1⟩

theorem blames_of_ofVariables (h : ofVariables vars = .error cause) :
    Blames vars cause demands := by
  unfold ofVariables at h
  refine (answers_numberOr vars _ portLimit 80).blames h fun port _ h => ?_
  refine (answers_required vars _).blames h fun hostPort _ h => ?_
  refine (answers_required vars _).blames h fun user _ h => ?_
  refine (answers_required vars _).blames h fun password _ h => ?_
  rw [← bind_assoc] at h
  refine (answers_domains vars).blames h fun sources _ h => ?_
  refine (answers_numberOr vars _ sizeLimit _).blames h fun capacity hcapacity h => ?_
  refine (answers_numberOr vars _ sizeLimit _).blames h fun batchSize hbatchSize h => ?_
  refine (answers_numberOr vars _ sizeLimit _).blames h fun batchAge _ h => ?_
  split at h
  · next hzero =>
    cases h
    refine .inr ⟨nofun, ?_, rfl⟩
    rcases hzero with rfl | rfl
    · exact asksForZero_of_numberOr (by decide) (by decide) hcapacity
    · exact asksForZero_of_numberOr (by decide) (by decide) hbatchSize
  · cases h

/-- A number that is written, or the usual one where there is none. -/
def IsNumber (value : Option String) (usual n : Nat) : Prop :=
  value = none ∧ n = usual ∨ ∃ text, value = some text ∧ Writes text n

def SaysYes (value : Option String) : Prop :=
  ∃ text, value = some text ∧
    ∃ word ∈ ["true", "1", "yes"], word.toList = text.toList.map Char.toLower

theorem flag_eq_true_iff : vars.flag name = true ↔ SaysYes (vars name) := by
  unfold Variables.flag SaysYes
  cases vars name with
  | none => simp
  | some text =>
    rw [List.any_eq_true]
    simp only [decide_eq_true_eq, Option.some.injEq, exists_eq_left']

/-- Every setting is the value of its own variable, or the usual one. -/
structure Follows (vars : Variables) (config : Config) : Prop where
  host : config.server.host = (vars "PRISME_HOST").getD "0.0.0.0"
  port : IsNumber (vars "PRISME_PORT") 80 config.server.port
  debug : config.server.debug = true ↔ SaysYes (vars "PRISME_DEBUG")
  url : ∃ hostPort, vars "PRISME_CLICKHOUSE_HOSTPORT" = some hostPort ∧
    (SaysYes (vars "PRISME_CLICKHOUSE_TLS") ∧ config.warehouse.url = "https" ++ "://" ++ hostPort ∨
      ¬ SaysYes (vars "PRISME_CLICKHOUSE_TLS") ∧ config.warehouse.url = "http" ++ "://" ++ hostPort)
  database : config.warehouse.database = (vars "PRISME_CLICKHOUSE_DB").getD "prisme"
  user : vars "PRISME_CLICKHOUSE_USER" = some config.warehouse.user
  password : vars "PRISME_CLICKHOUSE_PASSWORD" = some config.warehouse.password
  sources : ∃ raw, vars "PRISME_SOURCE_REGISTRY_SOURCES" = some raw ∧
    List.Forall₂ (fun entry d => Domain.parse entry = .ok d) (entries raw) config.sources
  some_source : config.sources ≠ []
  capacity : IsNumber (vars "PRISME_EVENTSTORE_QUEUE_CAPACITY") 1024 config.writer.capacity
  batchSize : IsNumber (vars "PRISME_EVENTSTORE_MAX_BATCH_SIZE") 1000 config.writer.batchSize
  batchAge : IsNumber (vars "PRISME_EVENTSTORE_MAX_BATCH_TIMEOUT_MS") 3000 config.writer.batchAge

theorem isNumber_of_numberOr {limit usual n : Nat} (h : vars.numberOr name limit usual = .ok n) :
    IsNumber (vars name) usual n := by
  rcases Variables.numberOr_eq_ok_iff.mp h with hunset | ⟨text, hset, hnumber⟩
  · exact .inl hunset
  · exact .inr ⟨text, hset, (parseNumber_eq_ok_iff_writes.mp hnumber).1⟩

theorem Reads.follows (h : Reads vars config) : Follows vars config := by
  obtain ⟨raw, hraw, hlist⟩ := h.sources
  have hsources := Registry.parseList_eq_ok_iff_forall₂.mp hlist
  refine
    { host := h.host
      port := isNumber_of_numberOr h.port
      debug := by rw [h.debug, flag_eq_true_iff]
      url := ?_
      database := h.database
      user := (Variables.required_eq_ok_iff.mp h.user).1
      password := (Variables.required_eq_ok_iff.mp h.password).1
      sources := ⟨raw, (Variables.required_eq_ok_iff.mp hraw).1, hsources⟩
      some_source := ?_
      capacity := isNumber_of_numberOr h.capacity
      batchSize := isNumber_of_numberOr h.batchSize
      batchAge := isNumber_of_numberOr h.batchAge }
  · obtain ⟨hostPort, hhostPort, hurl⟩ := h.url
    refine ⟨hostPort, (Variables.required_eq_ok_iff.mp hhostPort).1, ?_⟩
    rw [← flag_eq_true_iff, hurl]
    cases vars.flag "PRISME_CLICKHOUSE_TLS" with
    | true => exact .inl ⟨rfl, rfl⟩
    | false => exact .inr ⟨Bool.false_ne_true, rfl⟩
  · intro hnil
    rw [hnil, List.forall₂_nil_right_iff] at hsources
    exact Registry.entries_ne_nil hsources

theorem Reads.isMet (h : Reads vars config) : ∀ d ∈ demands, d.2.IsMet (vars d.1) := by
  obtain ⟨raw, hraw, hlist⟩ := h.sources
  obtain ⟨hostPort, hhostPort, -⟩ := h.url
  have hsources : (vars.required "PRISME_SOURCE_REGISTRY_SOURCES" >>= fun raw =>
      (Registry.parseList raw).mapError ConfigError.invalidSources) = .ok config.sources :=
    bind_eq_ok_iff.mpr ⟨raw, hraw, mapError_eq_ok_iff.mpr hlist⟩
  simp only [demands, List.forall_mem_cons]
  exact ⟨(answers_numberOr ..).accepts.mp ⟨_, h.port⟩,
    (answers_required ..).accepts.mp ⟨_, hhostPort⟩, (answers_required ..).accepts.mp ⟨_, h.user⟩,
    (answers_required ..).accepts.mp ⟨_, h.password⟩,
    (answers_domains vars).accepts.mp ⟨_, hsources⟩,
    (answers_numberOr ..).accepts.mp ⟨_, h.capacity⟩,
    (answers_numberOr ..).accepts.mp ⟨_, h.batchSize⟩,
    (answers_numberOr ..).accepts.mp ⟨_, h.batchAge⟩, nofun⟩

theorem Reads.not_asksForZero (h : Reads vars config) : ¬ AsksForZero vars := by
  rintro ⟨name, hname, text, hset, hzero⟩
  have hread (usual : Nat) : vars.numberOr name sizeLimit usual = .ok 0 :=
    Variables.numberOr_eq_ok_iff.mpr
      (.inr ⟨text, hset, parseNumber_eq_ok_iff_writes.mpr ⟨hzero, by decide⟩⟩)
  rcases List.mem_pair.mp hname with rfl | rfl
  · exact h.nonzero.1 (Except.ok.inj (h.capacity.symm.trans (hread _)))
  · exact h.nonzero.2 (Except.ok.inj (h.batchSize.symm.trans (hread _)))

theorem exists_ofVariables_iff :
    (∃ config, ofVariables vars = .ok config) ↔
      (∀ d ∈ demands, d.2.IsMet (vars d.1)) ∧ ¬ AsksForZero vars := by
  constructor
  · rintro ⟨config, hconfig⟩
    have hreads := ofVariables_eq_ok_iff.mp hconfig
    exact ⟨hreads.isMet, hreads.not_asksForZero⟩
  · rintro ⟨hmet, hnonzero⟩
    cases h : ofVariables vars with
    | ok config => exact ⟨config, rfl⟩
    | error cause =>
      rcases blames_of_ofVariables h with ⟨before, d, after, hlist, -, hfault, -⟩ | ⟨-, hzero, -⟩
      · have hmem : d ∈ demands := hlist ▸ List.mem_append_right before List.mem_cons_self
        exact absurd (hmet d hmem) hfault
      · exact absurd hzero hnonzero

/-- Settings are read just when every variable is as asked and no size is zero, and then each is the
value of its own variable or the usual one. The error is that of the first variable that is not as
asked; a size of zero is the error when all of them are. -/
theorem accepted_or_first_blamed (vars : Variables) :
    ((∃ config, ofVariables vars = .ok config) ↔
      (∀ d ∈ demands, d.2.IsMet (vars d.1)) ∧ ¬ AsksForZero vars) ∧
    (∀ config, ofVariables vars = .ok config → Follows vars config) ∧
    ∀ cause, ofVariables vars = .error cause →
      HasFirst (fun d => d.2.IsMet (vars d.1))
        (fun d => ¬ d.2.IsMet (vars d.1) ∧ cause.message = d.2.complaint d.1 (vars d.1)) demands ∨
      (∀ d ∈ demands, d.2.IsMet (vars d.1)) ∧ AsksForZero vars ∧
        cause.message = "PRISME_EVENTSTORE_QUEUE_CAPACITY and PRISME_EVENTSTORE_MAX_BATCH_SIZE" ++
          " must be greater than zero" := by
  refine ⟨exists_ofVariables_iff, fun config h => (ofVariables_eq_ok_iff.mp h).follows,
    fun cause h => ?_⟩
  rcases blames_of_ofVariables h with hfirst | ⟨hall, hzero, rfl⟩
  · exact .inl hfirst
  · exact .inr ⟨hall, hzero, rfl⟩

/-- Variables that set the user to the empty text, and have more faults behind it. -/
def faulty : Variables := fun name =>
  [("PRISME_PORT", "+08000"), ("PRISME_CLICKHOUSE_HOSTPORT", "clickhouse:8123"),
    ("PRISME_CLICKHOUSE_USER", ""), ("PRISME_CLICKHOUSE_PASSWORD", "password"),
    ("PRISME_SOURCE_REGISTRY_SOURCES", "mysite.com,,"),
    ("PRISME_EVENTSTORE_QUEUE_CAPACITY", "0"),
    ("PRISME_EVENTSTORE_MAX_BATCH_SIZE", "9x")].lookup name

/-- A capacity may have a plus sign and zeros before it; and an empty user is blamed before the
sources and sizes behind it. -/
theorem accepted_or_first_blamed_user :
    (∃ config, ofVariables (sized "+0064") = .ok config ∧ config.writer.capacity = 64 ∧
      Follows (sized "+0064") config) ∧
    ∃ cause, ofVariables faulty = .error cause ∧
      cause.message = "PRISME_CLICKHOUSE_USER environment variable is an empty string" ∧
      HasFirst (fun d => d.2.IsMet (faulty d.1))
        (fun d => ¬ d.2.IsMet (faulty d.1) ∧ cause.message = d.2.complaint d.1 (faulty d.1))
        demands := by
  constructor
  · obtain ⟨-, hfollows, -⟩ := accepted_or_first_blamed (sized "+0064")
    obtain ⟨config, hconfig, hcapacity⟩ : ∃ config, ofVariables (sized "+0064") = .ok config ∧
        config.writer.capacity = 64 := ⟨_, rfl, rfl⟩
    exact ⟨config, hconfig, hcapacity, hfollows config hconfig⟩
  · obtain ⟨-, -, hblame⟩ := accepted_or_first_blamed faulty
    have hfails : ofVariables faulty = .error (.emptyValue "PRISME_CLICKHOUSE_USER") := rfl
    rcases hblame _ hfails with hfirst | ⟨hall, -⟩
    · exact ⟨_, hfails, rfl, hfirst⟩
    · obtain ⟨text, hset, hne⟩ := hall ("PRISME_CLICKHOUSE_USER", .text) (by simp [demands])
      have hempty : faulty "PRISME_CLICKHOUSE_USER" = some "" := rfl
      rw [hempty, Option.some.injEq] at hset
      exact absurd hset.symm hne

end Pageviews.Config
