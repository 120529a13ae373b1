import Pageviews.Config.Variables
import Pageviews.Proofs.Config.Number
import Pageviews.Proofs.Fallible
import Pageviews.Proofs.Writer.Ledger

/-! Which settings are read. Main statements: each is what its own variables say, and a writer can
be made with them just when its queue can. -/
namespace Pageviews.Config

open Writer (Policy State)

namespace Variables

theorem required_eq_ok_iff {vars : Variables} {name value : String} :
    vars.required name = .ok value ↔ vars name = some value ∧ value ≠ "" := by
  unfold required
  cases vars name with
  | none => exact ⟨nofun, nofun⟩
  | some given =>
    dsimp only
    rw [Option.some.injEq]
    split
    · next hempty =>
      refine ⟨nofun, ?_⟩
      rintro ⟨rfl, hne⟩
      exact absurd hempty hne
    · next hne =>
      rw [Except.ok.injEq]
      constructor
      · rintro rfl
        exact ⟨rfl, hne⟩
      · exact And.left

/-- A number is the one that its variable gives, or the usual one if that is not set. -/
theorem numberOr_eq_ok_iff {vars : Variables} {name : String} {limit fallback n : Nat} :
    vars.numberOr name limit fallback = .ok n ↔
      (vars name = none ∧ n = fallback) ∨
        ∃ text, vars name = some text ∧ parseNumber limit text = .ok n := by
  unfold numberOr
  cases vars name with
  | none => simp [eq_comm]
  | some text => simp [mapError_eq_ok_iff]

end Variables

/-- The settings are what the variables say, each by itself. -/
structure Reads (vars : Variables) (config : Config) : Prop where
  host : config.server.host = vars.getOr "PRISME_HOST" "0.0.0.0"
  port : vars.numberOr "PRISME_PORT" portLimit 80 = .ok config.server.port
  debug : config.server.debug = vars.flag "PRISME_DEBUG"
  url : ∃ hostPort, vars.required "PRISME_CLICKHOUSE_HOSTPORT" = .ok hostPort ∧
    config.warehouse.url =
      (if vars.flag "PRISME_CLICKHOUSE_TLS" then "https" else "http") ++ "://" ++ hostPort
  database : config.warehouse.database = vars.getOr "PRISME_CLICKHOUSE_DB" "prisme"
  user : vars.required "PRISME_CLICKHOUSE_USER" = .ok config.warehouse.user
  password : vars.required "PRISME_CLICKHOUSE_PASSWORD" = .ok config.warehouse.password
  sources : ∃ raw, vars.required "PRISME_SOURCE_REGISTRY_SOURCES" = .ok raw ∧
    Registry.parseList raw = .ok config.sources
  capacity : vars.numberOr "PRISME_EVENTSTORE_QUEUE_CAPACITY" sizeLimit
    Policy.standard.capacity = .ok config.writer.capacity
  batchSize : vars.numberOr "PRISME_EVENTSTORE_MAX_BATCH_SIZE" sizeLimit
    Policy.standard.batchSize = .ok config.writer.batchSize
  batchAge : vars.numberOr "PRISME_EVENTSTORE_MAX_BATCH_TIMEOUT_MS" sizeLimit
    Policy.standard.batchAge = .ok config.writer.batchAge
  nonzero : config.writer.capacity ≠ 0 ∧ config.writer.batchSize ≠ 0

theorem ofVariables_eq_ok_iff {vars : Variables} {config : Config} :
    ofVariables vars = .ok config ↔ Reads vars config := by
  simp only [ofVariables, bind_eq_ok_iff, mapError_eq_ok_iff]
  constructor
  · rintro ⟨port, hport, hostPort, hhost, user, huser, password, hpassword, raw, hraw, sources,
      hsources, capacity, hcapacity, batchSize, hsize, batchAge, hage, h⟩
    split at h
    · cases h
    · next hnonzero =>
      cases h
      exact ⟨rfl, hport, rfl, ⟨hostPort, hhost, rfl⟩, rfl, huser, hpassword, ⟨raw, hraw, hsources⟩,
        hcapacity, hsize, hage, not_or.mp hnonzero⟩
  · rintro ⟨hhost, hport, hdebug, ⟨hostPort, hhostPort, hurl⟩, hdatabase, huser, hpassword,
      ⟨raw, hraw, hsources⟩, hcapacity, hsize, hage, hnonzero⟩
    refine ⟨_, hport, _, hhostPort, _, huser, _, hpassword, _, hraw, _, hsources, _, hcapacity,
      _, hsize, _, hage, ?_⟩
    rw [if_neg (not_or.mpr hnonzero), ← hhost, ← hdebug, ← hurl, ← hdatabase]

def sized (capacity : String) : Variables := fun name =>
  [("PRISME_CLICKHOUSE_HOSTPORT", "clickhouse:8123"), ("PRISME_CLICKHOUSE_USER", "prisme"),
    ("PRISME_CLICKHOUSE_PASSWORD", "password"), ("PRISME_SOURCE_REGISTRY_SOURCES", "mysite.com"),
    ("PRISME_EVENTSTORE_QUEUE_CAPACITY", capacity)].lookup name

/-- Every capacity but zero that 64 bits hold can be asked for. -/
theorem exists_ofVariables_sized (capacity : Nat) (hne : capacity ≠ 0)
    (hlt : capacity < sizeLimit) :
    ∃ config, ofVariables (sized (toString capacity)) = .ok config ∧
      config.writer.capacity = capacity := by
  have hsources : Registry.parseList "mysite.com" = .ok [⟨"mysite.com"⟩] := rfl
  have hcapacity : (sized (toString capacity)).numberOr "PRISME_EVENTSTORE_QUEUE_CAPACITY"
      sizeLimit Policy.standard.capacity = .ok capacity :=
    Variables.numberOr_eq_ok_iff.mpr (.inr ⟨_, rfl, parseNumber_toString hlt⟩)
  refine ⟨⟨⟨"0.0.0.0", 80, false⟩,
    ⟨"http://clickhouse:8123", "prisme", "prisme", "password"⟩, ⟨capacity, 1000, 3000⟩,
    [⟨"mysite.com"⟩]⟩, ofVariables_eq_ok_iff.mpr ?_, rfl⟩
  exact ⟨rfl, rfl, rfl, ⟨"clickhouse:8123", rfl, rfl⟩, rfl, rfl, rfl, ⟨"mysite.com", rfl, hsources⟩,
    hcapacity, rfl, rfl, hne, Nat.succ_ne_zero 999⟩

/-- With settings that were read a writer can be made just when the capacity that they ask for is
one that a queue can have; and every number but zero that 64 bits hold can be asked for. -/
theorem runnable_iff (α : Type) :
    (∀ (vars : Variables) (config : Config), ofVariables vars = .ok config →
      ((∃ start : State α, State.spawn? config.writer = some start) ↔
        config.writer.capacity ≤ Policy.maxSlots) ∧
      ((State.spawn? config.writer : Option (State α)) = none ↔
        ∃ text capacity, vars "PRISME_EVENTSTORE_QUEUE_CAPACITY" = some text ∧
          parseNumber sizeLimit text = .ok capacity ∧ Policy.maxSlots < capacity)) ∧
    ∀ capacity : Nat, capacity ≠ 0 → capacity < sizeLimit →
      ∃ config, ofVariables (sized (toString capacity)) = .ok config ∧
        config.writer.capacity = capacity := by
  constructor
  · intro vars config h
    have hreads := (ofVariables_eq_ok_iff.mp h).capacity
    refine ⟨State.exists_spawn?_iff, ?_⟩
    have hnone : (State.spawn? config.writer : Option (State α)) = none ↔
        Policy.maxSlots < config.writer.capacity := by
      rw [← Nat.not_le, ← State.exists_spawn?_iff (α := α), not_exists,
        Option.eq_none_iff_forall_ne_some]
    rw [hnone]
    constructor
    · intro hlt
      rcases Variables.numberOr_eq_ok_iff.mp hreads with ⟨-, hstandard⟩ | ⟨text, hset, hnumber⟩
      · rw [hstandard] at hlt
        exact absurd hlt (by decide)
      · exact ⟨text, _, hset, hnumber, hlt⟩
    · rintro ⟨text, capacity, hset, hnumber, hlt⟩
      have hcapacity : vars.numberOr "PRISME_EVENTSTORE_QUEUE_CAPACITY" sizeLimit
          Policy.standard.capacity = .ok capacity :=
        Variables.numberOr_eq_ok_iff.mpr (.inr ⟨text, hset, hnumber⟩)
      rw [hreads, Except.ok.injEq] at hcapacity
      rwa [hcapacity]
  · exact exists_ofVariables_sized

theorem runnable_largest : ∃ config, ofVariables (sized (toString Policy.maxSlots)) = .ok config ∧
    ∃ start : State Nat, State.spawn? config.writer = some start := by
  obtain ⟨config, hconfig, hcapacity⟩ :=
    (runnable_iff Nat).2 Policy.maxSlots (by decide) (by decide)
  exact ⟨config, hconfig, ((runnable_iff Nat).1 _ config hconfig).1.mpr (Nat.le_of_eq hcapacity)⟩

/-- The check of the settings leaves out what the queue needs: one slot too many is accepted. -/
theorem runnable_unchecked : ∃ config, ofVariables (sized (toString (Policy.maxSlots + 1))) =
      .ok config ∧ (State.spawn? config.writer : Option (State Nat)) = none := by
  obtain ⟨config, hconfig, hcapacity⟩ :=
    exists_ofVariables_sized (Policy.maxSlots + 1) (by decide) (by decide)
  refine ⟨config, hconfig, Option.eq_none_iff_forall_ne_some.mpr fun start hstart => ?_⟩
  have hle := State.exists_spawn?_iff.mp ⟨start, hstart⟩
  omega

end Pageviews.Config
