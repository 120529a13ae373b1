import Pageviews.Config.Shown
import Pageviews.Proofs.Config.Acceptance

/-! The password of the warehouse is kept from the logs. Main statement: what is said of settings,
or of why they cannot be read, is the same for every password. -/
namespace Pageviews.Config

def withPassword (config : Config) (password : String) : Config :=
  { config with warehouse := { config.warehouse with password } }

theorem shown_withPassword (config : Config) (password : String) :
    (config.withPassword password).shown = config.shown := rfl

variable {vars other : Variables} {name fallback : String}

theorem Variables.getOr_congr (h : vars name = other name) :
    vars.getOr name fallback = other.getOr name fallback := by
  rw [Variables.getOr, h, Variables.getOr]

theorem Variables.required_congr (h : vars name = other name) :
    vars.required name = other.required name := by
  rw [Variables.required, h, Variables.required]

theorem Variables.flag_congr (h : vars name = other name) : vars.flag name = other.flag name := by
  rw [Variables.flag, h, Variables.flag]

theorem Variables.numberOr_congr {limit usual : Nat} (h : vars name = other name) :
    vars.numberOr name limit usual = other.numberOr name limit usual := by
  rw [Variables.numberOr, h, Variables.numberOr]

/-- Two sets of variables that differ at most in the password, which both set. -/
structure SameButPassword (vars other : Variables) (p q : String) : Prop where
  password : vars "PRISME_CLICKHOUSE_PASSWORD" = some p
  ne : p ≠ ""
  password_other : other "PRISME_CLICKHOUSE_PASSWORD" = some q
  ne_other : q ≠ ""
  rest : ∀ name, name ≠ "PRISME_CLICKHOUSE_PASSWORD" → vars name = other name

/-- The password that is read goes into its own setting and nowhere else. -/
theorem ofVariables_eq_map {p q : String} (h : SameButPassword vars other p q) :
    ofVariables vars = (·.withPassword p) <$> ofVariables other := by
  have hp : vars.required "PRISME_CLICKHOUSE_PASSWORD" = pure p :=
    Variables.required_eq_ok_iff.mpr ⟨h.password, h.ne⟩
  have hq : other.required "PRISME_CLICKHOUSE_PASSWORD" = pure q :=
    Variables.required_eq_ok_iff.mpr ⟨h.password_other, h.ne_other⟩
  simp only [ofVariables, hp, hq, map_bind, pure_bind]
  rw [Variables.getOr_congr (h.rest "PRISME_HOST" (by decide)),
    Variables.numberOr_congr (h.rest "PRISME_PORT" (by decide)),
    Variables.flag_congr (h.rest "PRISME_DEBUG" (by decide)),
    Variables.flag_congr (h.rest "PRISME_CLICKHOUSE_TLS" (by decide)),
    Variables.required_congr (h.rest "PRISME_CLICKHOUSE_HOSTPORT" (by decide)),
    Variables.getOr_congr (h.rest "PRISME_CLICKHOUSE_DB" (by decide)),
    Variables.required_congr (h.rest "PRISME_CLICKHOUSE_USER" (by decide)),
    Variables.required_congr (h.rest "PRISME_SOURCE_REGISTRY_SOURCES" (by decide)),
    Variables.numberOr_congr (h.rest "PRISME_EVENTSTORE_QUEUE_CAPACITY" (by decide)),
    Variables.numberOr_congr (h.rest "PRISME_EVENTSTORE_MAX_BATCH_SIZE" (by decide)),
    Variables.numberOr_congr (h.rest "PRISME_EVENTSTORE_MAX_BATCH_TIMEOUT_MS" (by decide))]
  refine bind_congr fun port => bind_congr fun hostPort => bind_congr fun user => ?_
  refine bind_congr fun raw => bind_congr fun sources => ?_
  refine bind_congr fun capacity => bind_congr fun batchSize => bind_congr fun batchAge => ?_
  split <;> rfl

/-- Variables that differ at most in the password, which is never empty, are read alike: they have
the same fault, or give settings that are equal but for the password. Logs show such settings alike,
on one line and on several, in whole and in the part that holds the password. -/
theorem password_unseen {p q : String} (h : SameButPassword vars other p q) :
    (∃ cause, ofVariables vars = .error cause ∧ ofVariables other = .error cause) ∨
      ∃ first second, ofVariables vars = .ok first ∧ ofVariables other = .ok second ∧
        first.warehouse.password = p ∧ second = first.withPassword q ∧
        first.shown.line = second.shown.line ∧ first.shown.pretty = second.shown.pretty ∧
        first.warehouse.shown = second.warehouse.shown ∧
        first.warehouse.shownPretty = second.warehouse.shownPretty := by
  have hmap := ofVariables_eq_map h
  cases hother : ofVariables other with
  | error cause =>
    rw [hother] at hmap
    exact .inl ⟨cause, hmap, rfl⟩
  | ok second =>
    rw [hother] at hmap
    have hpassword : second.warehouse.password = q :=
      Except.ok.inj ((ofVariables_eq_ok_iff.mp hother).password.symm.trans
        (Variables.required_eq_ok_iff.mpr ⟨h.password_other, h.ne_other⟩))
    have hshown := shown_withPassword second p
    have hpart : (second.withPassword p).warehouse.bothForms = second.warehouse.bothForms := rfl
    refine .inr ⟨second.withPassword p, second, hmap, rfl, rfl, ?_, congrArg Shown.line hshown,
      congrArg Shown.pretty hshown, ?_, ?_⟩
    · rw [← hpassword]
      rfl
    · rw [← Warehouse.line_bothForms, hpart, Warehouse.line_bothForms]
    · rw [← Warehouse.pretty_bothForms, hpart, Warehouse.pretty_bothForms]

def secured (password : String) : Variables := fun name =>
  if name = "PRISME_CLICKHOUSE_PASSWORD" then some password
  else
    [("PRISME_CLICKHOUSE_HOSTPORT", "clickhouse:8123"), ("PRISME_CLICKHOUSE_USER", "prisme"),
      ("PRISME_SOURCE_REGISTRY_SOURCES", "mysite.com")].lookup name

theorem sameButPassword_secured {p q : String} (hp : p ≠ "") (hq : q ≠ "") :
    SameButPassword (secured p) (secured q) p q where
  password := if_pos rfl
  ne := hp
  password_other := if_pos rfl
  ne_other := hq
  rest name hname := by rw [secured, secured, if_neg hname, if_neg hname]

theorem password_unseen_secured :
    SameButPassword (secured "hunter2") (secured "secret") "hunter2" "secret" ∧
      ∃ first second, ofVariables (secured "hunter2") = .ok first ∧
        ofVariables (secured "secret") = .ok second ∧ first.warehouse.password = "hunter2" ∧
        second = first.withPassword "secret" ∧ first.shown.line = second.shown.line ∧
        first.shown.pretty = second.shown.pretty := by
  have hsame := sameButPassword_secured (p := "hunter2") (q := "secret") (by decide) (by decide)
  refine ⟨hsame, ?_⟩
  rcases password_unseen hsame with ⟨cause, hfault, -⟩ | ⟨first, second, hfirst, hsecond,
    hpassword, heq, hline, hpretty, -⟩
  · cases hfault
  · exact ⟨first, second, hfirst, hsecond, hpassword, heq, hline, hpretty⟩

end Pageviews.Config
