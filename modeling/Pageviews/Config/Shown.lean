import Pageviews.Config.Basic

/-! The settings as logs show them, on one line or with a line for each part. -/
namespace Pageviews.Config

/-- A value in both forms. -/
structure Shown where
  line : String
  /-- With a line for each part; all but the first begin with a margin. -/
  block : String → String

namespace Shown

def pretty (s : Shown) : String := s.block ""

def atom (text : String) : Shown := ⟨text, fun _ => text⟩

def text (value : String) : Shown := atom (Text.quoted value)

def number (n : Nat) : Shown := atom (toString n)

def flag (b : Bool) : Shown := atom (toString b)

/-- Parts with their labels between two brackets, which on one line may stand apart from them. -/
def group (opening closing gap : String) (parts : List (String × Shown)) : Shown where
  line := opening ++ gap ++
    ", ".intercalate (parts.map fun (label, value) => label ++ value.line) ++ gap ++ closing
  block margin := opening ++ "\n" ++
    String.join (parts.map fun (label, value) =>
      margin ++ "    " ++ label ++ value.block (margin ++ "    ") ++ ",\n") ++
    margin ++ closing

def record (name : String) (fields : List (String × Shown)) : Shown :=
  group (name ++ " \x7b") "\x7d" " " (fields.map fun (field, value) => (field ++ ": ", value))

theorem line_record (name : String) (fields : List (String × Shown)) :
    (record name fields).line = name ++ " \x7b " ++
      ", ".intercalate (fields.map fun (field, value) => field ++ ": " ++ value.line) ++
      " \x7d" := by
  have hopening : " \x7b" ++ " " = " \x7b " := by decide
  have hclosing : " " ++ "\x7d" = " \x7d" := by decide
  rw [← hopening, ← hclosing]
  simp only [record, group, List.map_map, Function.comp_def, String.append_assoc]

theorem pretty_record (name : String) (fields : List (String × Shown)) :
    (record name fields).pretty = name ++ " \x7b\n" ++
      String.join (fields.map fun (field, value) =>
        "    " ++ field ++ ": " ++ value.block "    " ++ ",\n") ++ "\x7d" := by
  have hopening : " \x7b" ++ "\n" = " \x7b\n" := by decide
  rw [← hopening]
  simp only [pretty, record, group, List.map_map, Function.comp_def, String.append_assoc,
    String.empty_append]

def wrapped (name : String) (value : Shown) : Shown := group (name ++ "(") ")" "" [("", value)]

/-- A list; the empty one has no lines of its own. -/
def list (items : List Shown) : Shown :=
  if items.isEmpty then atom "[]" else group "[" "]" "" (items.map ("", ·))

/-- The part of a second below its point, without zeros at its end. -/
def fraction (ms : Nat) : String :=
  match [ms / 100, ms / 10 % 10, ms % 10].reverse.dropWhile (· = 0) with
  | [] => ""
  | digits => "." ++ String.join (digits.reverse.map toString)

/-- A time in milliseconds, in seconds if there are any. -/
def duration (ms : Nat) : Shown :=
  atom <|
    if ms = 0 then "0ns"
    else if ms < 1000 then toString ms ++ "ms"
    else toString (ms / 1000) ++ fraction (ms % 1000) ++ "s"

example : ([0, 250, 3000, 3050].map fun ms => (duration ms).line) =
    ["0ns", "250ms", "3s", "3.05s"] := by
  decide +kernel

end Shown

def shownDomain (d : Domain) : Shown := .wrapped "DomainIdentifier" (.text d.name)

def shownPolicy (p : Writer.Policy) : Shown :=
  .record "WriterConfig"
    [("queue_capacity", .number p.capacity), ("max_batch_size", .number p.batchSize),
      ("max_batch_age", .duration p.batchAge)]

def shownServer (s : Server) : Shown :=
  .record "ServerConfig"
    [("host", .text s.host), ("port", .number s.port), ("debug", .flag s.debug)]

namespace Warehouse

def bothForms (w : Warehouse) : Shown :=
  .record "ClickhouseConfig" (w.shownFields.map fun (name, value) => (name, .atom value))

theorem line_bothForms (w : Warehouse) : w.bothForms.line = w.shown := by
  have hopening : "ClickhouseConfig" ++ " \x7b " = "ClickhouseConfig \x7b " := by decide
  rw [bothForms, Shown.line_record, hopening, List.map_map]
  unfold shown
  simp only [Function.comp_def, Shown.atom]

theorem pretty_bothForms (w : Warehouse) : w.bothForms.pretty = w.shownPretty := by
  have hopening : "ClickhouseConfig" ++ " \x7b\n" = "ClickhouseConfig \x7b\n" := by decide
  rw [bothForms, Shown.pretty_record, hopening, List.map_map]
  unfold shownPretty
  simp only [Function.comp_def, Shown.atom]

end Warehouse

def shown (config : Config) : Shown :=
  .record "Config"
    [("server", shownServer config.server),
      ("clickhouse", config.warehouse.bothForms),
      ("eventstore", shownPolicy config.writer),
      ("source_registry",
        .record "SourceRegistryConfig" [("sources", .list (config.sources.map shownDomain))])]

end Pageviews.Config
