import Pageviews.Event.Row

/-! The queries that the warehouse is sent. -/
namespace Pageviews.Warehouse

def table : String := "events_pageviews"

/-- The columns of the table with their types, in the order of a row. -/
def columns : List (String × String) :=
  [("timestamp", "DateTime64(3, 'UTC')"), ("domain", "String"), ("path", "String"),
    ("operating_system", "LowCardinality(String)"), ("browser_family", "LowCardinality(String)"),
    ("device", "LowCardinality(String)")]

structure Query where
  text : String
  rows : List Row
  deriving DecidableEq

namespace Query

def ping : Query := ⟨"SELECT 1", []⟩

def createTable : Query :=
  ⟨"CREATE TABLE IF NOT EXISTS " ++ table ++ " ( " ++
    ", ".intercalate (columns.map fun (name, type) => name ++ " " ++ type) ++
    " ) ENGINE = MergeTree PARTITION BY toYYYYMM(timestamp) ORDER BY (domain, timestamp)", []⟩

def insert (rows : List Row) : Query :=
  let names := columns.map fun (name, _) => "\x60" ++ name ++ "\x60"
  ⟨"INSERT INTO " ++ table ++ "(" ++ ",".intercalate names ++ ") FORMAT RowBinary", rows⟩

def verb (q : Query) : String := String.ofList (q.text.toList.takeWhile (· ≠ ' '))

end Query
end Pageviews.Warehouse
