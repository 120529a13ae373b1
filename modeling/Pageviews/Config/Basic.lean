import Pageviews.Registry
import Pageviews.Writer.Policy

/-! The settings of the service. -/
namespace Pageviews.Config

structure Server where
  host : String
  port : Nat
  /-- Whether everything is logged. -/
  debug : Bool

structure Warehouse where
  url : String
  database : String
  user : String
  password : String

namespace Warehouse

/-- The fields as logs show them; the password is hidden. -/
def shownFields (w : Warehouse) : List (String × String) :=
  [("url", w.url), ("database", w.database), ("user", w.user), ("password", "***")].map
    fun (name, value) => (name, Text.quoted value)

def shown (w : Warehouse) : String :=
  "ClickhouseConfig \x7b " ++
    ", ".intercalate (w.shownFields.map fun (name, value) => name ++ ": " ++ value) ++ " \x7d"

def shownPretty (w : Warehouse) : String :=
  "ClickhouseConfig \x7b\n" ++
    String.join (w.shownFields.map fun (name, value) => "    " ++ name ++ ": " ++ value ++ ",\n") ++
    "\x7d"

end Warehouse
end Config

structure Config where
  server : Config.Server
  warehouse : Config.Warehouse
  writer : Writer.Policy
  sources : List Domain

end Pageviews
