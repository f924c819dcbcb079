import TenantConsole.Record.ConfigTemplate
import TenantConsole.Record.Layout
import TenantConsole.Record.Protoboard

/-!
# Compiled-in catalogs

The layouts, protoboards and configuration templates that every console offers.
-/

namespace TenantConsole.Catalog

/-! ### Cells -/

def gridMembers (x y w h : Int) (name : String) (query : Json) (extra : List (String × Json)) :
    Json :=
  .obj <|
    [("h", .int h)] ++ extra
    ++ [("name", .str name), ("queries", .arr [query]), ("w", .int w), ("x", .int x), ("y", .int y)]

/-- The one cell of a layout. -/
def layoutCell (key name query : String) (groupBys : List String) : Json :=
  let query := Json.obj
    [("groupbys", .arr (groupBys.map Json.str)), ("query", .str query), ("wheres", .arr [])]
  gridMembers 0 0 4 4 name query [("i", .str key)]

/-- A cell of a protoboard, which fills its row from a column on. -/
def boardCell (x w : Int) (name query : String) : Json :=
  gridMembers x 0 w 4 name (.obj [("query", .str query)]) []

/-! ### Layouts -/

def cpuLayout : Layout where
  id := "0fa47984-825b-46f1-9ca5-0366e3281cc5"
  application := "system"
  measurement := "cpu"
  autoflow := true
  cells := [layoutCell "cc9ba3b6-e398-4396-80dc-819bb7ac7ce1" "CPU Usage"
    "SELECT 100 - mean(\"usage_idle\") AS \"usage\" FROM \"cpu\"" []]

def memLayout : Layout where
  id := "4a1efaec-57cf-4aeb-8dea-8a015f8ec3c5"
  application := "system"
  measurement := "mem"
  autoflow := true
  cells := [layoutCell "e6e5063c-43d5-409b-a0ab-68da51ed3f28" "System - Memory Gigabytes Used"
    ("SELECT mean(\"used\") / 1073741824 AS \"used\", "
      ++ "mean(\"available\") / 1073741824 AS \"available\" FROM \"mem\"") []]

def diskLayout : Layout where
  id := "0b75be4e-3454-4d5d-9a98-ca77c81397f6"
  application := "system"
  measurement := "disk"
  autoflow := true
  cells := [layoutCell "5825a4dd-df97-4e99-a99d-67b68833c183" "System - Disk used %"
    "SELECT mean(\"used_percent\") AS \"used_percent\" FROM \"disk\"" ["\"path\""]]

def layouts : List Layout := [cpuLayout, memLayout, diskLayout]

/-! ### Protoboards -/

/-- What follows the measurement in a query for one host. -/
def hostClause : String :=
  " WHERE \"host\" = :host: AND time > :dashboardTime: GROUP BY time(:interval:)"

def systemProtoboard : Protoboard where
  id := "system"
  about :=
    { name := "System", version := "1.0", dashboardVersion := "1.x"
      measurements := ["cpu", "mem", "disk", "system"]
      description := "Host level CPU, memory and disk usage collected by Telegraf"
      author := "vigil", license := "MIT"
      url := "https://github.com/influxdata/telegraf/tree/master/plugins/inputs/system" }
  data := .obj
    [("cells", .arr
      [boardCell 0 6 "CPU Usage"
        ("SELECT 100 - mean(\"usage_idle\") AS \"usage\" FROM \"cpu\"" ++ hostClause),
       boardCell 6 6 "Memory Used %"
        ("SELECT mean(\"used_percent\") AS \"used_percent\" FROM \"mem\"" ++ hostClause)]),
     ("templates", .arr
      [.obj
        [("query", .obj [("measurement", .str "system"), ("tagKey", .str "host")]),
         ("tempVar", .str ":host:"), ("type", .str "tagValues")]])]

def influxProtoboard : Protoboard where
  id := "influxdb"
  about :=
    { name := "InfluxDB", version := "1.0", dashboardVersion := "1.x"
      measurements := ["influxdb_database", "influxdb_httpd", "influxdb_write"]
      description := "Internal statistics of a monitored InfluxDB instance"
      author := "vigil", license := "MIT"
      url := "https://github.com/influxdata/telegraf/tree/master/plugins/inputs/influxdb" }
  data := .obj
    [("cells", .arr
      [boardCell 0 12 "InfluxDB - Write HTTP Requests"
        ("SELECT non_negative_derivative(max(\"writeReq\"), 1s) AS \"http_requests\" "
          ++ "FROM \"influxdb_httpd\" WHERE time > :dashboardTime: GROUP BY time(:interval:)")]),
     ("templates", .arr [])]

def protoboards : List Protoboard := [systemProtoboard, influxProtoboard]

/-! ### Configuration templates -/

/-- The part of a collector's configuration that sends what it collects to a source. -/
def outputSection : String :=
  "[agent]\n  interval = \"10s\"\n\n[[outputs.influxdb]]\n  urls = [\"\x7b\x7b .URL \x7d\x7d\"]\n"
    ++ "  database = \"telegraf\"\n\n"

def systemTemplate : ConfigTemplate where
  id := "telegraf-system"
  name := "Telegraf system metrics"
  description := "Collect CPU, memory, disk and load averages from the local host"
  template := outputSection
    ++ "[[inputs.cpu]]\n  percpu = true\n  totalcpu = true\n\n[[inputs.mem]]\n\n"
    ++ "[[inputs.disk]]\n  ignore_fs = [\"tmpfs\", \"devtmpfs\"]\n\n[[inputs.system]]\n"

def dockerTemplate : ConfigTemplate where
  id := "telegraf-docker"
  name := "Telegraf Docker metrics"
  description := "Collect container statistics from the local Docker daemon"
  template := outputSection
    ++ "[[inputs.docker]]\n  endpoint = \"unix:///var/run/docker.sock\"\n  timeout = \"5s\"\n"

def templates : List ConfigTemplate := [systemTemplate, dockerTemplate]

end TenantConsole.Catalog
