import PipeAssist.Catalog.Basic

/-!
# The built-in catalog

The components that are available when no catalog document is configured.
-/

set_option autoImplicit false

namespace PipeAssist.Catalog

namespace Builtin

/-- An option in the group that its id implies. -/
def spec (id description : String) (defaultValue : Option String) (hints : List String) :
    OptionSpec where
  id := id.toList
  group := parentGroup id.toList
  description := description
  defaultValue := defaultValue.map String.toList
  hints := hints.map String.toList

/-- An entry of the catalog. -/
def entry (name : String) (category : Category) (options : List OptionSpec) : Entry :=
  ⟨⟨name.toList, category, none⟩, options⟩

/-- The `http` source. -/
def http : Entry :=
  ⟨⟨"http".toList, .source, some "builtin:http-source"⟩,
    [spec "port" "Port the HTTP server listens on" (some "8080") [],
     spec "path-pattern" "Ant-style path the source accepts requests on" (some "/") [],
     spec "format.type" "Payload format of incoming requests"
      (some "text") ["text", "json"],
     spec "format.encoding" "Character encoding of text payloads" (some "UTF-8") [],
     spec "server.ssl.enabled" "Serve requests over TLS" (some "false") ["true", "false"],
     spec "server.ssl.key-store" "Path to the key store holding the server certificate"
      none [],
     { spec "legacy-mode" "Accept pre-1.0 request envelopes" none [] with deprecated := true }]⟩

/-- The `time` source. -/
def time : Entry :=
  entry "time" .source
    [spec "time-unit" "Unit of the fixed delay"
      (some "SECONDS") ["MILLISECONDS", "SECONDS", "MINUTES"],
     spec "fixed-delay" "Delay between two emitted timestamps" (some "1") [],
     spec "date-format" "Pattern used to render timestamps" (some "MM/dd/yy HH:mm:ss") []]

/-- The `file` source. -/
def fileSource : Entry :=
  entry "file" .source
    [spec "directory" "Directory to watch for new files" none [],
     spec "filename-pattern" "Glob selecting the files to read" (some "*") []]

/-- The `fileset` source. -/
def fileset : Entry :=
  entry "fileset" .source
    [spec "paths" "Comma separated list of files to read once" none []]

/-- The `filter` processor. -/
def filter : Entry :=
  entry "filter" .processor
    [spec "expression" "Boolean expression a message must satisfy to pass" (some "true") []]

/-- The `transform` processor. -/
def transform : Entry :=
  entry "transform" .processor
    [spec "expression" "Expression producing the outgoing payload" (some "payload") []]

/-- The `file` sink. -/
def fileSink : Entry :=
  entry "file" .sink
    [spec "directory" "Directory files are written to" none [],
     spec "name" "Name of the target file" none [],
     spec "mode" "What to do when the target file exists"
      (some "APPEND") ["APPEND", "REPLACE", "FAIL", "IGNORE"]]

/-- The `log` sink. -/
def log : Entry :=
  entry "log" .sink
    [spec "level" "Level messages are logged at"
      (some "INFO") ["DEBUG", "INFO", "WARN", "ERROR"],
     spec "name" "Logger name" none [],
     spec "expression" "Expression rendering the logged message" (some "payload") []]

/-- The `task-launcher` app. -/
def taskLauncher : Entry :=
  entry "task-launcher" .app
    [spec "platform-name" "Platform the launched tasks run on" (some "default") []]

end Builtin

/-- The catalog that is used when none is configured. -/
def builtin : Catalog :=
  ⟨[Builtin.http, Builtin.time, Builtin.fileSource, Builtin.fileset, Builtin.filter,
    Builtin.transform, Builtin.fileSink, Builtin.log, Builtin.taskLauncher]⟩

end PipeAssist.Catalog
