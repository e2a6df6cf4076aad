import Overlay.Layer.Configuration

/-!
# Common sections

Sections that many services have, with empty defaults, and a service made of some of them.
-/

namespace Overlay.Layer

namespace Preset

/-- Fields that hold text and must be given. -/
def textFields (names : List String) : Fields := names.map fun n => (n, .text, none)

def httpServer : Schema := .record "HttpServerConfig" (textFields ["host", "port"])

def grpcServer : Schema := .record "GrpcServerConfig" (textFields ["host", "port"])

def postgres : Schema :=
  .record "PostgresConfig" (textFields ["host", "port", "user", "password", "database"])

def redis : Schema :=
  .record "RedisConfig"
    (textFields ["host", "port", "user", "password"] ++ [("db", .signed 64, none)])

def rabbitMq : Schema := .record "RabbitMqConfig" (textFields ["host", "port"])

def logger : Schema := .record "LoggerConfig" (textFields ["level"])

/-- All common sections. -/
def schema : Schema :=
  .record "Config"
    [("http_server_config", httpServer, none), ("grpc_server_config", grpcServer, none),
      ("postgres_config", postgres, none), ("redis_config", redis, none),
      ("rabbit_mq_config", rabbitMq, none), ("logger_config", logger, none)]

/-- Fields that all hold the empty text. -/
def blankFields (names : List String) : Tree.Entries := names.map fun n => (n, .text "")

/-- A section whose fields all hold the empty text. -/
def blankSection (names : List String) : Tree := .dict (blankFields names)

def zero : Tree := .number (.signed 0)

def blank : Tree :=
  .dict
    [("http_server_config", blankSection ["host", "port"]),
      ("grpc_server_config", blankSection ["host", "port"]),
      ("postgres_config", blankSection ["host", "port", "user", "password", "database"]),
      ("redis_config",
        .dict (blankFields ["host", "port", "user", "password"] ++ [("db", zero)])),
      ("rabbit_mq_config", blankSection ["host", "port"]),
      ("logger_config", blankSection ["level"])]

/-- All common sections, without any setting. -/
def configuration : Configuration := .ofTree schema blank

end Preset

namespace Service

def identity : Schema :=
  .record "OidcConfig"
    [("issuer", .text, none), ("client_id", .text, some (.text "")), ("scopes", .list .text, none)]

/-- A service with a server, a store and an identity provider. -/
def schema : Schema :=
  .record "Config"
    [("http_server_config", Preset.httpServer, none), ("redis_config", Preset.redis, none),
      ("oidc_config", identity, none)]

def defaults : Tree :=
  .dict
    [("http_server_config", .dict [("host", .text "0.0.0.0"), ("port", .text "8080")]),
      ("redis_config",
        .dict
          [("host", .text "localhost"), ("port", .text "6379"), ("user", .text ""),
            ("password", .text ""), ("db", .number (.signed 1))]),
      ("oidc_config",
        .dict
          [("issuer", .text "https://id.example.com"), ("client_id", .text ""),
            ("scopes", .list [])])]

/-- The service with its defaults. -/
def configuration : Configuration := .ofTree schema defaults

/-- The service with its defaults and the sources that options select. -/
def new (fs : Files.FileSystem) (vars : Environment) (options : List ConfigOption) :
    List Event × Except LayerError Configuration := configuration.init fs vars options

end Service

end Overlay.Layer
