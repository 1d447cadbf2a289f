/-!
# Settings

A setting is one value that an operator may set: in the configuration file or on the command line
under its name, or through an environment variable. Its default is text, read like the text of
the environment variable, so the two cannot disagree.

`Setting.all` is the list of the known settings; `lookup?` finds one by its name.
-/

namespace KernelGate

/-- What a setting holds. -/
inductive SettingKind where
  | text
  | integer
  | flag
  /-- Items in order. -/
  | list
  /-- Items without order or repetition. -/
  | set
  deriving DecidableEq, Repr, Inhabited

/-- The word for a kind. -/
def SettingKind.word : SettingKind → String
  | .text => "string"
  | .integer => "integer"
  | .flag => "boolean"
  | .list => "list"
  | .set => "set"

/-- One value that an operator may set. -/
structure Setting where
  /-- The key in the configuration file and on the command line. -/
  name : String
  /-- The environment variable. -/
  env : String
  kind : SettingKind
  /-- The text that holds where nothing is set; none leaves the setting unset. -/
  default? : Option String
  deriving DecidableEq, Repr, Inhabited

namespace Setting

def remoteHosts : Setting := ⟨"remote_hosts", "EG_REMOTE_HOSTS", .list, some "localhost"⟩
def yarnEndpoint : Setting := ⟨"yarn_endpoint", "EG_YARN_ENDPOINT", .text, none⟩
def altYarnEndpoint : Setting := ⟨"alt_yarn_endpoint", "EG_ALT_YARN_ENDPOINT", .text, none⟩
def yarnSecurity : Setting :=
  ⟨"yarn_endpoint_security_enabled", "EG_YARN_ENDPOINT_SECURITY_ENABLED", .flag, some "false"⟩
def conductorEndpoint : Setting := ⟨"conductor_endpoint", "EG_CONDUCTOR_ENDPOINT", .text, none⟩
def impersonation : Setting :=
  ⟨"impersonation_enabled", "EG_IMPERSONATION_ENABLED", .flag, some "false"⟩
def unauthorizedUsers : Setting :=
  ⟨"unauthorized_users", "EG_UNAUTHORIZED_USERS", .set, some "root"⟩
def authorizedUsers : Setting := ⟨"authorized_users", "EG_AUTHORIZED_USERS", .set, some ""⟩
def portRange : Setting := ⟨"port_range", "EG_PORT_RANGE", .text, some "0..0"⟩
def maxKernelsPerUser : Setting :=
  ⟨"max_kernels_per_user", "EG_MAX_KERNELS_PER_USER", .integer, some "-1"⟩
def pingInterval : Setting :=
  ⟨"ws_ping_interval_secs", "EG_WS_PING_INTERVAL_SECS", .integer, some "30"⟩
def ip : Setting := ⟨"ip", "EG_IP", .text, some "127.0.0.1"⟩
def port : Setting := ⟨"port", "EG_PORT", .integer, some "8888"⟩
def api : Setting := ⟨"api", "EG_API", .text, some "jupyter-websocket"⟩
def defaultKernelName : Setting :=
  ⟨"default_kernel_name", "EG_DEFAULT_KERNEL_NAME", .text, some "python3"⟩
def prespawnCount : Setting := ⟨"prespawn_count", "EG_PRESPAWN_COUNT", .integer, none⟩
def maxKernels : Setting := ⟨"max_kernels", "EG_MAX_KERNELS", .integer, none⟩
def certFile : Setting := ⟨"certfile", "EG_CERTFILE", .text, none⟩
def keyFile : Setting := ⟨"keyfile", "EG_KEYFILE", .text, none⟩
def sessionPersistence : Setting :=
  ⟨"session_persistence", "EG_KERNEL_SESSION_PERSISTENCE", .flag, some "false"⟩
def persistenceRoot : Setting :=
  ⟨"persistence_root", "EG_PERSISTENCE_ROOT", .text, some "kernel-sessions"⟩
def recoveryTimeout : Setting :=
  ⟨"recovery_timeout_secs", "EG_RECOVERY_TIMEOUT_SECS", .integer, some "5"⟩
def cullIdleTimeout : Setting :=
  ⟨"cull_idle_timeout_secs", "EG_CULL_IDLE_TIMEOUT", .integer, some "0"⟩
def cullInterval : Setting := ⟨"cull_interval_secs", "EG_CULL_INTERVAL", .integer, some "300"⟩
def shutdownGrace : Setting :=
  ⟨"shutdown_grace_secs", "EG_SHUTDOWN_GRACE_SECS", .integer, some "5"⟩
def metricsAddress : Setting := ⟨"metrics_address", "EG_METRICS_ADDRESS", .text, none⟩

/-- The known settings. -/
def all : List Setting :=
  [remoteHosts, yarnEndpoint, altYarnEndpoint, yarnSecurity, conductorEndpoint, impersonation,
   unauthorizedUsers, authorizedUsers, portRange, maxKernelsPerUser, pingInterval, ip, port, api,
   defaultKernelName, prespawnCount, maxKernels, certFile, keyFile, sessionPersistence,
   persistenceRoot, recoveryTimeout, cullIdleTimeout, cullInterval, shutdownGrace, metricsAddress]

/-- The known setting of a name. -/
def lookup? (name : String) : Option Setting := all.find? (·.name = name)

end Setting

end KernelGate
