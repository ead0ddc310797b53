import Kawin.Base.JsonRoundTrip

/-!
# The configuration store

`JsonConfigStore` keeps a `Configuration` in a JSON file.  `ToJson` and `ParseJson` were written
apart: `ToJson` writes the worker threads of the driver as a number, and `ParseJson` reads them as
a string, which is "auto" or digits.  The JSON library converts no number to a string, so a saved
configuration can never be loaded (`roundTrips_iff`).

The file is what the text streams of the platform make of it, and the strings of a
configuration are text.
-/

namespace Kawin.Kasvc

open Json

structure Configuration where
  clusterName : String
  hostName : String
  serviceName : String
  filterPortName : String
  devicePath : String
  grpcAddress : String
  grpcPort : BitVec 16
  eventQueueSize : BitVec 64
  workerThreads : BitVec 64
  serviceWorkerThreads : BitVec 64
  logFile : String
  logLevel : String
  deriving DecidableEq

/-- What the numbers of a new `Configuration` hold, which no code initialises. -/
structure Unassigned where
  grpcPort : BitVec 16
  eventQueueSize : BitVec 64
  workerThreads : BitVec 64
  serviceWorkerThreads : BitVec 64

/-- The platform: its floating-point numbers and `std::thread::hardware_concurrency`. -/
structure Host where
  format : FloatFormat
  hardwareConcurrency : BitVec 32

/-- The error of `Load`. -/
inductive LoadError
  /-- "Configuration file not found: " and the path -/
  | notFound
  /-- "Failed to open configuration file" -/
  | notOpened
  /-- "JSON parse error: " and the text of the exception -/
  | jsonParse (exception : JsonException)
  /-- "Failed to load configuration: " and the text of the exception -/
  | failed (what : String)
  deriving DecidableEq

/-- The error of `Save`. -/
inductive SaveError
  /-- "Failed to open file for writing" -/
  | notOpened
  /-- "Failed to save configuration: " and the text of the exception -/
  | failed (what : String)
  deriving DecidableEq

def Configuration.new (unassigned : Unassigned) : Configuration where
  clusterName := ""
  hostName := ""
  serviceName := ""
  filterPortName := ""
  devicePath := ""
  grpcAddress := ""
  grpcPort := unassigned.grpcPort
  eventQueueSize := unassigned.eventQueueSize
  workerThreads := unassigned.workerThreads
  serviceWorkerThreads := unassigned.serviceWorkerThreads
  logFile := ""
  logLevel := ""

/-! ## From JSON -/

/-- `isspace`. -/
def isSpace (c : Char) : Bool := c == ' ' || (9 ≤ c.toNat && c.toNat ≤ 13)

/-- `std::stoul`, where `unsigned long` has 32 bits. -/
def stoul (s : String) : Except String ℕ :=
  let text := s.toList.dropWhile isSpace
  let negative := text.head? == some '-'
  let digits := (if negative || text.head? == some '+' then text.tail else text).takeWhile
    Char.isDigit
  let n := Nat.ofDigitChars 10 digits 0
  if digits.isEmpty then .error "invalid stoul argument"
  else if 2 ^ 32 ≤ n then .error "stoul argument out of range"
  else .ok (if negative then (2 ^ 32 - n) % 2 ^ 32 else n)

section

variable (host : Host)

/-- The handler of `ParseJson`. -/
def catchJson {α : Type} : Except JsonException α → Except LoadError α
  | .ok a => .ok a
  | .error exception => .error (.jsonParse exception)

/-- What `ParseJson` does not catch, `Load` does. -/
def catchStandard {α : Type} : Except String α → Except LoadError α
  | .ok a => .ok a
  | .error what => .error (.failed what)

/-- The worker threads of a section. -/
def parseThreads (section_ : Json) : Except LoadError (BitVec 64) :=
  match section_.find "worker_threads" with
  | none => .ok (host.hardwareConcurrency.setWidth 64)
  | some member => do
      let threads ← catchJson member.getString
      if threads = "auto" then return host.hardwareConcurrency.setWidth 64
      else return BitVec.ofNat 64 (← catchStandard (stoul threads))

def parseNames (j : Json) (config : Configuration) : Except LoadError Configuration := do
  let clusterName ← catchJson (j.value getString "cluster_name" "default")
  let hostName ← catchJson (j.value getString "host_name" "winows_host")
  return { config with clusterName := clusterName, hostName := hostName }

def parseService (j : Json) (config : Configuration) : Except LoadError Configuration :=
  match j.find "service" with
  | none => .ok config
  | some service => do
      let name ← catchJson (service.value getString "name" "KubeArmorUserService")
      let threads ← parseThreads host service
      return { config with serviceName := name, serviceWorkerThreads := threads }

def parseDriver (j : Json) (config : Configuration) : Except LoadError Configuration :=
  match j.find "driver" with
  | none => .ok config
  | some driver => do
      let portName ← catchJson (driver.value getString "filter_port_name" "\\\\ScannerPort")
      let devicePath ← catchJson (driver.value getString "device_path" "\\\\??\\\\Karmor")
      let threads ← parseThreads host driver
      return { config with
        filterPortName := portName, devicePath := devicePath, workerThreads := threads }

def parseGrpc (j : Json) (config : Configuration) : Except LoadError Configuration :=
  match j.find "grpc" with
  | none => .ok config
  | some grpc => do
      let address ← catchJson (grpc.value getString "address" "0.0.0.0")
      let port ← catchJson (grpc.value (getNumber host.format) "port" 32767)
      return { config with grpcAddress := address, grpcPort := BitVec.ofInt 16 port }

/-- The queue size is read as an `int`. -/
def parseStreaming (j : Json) (config : Configuration) : Except LoadError Configuration :=
  match j.find "event_streaming" with
  | none => .ok config
  | some streaming => do
      let size ← catchJson (streaming.value (getNumber host.format) "max_queue_size" 10000)
      return { config with eventQueueSize := (BitVec.ofInt 32 size).signExtend 64 }

def parseLogging (j : Json) (config : Configuration) : Except LoadError Configuration :=
  match j.find "logging" with
  | none => .ok config
  | some logging => do
      let file ← catchJson (logging.value getString "file" "kubearmor_service.log")
      let level ← catchJson (logging.value getString "level" "INFO")
      return { config with logFile := file, logLevel := level }

/-- `ParseJson`. -/
def parseJson (unassigned : Unassigned) (text : List Char) : Except LoadError Configuration := do
  let j ← catchJson (Json.parse host.format text)
  let config ← parseNames j (.new unassigned)
  let config ← parseService host j config
  let config ← parseDriver host j config
  let config ← parseGrpc host j config
  let config ← parseStreaming host j config
  parseLogging j config

end

/-! ## To JSON -/

/-- The value that `ToJson` builds. -/
def Configuration.json (config : Configuration) : Json :=
  Json.null
    |>.assign "cluster_name" (.string config.clusterName)
    |>.assign "host_name" (.string config.hostName)
    |>.assignIn "service" "name" (.string config.serviceName)
    |>.assignIn "driver" "filter_port_name" (.string config.filterPortName)
    |>.assignIn "driver" "device_path" (.string config.devicePath)
    |>.assignIn "driver" "worker_threads" (.unsigned config.workerThreads.toNat)
    |>.assignIn "grpc" "address" (.string config.grpcAddress)
    |>.assignIn "grpc" "port" (.unsigned config.grpcPort.toNat)
    |>.assignIn "event_streaming" "max_queue_size" (.unsigned config.eventQueueSize.toNat)
    |>.assignIn "logging" "file" (.string config.logFile)
    |>.assignIn "logging" "level" (.string config.logLevel)

/-- `ToJson`. -/
def toJson (format : FloatFormat) (config : Configuration) : List Char :=
  Json.dump format 2 config.json

/-! ## Load and Save -/

/-- What the calls of the file system in `Load` come to: whether the file can be opened, and
the text of the exception if its modification time cannot be read. -/
structure LoadCalls where
  opened : Bool
  lastWriteTime : Except String Unit

/-- What the calls of the file system in `Save` come to. -/
structure SaveCalls where
  opened : Bool
  renamed : Except String Unit
  lastWriteTime : Except String Unit

/-- Every call succeeds. -/
def LoadCalls.success : LoadCalls := ⟨true, .ok ()⟩

/-- `Load`, on the file if it exists. -/
def load (host : Host) (unassigned : Unassigned) (calls : LoadCalls) :
    Option (List Char) → Except LoadError Configuration
  | none => .error .notFound
  | some text =>
      if !calls.opened then .error .notOpened
      else do
        let config ← parseJson host unassigned text
        let () ← catchStandard calls.lastWriteTime
        return config

/-- `Save`, with the file before and behind it. -/
def save (format : FloatFormat) (calls : SaveCalls) (config : Configuration)
    (file : Option (List Char)) : Except SaveError Unit × Option (List Char) :=
  if !calls.opened then (.error .notOpened, file)
  else
    match calls.renamed with
    | .error what => (.error (.failed what), file)
    | .ok () =>
        match calls.lastWriteTime with
        | .error what => (.error (.failed what), some (toJson format config))
        | .ok () => (.ok (), some (toJson format config))

/-- Where the configuration is saved, it is loaded again. -/
def RoundTrips (host : Host) (unassigned : Unassigned) (config : Configuration) : Prop :=
  ∀ calls file, (save host.format calls config file).1 = .ok () →
    load host unassigned .success (save host.format calls config file).2 = .ok config

section

variable {host : Host} {unassigned : Unassigned} {config : Configuration}

theorem json_eq : config.json = .object
    [("cluster_name", .string config.clusterName),
      ("driver", .object
        [("device_path", .string config.devicePath),
          ("filter_port_name", .string config.filterPortName),
          ("worker_threads", .unsigned config.workerThreads.toNat)]),
      ("event_streaming", .object
        [("max_queue_size", .unsigned config.eventQueueSize.toNat)]),
      ("grpc", .object
        [("address", .string config.grpcAddress), ("port", .unsigned config.grpcPort.toNat)]),
      ("host_name", .string config.hostName),
      ("logging", .object
        [("file", .string config.logFile), ("level", .string config.logLevel)]),
      ("service", .object [("name", .string config.serviceName)])] := by
  simp [Configuration.json, assignIn, assign, insertMember, KeyBefore, precedes, find,
    List.lookup_cons]

theorem json_wellFormed : WellFormed config.json := by
  have hthreads := config.workerThreads.isLt
  have hsize := config.eventQueueSize.isLt
  have hport := config.grpcPort.isLt
  rw [json_eq]
  refine .object _ (by simp [KeyBefore, precedes]) ?_
  simp only [List.forall_mem_cons, List.not_mem_nil, false_imp_iff, implies_true, and_true]
  refine ⟨.string _, .object _ (by simp [KeyBefore, precedes]) ?_, .object _ (by simp) ?_,
    .object _ (by simp [KeyBefore, precedes]) ?_, .string _,
    .object _ (by simp [KeyBefore, precedes]) ?_, .object _ (by simp) ?_⟩
  all_goals
    simp only [List.forall_mem_cons, List.not_mem_nil, false_imp_iff, implies_true, and_true]
  · exact ⟨.string _, .string _, .unsigned _ hthreads⟩
  · exact .unsigned _ hsize
  · exact ⟨.string _, .unsigned _ (by omega)⟩
  · exact ⟨.string _, .string _⟩
  · exact .string _

/-- What `ParseJson` says to a saved configuration. -/
theorem parseJson_toJson : parseJson host unassigned (toJson host.format config) =
    .error (.jsonParse (.typeError 302 "type must be string, but is number")) := by
  rw [parseJson, toJson, parse_dump _ _ json_wellFormed, json_eq]
  simp [catchJson, parseNames, parseService, parseDriver, parseThreads, find, value,
    List.lookup_cons, getString, typeName, bind, Except.bind, pure, Except.pure]

theorem save_ok {calls : SaveCalls} {file : Option (List Char)}
    (h : (save host.format calls config file).1 = .ok ()) :
    (save host.format calls config file).2 = some (toJson host.format config) := by
  revert h
  rw [save]
  split_ifs
  · rintro ⟨⟩
  cases calls.renamed with
  | error what => rintro ⟨⟩
  | ok =>
      cases calls.lastWriteTime with
      | error what => rintro ⟨⟩
      | ok => exact fun _ => rfl

theorem load_success (text : List Char) :
    load host unassigned .success (some text) = parseJson host unassigned text := by
  rw [load]
  cases parseJson host unassigned text with
  | error => rfl
  | ok => rfl

/-- What `Save` writes, `Load` refuses. -/
theorem RoundTrips.elim (h : RoundTrips host unassigned config) : False := by
  have hsaved : (save host.format ⟨true, .ok (), .ok ()⟩ config none).1 = .ok () := rfl
  have hload := h ⟨true, .ok (), .ok ()⟩ none hsaved
  rw [save_ok hsaved, load_success, parseJson_toJson] at hload
  cases hload

/-- **Config round trip, exactly.**  No configuration is loaded as it was saved. -/
theorem roundTrips_iff (host : Host) (unassigned : Unassigned) (config : Configuration) :
    RoundTrips host unassigned config ↔ False :=
  ⟨RoundTrips.elim, False.elim⟩

end

/-- The default configuration, saved and loaded. -/
theorem not_roundTrips : ¬∀ host unassigned config, RoundTrips host unassigned config := by
  intro h
  exact (h ⟨⟨fun _ => true, id, fun _ => 0⟩, 8#32⟩ ⟨0, 0, 0, 0⟩
    ⟨"default", "winows_host", "KubeArmorUserService", "\\\\ScannerPort", "\\\\??\\\\Karmor",
      "0.0.0.0", 32767#16, 10000#64, 8#64, 8#64, "kubearmor_service.log", "INFO"⟩).elim

end Kawin.Kasvc
