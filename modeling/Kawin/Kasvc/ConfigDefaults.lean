import Kawin.Kasvc.ConfigStore

/-!
# Missing sections of a configuration file

`ParseJson` names a default for every key.  It looks for a key only where the section that the key
belongs to is in the file, though, and a `Configuration` has no initialisers: without its section a
number is what the memory held before, and a string is empty.

`parsed_of_parseJson` says of every field where its value comes from, and `determined_iff` which
files determine all twelve: those with all five sections.
-/

namespace Kawin.Kasvc

open Json

/-! ## Calls that may fail -/

section

variable {α β ε : Type} {x y : Except ε α} {f g : α → Except ε β}

theorem bind_eq_ok {b : β} : (x >>= f) = .ok b ↔ ∃ a, x = .ok a ∧ f a = .ok b := by
  cases x with
  | error e =>
      constructor
      · intro h
        cases h
      · rintro ⟨a, ⟨⟩, _⟩
  | ok a =>
      constructor
      · intro h
        exact ⟨a, rfl, h⟩
      · rintro ⟨_, ⟨⟩, h⟩
        exact h

/-- Whether a call succeeds does not depend on what the calls before it return. -/
theorem isOk_bind_congr (hfirst : x.isOk = y.isOk) (hrest : ∀ a b, (f a).isOk = (g b).isOk) :
    (x >>= f).isOk = (y >>= g).isOk := by
  cases x with
  | error e =>
      cases y with
      | error e' => rfl
      | ok b => cases hfirst
  | ok a =>
      cases y with
      | error e' => cases hfirst
      | ok b => exact hrest a b

theorem isOk_iff : x.isOk = true ↔ ∃ a, x = .ok a := by
  cases x with
  | error e =>
      constructor
      · intro h
        cases h
      · rintro ⟨a, ⟨⟩⟩
  | ok a => exact iff_of_true rfl ⟨a, rfl⟩

theorem catchJson_eq_ok {x : Except JsonException α} {a : α} :
    catchJson x = .ok a ↔ x = .ok a := by
  cases x with
  | error e =>
      constructor
      · intro h
        cases h
      · intro h
        cases h
  | ok b => simp [catchJson]

end

/-! ## Members and defaults -/

section

variable {α ε : Type}

/-- What is read from a member, or the default where there is none. -/
def ReadsAs (get : Json → Except ε α) (default : α) (member : Option Json) (a : α) : Prop :=
  match member with
  | some j => get j = .ok a
  | none => a = default

theorem ReadsAs.unique {get : Json → Except ε α} {default a b : α} {member : Option Json}
    (ha : ReadsAs get default member a) (hb : ReadsAs get default member b) : a = b := by
  cases member with
  | none => exact ha.trans hb.symm
  | some j => exact Except.ok.inj (ha.symm.trans hb)

/-- What is read from a member of a section, or what was there before where there is no such
section. -/
def ReadsIn (get : Json → Except ε α) (default : α) (section_ : Option Json) (key : String)
    (before a : α) : Prop :=
  match section_ with
  | some j => ReadsAs get default (j.find key) a
  | none => a = before

/-- A member of a section, either of which may be missing. -/
def memberOf (j : Json) (section_ key : String) : Option Json :=
  (j.find section_).bind fun s => s.find key

variable {get : Json → Except ε α} {default before a : α} {j : Json} {member : Option Json}
  {section_ key : String}

theorem readsAs_of_value {get : Json → Except JsonException α}
    (h : catchJson (j.value get key default) = .ok a) : ReadsAs get default (j.find key) a := by
  rw [catchJson_eq_ok] at h
  cases j with
  | object members =>
      simp only [value] at h
      simp only [find]
      cases hmember : members.lookup key with
      | none =>
          rw [hmember] at h
          exact (Except.ok.inj h).symm
      | some member =>
          rw [hmember] at h
          exact h
  | _ => cases h

theorem readsAs_map {β : Type} {convert : α → β} (h : ReadsAs get default member a) :
    ReadsAs (fun j => (get j).map convert) (convert default) member (convert a) := by
  cases member with
  | none => exact congrArg convert h
  | some j => exact congrArg (Except.map convert) (h : get j = .ok a)

theorem ReadsIn.readsAs (h : ReadsIn get default (j.find section_) key before a)
    (hpresent : (j.find section_).isSome) : ReadsAs get default (memberOf j section_ key) a := by
  obtain ⟨s, hs⟩ := Option.isSome_iff_exists.mp hpresent
  rw [hs] at h
  rw [memberOf, hs]
  exact h

/-- What was there before is not taken for the default. -/
theorem ReadsIn.present (h : ReadsIn get default (j.find section_) key before a)
    (hreads : ReadsAs get default (memberOf j section_ key) a) (hne : before ≠ default) :
    (j.find section_).isSome := by
  cases hs : j.find section_ with
  | some s => rfl
  | none =>
      rw [hs] at h
      rw [memberOf, hs] at hreads
      exact absurd (h.symm.trans hreads) hne

end

/-! ## Where the fields come from -/

variable {host : Host} {unassigned : Unassigned} {j : Json} {config config' : Configuration}
  {text : List Char}

/-- What `ParseJson` makes of a member `worker_threads`. -/
def threadsOf (host : Host) (member : Json) : Except LoadError (BitVec 64) := do
  let threads ← catchJson member.getString
  if threads = "auto" then return host.hardwareConcurrency.setWidth 64
  else return BitVec.ofNat 64 (← catchStandard (stoul threads))

/-- What it makes of a member `port`. -/
def portOf (host : Host) (member : Json) : Except JsonException (BitVec 16) :=
  (member.getNumber host.format).map fun port => BitVec.ofInt 16 port

/-- What it makes of a member `max_queue_size`. -/
def queueSizeOf (host : Host) (member : Json) : Except JsonException (BitVec 64) :=
  (member.getNumber host.format).map fun size => (BitVec.ofInt 32 size).signExtend 64

/-- Every field, with the value it was constructed with where its section is missing. -/
structure Parsed (host : Host) (unassigned : Unassigned) (j : Json) (config : Configuration) :
    Prop where
  clusterName : ReadsAs getString "default" (j.find "cluster_name") config.clusterName
  hostName : ReadsAs getString "winows_host" (j.find "host_name") config.hostName
  serviceName : ReadsIn getString "KubeArmorUserService" (j.find "service") "name" ""
    config.serviceName
  serviceWorkerThreads : ReadsIn (threadsOf host) (host.hardwareConcurrency.setWidth 64)
    (j.find "service") "worker_threads" unassigned.serviceWorkerThreads config.serviceWorkerThreads
  filterPortName : ReadsIn getString "\\\\ScannerPort" (j.find "driver") "filter_port_name" ""
    config.filterPortName
  devicePath : ReadsIn getString "\\\\??\\\\Karmor" (j.find "driver") "device_path" ""
    config.devicePath
  workerThreads : ReadsIn (threadsOf host) (host.hardwareConcurrency.setWidth 64)
    (j.find "driver") "worker_threads" unassigned.workerThreads config.workerThreads
  grpcAddress : ReadsIn getString "0.0.0.0" (j.find "grpc") "address" "" config.grpcAddress
  grpcPort : ReadsIn (portOf host) 32767#16 (j.find "grpc") "port" unassigned.grpcPort
    config.grpcPort
  eventQueueSize : ReadsIn (queueSizeOf host) 10000#64 (j.find "event_streaming")
    "max_queue_size" unassigned.eventQueueSize config.eventQueueSize
  logFile : ReadsIn getString "kubearmor_service.log" (j.find "logging") "file" "" config.logFile
  logLevel : ReadsIn getString "INFO" (j.find "logging") "level" "" config.logLevel

/-- The configuration that a file should come to: what it says, and where it says nothing,
whether or not there is the section, the defaults. -/
structure AsInFile (host : Host) (j : Json) (config : Configuration) : Prop where
  clusterName : ReadsAs getString "default" (j.find "cluster_name") config.clusterName
  hostName : ReadsAs getString "winows_host" (j.find "host_name") config.hostName
  serviceName : ReadsAs getString "KubeArmorUserService" (memberOf j "service" "name")
    config.serviceName
  serviceWorkerThreads : ReadsAs (threadsOf host) (host.hardwareConcurrency.setWidth 64)
    (memberOf j "service" "worker_threads") config.serviceWorkerThreads
  filterPortName : ReadsAs getString "\\\\ScannerPort" (memberOf j "driver" "filter_port_name")
    config.filterPortName
  devicePath : ReadsAs getString "\\\\??\\\\Karmor" (memberOf j "driver" "device_path")
    config.devicePath
  workerThreads : ReadsAs (threadsOf host) (host.hardwareConcurrency.setWidth 64)
    (memberOf j "driver" "worker_threads") config.workerThreads
  grpcAddress : ReadsAs getString "0.0.0.0" (memberOf j "grpc" "address") config.grpcAddress
  grpcPort : ReadsAs (portOf host) 32767#16 (memberOf j "grpc" "port") config.grpcPort
  eventQueueSize : ReadsAs (queueSizeOf host) 10000#64
    (memberOf j "event_streaming" "max_queue_size") config.eventQueueSize
  logFile : ReadsAs getString "kubearmor_service.log" (memberOf j "logging" "file") config.logFile
  logLevel : ReadsAs getString "INFO" (memberOf j "logging" "level") config.logLevel

/-! ### Section by section -/

theorem readsAs_of_parseThreads {section_ : Json} {threads : BitVec 64}
    (h : parseThreads host section_ = .ok threads) :
    ReadsAs (threadsOf host) (host.hardwareConcurrency.setWidth 64)
      (section_.find "worker_threads") threads := by
  unfold parseThreads at h
  cases hmember : section_.find "worker_threads" with
  | none =>
      rw [hmember] at h
      exact (Except.ok.inj h).symm
  | some member =>
      rw [hmember] at h
      exact h

theorem parseNames_ok (h : parseNames j config = .ok config') :
    ∃ clusterName hostName,
      config' = { config with clusterName := clusterName, hostName := hostName } ∧
      ReadsAs getString "default" (j.find "cluster_name") clusterName ∧
      ReadsAs getString "winows_host" (j.find "host_name") hostName := by
  obtain ⟨clusterName, hcluster, h⟩ := bind_eq_ok.mp h
  obtain ⟨hostName, hhost, h⟩ := bind_eq_ok.mp h
  cases h
  exact ⟨clusterName, hostName, rfl, readsAs_of_value hcluster, readsAs_of_value hhost⟩

theorem parseService_ok (h : parseService host j config = .ok config') :
    ∃ name threads,
      config' = { config with serviceName := name, serviceWorkerThreads := threads } ∧
      ReadsIn getString "KubeArmorUserService" (j.find "service") "name" config.serviceName name ∧
      ReadsIn (threadsOf host) (host.hardwareConcurrency.setWidth 64) (j.find "service")
        "worker_threads" config.serviceWorkerThreads threads := by
  unfold parseService at h
  cases hsection : j.find "service" with
  | none =>
      rw [hsection] at h
      cases h
      exact ⟨_, _, rfl, rfl, rfl⟩
  | some service =>
      rw [hsection] at h
      obtain ⟨name, hname, h⟩ := bind_eq_ok.mp h
      obtain ⟨threads, hthreads, h⟩ := bind_eq_ok.mp h
      cases h
      exact ⟨name, threads, rfl, readsAs_of_value hname, readsAs_of_parseThreads hthreads⟩

theorem parseDriver_ok (h : parseDriver host j config = .ok config') :
    ∃ portName devicePath threads,
      config' = { config with
        filterPortName := portName, devicePath := devicePath, workerThreads := threads } ∧
      ReadsIn getString "\\\\ScannerPort" (j.find "driver") "filter_port_name"
        config.filterPortName portName ∧
      ReadsIn getString "\\\\??\\\\Karmor" (j.find "driver") "device_path" config.devicePath
        devicePath ∧
      ReadsIn (threadsOf host) (host.hardwareConcurrency.setWidth 64) (j.find "driver")
        "worker_threads" config.workerThreads threads := by
  unfold parseDriver at h
  cases hsection : j.find "driver" with
  | none =>
      rw [hsection] at h
      cases h
      exact ⟨_, _, _, rfl, rfl, rfl, rfl⟩
  | some driver =>
      rw [hsection] at h
      obtain ⟨portName, hport, h⟩ := bind_eq_ok.mp h
      obtain ⟨devicePath, hdevice, h⟩ := bind_eq_ok.mp h
      obtain ⟨threads, hthreads, h⟩ := bind_eq_ok.mp h
      cases h
      exact ⟨portName, devicePath, threads, rfl, readsAs_of_value hport,
        readsAs_of_value hdevice, readsAs_of_parseThreads hthreads⟩

theorem parseGrpc_ok (h : parseGrpc host j config = .ok config') :
    ∃ address port, config' = { config with grpcAddress := address, grpcPort := port } ∧
      ReadsIn getString "0.0.0.0" (j.find "grpc") "address" config.grpcAddress address ∧
      ReadsIn (portOf host) 32767#16 (j.find "grpc") "port" config.grpcPort port := by
  unfold parseGrpc at h
  cases hsection : j.find "grpc" with
  | none =>
      rw [hsection] at h
      cases h
      exact ⟨_, _, rfl, rfl, rfl⟩
  | some grpc =>
      rw [hsection] at h
      obtain ⟨address, haddress, h⟩ := bind_eq_ok.mp h
      obtain ⟨port, hport, h⟩ := bind_eq_ok.mp h
      cases h
      exact ⟨address, _, rfl, readsAs_of_value haddress, readsAs_map (readsAs_of_value hport)⟩

theorem parseStreaming_ok (h : parseStreaming host j config = .ok config') :
    ∃ size, config' = { config with eventQueueSize := size } ∧
      ReadsIn (queueSizeOf host) 10000#64 (j.find "event_streaming") "max_queue_size"
        config.eventQueueSize size := by
  unfold parseStreaming at h
  cases hsection : j.find "event_streaming" with
  | none =>
      rw [hsection] at h
      cases h
      exact ⟨_, rfl, rfl⟩
  | some streaming =>
      rw [hsection] at h
      obtain ⟨size, hsize, h⟩ := bind_eq_ok.mp h
      cases h
      exact ⟨_, rfl, readsAs_map (readsAs_of_value hsize)⟩

theorem parseLogging_ok (h : parseLogging j config = .ok config') :
    ∃ file level, config' = { config with logFile := file, logLevel := level } ∧
      ReadsIn getString "kubearmor_service.log" (j.find "logging") "file" config.logFile file ∧
      ReadsIn getString "INFO" (j.find "logging") "level" config.logLevel level := by
  unfold parseLogging at h
  cases hsection : j.find "logging" with
  | none =>
      rw [hsection] at h
      cases h
      exact ⟨_, _, rfl, rfl, rfl⟩
  | some logging =>
      rw [hsection] at h
      obtain ⟨file, hfile, h⟩ := bind_eq_ok.mp h
      obtain ⟨level, hlevel, h⟩ := bind_eq_ok.mp h
      cases h
      exact ⟨file, level, rfl, readsAs_of_value hfile, readsAs_of_value hlevel⟩

/-- **The specification of `ParseJson`.** -/
theorem parsed_of_parseJson (hj : Json.parse host.format text = .ok j)
    (h : parseJson host unassigned text = .ok config) : Parsed host unassigned j config := by
  obtain ⟨j', hj', h⟩ := bind_eq_ok.mp h
  obtain rfl : j = j' := Except.ok.inj (hj.symm.trans (catchJson_eq_ok.mp hj'))
  obtain ⟨_, hnames, h⟩ := bind_eq_ok.mp h
  obtain ⟨clusterName, hostName, rfl, hcluster, hhost⟩ := parseNames_ok hnames
  obtain ⟨_, hservice, h⟩ := bind_eq_ok.mp h
  obtain ⟨name, serviceThreads, rfl, hname, hserviceThreads⟩ := parseService_ok hservice
  obtain ⟨_, hdriver, h⟩ := bind_eq_ok.mp h
  obtain ⟨portName, devicePath, threads, rfl, hportName, hdevice, hthreads⟩ :=
    parseDriver_ok hdriver
  obtain ⟨_, hgrpc, h⟩ := bind_eq_ok.mp h
  obtain ⟨address, port, rfl, haddress, hport⟩ := parseGrpc_ok hgrpc
  obtain ⟨_, hstreaming, hlogging⟩ := bind_eq_ok.mp h
  obtain ⟨size, rfl, hsize⟩ := parseStreaming_ok hstreaming
  obtain ⟨file, level, rfl, hfile, hlevel⟩ := parseLogging_ok hlogging
  exact ⟨hcluster, hhost, hname, hserviceThreads, hportName, hdevice, hthreads, haddress, hport,
    hsize, hfile, hlevel⟩

/-! ### The memory before -/

theorem parseService_isOk (config config' : Configuration) :
    (parseService host j config).isOk = (parseService host j config').isOk := by
  unfold parseService
  cases j.find "service" with
  | none => rfl
  | some service => exact isOk_bind_congr rfl fun _ _ => isOk_bind_congr rfl fun _ _ => rfl

theorem parseDriver_isOk (config config' : Configuration) :
    (parseDriver host j config).isOk = (parseDriver host j config').isOk := by
  unfold parseDriver
  cases j.find "driver" with
  | none => rfl
  | some driver =>
      apply isOk_bind_congr rfl
      exact fun _ _ => isOk_bind_congr rfl fun _ _ => isOk_bind_congr rfl fun _ _ => rfl

theorem parseGrpc_isOk (config config' : Configuration) :
    (parseGrpc host j config).isOk = (parseGrpc host j config').isOk := by
  unfold parseGrpc
  cases j.find "grpc" with
  | none => rfl
  | some grpc => exact isOk_bind_congr rfl fun _ _ => isOk_bind_congr rfl fun _ _ => rfl

theorem parseStreaming_isOk (config config' : Configuration) :
    (parseStreaming host j config).isOk = (parseStreaming host j config').isOk := by
  unfold parseStreaming
  cases j.find "event_streaming" with
  | none => rfl
  | some streaming => exact isOk_bind_congr rfl fun _ _ => rfl

theorem parseLogging_isOk (config config' : Configuration) :
    (parseLogging j config).isOk = (parseLogging j config').isOk := by
  unfold parseLogging
  cases j.find "logging" with
  | none => rfl
  | some logging => exact isOk_bind_congr rfl fun _ _ => isOk_bind_congr rfl fun _ _ => rfl

/-- What the memory held decides nothing about success. -/
theorem parseJson_isOk (host : Host) (unassigned unassigned' : Unassigned) (text : List Char) :
    (parseJson host unassigned text).isOk = (parseJson host unassigned' text).isOk := by
  unfold parseJson
  cases catchJson (Json.parse host.format text) with
  | error e => rfl
  | ok j =>
      refine @isOk_bind_congr _ _ _ (parseNames j _) (parseNames j _) _ _ ?_ ?_
      · exact isOk_bind_congr rfl fun _ _ => isOk_bind_congr rfl fun _ _ => rfl
      intro names names'
      apply isOk_bind_congr (parseService_isOk names names')
      intro service service'
      apply isOk_bind_congr (parseDriver_isOk service service')
      intro driver driver'
      apply isOk_bind_congr (parseGrpc_isOk driver driver')
      intro grpc grpc'
      apply isOk_bind_congr (parseStreaming_isOk grpc grpc')
      exact fun streaming streaming' => parseLogging_isOk streaming streaming'

/-! ## Determined configurations -/

/-- The sections of a configuration file. -/
def sections : List String := ["service", "driver", "grpc", "event_streaming", "logging"]

/-- There is at most one such configuration. -/
theorem AsInFile.unique (h : AsInFile host j config) (h' : AsInFile host j config') :
    config = config' := by
  cases config
  cases config'
  simp only [Configuration.mk.injEq]
  exact ⟨h.clusterName.unique h'.clusterName, h.hostName.unique h'.hostName,
    h.serviceName.unique h'.serviceName, h.filterPortName.unique h'.filterPortName,
    h.devicePath.unique h'.devicePath, h.grpcAddress.unique h'.grpcAddress,
    h.grpcPort.unique h'.grpcPort, h.eventQueueSize.unique h'.eventQueueSize,
    h.workerThreads.unique h'.workerThreads,
    h.serviceWorkerThreads.unique h'.serviceWorkerThreads, h.logFile.unique h'.logFile,
    h.logLevel.unique h'.logLevel⟩

/-- With all its sections, a file determines every field. -/
theorem Parsed.asInFile (h : Parsed host unassigned j config)
    (hsections : ∀ section_ ∈ sections, (j.find section_).isSome) : AsInFile host j config := by
  have hservice : (j.find "service").isSome := hsections _ (by decide)
  have hdriver : (j.find "driver").isSome := hsections _ (by decide)
  have hgrpc : (j.find "grpc").isSome := hsections _ (by decide)
  have hstreaming : (j.find "event_streaming").isSome := hsections _ (by decide)
  have hlogging : (j.find "logging").isSome := hsections _ (by decide)
  exact
    { clusterName := h.clusterName
      hostName := h.hostName
      serviceName := h.serviceName.readsAs hservice
      serviceWorkerThreads := h.serviceWorkerThreads.readsAs hservice
      filterPortName := h.filterPortName.readsAs hdriver
      devicePath := h.devicePath.readsAs hdriver
      workerThreads := h.workerThreads.readsAs hdriver
      grpcAddress := h.grpcAddress.readsAs hgrpc
      grpcPort := h.grpcPort.readsAs hgrpc
      eventQueueSize := h.eventQueueSize.readsAs hstreaming
      logFile := h.logFile.readsAs hlogging
      logLevel := h.logLevel.readsAs hlogging }

/-- Without one of them it does not, unless the memory happens to hold the default. -/
theorem Parsed.sections (h : Parsed host unassigned j config) (hfile : AsInFile host j config)
    (hsize : unassigned.eventQueueSize ≠ 10000#64) :
    ∀ section_ ∈ sections, (j.find section_).isSome := by
  have hservice := h.serviceName.present hfile.serviceName (by decide)
  have hdriver := h.filterPortName.present hfile.filterPortName (by decide)
  have hgrpc := h.grpcAddress.present hfile.grpcAddress (by decide)
  have hstreaming := h.eventQueueSize.present hfile.eventQueueSize hsize
  have hlogging := h.logFile.present hfile.logFile (by decide)
  simp only [Kasvc.sections, List.forall_mem_cons]
  exact ⟨hservice, hdriver, hgrpc, hstreaming, hlogging, List.forall_mem_nil _⟩

/-- **Configuration files, exactly.**  A file that `ParseJson` accepts determines the configuration
if and only if all five sections are in it. -/
theorem determined_iff (host : Host) (text : List Char) (j : Json) (unassigned : Unassigned)
    (config : Configuration) (hj : Json.parse host.format text = .ok j)
    (hsucceeds : parseJson host unassigned text = .ok config) :
    (∀ unassigned config, parseJson host unassigned text = .ok config → AsInFile host j config) ↔
      ∀ section_ ∈ sections, (j.find section_).isSome := by
  constructor
  · intro hdetermined
    -- the memory holds anything but the default size of the event queue
    have hok := parseJson_isOk host unassigned ⟨0, 0, 0, 0⟩ text
    rw [isOk_iff.mpr ⟨config, hsucceeds⟩] at hok
    obtain ⟨config', hconfig⟩ := isOk_iff.mp hok.symm
    exact (parsed_of_parseJson hj hconfig).sections (hdetermined _ _ hconfig) (by decide)
  · intro hsections unassigned' config' hconfig
    exact (parsed_of_parseJson hj hconfig).asInFile hsections

/-- A platform with eight hardware threads. -/
def plainHost : Host := ⟨⟨fun _ => true, id, fun _ => 0⟩, 8#32⟩

/-- All sections, with nothing in them. -/
private def emptySections : Json :=
  .object [("driver", .object []), ("event_streaming", .object []), ("grpc", .object []),
    ("logging", .object []), ("service", .object [])]

private def emptySectionsText : List Char := Json.dump plainHost.format 2 emptySections

private def defaultConfiguration : Configuration :=
  ⟨"default", "winows_host", "KubeArmorUserService", "\\\\ScannerPort", "\\\\??\\\\Karmor",
    "0.0.0.0", 32767#16, 10000#64, 8#64, 8#64, "kubearmor_service.log", "INFO"⟩

theorem determined_emptySections :
    (∀ unassigned config, parseJson plainHost unassigned emptySectionsText = .ok config →
      AsInFile plainHost emptySections config) ↔
    ∀ section_ ∈ sections, (emptySections.find section_).isSome :=
  determined_iff plainHost emptySectionsText emptySections ⟨0, 0, 0, 0⟩ defaultConfiguration rfl rfl

/-- An empty object: the name of the service is empty. -/
theorem not_determined : ¬∀ host text j, Json.parse host.format text = .ok j →
    ∀ unassigned config, parseJson host unassigned text = .ok config → AsInFile host j config := by
  intro hdetermined
  have hfile := hdetermined plainHost ['{', '}'] (.object []) rfl ⟨0, 0, 0, 0⟩
    ⟨"default", "winows_host", "", "", "", "", 0, 0, 0, 0, "", ""⟩ rfl
  have hname : "" = "KubeArmorUserService" := hfile.serviceName
  exact absurd hname (by decide)

end Kawin.Kasvc
