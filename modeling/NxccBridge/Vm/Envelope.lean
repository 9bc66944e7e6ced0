import NxccBridge.Interface.Events
import NxccBridge.Vm.ExecutionOutcome
import NxccBridge.Vm.SecretInjection
import NxccBridge.Vm.StopWorker
import NxccBridge.Vm.Zenroom

/-!
# The envelope of an invocation

`build_invocation_envelope` and `invoke_http` of `vm/zenroom/src/vmm/mod.rs`.  An
invocation goes through the injection of the secrets, the configuration string, the
execution, the selection of the output and the postbacks, each of which may fail.
The envelope says with `ok` and `error` how it went.
-/

namespace NxccBridge.Envelope

open NxccBridge.Execution
open NxccBridge.Framing
open NxccBridge.Interface (EventPayload Web3Log)
open NxccBridge.JsonSites (Members)
open NxccBridge.Postback (ErrorInfo Network PostbackConfig PostbackResult
  runPostbacks)
open NxccBridge.SecretInjection (Primitives SecretsConfig asciiText hexDigits
  injectSecrets)
open NxccBridge.Serde
open NxccBridge.StopWorker (VmError WorkerStatus)
open NxccBridge.Zenroom (ZenroomInputs buildConf stdin)

/-! ## Workers -/

inductive ZenroomMode
  | zencode
  | lua
  deriving DecidableEq

inductive MergeStrategy
  | merge
  | wrap
  deriving DecidableEq

inductive OutputFormat
  | json
  | raw
  deriving DecidableEq

inductive HttpResponseMode
  | envelope
  | stdout
  | selectedOutput
  deriving DecidableEq

structure NormalizedInputs where
  data : JsonValue
  keys : JsonValue
  extra : JsonValue
  context : JsonValue
  mergeStrategy : MergeStrategy

structure NormalizedOutput where
  format : OutputFormat
  jsonPointer : Option String

/-- The postback configuration with its `enabled` beside it. -/
structure WorkerConfig where
  mode : ZenroomMode
  conf : String
  inputs : NormalizedInputs
  output : NormalizedOutput
  responseMode : HttpResponseMode
  postbackEnabled : Bool
  postback : PostbackConfig

structure WorkerInstance where
  instanceId : String
  workerId : String
  script : String
  config : WorkerConfig
  trustedSecrets : String → Option Bytes
  maxRuntimeSeconds : Option ℕ
  status : WorkerStatus

/-- The configuration of the VM. -/
structure VmConfig where
  zencodeExecPath : String
  luaExecPath : String
  execTimeoutMs : ℕ
  maxStdoutBytes : ℕ
  maxStderrBytes : ℕ
  conf : Zenroom.ZenroomConfig
  secrets : SecretsConfig
  postback : Postback.ZenroomConfig

/-! ## Invocations -/

def vmId : String := "nxcc/zenroom"

def defaultHandlerName : String := "fetch"

structure HttpRequest where
  method : String
  uri : String
  headers : List (String × Bytes)
  body : Bytes

inductive InvocationInput
  | event (handler : String) (payload : EventPayload)
  | http (request : HttpRequest)

/-- `format!("{:#x}")` of bytes. -/
def prefixedHex (bytes : Bytes) : String :=
  "0x" ++ asciiText (bytes.flatMap hexDigits)

/-- The members of an object stand in the order of their names. -/
def web3LogToJson (log : Web3Log) : JsonValue :=
  .object [
    ("address", .string (prefixedHex (List.ofFn log.address))),
    ("block_hash",
      nullable (fun hash => .string (prefixedHex (List.ofFn hash)))
        log.blockHash),
    ("block_number", nullable .posInt log.blockNumber),
    ("data", .string (prefixedHex log.data)),
    ("log_index", nullable .posInt log.logIndex),
    ("removed", .bool log.removed),
    ("topics",
      .array (log.topics.map fun topic =>
        .string (prefixedHex (List.ofFn topic)))),
    ("transaction_hash",
      nullable (fun hash => .string (prefixedHex (List.ofFn hash)))
        log.transactionHash),
    ("transaction_index", nullable .posInt log.transactionIndex)]

def workerToJson (worker : WorkerInstance) : JsonValue :=
  .object [("instance_id", .string worker.instanceId), ("vm", .string vmId),
    ("worker_id", .string worker.workerId)]

def invocationToJson (kind handler receivedAt : String) : JsonValue :=
  .object [("handler", .string handler), ("received_at", .string receivedAt),
    ("type", .string kind)]

def eventKind : EventPayload → String × JsonValue
  | .web3Log log => ("web3_log", web3LogToJson log)
  | .launch => ("launch", .object [])
  | .scheduled => ("scheduled", .object [])
  | .httpRequest => ("unknown", .object [])
  | .phantom => ("unknown", .object [])

def buildNxccEvent (worker : WorkerInstance) (handler : String)
    (payload : EventPayload) (receivedAt : String) : JsonValue :=
  .object [
    ("event", .object [("kind", .string (eventKind payload).1),
      ("payload", (eventKind payload).2)]),
    ("invocation", invocationToJson "event" handler receivedAt),
    ("worker", workerToJson worker)]

/-- `entry(key).or_default().push(value)`, with the keys in their order. -/
def pushHeader (key value : String) :
    List (String × List String) → List (String × List String)
  | [] => [(key, [value])]
  | (name, values) :: rest =>
      if name = key then (name, values ++ [value]) :: rest
      else if key < name then (key, [value]) :: (name, values) :: rest
      else (name, values) :: pushHeader key value rest

def headersMap (utf8Lossy : Bytes → String) (headers : List (String × Bytes)) :
    List (String × List String) :=
  headers.foldl
    (fun map header =>
      pushHeader (String.ofList (Postback.asciiLower header.1))
        (utf8Lossy header.2) map) []

def firstHeader (map : List (String × List String)) (name : String) :
    Option String :=
  (map.lookup name).bind List.head?

def requestUrl (map : List (String × List String)) (uri : String) : String :=
  let scheme := ((firstHeader map "x-forwarded-proto").map fun value =>
    String.ofList (value.toList.takeWhile (· ≠ ','))).getD "http"
  let host := ((firstHeader map "x-forwarded-host").or
    (firstHeader map "host")).getD "localhost"
  scheme ++ "://" ++ host ++ uri

def buildNxccHttp (utf8Lossy : Bytes → String) (worker : WorkerInstance)
    (request : HttpRequest) (receivedAt : String) : JsonValue :=
  let map := headersMap utf8Lossy request.headers
  .object [
    ("http", .object [
      ("body_base64", .string (asciiText (Base64.encode request.body))),
      ("headers", .object (map.map fun header =>
        (header.1, .string (", ".intercalate header.2)))),
      ("method", .string request.method),
      ("url", .string (requestUrl map request.uri))]),
    ("invocation", invocationToJson "http" defaultHandlerName receivedAt),
    ("worker", workerToJson worker)]

def insertMember (name : String) (value : JsonValue) : Members → Members
  | [] => [(name, value)]
  | member :: rest =>
      if name < member.1 then (name, value) :: member :: rest
      else member :: insertMember name value rest

def mergeData (userData nxcc : JsonValue) : MergeStrategy → JsonValue
  | .wrap => .object [("input", userData), ("nxcc", nxcc)]
  | .merge =>
      match userData with
      | .object members =>
          if (members.lookup "nxcc").isSome then
            .object [("input", .object members), ("nxcc", nxcc)]
          else .object (insertMember "nxcc" nxcc members)
      | _ => .object [("input", userData), ("nxcc", nxcc)]

/-! ## The envelope -/

structure ZenroomResult where
  exitCode : ℤ
  stdout : String
  stderr : String
  stdoutJson : Option JsonValue
  stdoutOverflowed : Bool
  stderrOverflowed : Bool

def ZenroomResult.empty : ZenroomResult where
  exitCode := -1
  stdout := ""
  stderr := ""
  stdoutJson := none
  stdoutOverflowed := false
  stderrOverflowed := false

/-- What the postbacks read of a result. -/
def ZenroomResult.forPostback (zenroom : ZenroomResult) :
    Postback.ZenroomResult where
  stdout := zenroom.stdout
  stdoutJson := zenroom.stdoutJson

structure TimingInfo where
  totalMs : UInt64

/-- `duration.as_millis() as u64`. -/
def TimingInfo.fromDuration (millis : ℕ) : TimingInfo where
  totalMs := .ofNat millis

structure InvocationEnvelope where
  ok : Bool
  error : Option ErrorInfo
  zenroom : ZenroomResult
  selectedOutput : Option JsonValue
  postbacks : List PostbackResult
  timing : TimingInfo

def InvocationEnvelope.ofError (error : ErrorInfo) (millis : ℕ) :
    InvocationEnvelope where
  ok := false
  error := some error
  zenroom := .empty
  selectedOutput := none
  postbacks := []
  timing := .fromDuration millis

/-- `envelope.ok = false; envelope.error = Some(err)`. -/
def InvocationEnvelope.fail (envelope : InvocationEnvelope)
    (error : ErrorInfo) : InvocationEnvelope :=
  { envelope with ok := false, error := some error }

def exitNonzero (exitCode : ℤ) : ErrorInfo where
  code := "zenroom_exit_nonzero"
  message := "Zenroom exited with code " ++ toString exitCode

def buildEnvelopeFromExec (exec : ExecOutput) (execError : Option ErrorInfo)
    (millis : ℕ) (outputFormat : OutputFormat) : InvocationEnvelope :=
  let ok := exec.exitCode == 0 && execError.isNone
  { ok := ok
    error :=
      if execError.isNone && !ok then some (exitNonzero exec.exitCode)
      else execError
    zenroom := {
      exitCode := exec.exitCode
      stdout := exec.stdout
      stderr := exec.stderr
      stdoutJson :=
        match outputFormat with
        | .raw => none
        | .json => exec.stdoutJson
      stdoutOverflowed := exec.stdoutOverflowed
      stderrOverflowed := exec.stderrOverflowed }
    selectedOutput := none
    postbacks := []
    timing := .fromDuration millis }

def computeSelectedOutput
    (jsonPointer : JsonValue → String → Option JsonValue)
    (stdoutJson : Option JsonValue) (output : NormalizedOutput)
    (postbackRequired : Bool) : Except ErrorInfo (Option JsonValue) :=
  match output.jsonPointer, stdoutJson with
  | none, _ => .ok none
  | some _, none =>
      if postbackRequired then
        .error {
          code := "stdout_json_missing"
          message := "stdout JSON missing for selected_output" }
      else .ok none
  | some pointer, some stdoutJson =>
      let selected := jsonPointer stdoutJson pointer
      if selected.isNone && postbackRequired then
        .error {
          code := "json_pointer_not_found"
          message := "json_pointer did not resolve" }
      else .ok selected

/-! ## The invocation -/

/-- The libraries of the VM that have no part in the postbacks, and the capacity
of a pipe. -/
structure Libraries where
  primitives : Primitives
  toText : JsonValue → Except String String
  fromStr : String → Option JsonValue
  toVec : JsonValue → Bytes
  envelopeToVec : InvocationEnvelope → Bytes
  capacity : ℕ

/-- The arguments of `execute_zenroom`. -/
structure ExecRequest where
  execPath : String
  inputs : ZenroomInputs JsonValue
  timeoutMs : ℕ
  maxStdout : ℕ
  maxStderr : ℕ

variable (vm : VmConfig) (network : Network) (libraries : Libraries)

def ExecRequest.settings (request : ExecRequest) : Settings where
  timeoutMs := request.timeoutMs
  maxBytes
    | .stdout => request.maxStdout
    | .stderr => request.maxStderr
  capacity := libraries.capacity
  utf8Lossy := network.utf8Lossy
  fromStr := libraries.fromStr

/-- An execution that answers a request. -/
abbrev Execution (request : ExecRequest) :=
  Completed (request.settings network libraries)
    (stdin libraries.toText request.inputs)

def buildNxcc (worker : WorkerInstance) (receivedAt : String) :
    InvocationInput → JsonValue
  | .event handler payload => buildNxccEvent worker handler payload receivedAt
  | .http request =>
      buildNxccHttp network.utf8Lossy worker request receivedAt

def u64Max : ℕ := 2 ^ 64 - 1

/-- The worker's limit in milliseconds replaces a longer time of the operator. -/
def timeoutMs (worker : WorkerInstance) : ℕ :=
  match worker.maxRuntimeSeconds with
  | some seconds =>
      if 0 < seconds then min vm.execTimeoutMs (min (seconds * 1000) u64Max)
      else vm.execTimeoutMs
  | none => vm.execTimeoutMs

/-- The part of `build_invocation_envelope` before the execution. -/
def prepare (worker : WorkerInstance) (receivedAt : String)
    (invocation : InvocationInput) : Except ErrorInfo ExecRequest :=
  match injectSecrets vm.secrets libraries.primitives worker.trustedSecrets
      worker.config.inputs.keys 0 with
  | .error e => .error { code := "secret_injection_failed", message := e }
  | .ok (keys, _) =>
      match buildConf vm.conf worker.config.conf with
      | .error e => .error { code := "invalid_conf", message := e }
      | .ok conf =>
          .ok {
            execPath :=
              match worker.config.mode with
              | .zencode => vm.zencodeExecPath
              | .lua => vm.luaExecPath
            inputs := {
              conf := conf
              script := worker.script
              keys := keys
              data := mergeData worker.config.inputs.data
                (buildNxcc network worker receivedAt invocation)
                worker.config.inputs.mergeStrategy
              extra := worker.config.inputs.extra
              context := worker.config.inputs.context }
            timeoutMs := timeoutMs vm worker
            maxStdout := vm.maxStdoutBytes
            maxStderr := vm.maxStderrBytes }

def requiredFailedInfo : ErrorInfo where
  code := "postback_required_failed"
  message := "Required postback target failed"

/-- The postbacks of an envelope whose output is selected. -/
def runEnabledPostbacks (config : WorkerConfig) (envelope : InvocationEnvelope)
    (now : ℕ) : InvocationEnvelope :=
  match (runPostbacks network vm.postback config.postback
      envelope.zenroom.forPostback envelope.selectedOutput now).2 with
  | .error err => envelope.fail err
  | .ok results =>
      let requiredFailed :=
        config.postback.required && results.any fun result => !result.ok
      let checked :=
        if requiredFailed then envelope.fail requiredFailedInfo else envelope
      { checked with postbacks := results }

/-- The part of `build_invocation_envelope` after the execution. -/
def finishInvocation (config : WorkerConfig) (envelope : InvocationEnvelope)
    (now : ℕ) : InvocationEnvelope :=
  if !envelope.ok then envelope
  else
    match computeSelectedOutput network.jsonPointer envelope.zenroom.stdoutJson
        config.output config.postback.required with
    | .error err => envelope.fail err
    | .ok selected =>
        let selecting := { envelope with selectedOutput := selected }
        if config.postbackEnabled then
          runEnabledPostbacks vm network config selecting now
        else selecting

/-- The time that the invocation took and the number of the network action at
which the postbacks start. -/
structure Times where
  receivedAt : String
  millis : ℕ
  postbacksAt : ℕ

def buildInvocationEnvelope
    (execute : ∀ request, Execution network libraries request)
    (times : Times) (worker : WorkerInstance) (invocation : InvocationInput) :
    InvocationEnvelope :=
  match prepare vm network libraries worker times.receivedAt invocation with
  | .error err => .ofError err times.millis
  | .ok request =>
      let outcome := (execute request).outcome
      finishInvocation vm network worker.config
        (buildEnvelopeFromExec outcome.output outcome.error times.millis
          worker.config.output.format)
        times.postbacksAt

/-! ## The answer to an HTTP request -/

structure HttpResponse where
  statusCode : ℕ
  headers : List (String × Bytes)
  body : Bytes

def applicationJson : String := "application/json"

/-- The status, the body and the content type. -/
def answer (responseMode : HttpResponseMode) (envelope : InvocationEnvelope) :
    ℕ × Bytes × String :=
  if envelope.ok then
    match responseMode with
    | .envelope => (200, libraries.envelopeToVec envelope, applicationJson)
    | .stdout =>
        let parsed := libraries.fromStr envelope.zenroom.stdout
        (200, utf8 envelope.zenroom.stdout,
          if parsed.isSome then applicationJson else "text/plain")
    | .selectedOutput =>
        let output := (envelope.selectedOutput.or
          envelope.zenroom.stdoutJson).getD .null
        (200, libraries.toVec output, applicationJson)
  else (500, libraries.envelopeToVec envelope, applicationJson)

inductive ZenroomVmError
  | workerNotFound (id : String)
  | workerNotRunnable (status : WorkerStatus)

def ZenroomVmError.toVmError : ZenroomVmError → VmError
  | .workerNotFound id => .new ("Worker not found: " ++ id)
  | .workerNotRunnable status =>
      .new ("Worker not runnable: " ++ status.debug)

def invokeHttp (execute : ∀ request, Execution network libraries request)
    (times : Times) (workers : String → Option WorkerInstance) (id : String)
    (request : HttpRequest) : Except VmError HttpResponse :=
  match workers id with
  | none => .error (ZenroomVmError.workerNotFound id).toVmError
  | some worker =>
      if worker.status ≠ .running then
        .error (ZenroomVmError.workerNotRunnable worker.status).toVmError
      else
        let envelope := buildInvocationEnvelope vm network libraries execute
          times worker (.http request)
        let (statusCode, body, contentType) :=
          answer libraries worker.config.responseMode envelope
        .ok {
          statusCode := statusCode
          headers := [("content-type", utf8 contentType)]
          body := body }

/-! ## What every stage keeps -/

/-- The flag, the error and the result of an envelope fit together. -/
structure Sound (envelope : InvocationEnvelope) : Prop where
  ok_iff : envelope.ok = true ↔ envelope.error = none
  exitCode : envelope.ok = true → envelope.zenroom.exitCode = 0
  stdout : envelope.ok = true → envelope.zenroom.stdoutOverflowed = false
  stderr : envelope.ok = true → envelope.zenroom.stderrOverflowed = false

/-- A postback result stands for a target of the configuration. -/
def mark (result : PostbackResult) : String × ℕ :=
  (result.kind, result.targetIndex)

def targetMarks (config : WorkerConfig) : List (String × ℕ) :=
  config.postback.targets.zipIdx.map fun target => (target.1.kind, target.2)

/-- What an envelope without an error says of the postbacks. -/
structure Delivered (config : WorkerConfig) (envelope : InvocationEnvelope) :
    Prop where
  all : envelope.postbacks.map mark = targetMarks config
  targets : config.postback.required = true → config.postback.targets ≠ []
  ok : config.postback.required = true →
    ∀ result ∈ envelope.postbacks, result.ok = true
  selected : config.postback.required = true →
    config.output.jsonPointer.isSome = true →
      envelope.selectedOutput.isSome = true

/-- The envelope is consistent with the configuration of its worker. -/
structure Consistent (config : WorkerConfig) (envelope : InvocationEnvelope) :
    Prop where
  sound : Sound envelope
  marks : envelope.postbacks = [] ∨
    envelope.postbacks.map mark = targetMarks config
  delivered : config.postbackEnabled = true → envelope.ok = true →
    Delivered config envelope

variable {vm network libraries} {config : WorkerConfig}
variable {envelope : InvocationEnvelope}

/-- Each result carries the index of its target. -/
theorem Consistent.targetIndex (hconsistent : Consistent config envelope)
    {index : ℕ} (hindex : index < envelope.postbacks.length) :
    envelope.postbacks[index].targetIndex = index := by
  rcases hconsistent.marks with hnone | hmarks
  · simp [hnone] at hindex
  · have hmark := congrArg (fun marks => marks[index]?) hmarks
    simp only [targetMarks, List.getElem?_map, List.getElem?_zipIdx,
      List.getElem?_eq_getElem hindex, Option.map_some] at hmark
    cases htarget : config.postback.targets[index]? with
    | none => simp [htarget] at hmark
    | some target =>
        simp only [htarget, Option.map_some, Option.some.injEq, mark,
          Prod.mk.injEq, Nat.zero_add] at hmark
        exact hmark.2

theorem sound_fail (envelope : InvocationEnvelope) (error : ErrorInfo) :
    Sound (envelope.fail error) where
  ok_iff := by simp [InvocationEnvelope.fail]
  exitCode hok := by cases hok
  stdout hok := by cases hok
  stderr hok := by cases hok

/-- An envelope that fails before any postback ran. -/
theorem consistent_of_not_ok (hsound : Sound envelope)
    (hok : envelope.ok = false) (hnone : envelope.postbacks = []) :
    Consistent config envelope where
  sound := hsound
  marks := .inl hnone
  delivered _ htrue := by rw [hok] at htrue; cases htrue

theorem buildEnvelopeFromExec_ok_iff {exec : ExecOutput}
    {execError : Option ErrorInfo} {millis : ℕ} {format : OutputFormat} :
    (buildEnvelopeFromExec exec execError millis format).ok = true ↔
      exec.exitCode = 0 ∧ execError = none := by
  simp [buildEnvelopeFromExec]

/-- The flags of an outcome without an error say that nothing overflowed. -/
theorem sound_buildEnvelopeFromExec {timedOut : Bool} {outcome : ExecOutcome}
    (hclean : outcome.error = none → Clean timedOut outcome) (millis : ℕ)
    (format : OutputFormat) :
    Sound (buildEnvelopeFromExec outcome.output outcome.error millis
      format) where
  ok_iff := by
    rw [buildEnvelopeFromExec_ok_iff]
    cases herror : outcome.error with
    | none => simp [buildEnvelopeFromExec]
    | some error => simp [buildEnvelopeFromExec]
  exitCode hok := (buildEnvelopeFromExec_ok_iff.mp hok).1
  stdout hok := (hclean (buildEnvelopeFromExec_ok_iff.mp hok).2).stdout
  stderr hok := (hclean (buildEnvelopeFromExec_ok_iff.mp hok).2).stderr

/-- A required output that the pointer does not find is an error. -/
theorem computeSelectedOutput_isSome
    {jsonPointer : JsonValue → String → Option JsonValue}
    {stdoutJson : Option JsonValue} {output : NormalizedOutput}
    {selected : Option JsonValue}
    (hselected : computeSelectedOutput jsonPointer stdoutJson output true =
      .ok selected)
    (hpointer : output.jsonPointer.isSome = true) :
    selected.isSome = true := by
  obtain ⟨pointer, hpointer⟩ := Option.isSome_iff_exists.mp hpointer
  cases stdoutJson with
  | none => simp [computeSelectedOutput, hpointer] at hselected
  | some value =>
      simp only [computeSelectedOutput, hpointer, Bool.and_true] at hselected
      split_ifs at hselected with hmissing
      cases hselected
      rwa [Option.isNone_iff_eq_none, ← ne_eq,
        ← Option.isSome_iff_ne_none] at hmissing

theorem runEnabledPostbacks_consistent (hsound : Sound envelope)
    (hnone : envelope.postbacks = [])
    (hselected : config.postback.required = true →
      config.output.jsonPointer.isSome = true →
        envelope.selectedOutput.isSome = true) (now : ℕ) :
    Consistent config (runEnabledPostbacks vm network config envelope now) := by
  rw [runEnabledPostbacks]
  split
  next err hfailed =>
    exact consistent_of_not_ok (sound_fail envelope err) rfl hnone
  next results hresults =>
    obtain ⟨hmarks, htargets⟩ := Postback.runPostbacks_targets hresults
    dsimp only
    split_ifs with hrequired
    · have hfail := sound_fail envelope requiredFailedInfo
      exact {
        sound := ⟨hfail.ok_iff, hfail.exitCode, hfail.stdout, hfail.stderr⟩
        marks := .inr hmarks
        delivered := fun _ hok => by cases hok }
    · refine ⟨⟨hsound.ok_iff, hsound.exitCode, hsound.stdout, hsound.stderr⟩,
        .inr hmarks, fun _ _ => ⟨hmarks, htargets, ?_, hselected⟩⟩
      intro hreq result hmem
      by_contra hbad
      simp only [hreq, Bool.true_and, List.any_eq_true, Bool.not_eq_true',
        not_exists, not_and] at hrequired
      exact hrequired result hmem (Bool.eq_false_of_not_eq_true hbad)

theorem finishInvocation_consistent (hsound : Sound envelope)
    (hnone : envelope.postbacks = []) (now : ℕ) :
    Consistent config (finishInvocation vm network config envelope now) := by
  rw [finishInvocation]
  split
  next hfailed =>
    exact consistent_of_not_ok hsound (by simpa using hfailed) hnone
  split
  next err hmissing =>
    exact consistent_of_not_ok (sound_fail envelope err) rfl hnone
  next selected hselected =>
    dsimp only
    have hkept : Sound { envelope with selectedOutput := selected } :=
      ⟨hsound.ok_iff, hsound.exitCode, hsound.stdout, hsound.stderr⟩
    split_ifs with henabled
    · refine runEnabledPostbacks_consistent hkept hnone ?_ now
      intro hreq hpointer
      rw [hreq] at hselected
      exact computeSelectedOutput_isSome hselected hpointer
    · exact ⟨hkept, .inl hnone, fun htrue => absurd htrue henabled⟩

/-- No stage after the execution sets the flag. -/
theorem finishInvocation_ok {now : ℕ}
    (hok : (finishInvocation vm network config envelope now).ok = true) :
    envelope.ok = true := by
  by_contra hfailed
  rw [finishInvocation, Bool.eq_false_of_not_eq_true hfailed] at hok
  exact hfailed hok

/-! ## Every invocation -/

theorem buildInvocationEnvelope_consistent (vm : VmConfig)
    (execute : ∀ request, Execution network libraries request)
    (times : Times) (worker : WorkerInstance) (invocation : InvocationInput) :
    Consistent worker.config
      (buildInvocationEnvelope vm network libraries execute times worker
        invocation) := by
  rw [buildInvocationEnvelope]
  split
  next err hrefused =>
    refine consistent_of_not_ok ⟨?_, nofun, nofun, nofun⟩ rfl rfl
    simp [InvocationEnvelope.ofError]
  next request hprepared =>
    exact finishInvocation_consistent
      (sound_buildEnvelopeFromExec (execute request).clean _ _) rfl _

/-- An invocation without an error was executed in time. -/
theorem buildInvocationEnvelope_in_time
    {execute : ∀ request, Execution network libraries request}
    {times : Times} {worker : WorkerInstance} {invocation : InvocationInput}
    (hok : (buildInvocationEnvelope vm network libraries execute times worker
      invocation).ok = true) :
    ∃ request,
      prepare vm network libraries worker times.receivedAt invocation =
          .ok request ∧
        (execute request).timedOut = false := by
  rw [buildInvocationEnvelope] at hok
  split at hok
  next err hrefused => cases hok
  next request hprepared =>
    have hexec := finishInvocation_ok hok
    have hnone := (buildEnvelopeFromExec_ok_iff.mp hexec).2
    exact ⟨request, hprepared, ((execute request).clean hnone).timedOut⟩

theorem computeSelectedOutput_of_not_required
    (jsonPointer : JsonValue → String → Option JsonValue)
    (stdoutJson : Option JsonValue) (output : NormalizedOutput) :
    ∃ selected,
      computeSelectedOutput jsonPointer stdoutJson output false =
        .ok selected := by
  unfold computeSelectedOutput
  split
  · exact ⟨_, rfl⟩
  · exact ⟨_, rfl⟩
  next pointer value _ =>
    exact ⟨jsonPointer value pointer, if_neg (by rw [Bool.and_false]; nofun)⟩

/-- Without postbacks only the execution decides. -/
theorem buildInvocationEnvelope_ok_iff
    {execute : ∀ request, Execution network libraries request}
    {times : Times} {worker : WorkerInstance} {invocation : InvocationInput}
    (hdisabled : worker.config.postbackEnabled = false)
    (hoptional : worker.config.postback.required = false) :
    (buildInvocationEnvelope vm network libraries execute times worker
        invocation).ok = true ↔
      ∃ request,
        prepare vm network libraries worker times.receivedAt invocation =
            .ok request ∧
          (execute request).outcome.output.exitCode = 0 ∧
          (execute request).outcome.error = none := by
  rw [buildInvocationEnvelope]
  split
  next err hrefused => simp [InvocationEnvelope.ofError, hrefused]
  next request hprepared =>
    simp only [hprepared, Except.ok.injEq, exists_eq_left']
    rw [← buildEnvelopeFromExec_ok_iff]
    refine ⟨finishInvocation_ok, fun hok => ?_⟩
    obtain ⟨selected, hselected⟩ := computeSelectedOutput_of_not_required
      network.jsonPointer _ worker.config.output
    rw [finishInvocation, hok, hoptional, hselected, hdisabled]
    rfl

theorem answer_fst_eq_200_iff {responseMode : HttpResponseMode} :
    (answer libraries responseMode envelope).1 = 200 ↔ envelope.ok = true := by
  unfold answer
  split_ifs with hok
  · cases responseMode <;> simp [hok]
  · simp [hok]

theorem invokeHttp_200_iff
    (execute : ∀ request, Execution network libraries request)
    (times : Times) (workers : String → Option WorkerInstance) (id : String)
    (request : HttpRequest) :
    (∃ response,
      invokeHttp vm network libraries execute times workers id request =
          .ok response ∧
        response.statusCode = 200) ↔
      ∃ worker, workers id = some worker ∧ worker.status = .running ∧
        (buildInvocationEnvelope vm network libraries execute times worker
          (.http request)).ok = true := by
  cases hworker : workers id with
  | none => simp [invokeHttp, hworker]
  | some worker =>
      by_cases hrunning : worker.status = .running
      · simp [invokeHttp, hworker, hrunning, answer_fst_eq_200_iff]
      · simp [invokeHttp, hworker, hrunning]

/-- For every worker, every invocation, every way that the executions go and every
answer of the network: an envelope is without an error exactly if it is ok, and
then the process ended with code zero in time and within its limits; enabled
postbacks that are required were then all made, for at least one target and with
the output selected; the results stand for the targets in their order; and the
answer to an HTTP request is 200 exactly if the envelope is ok. -/
theorem envelope_consistent (vm : VmConfig) (network : Network)
    (libraries : Libraries)
    (execute : ∀ request, Execution network libraries request)
    (times : Times) :
    (∀ worker invocation,
      let envelope := buildInvocationEnvelope vm network libraries execute
        times worker invocation
      Consistent worker.config envelope ∧
        (envelope.ok = true → ∃ request,
          prepare vm network libraries worker times.receivedAt invocation =
              .ok request ∧
            (execute request).timedOut = false) ∧
        ∀ index (hindex : index < envelope.postbacks.length),
          envelope.postbacks[index].targetIndex = index) ∧
    ∀ workers id request,
      (∃ response,
        invokeHttp vm network libraries execute times workers id request =
            .ok response ∧
          response.statusCode = 200) ↔
        ∃ worker, workers id = some worker ∧ worker.status = .running ∧
          (buildInvocationEnvelope vm network libraries execute times worker
            (.http request)).ok = true := by
  refine ⟨fun worker invocation => ?_, invokeHttp_200_iff execute times⟩
  have hconsistent :=
    buildInvocationEnvelope_consistent vm execute times worker invocation
  exact ⟨hconsistent, buildInvocationEnvelope_in_time,
    fun index hindex => hconsistent.targetIndex hindex⟩

/-! ## An invocation of a silent script -/

def sampleVm : VmConfig where
  zencodeExecPath := "zencode-exec"
  luaExecPath := "zenroom"
  execTimeoutMs := 5000
  maxStdoutBytes := 262144
  maxStderrBytes := 262144
  conf := Zenroom.defaultZenroomConfig
  secrets := {
    maxTotalSecretsBytes := 65536
    maxDerivedKeyLen := 64
    requireKdf := true }
  postback := Postback.sampleConfig

/-- Every host has a public address, and every request is answered. -/
def answering : Network :=
  Postback.sampleNetwork (fun _ => Postback.publicAddress) fun _ =>
    .response { status := 200, body := .ok [] }

def sampleLibraries : Libraries where
  primitives := { hkdfSha256 := fun _ _ _ _ => none, toLowercase := id }
  toText _ := .ok "null"
  fromStr _ := none
  toVec _ := utf8 "null"
  envelopeToVec _ := []
  capacity := 65536

/-- A worker that posts its output and requires an answer. -/
def postingWorker : WorkerInstance where
  instanceId := "1"
  workerId := "posting"
  script := "print('ok')"
  config := {
    mode := .lua
    conf := "debug=0"
    inputs := {
      data := .null
      keys := .null
      extra := .null
      context := .null
      mergeStrategy := .wrap }
    output := { format := .raw, jsonPointer := none }
    responseMode := .stdout
    postbackEnabled := true
    postback := Postback.samplePostback }
  trustedSecrets _ := none
  maxRuntimeSeconds := none
  status := .running

def silentEnvelope : InvocationEnvelope :=
  buildInvocationEnvelope sampleVm answering sampleLibraries
    (fun _ => .silent _ _)
    { receivedAt := "2025-01-01T00:00:00Z", millis := 7, postbacksAt := 0 }
    postingWorker (.event "tick" .scheduled)

/-- The child ends with code zero, and the one target is answered. -/
theorem envelope_consistent_silent :
    silentEnvelope.ok = true ∧ silentEnvelope.error = none ∧
      silentEnvelope.postbacks.map mark = [("http", 0)] ∧
      ∀ result ∈ silentEnvelope.postbacks, result.ok = true := by
  have hconsistent := (envelope_consistent sampleVm answering sampleLibraries
    (fun _ => .silent _ _)
    { receivedAt := "2025-01-01T00:00:00Z", millis := 7, postbacksAt := 0 }).1
      postingWorker (.event "tick" .scheduled)
  have hok : silentEnvelope.ok = true := by decide +kernel
  have hdelivered := hconsistent.1.delivered rfl hok
  exact ⟨hok, hconsistent.1.sound.ok_iff.mp hok, hdelivered.all,
    hdelivered.ok rfl⟩

end NxccBridge.Envelope
