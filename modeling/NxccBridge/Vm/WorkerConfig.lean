import NxccBridge.Core.Text
import NxccBridge.Vm.Service

/-!
# The configuration of a worker

`detect_code_type` and `build_config` of
`node/vm/workerd/src/config_builder.rs`, with the part of `start_worker` that
calls them.  The configuration is the message that is written for workerd: one
worker with its module and its bindings, the network, and one socket.
-/

namespace NxccBridge.ConfigBuilder

open NxccBridge.Framing
open NxccBridge.VmService (TrustedConfig UntrustedConfig)

/-! ## Text -/

def toByteArray (bytes : Bytes) : ByteArray :=
  ⟨(bytes.map UInt8.ofFin).toArray⟩

/-- `std::str::from_utf8`. -/
def fromUtf8 (bytes : Bytes) : Option String :=
  String.fromUTF8? (toByteArray bytes)

theorem toByteArray_utf8 (text : String) :
    toByteArray (utf8 text) = text.toByteArray := by
  apply ByteArray.ext
  apply Array.toList_inj.mp
  rw [toByteArray, utf8, List.map_map]
  calc text.toByteArray.data.toList.map (UInt8.ofFin ∘ UInt8.toFin)
      = text.toByteArray.data.toList.map id := by
        congr 1
    _ = text.toByteArray.data.toList := List.map_id _

theorem toByteArray_injective : Function.Injective toByteArray := by
  intro left right heq
  have hbytes := Array.toList_inj.mpr (congrArg ByteArray.data heq)
  apply List.map_injective_iff.mpr _ hbytes
  intro first second hsame
  exact congrArg UInt8.toFin hsame

theorem toByteArray_eq_iff {bytes : Bytes} {text : String} :
    text.toByteArray = toByteArray bytes ↔ utf8 text = bytes := by
  rw [← toByteArray_utf8]
  exact toByteArray_injective.eq_iff

theorem fromUtf8_eq_some_iff {bytes : Bytes} {text : String} :
    fromUtf8 bytes = some text ↔ utf8 text = bytes := by
  rw [← toByteArray_eq_iff, fromUtf8, String.fromUTF8?]
  split_ifs with hvalid
  · rw [Option.some.injEq, ← String.toByteArray_inj, eq_comm]
    rfl
  · simp only [false_iff]
    intro heq
    exact hvalid (heq ▸ text.isValidUTF8)

/-! ## The code -/

inductive CodeType
  | esModule
  | python
  deriving DecidableEq

inductive ConfigError
  | unsupportedCodeType
  | invalidConfig (message : String)
  deriving DecidableEq

def ConfigError.display : ConfigError → String
  | .unsupportedCodeType => "Unsupported worker code type"
  | .invalidConfig message => "Invalid configuration: " ++ message

def contains (text pattern : String) : Bool :=
  decide (pattern.toList <:+: text.toList)

/-- Detects the code type by simple heuristics. -/
def detectCodeType (code : Bytes) : Except ConfigError CodeType :=
  match fromUtf8 code with
  | none => .error .unsupportedCodeType
  | some codeStr =>
      if contains codeStr "def " && contains codeStr "import " &&
          !contains codeStr "export default" &&
          !contains codeStr "addEventListener" &&
          contains codeStr "on_fetch" then .ok .python
      -- what is recognized as JavaScript and what is not end alike
      else .ok .esModule

/-! ## The configuration -/

inductive Usage
  | encrypt
  | decrypt
  | sign
  | verify
  | deriveKey
  | deriveBits
  | wrapKey
  | unwrapKey
  deriving DecidableEq

/-- Parameters to `crypto.subtle.importKey`. -/
structure CryptoKey where
  raw : Bytes
  algorithm : String
  extractable : Bool
  usages : List Usage
  deriving DecidableEq

inductive BindingValue
  | json (text : String)
  | cryptoKey (key : CryptoKey)
  deriving DecidableEq

structure Binding where
  name : String
  value : BindingValue
  deriving DecidableEq

inductive ModuleSource
  | esModule (text : String)
  | pythonModule (text : String)
  deriving DecidableEq

structure Module where
  name : String
  source : ModuleSource
  deriving DecidableEq

structure Worker where
  compatibilityDate : String
  compatibilityFlags : List String
  globalOutbound : String
  modules : List Module
  bindings : List Binding
  deriving DecidableEq

structure Network where
  allow : List String
  trustBrowserCas : Bool
  deriving DecidableEq

inductive ServiceValue
  | worker (worker : Worker)
  | network (network : Network)
  deriving DecidableEq

structure Service where
  name : String
  value : ServiceValue
  deriving DecidableEq

/-- A socket that serves HTTP. -/
structure Socket where
  name : String
  address : String
  service : String
  deriving DecidableEq

structure Config where
  services : List Service
  sockets : List Socket
  deriving DecidableEq

/-- The order in which the map of secrets is iterated. -/
structure Listing (secrets : String → Option Bytes) where
  entries : List (String × Bytes)
  nodup : (entries.map Prod.fst).Nodup
  mem_iff : ∀ name data, (name, data) ∈ entries ↔ secrets name = some data

/-- A secret as a key that the worker can derive from and no more. -/
def secretKey (keyBytes : Bytes) : CryptoKey where
  raw := keyBytes
  algorithm := "HKDF"
  extractable := false
  usages := [.deriveKey, .deriveBits]

def secretBinding (secret : String × Bytes) : Binding where
  name := secret.1
  value := .cryptoKey (secretKey secret.2)

def userConfigName : String := "USER_CONFIG"

def configBindings (untrustedConfig : UntrustedConfig)
    {trustedConfig : TrustedConfig} (listing : Listing trustedConfig.secrets) :
    List Binding :=
  (if untrustedConfig.userdataJson = "" then []
    else [⟨userConfigName, .json untrustedConfig.userdataJson⟩]) ++
    listing.entries.map secretBinding

def codeModule (codeType : CodeType) (codeStr : String) : Module :=
  match codeType with
  | .esModule => ⟨"worker.js", .esModule codeStr⟩
  | .python => ⟨"worker.py", .pythonModule codeStr⟩

def codeFlags : CodeType → List String
  | .esModule => []
  | .python => ["python_workers", "python_workers_20250116"]

/-- `utf8Error` displays why a text is not UTF-8. -/
def buildConfig (utf8Error : Bytes → String) (workerCode : Bytes)
    (codeType : CodeType) (untrustedConfig : UntrustedConfig)
    {trustedConfig : TrustedConfig} (listing : Listing trustedConfig.secrets)
    (udsPath serviceName socketName : String) : Except ConfigError Config :=
  match fromUtf8 workerCode with
  | none =>
      .error (.invalidConfig
        ("Worker code is not valid UTF-8: " ++ utf8Error workerCode))
  | some codeStr =>
      .ok {
        services := [
          { name := serviceName
            value := .worker {
              compatibilityDate := "2025-04-18"
              compatibilityFlags := codeFlags codeType
              globalOutbound := "internet"
              modules := [codeModule codeType codeStr]
              bindings := configBindings untrustedConfig listing } },
          { name := "internet"
            value := .network {
              allow := ["public", "private"]
              trustBrowserCas := true } }]
        sockets := [
          { name := socketName
            address := "unix:" ++ udsPath
            service := serviceName }] }

/-- `start_worker` up to the file for workerd. -/
def startConfig (utf8Error : Bytes → String) (workerCode : Bytes)
    (untrustedConfig : UntrustedConfig) {trustedConfig : TrustedConfig}
    (listing : Listing trustedConfig.secrets) (udsPath : String) :
    Except ConfigError Config :=
  match detectCodeType workerCode with
  | .error e => .error e
  | .ok codeType =>
      buildConfig utf8Error workerCode codeType untrustedConfig listing udsPath
        "main" "invoke_socket"

/-- What the worker finds under its names. -/
def Config.bindings (config : Config) : List Binding :=
  config.services.flatMap fun service =>
    match service.value with
    | .worker worker => worker.bindings
    | .network _ => []

/-! ## What is bound -/

/-- The bindings are the secrets, as keys, and the userdata if there is any. -/
theorem mem_configBindings_iff {untrustedConfig : UntrustedConfig}
    {trustedConfig : TrustedConfig} (listing : Listing trustedConfig.secrets)
    {name : String} {value : BindingValue} :
    ⟨name, value⟩ ∈ configBindings untrustedConfig listing ↔
      (untrustedConfig.userdataJson ≠ "" ∧ name = userConfigName ∧
        value = .json untrustedConfig.userdataJson) ∨
      ∃ data, trustedConfig.secrets name = some data ∧
        value = .cryptoKey (secretKey data) := by
  have hsecrets : ⟨name, value⟩ ∈ listing.entries.map secretBinding ↔
      ∃ data, trustedConfig.secrets name = some data ∧
        value = .cryptoKey (secretKey data) := by
    simp only [List.mem_map, Prod.exists, secretBinding, Binding.mk.injEq]
    constructor
    · rintro ⟨_, data, hmem, rfl, rfl⟩
      exact ⟨data, (listing.mem_iff _ data).mp hmem, rfl⟩
    · rintro ⟨data, hsecret, rfl⟩
      exact ⟨name, data, (listing.mem_iff name data).mpr hsecret, rfl, rfl⟩
  rw [configBindings, List.mem_append, hsecrets]
  apply or_congr_left
  by_cases hempty : untrustedConfig.userdataJson = ""
  · simp [hempty]
  · simp [hempty]

/-! ## Which configurations are built -/

section Start

variable (utf8Error : Bytes → String) {workerCode : Bytes}
  {untrustedConfig : UntrustedConfig} {trustedConfig : TrustedConfig}
  {listing : Listing trustedConfig.secrets} {udsPath : String}

/-- A configuration is refused for its code alone, and by the detection. -/
theorem startConfig_eq_error_iff {error : ConfigError} :
    startConfig utf8Error workerCode untrustedConfig listing udsPath =
        .error error ↔
      fromUtf8 workerCode = none ∧ error = .unsupportedCodeType := by
  rw [startConfig, detectCodeType]
  cases hcode : fromUtf8 workerCode with
  | none => simp [eq_comm]
  | some codeStr =>
      simp only [reduceCtorEq, false_and, iff_false]
      split
      · rename_i hdetected
        split_ifs at hdetected
      · simp [buildConfig, hcode]

theorem bindings_of_startConfig {config : Config}
    (hconfig : startConfig utf8Error workerCode untrustedConfig listing
      udsPath = .ok config) :
    config.bindings = configBindings untrustedConfig listing := by
  rw [startConfig] at hconfig
  split at hconfig
  · cases hconfig
  · rw [buildConfig] at hconfig
    split at hconfig
    · cases hconfig
    · obtain rfl := Except.ok.inj hconfig
      exact List.append_nil _

end Start

/-! ## The environment of a worker -/

/-- workerd gives each name that is bound the value of one of its bindings, and
an unbound name none. -/
structure Workerd where
  env : List Binding → String → Option BindingValue
  bound : ∀ bindings name value, env bindings name = some value →
    ⟨name, value⟩ ∈ bindings
  defined : ∀ bindings, ∀ binding ∈ bindings,
    ∃ value, env bindings binding.name = some value

section Env

variable (workerd : Workerd) {utf8Error : Bytes → String} {workerCode : Bytes}
  {untrustedConfig : UntrustedConfig} {trustedConfig : TrustedConfig}
  {listing : Listing trustedConfig.secrets} {udsPath : String}
  {config : Config}

/-- A key that a worker finds is one of its secrets. -/
theorem secret_of_env_startConfig
    (hconfig : startConfig utf8Error workerCode untrustedConfig listing
      udsPath = .ok config) {name : String} {key : CryptoKey}
    (hkey : workerd.env config.bindings name = some (.cryptoKey key)) :
    ∃ data, trustedConfig.secrets name = some data ∧ key = secretKey data := by
  have hbound := workerd.bound _ _ _ hkey
  rw [bindings_of_startConfig utf8Error hconfig,
    mem_configBindings_iff] at hbound
  rcases hbound with ⟨-, -, hvalue⟩ | ⟨data, hsecret, hvalue⟩
  · cases hvalue
  · exact ⟨data, hsecret, BindingValue.cryptoKey.inj hvalue⟩

/-- Under each name but that of its userdata a worker finds its secret, as a key,
and no more. -/
theorem env_startConfig
    (hconfig : startConfig utf8Error workerCode untrustedConfig listing
      udsPath = .ok config) {name : String}
    (hname : name = userConfigName → untrustedConfig.userdataJson = "") :
    workerd.env config.bindings name =
      (trustedConfig.secrets name).map fun data =>
        .cryptoKey (secretKey data) := by
  have hbound : ∀ value, workerd.env config.bindings name = some value →
      ∃ data, trustedConfig.secrets name = some data ∧
        value = .cryptoKey (secretKey data) := by
    intro value hvalue
    have hmem := workerd.bound _ _ _ hvalue
    rw [bindings_of_startConfig utf8Error hconfig,
      mem_configBindings_iff] at hmem
    rcases hmem with ⟨hsome, huser, -⟩ | hsecret
    · exact absurd (hname huser) hsome
    · exact hsecret
  cases hsecret : trustedConfig.secrets name with
  | none =>
      cases henv : workerd.env config.bindings name with
      | none => rfl
      | some value =>
          obtain ⟨data, hdata, -⟩ := hbound value henv
          rw [hsecret] at hdata
          cases hdata
  | some data =>
      have hmem : ⟨name, .cryptoKey (secretKey data)⟩ ∈ config.bindings := by
        rw [bindings_of_startConfig utf8Error hconfig, mem_configBindings_iff]
        exact .inr ⟨data, hsecret, rfl⟩
      obtain ⟨value, hvalue⟩ := workerd.defined _ _ hmem
      obtain ⟨other, hother, rfl⟩ := hbound value hvalue
      obtain rfl := Option.some.inj (hsecret.symm.trans hother)
      exact hvalue

end Env

end NxccBridge.ConfigBuilder
