import NxccBridge.Daemon.WorkerStart
import NxccBridge.Enclave.Federation
import NxccBridge.Sdk.DeriveKey
import NxccBridge.Vm.WorkerConfig

/-!
# The keys that a worker derives

From the secrets of an enclave through the request that starts a worker and the
configuration for workerd to `deriveKey` in the worker's script.  A key that a
script derives from one of its names goes back to a secret that an enclave
generated, and that policies let pass from there to this worker.
-/

namespace NxccBridge.WorkerKeys

open Function
open NxccBridge.ConfigBuilder
open NxccBridge.Crypto (Platform)
open NxccBridge.DeriveKey
open NxccBridge.EnclaveSecrets
open NxccBridge.Federation
open NxccBridge.Framing
open NxccBridge.Interface
open NxccBridge.PolicyRelease (Decided EnclaveStep)
open NxccBridge.RoundTrip
open NxccBridge.VmService (TrustedConfig UntrustedConfig)
open NxccBridge.Worker (Codecs)
open NxccBridge.WorkerStart (Launch StartRequest)

/-! ## In the script -/

/-- Web Crypto, as far as a script reaches a key with it. -/
structure WebCrypto where
  hkdf : HkdfParams → Bytes → ℕ → Bytes
  refusal : String

def WebCrypto.deriveBits (crypto : WebCrypto) (call : DeriveBits CryptoKey) :
    Except String Bytes :=
  if call.base.algorithm = "HKDF" ∧ Usage.deriveBits ∈ call.base.usages then
    .ok (crypto.hkdf call.params call.base.raw call.bits)
  else .error crypto.refusal

def WebCrypto.exportKey (crypto : WebCrypto) (key : CryptoKey) :
    Except String Bytes :=
  if key.extractable then .ok key.raw else .error crypto.refusal

/-- What a script passes for a name of its environment.  `truthy` says whether
the value of a JSON text counts as true. -/
def keyArgument (truthy : String → Bool) :
    Option BindingValue → Option (Argument CryptoKey)
  | none => none
  | some (.json text) => if truthy text then some .foreign else none
  | some (.cryptoKey key) => some (.given key)

/-- What a key is derived for, and how. -/
structure Derivation where
  purpose : Argument Utf16.Units
  path : Argument (List PathItem)
  options : Options

def Derivation.from {Key : Type} (derivation : Derivation)
    (base : Option (Argument Key)) : Arguments Key where
  base := base
  purpose := derivation.purpose
  path := derivation.path
  options := derivation.options

/-- A worker as it runs: its configuration, and what runs it. -/
structure Runtime where
  crypto : WebCrypto
  workerd : Workerd
  truthy : String → Bool
  config : Config

/-- `deriveKey(env[name], ...)`. -/
def Runtime.derive (runtime : Runtime) (name : String)
    (derivation : Derivation) : Except String Bytes :=
  deriveKey runtime.crypto.deriveBits
    (derivation.from (keyArgument runtime.truthy
      (runtime.workerd.env runtime.config.bindings name)))

section Map

variable {Failure Value Result Other : Type}

theorem map_bind (first : Except Failure Value)
    (next : Value → Except Failure Result) (f : Result → Other) :
    (first >>= next).map f = first >>= fun value => (next value).map f := by
  cases first <;> rfl

theorem map_eq_ok_iff {first : Except Failure Value} {f : Value → Other}
    {result : Other} :
    first.map f = .ok result ↔
      ∃ value, first = .ok value ∧ f value = result := by
  cases first <;> simp [Except.map]

end Map

/-- The checks of `deriveKey` do not look at the key. -/
theorem prepare_given {Key : Type} (derivation : Derivation) (base : Key) :
    prepare (derivation.from (some (.given base))) =
      (prepare (derivation.from (some (.given ())))).map fun call =>
        { params := call.params, base := base, bits := call.bits } := by
  simp only [prepare, Derivation.from, requireBase, map_bind, ok_bind]
  rfl

/-- What is not a key is not derived from. -/
theorem given_of_prepare {Key : Type} {derivation : Derivation}
    {argument : Option (Argument Key)} {call : DeriveBits Key}
    (hok : prepare (derivation.from argument) = .ok call) :
    ∃ base, argument = some (.given base) := by
  obtain ⟨hvalid, -⟩ := prepare_eq_ok_iff.mp ⟨call, hok, rfl⟩
  exact hvalid.base

theorem keyArgument_eq_given_iff {truthy : String → Bool}
    {value : Option BindingValue} {key : CryptoKey} :
    keyArgument truthy value = some (.given key) ↔
      value = some (.cryptoKey key) := by
  rcases value with _ | _ | _
  · simp [keyArgument]
  · simp only [keyArgument]
    split <;> simp
  · simp [keyArgument]

theorem deriveBits_secretKey (crypto : WebCrypto) (params : HkdfParams)
    (data : Bytes) (bits : ℕ) :
    crypto.deriveBits ⟨params, secretKey data, bits⟩ =
      .ok (crypto.hkdf params data bits) := by
  simp [WebCrypto.deriveBits, secretKey]

/-! ## In the enclave -/

variable {Digest : Type*} {platform : Platform Digest} {codecs : Codecs}

/-- `run_worker` sends the userdata and the secrets. -/
def untrustedOf (request : StartRequest) : UntrustedConfig where
  userdataJson := request.userdataJson
  advancedVmConfig := fun _ => none

def trustedOf (request : StartRequest) : TrustedConfig where
  secrets := request.secrets
  limits := none

/-- The worker of a launch runs. -/
structure Runs (launch : Launch platform codecs) (runtime : Runtime) :
    Prop where
  started : ∃ (utf8Error : Bytes → String)
    (listing : Listing (trustedOf launch.request).secrets) (udsPath : String),
    startConfig utf8Error launch.request.executable
      (untrustedOf launch.request) listing udsPath = .ok runtime.config

/-- A script derives keys from the secrets of its launch, and from nothing
else. -/
theorem Runs.secret_of_derive {launch : Launch platform codecs}
    {runtime : Runtime} (hruns : Runs launch runtime) {name : String}
    {derivation : Derivation} {key : Bytes}
    (hkey : runtime.derive name derivation = .ok key) :
    ∃ data call, launch.request.secrets name = some data ∧
      prepare (derivation.from (some (.given ()))) = .ok call ∧
      key = runtime.crypto.hkdf call.params data call.bits := by
  obtain ⟨utf8Error, listing, udsPath, hconfig⟩ := hruns.started
  rw [Runtime.derive, deriveKey_eq_ok_iff] at hkey
  obtain ⟨call, hprepare, hderived⟩ := hkey
  obtain ⟨base, hbase⟩ := given_of_prepare hprepare
  obtain ⟨data, hsecret, rfl⟩ := secret_of_env_startConfig runtime.workerd
    hconfig (keyArgument_eq_given_iff.mp hbase)
  rw [hbase, prepare_given] at hprepare
  obtain ⟨checked, hchecked, rfl⟩ := map_eq_ok_iff.mp hprepare
  rw [deriveBits_secretKey, Except.ok.injEq] at hderived
  exact ⟨data, checked, hsecret, hchecked, hderived.symm⟩

/-- Each of them can be derived from, unless the userdata has its name too. -/
theorem Runs.derive_of_secret {launch : Launch platform codecs}
    {runtime : Runtime} (hruns : Runs launch runtime) {name : String}
    (hname : name = userConfigName → launch.request.userdataJson = "")
    {derivation : Derivation} {data : Bytes} {call : DeriveBits Unit}
    (hsecret : launch.request.secrets name = some data)
    (hprepare : prepare (derivation.from (some (.given ()))) = .ok call) :
    runtime.derive name derivation =
      .ok (runtime.crypto.hkdf call.params data call.bits) := by
  obtain ⟨utf8Error, listing, udsPath, hconfig⟩ := hruns.started
  have henv : runtime.workerd.env runtime.config.bindings name =
      (launch.request.secrets name).map fun data =>
        .cryptoKey (secretKey data) :=
    env_startConfig runtime.workerd hconfig hname
  rw [Runtime.derive, henv, hsecret, deriveKey_eq_ok_iff, Option.map_some,
    keyArgument, prepare_given]
  refine ⟨_, map_eq_ok_iff.mpr ⟨call, hprepare, rfl⟩, ?_⟩
  rw [deriveBits_secretKey]

/-- No name gives the script its secret in the clear. -/
theorem Runs.exportKey_error {launch : Launch platform codecs}
    {runtime : Runtime} (hruns : Runs launch runtime) {name : String}
    {key : CryptoKey}
    (hkey : runtime.workerd.env runtime.config.bindings name =
      some (.cryptoKey key)) :
    runtime.crypto.exportKey key = .error runtime.crypto.refusal := by
  obtain ⟨utf8Error, listing, udsPath, hconfig⟩ := hruns.started
  obtain ⟨data, -, rfl⟩ :=
    secret_of_env_startConfig runtime.workerd hconfig hkey
  rfl

/-! ## In the federation -/

section Federation

variable [DecidableEq Digest] {Claims : Type} {Enclave : Type*}
  [DecidableEq Enclave] {keys : Enclave → Crypto.KeyExchangeKeyPair platform}

/-- What a name of a worker may be used for: an enclave generated the secret, it
was passed on to the worker's enclave, and there a policy let this bundle have
it for the key that the enclave reports for itself. -/
structure Rooted (keys : Enclave → Crypto.KeyExchangeKeyPair platform)
    (acts : List (Act Claims Enclave)) (enclave : Enclave)
    (launch : Launch platform codecs) (name : String) (secretId : SecretId)
    (stored : StoredSecret) : Prop where
  requested : (secretId, name) ∈ launch.identities
  traced : (hands keys).Traced acts enclave (secretId, stored)
  live : unexpired stored.expiry launch.environment.clock.now = true
  decided : ∃ selfReport bundleHash signature userdata,
    launch.environment.report = .ok selfReport ∧
    launch.bundle.hashSignedPayload codecs launch.environment.iteration =
      .ok bundleHash ∧
    launch.bundle.getDsseSignature codecs = .ok signature ∧
    platform.userDataFromCbor selfReport.detachedUserdata = .ok userdata ∧
    Decided platform (stepsOf acts enclave) launch.environment.clock.checked
      userdata.ephemeralPublicKey secretId ⟨bundleHash, signature⟩

theorem rooted_of_readable (hsha256 : Injective platform.sha256)
    (hroundTrips : platform.RoundTrips) {acts : List (Act Claims Enclave)}
    (hsound : Sound keys acts) {enclave : Enclave}
    {launch : Launch platform codecs}
    (henclave : launch.enclave = stateOf keys acts enclave) {name : String}
    {secretId : SecretId} {stored : StoredSecret}
    (hmem : (secretId, name) ∈ launch.identities)
    (hread : launch.readable secretId = some stored) :
    Rooted keys acts enclave launch name secretId stored := by
  have hpresent := WorkerStart.Launch.readable_present hread
  rw [henclave] at hpresent
  have htraced := (hands_conserves hsha256 hroundTrips).traced acts hsound
    enclave (secretId, stored) hpresent
  unfold WorkerStart.Launch.readable at hread
  split at hread
  · rename_i selfReport bundleHash signature hreport hhash hsignature
    rw [henclave] at hread
    obtain ⟨userdata, huserdata, hreleasable⟩ := (readable_eq_some_iff hsha256
      (reachedBy_stateOf acts enclave) _ _ _ _ _).mp hread
    exact {
      requested := hmem
      traced := htraced
      live := hreleasable.live
      decided := ⟨selfReport, bundleHash, signature, userdata, hreport, hhash,
        hsignature, huserdata, PolicyRelease.decided_of_reported
          hreleasable.granted.exists_report⟩ }
  · cases hread

/-- Whatever a worker of a federation derives from one of its names is derived
from a secret with that name, which was generated in the federation and passed
on from policy to policy, up to one for this worker. -/
theorem derived_keys_rooted (hsha256 : Injective platform.sha256)
    (hroundTrips : platform.RoundTrips) {acts : List (Act Claims Enclave)}
    (hsound : Sound keys acts) {enclave : Enclave}
    {launch : Launch platform codecs}
    (henclave : launch.enclave = stateOf keys acts enclave)
    {runtime : Runtime} (hruns : Runs launch runtime) {name : String}
    {derivation : Derivation} {key : Bytes}
    (hkey : runtime.derive name derivation = .ok key) :
    ∃ secretId stored call,
      Rooted keys acts enclave launch name secretId stored ∧
      prepare (derivation.from (some (.given ()))) = .ok call ∧
      key = runtime.crypto.hkdf call.params stored.data call.bits := by
  obtain ⟨data, call, hsecret, hprepare, hderived⟩ :=
    hruns.secret_of_derive hkey
  rw [launch.secrets_eq] at hsecret
  obtain ⟨before, secretId, after, stored, hsplit, hread, -, rfl⟩ :=
    (foldl_insertRead_eq_some_iff _).mp hsecret
  have hmem : (secretId, name) ∈ launch.identities := by
    rw [hsplit]
    exact List.mem_append_right before List.mem_cons_self
  exact ⟨secretId, stored, call,
    rooted_of_readable hsha256 hroundTrips hsound henclave hmem hread,
    hprepare, hderived⟩

end Federation

/-! ## One enclave, one worker -/

def soloKeys (_ : Unit) : Crypto.KeyExchangeKeyPair namesPlatform :=
  Crypto.symbolicKeyPair _ _ [1]

def soloBundle : Worker.WorkerBundle where
  bytes := utf8 (WorkOrder.envelopeText WorkOrder.oneKeyBase64)

def soloConsumer : ConsumerInfo where
  bundleHash := Worker.payloadJson WorkOrder.oneKeyCodecs
    WorkOrder.oneKeyPayload [("a", "1")]
  signature := []

/-- A policy lets the enclave have the secret for the bundle, and the secret is
generated. -/
def soloActs : List (Act Unit Unit) :=
  [.change () (.executePolicy PolicyRelease.answeringEnvironment "policy-1"
      [PolicyRelease.contextOf [1],
        { PolicyRelease.contextOf [1] with consumer := soloConsumer }]),
    .change () (.generateSecrets (.still 10)
      (.ok (Crypto.symbolicReport (Crypto.padKey [1])).attestation)
      [(Crypto.sampleSecretId 7, Crypto.sampleConsumer 0, .ok [1])])]

theorem soloActs_sound : Sound soloKeys soloActs where
  attested := by
    intro act hact service hservice
    simp only [soloActs, List.mem_cons, List.not_mem_nil, or_false] at hact
    rcases hact with rfl | rfl <;> cases hservice
  unforged := by
    intro before enclave clock service bundles after hsplit
    match before, hsplit with
    | _ :: _ :: rest, hsplit =>
        have hlength := congrArg List.length hsplit
        simp [soloActs] at hlength

def soloEnvironment : WorkerStart.RunnerEnvironment where
  clock := .still 11
  report := .ok (Crypto.symbolicReport (Crypto.padKey [1])).attestation
  iteration := Worker.listedOrder
  vms := fun _ => none

@[irreducible]
def soloRead (secretId : SecretId) : Option StoredSecret :=
  (stateOf soloKeys soloActs ()).readable (.still 11)
    (Crypto.symbolicReport (Crypto.padKey [1])).attestation secretId
    soloConsumer

@[irreducible]
def soloSecrets : String → Option Bytes :=
  insertRead soloRead (fun _ => none) (Crypto.sampleSecretId 7, "KEY")

theorem soloSecrets_eq :
    soloSecrets = update (fun _ => none) "KEY" (some [1]) := by
  have hread : soloRead (Crypto.sampleSecretId 7) = some ⟨[1], 0, 10⟩ := by
    decide +kernel
  rw [soloSecrets, insertRead, hread]

def soloLaunch : Launch namesPlatform WorkOrder.oneKeyCodecs where
  enclave := stateOf soloKeys soloActs ()
  environment := soloEnvironment
  identities := [(Crypto.sampleSecretId 7, "KEY")]
  bundle := soloBundle
  request := {
    workerId := "order"
    executable := []
    userdataJson := "null"
    secrets := soloSecrets }
  given := by
    have hpayload : soloBundle.payload WorkOrder.oneKeyCodecs =
        .ok WorkOrder.oneKeyPayload := by
      decide +kernel
    have hhash : soloBundle.hashSignedPayload WorkOrder.oneKeyCodecs
        Worker.listedOrder = .ok soloConsumer.bundleHash := by
      decide +kernel
    have hsignature : soloBundle.getDsseSignature WorkOrder.oneKeyCodecs =
        .ok soloConsumer.signature := by
      decide +kernel
    have hread : soloRead = fun secretId =>
        (stateOf soloKeys soloActs ()).readable (.still 11)
          (Crypto.symbolicReport (Crypto.padKey [1])).attestation secretId
          soloConsumer := by
      funext secretId
      rw [soloRead]
    simp only [WorkOrder.runWorkerSecrets, hpayload, soloEnvironment, hhash,
      hsignature, List.isEmpty_cons, Bool.false_eq_true, if_false,
      getSecretsForLocalWorker_ok, List.foldl_cons, List.foldl_nil,
      soloSecrets, hread]

def soloListing : Listing (trustedOf soloLaunch.request).secrets where
  entries := [("KEY", [1])]
  nodup := by simp
  mem_iff := by
    intro name data
    have hsecrets : (trustedOf soloLaunch.request).secrets =
        update (fun _ => none) "KEY" (some [1]) := soloSecrets_eq
    rw [hsecrets, update_apply]
    by_cases hname : name = "KEY" <;> simp [hname, eq_comm]

/-- The first binding of a name counts. -/
def firstBinding : Workerd where
  env bindings name :=
    (bindings.find? fun binding => binding.name = name).map Binding.value
  bound := by
    intro bindings name value hvalue
    obtain ⟨binding, hfind, rfl⟩ := Option.map_eq_some_iff.mp hvalue
    obtain rfl : binding.name = name := by simpa using List.find?_some hfind
    exact List.mem_of_find?_eq_some hfind
  defined := by
    intro bindings binding hmem
    cases hfind : bindings.find? fun other => other.name = binding.name with
    | none =>
        have hnone := List.find?_eq_none.mp hfind binding hmem
        simp at hnone
    | some found => exact ⟨found.value, rfl⟩

def joinedCrypto : WebCrypto where
  hkdf params data bits := (data ++ params.salt ++ params.info).take (bits / 8)
  refusal := "InvalidAccessError"

def soloDerivation : Derivation where
  purpose := .given [97]
  path := .given []
  options := ⟨none, none, none⟩

theorem derived_keys_rooted_solo :
    ∃ runtime : Runtime, Runs soloLaunch runtime ∧
      ∃ secretId stored call,
        Rooted soloKeys soloActs () soloLaunch "KEY" secretId stored ∧
        prepare (soloDerivation.from (some (.given ()))) = .ok call ∧
        [1, 0, 0, 0, 1, 97] =
          runtime.crypto.hkdf call.params stored.data call.bits := by
  obtain ⟨config, hconfig⟩ : ∃ config, startConfig (fun _ => "")
      soloLaunch.request.executable (untrustedOf soloLaunch.request)
      soloListing "socket" = .ok config := by
    cases hresult : startConfig (fun _ => "") soloLaunch.request.executable
        (untrustedOf soloLaunch.request) soloListing "socket" with
    | ok config => exact ⟨config, rfl⟩
    | error error =>
        have hcode := ((startConfig_eq_error_iff _).mp hresult).1
        have hempty : fromUtf8 ([] : Bytes) = some "" :=
          fromUtf8_eq_some_iff.mpr rfl
        rw [show soloLaunch.request.executable = [] from rfl, hempty] at hcode
        cases hcode
  have hruns : Runs soloLaunch ⟨joinedCrypto, firstBinding, fun _ => true,
      config⟩ := ⟨_, soloListing, "socket", hconfig⟩
  have hname : "KEY" = userConfigName →
      soloLaunch.request.userdataJson = "" := by
    decide
  have hprepare : prepare (soloDerivation.from (some (.given ()))) =
      .ok ⟨⟨"SHA-256", [], [0, 0, 0, 1, 97]⟩, (), 256⟩ := by
    decide
  have hkey := hruns.derive_of_secret hname (congrFun soloSecrets_eq "KEY")
    hprepare
  exact ⟨_, hruns, derived_keys_rooted injective_id
    (Crypto.symbolicPlatform_roundTrips _ _) soloActs_sound rfl hruns hkey⟩

end NxccBridge.WorkerKeys
