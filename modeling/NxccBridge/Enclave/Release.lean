import NxccBridge.Enclave.Grants

/-!
# What the enclave releases

Both reading calls answer for a secret when it is authorized for the reader,
stored and unexpired.  A box is sealed for the attested key of the requester and
holds exactly the requested secrets with these properties.  The map of a local
worker holds them too, but under names: of two secrets of one name it keeps the
later one.
-/

namespace NxccBridge.EnclaveSecrets

open Function
open NxccBridge.Framing
open NxccBridge.Interface
open NxccBridge.AuthorizationId
open NxccBridge.Crypto

variable {Digest : Type*} [DecidableEq Digest] {platform : Platform Digest}

/-- The secret may go to the holder of `key` on behalf of the consumer. -/
structure Releasable (steps : List SecretsStep) (state : Secrets platform)
    (clock : CallClock) (key : Bytes) (secretId : SecretId)
    (consumer : ConsumerInfo) (stored : StoredSecret) : Prop where
  present : state.secretsStorage secretId = some stored
  live : unexpired stored.expiry clock.now = true
  granted : Granted platform steps clock.checked key secretId consumer

/-- A positive report of the run covers the triple and is younger than the
lifetime. -/
def Reported (platform : Platform Digest) (steps : List SecretsStep) (now : ℕ)
    (key : Bytes) (secretId : SecretId) (consumer : ConsumerInfo) : Prop :=
  ∃ report, .storeAuthorization report ∈ steps ∧
    Covers platform report key secretId consumer ∧
    now < report.timestamp + authorizationLifetime

/-- The shared decision of the two reading loops. -/
def Secrets.readable (self : Secrets platform) (clock : CallClock)
    (bundle : AttestationBundle) (secretId : SecretId)
    (consumer : ConsumerInfo) : Option StoredSecret :=
  if self.checkAuthorization clock.checked bundle secretId consumer then
    (self.secretsStorage secretId).filter fun stored =>
      unexpired stored.expiry clock.now
  else none

def packStored (secretId : SecretId) (stored : StoredSecret) : PackedSecret where
  secretId := secretId
  data := stored.data
  expiry := stored.expiry
  generationTimestamp := stored.generationTimestamp

omit [DecidableEq Digest] in
theorem readable_present {self : Secrets platform} {clock : CallClock}
    {bundle : AttestationBundle} {secretId : SecretId}
    {consumer : ConsumerInfo} {stored : StoredSecret}
    (hread : self.readable clock bundle secretId consumer = some stored) :
    self.secretsStorage secretId = some stored := by
  unfold Secrets.readable at hread
  split_ifs at hread
  exact (Option.filter_eq_some_iff.mp hread).1

theorem readable_eq_some_iff (hsha256 : Injective platform.sha256)
    {steps : List SecretsStep} {self : Secrets platform}
    (hreached : ReachedBy steps self) (clock : CallClock)
    (bundle : AttestationBundle)
    (secretId : SecretId) (consumer : ConsumerInfo) (stored : StoredSecret) :
    self.readable clock bundle secretId consumer = some stored ↔
      ∃ userdata,
        platform.userDataFromCbor bundle.detachedUserdata = .ok userdata ∧
        Releasable steps self clock userdata.ephemeralPublicKey secretId
          consumer stored := by
  have hcheck := checkAuthorization_iff_granted hsha256 hreached clock.checked
    bundle secretId consumer
  unfold Secrets.readable
  constructor
  · intro hread
    split_ifs at hread with hauthorized
    obtain ⟨hpresent, hlive⟩ := Option.filter_eq_some_iff.mp hread
    obtain ⟨userdata, huserdata, hgranted⟩ := hcheck.mp hauthorized
    exact ⟨userdata, huserdata, hpresent, hlive, hgranted⟩
  · rintro ⟨userdata, huserdata, hreleasable⟩
    rw [if_pos (hcheck.mpr ⟨userdata, huserdata, hreleasable.granted⟩)]
    exact Option.filter_eq_some_iff.mpr
      ⟨hreleasable.present, hreleasable.live⟩

omit [DecidableEq Digest] in
/-- The three conditions under which the code uses a stored secret. -/
theorem match_readable {Result : Type*} (self : Secrets platform)
    (clock : CallClock)
    (bundle : AttestationBundle) (secretId : SecretId)
    (consumer : ConsumerInfo) (found : StoredSecret → Result)
    (missing : Result) :
    (if self.checkAuthorization clock.checked bundle secretId consumer then
      match self.secretsStorage secretId with
      | some stored =>
          if unexpired stored.expiry clock.now then found stored else missing
      | none => missing
    else missing) =
      match self.readable clock bundle secretId consumer with
      | some stored => found stored
      | none => missing := by
  unfold Secrets.readable
  cases self.checkAuthorization clock.checked bundle secretId consumer with
  | false => simp
  | true =>
      cases hstored : self.secretsStorage secretId with
      | none => simp
      | some stored =>
          cases hlive : unexpired stored.expiry clock.now with
          | false => simp [Option.filter, hlive]
          | true => simp [Option.filter, hlive]

omit [DecidableEq Digest] in
theorem secretsToPack_eq (self : Secrets platform) (clock : CallClock)
    (requester : AttestationBundle)
    (requests : List (SecretId × ConsumerInfo)) :
    self.secretsToPack clock requester requests =
      requests.filterMap fun (secretId, consumer) =>
        (self.readable clock requester secretId consumer).map
          (packStored secretId) := by
  unfold Secrets.secretsToPack
  refine List.filterMap_congr fun request _ => ?_
  obtain ⟨secretId, consumer⟩ := request
  have hread := match_readable self clock requester secretId consumer
    (fun stored => some (packStored secretId stored)) none
  simp only [Bool.not_eq_true', ← Bool.not_eq_true, ite_not]
  refine hread.trans ?_
  cases self.readable clock requester secretId consumer <;> rfl

/-! ## The box of a remote requester -/

/-- What holds of a box that was sealed for `userdata` and carries `packed`. -/
structure BoxReleases (steps : List SecretsStep) (state : Secrets platform)
    (clock : CallClock) (nonce : Nonce)
    (requests : List (SecretId × ConsumerInfo))
    (userdata : UserData) (packed : List PackedSecret)
    (secretsBox : SecretsBox) : Prop where
  sealed : encryptSecretsBox nonce state.ephemeralKxKeypair
    userdata.ephemeralPublicKey packed = .ok secretsBox
  listed : secretsBox.containedSecretIds = packed.map PackedSecret.secretId
  ordered : List.Sublist (packed.map PackedSecret.secretId)
    (requests.map Prod.fst)
  recipient_opens : ∀ theirs : KeyExchangeKeyPair platform,
    theirs.publicKey = userdata.ephemeralPublicKey →
      decryptSecretsBox theirs secretsBox = .ok packed
  opened_eq : ∀ (theirs : KeyExchangeKeyPair platform) (opened),
    decryptSecretsBox theirs secretsBox = .ok opened → opened = packed
  sound : ∀ secret ∈ packed, ∃ consumer stored,
    (secret.secretId, consumer) ∈ requests ∧
    secret = packStored secret.secretId stored ∧
    Releasable steps state clock userdata.ephemeralPublicKey secret.secretId
      consumer stored ∧
    Reported platform steps clock.checked userdata.ephemeralPublicKey
      secret.secretId consumer
  complete : ∀ secretId consumer stored, (secretId, consumer) ∈ requests →
    Releasable steps state clock userdata.ephemeralPublicKey secretId consumer
      stored → packStored secretId stored ∈ packed

omit [DecidableEq Digest] in
/-- A box is returned for a verified requester only. -/
theorem getSecrets_ok {self : Secrets platform} {clock : CallClock}
    {service : AttestationOracle} {nonce : Nonce}
    {requests : List (SecretId × ConsumerInfo)} {requester : EnvReport}
    {secretsBox : SecretsBox}
    (hbox : self.getSecrets clock service nonce requests requester =
      .ok secretsBox) :
    service requester.attestation = .ok () ∧
      ∃ userdata,
        platform.userDataFromCbor requester.attestation.detachedUserdata =
          .ok userdata ∧
        encryptSecretsBox nonce self.ephemeralKxKeypair
          userdata.ephemeralPublicKey
          (self.secretsToPack clock requester.attestation requests) =
            .ok secretsBox := by
  unfold Secrets.getSecrets verifyAttestation at hbox
  cases hservice : service requester.attestation with
  | error e => simp [hservice] at hbox
  | ok claims =>
      refine ⟨rfl, ?_⟩
      simp only [hservice] at hbox
      split at hbox
      · cases hbox
      · rename_i userdata huserdata
        refine ⟨userdata, huserdata, ?_⟩
        split at hbox
        · cases hbox
        · split at hbox
          · rename_i sealedBox hsealed
            rw [hsealed, Except.ok.inj hbox]
          · split at hbox <;> cases hbox

theorem packed_ids_sublist
    (read : SecretId → ConsumerInfo → Option StoredSecret)
    (requests : List (SecretId × ConsumerInfo)) :
    List.Sublist ((requests.filterMap fun (secretId, consumer) =>
      (read secretId consumer).map (packStored secretId)).map
        PackedSecret.secretId) (requests.map Prod.fst) := by
  induction requests with
  | nil => exact List.Sublist.refl _
  | cons request requests ih =>
      obtain ⟨secretId, consumer⟩ := request
      cases hread : read secretId consumer with
      | none =>
          rw [List.filterMap_cons_none (by simp [hread])]
          exact ih.cons _
      | some stored =>
          rw [List.filterMap_cons_some (b := packStored secretId stored)
            (by simp [hread])]
          exact ih.cons_cons _

theorem boxReleases_of_getSecrets (hsha256 : Injective platform.sha256)
    (hroundTrips : platform.RoundTrips) (hideal : platform.IdealAead)
    {steps : List SecretsStep} {self : Secrets platform}
    (hreached : ReachedBy steps self) {clock : CallClock}
    {service : AttestationOracle}
    {nonce : Nonce} {requests : List (SecretId × ConsumerInfo)}
    {requester : EnvReport} {secretsBox : SecretsBox}
    (hbox : self.getSecrets clock service nonce requests requester =
      .ok secretsBox) :
    service requester.attestation = .ok () ∧
      ∃ userdata packed,
        platform.userDataFromCbor requester.attestation.detachedUserdata =
          .ok userdata ∧
        BoxReleases steps self clock nonce requests userdata packed
          secretsBox := by
  obtain ⟨hverified, userdata, huserdata, hsealed⟩ := getSecrets_ok hbox
  have hread := readable_eq_some_iff hsha256 hreached clock
    requester.attestation
  refine ⟨hverified, userdata,
    self.secretsToPack clock requester.attestation requests, huserdata, ?_⟩
  exact {
    sealed := hsealed
    listed := by
      obtain ⟨-, -, -, -, rfl⟩ := encryptSecretsBox_ok hsealed
      rfl
    ordered := by
      rw [secretsToPack_eq]
      exact packed_ids_sublist _ requests
    recipient_opens := fun theirs hkey =>
      decrypt_encryptSecretsBox hroundTrips (hkey ▸ hsealed)
    opened_eq := fun theirs opened hopened =>
      eq_of_decrypt_encryptSecretsBox hroundTrips hideal hsealed hopened
    sound := by
      intro secret hmem
      rw [secretsToPack_eq, List.mem_filterMap] at hmem
      obtain ⟨⟨secretId, consumer⟩, hrequest, hpacked⟩ := hmem
      obtain ⟨stored, hstored, rfl⟩ := Option.map_eq_some_iff.mp hpacked
      obtain ⟨userdata', huserdata', hreleasable⟩ := (hread _ _ _).mp hstored
      obtain rfl : userdata = userdata' :=
        Except.ok.inj (huserdata.symm.trans huserdata')
      exact ⟨consumer, stored, hrequest, rfl, hreleasable,
        hreleasable.granted.exists_report⟩
    complete := by
      intro secretId consumer stored hrequest hreleasable
      rw [secretsToPack_eq, List.mem_filterMap]
      refine ⟨(secretId, consumer), hrequest, Option.map_eq_some_iff.mpr
        ⟨stored, (hread _ _ _).mpr ⟨userdata, huserdata, hreleasable⟩, rfl⟩⟩ }

/-! ## The map of a local worker -/

/-- What holds of a map of names returned to the worker's runner, whose own
report carries `userdata`. -/
structure MapReleases (steps : List SecretsStep) (state : Secrets platform)
    (clock : CallClock) (secretIdsWithNames : List (SecretId × String))
    (consumer : ConsumerInfo) (userdata : UserData)
    (workerSecrets : String → Option Bytes) : Prop where
  sound : ∀ name secretData, workerSecrets name = some secretData →
    ∃ secretId stored, (secretId, name) ∈ secretIdsWithNames ∧
      secretData = stored.data ∧
      Releasable steps state clock userdata.ephemeralPublicKey secretId consumer
        stored ∧
      Reported platform steps clock.checked userdata.ephemeralPublicKey secretId
        consumer
  complete : ∀ before secretId name after stored,
    secretIdsWithNames = before ++ (secretId, name) :: after →
    Releasable steps state clock userdata.ephemeralPublicKey secretId consumer
      stored →
    (∀ other, (other, name) ∈ after → ∀ otherStored,
      ¬ Releasable steps state clock userdata.ephemeralPublicKey other consumer
        otherStored) →
      workerSecrets name = some stored.data

/-- One iteration of the local loop. -/
def insertRead (read : SecretId → Option StoredSecret)
    (workerSecrets : String → Option Bytes) (request : SecretId × String) :
    String → Option Bytes :=
  match read request.1 with
  | some stored => update workerSecrets request.2 (some stored.data)
  | none => workerSecrets

theorem foldl_insertRead_of_forall_none
    (read : SecretId → Option StoredSecret) (name : String)
    (requests : List (SecretId × String))
    (hnone : ∀ secretId, (secretId, name) ∈ requests → read secretId = none)
    (workerSecrets : String → Option Bytes) :
    requests.foldl (insertRead read) workerSecrets name =
      workerSecrets name := by
  induction requests generalizing workerSecrets with
  | nil => rfl
  | cons request requests ih =>
      rw [List.foldl_cons, ih fun secretId hmem =>
        hnone secretId (List.mem_cons_of_mem _ hmem)]
      obtain ⟨secretId, other⟩ := request
      by_cases hname : other = name
      · subst hname
        simp [insertRead, hnone secretId (by simp)]
      · cases hread : read secretId with
        | none => simp [insertRead, hread]
        | some stored => simp [insertRead, hread, update_of_ne (Ne.symm hname)]

/-- A name carries what the last readable identifier under it carries. -/
theorem foldl_insertRead_eq_some_iff (read : SecretId → Option StoredSecret)
    {name : String} {requests : List (SecretId × String)}
    {secretData : Bytes} :
    requests.foldl (insertRead read) (fun _ => none) name = some secretData ↔
      ∃ before secretId after stored,
        requests = before ++ (secretId, name) :: after ∧
        read secretId = some stored ∧
        (∀ later, (later, name) ∈ after → read later = none) ∧
        secretData = stored.data := by
  constructor
  · intro hvalue
    induction requests using List.reverseRecOn with
    | nil => cases hvalue
    | append_singleton requests last ih =>
        obtain ⟨lastId, other⟩ := last
        have hearlier : (other = name → read lastId = none) →
            requests.foldl (insertRead read) (fun _ => none) name =
              some secretData →
            ∃ before secretId after stored,
              requests ++ [(lastId, other)] =
                before ++ (secretId, name) :: after ∧
              read secretId = some stored ∧
              (∀ later, (later, name) ∈ after → read later = none) ∧
              secretData = stored.data := by
          intro hlast hold
          obtain ⟨before, secretId, after, stored, rfl, hread, hlater, hdata⟩ :=
            ih hold
          refine ⟨before, secretId, after ++ [(lastId, other)], stored,
            by simp, hread, fun later hmem => ?_, hdata⟩
          rcases List.mem_append.mp hmem with hmem | hmem
          · exact hlater later hmem
          · obtain ⟨rfl, hname⟩ := Prod.mk.inj (List.mem_singleton.mp hmem)
            exact hlast hname.symm
        rw [List.foldl_append, List.foldl_cons, List.foldl_nil] at hvalue
        cases hread : read lastId with
        | none =>
            exact hearlier (fun _ => hread)
              (by simpa [insertRead, hread] using hvalue)
        | some stored =>
            by_cases hname : other = name
            · subst hname
              simp only [insertRead, hread, update_self, Option.some.injEq]
                at hvalue
              exact ⟨requests, lastId, [], stored, rfl, hread, by simp,
                hvalue.symm⟩
            · exact hearlier (fun hsame => absurd hsame hname) (by
                simpa [insertRead, hread, update_of_ne (Ne.symm hname)]
                  using hvalue)
  · rintro ⟨before, secretId, after, stored, rfl, hread, hlater, rfl⟩
    rw [List.foldl_append, List.foldl_cons,
      foldl_insertRead_of_forall_none _ _ _ hlater]
    simp [insertRead, hread]

omit [DecidableEq Digest] in
theorem getSecretsForLocalWorker_ok (self : Secrets platform)
    (clock : CallClock)
    (selfReport : AttestationBundle)
    (secretIdsWithNames : List (SecretId × String)) (consumer : ConsumerInfo) :
    self.getSecretsForLocalWorker clock (.ok selfReport) secretIdsWithNames
        consumer =
      .ok (secretIdsWithNames.foldl (insertRead fun secretId =>
        self.readable clock selfReport secretId consumer) fun _ => none) := by
  unfold Secrets.getSecretsForLocalWorker
  refine congrArg Except.ok (List.foldl_ext _ _ _ ?_)
  intro workerSecrets request _
  obtain ⟨secretId, name⟩ := request
  exact match_readable self clock selfReport secretId consumer
    (fun stored => Function.update workerSecrets name (some stored.data))
    workerSecrets

/-- Where every name is requested once, no later request has it. -/
theorem name_not_mem_after {before after : List (SecretId × String)}
    {secretId : SecretId} {name : String}
    (hnodup : ((before ++ (secretId, name) :: after).map Prod.snd).Nodup)
    (other : SecretId) : (other, name) ∉ after := by
  intro hin
  rw [List.map_append, List.map_cons] at hnodup
  have hrest := (List.nodup_append.mp hnodup).2.1
  exact (List.nodup_cons.mp hrest).1 (List.mem_map.mpr ⟨_, hin, rfl⟩)

omit [DecidableEq Digest] in
/-- Where every name is requested once, each carries its readable secret. -/
theorem getSecretsForLocalWorker_of_readable {self : Secrets platform}
    {clock : CallClock} {selfReport : AttestationBundle}
    {secretIdsWithNames : List (SecretId × String)} {consumer : ConsumerInfo}
    (hnodup : (secretIdsWithNames.map Prod.snd).Nodup)
    {workerSecrets : String → Option Bytes}
    (hmap : self.getSecretsForLocalWorker clock (.ok selfReport)
      secretIdsWithNames consumer = .ok workerSecrets)
    {secretId : SecretId} {name : String}
    (hmem : (secretId, name) ∈ secretIdsWithNames) {stored : StoredSecret}
    (hread : self.readable clock selfReport secretId consumer = some stored) :
    workerSecrets name = some stored.data := by
  rw [getSecretsForLocalWorker_ok] at hmap
  obtain rfl := Except.ok.inj hmap
  obtain ⟨before, after, rfl⟩ := List.append_of_mem hmem
  refine (foldl_insertRead_eq_some_iff _).mpr
    ⟨before, secretId, after, stored, rfl, hread, fun other hin => ?_, rfl⟩
  exact absurd hin (name_not_mem_after hnodup other)

theorem mapReleases_of_getSecretsForLocalWorker
    (hsha256 : Injective platform.sha256) {steps : List SecretsStep}
    {self : Secrets platform} (hreached : ReachedBy steps self)
    {clock : CallClock}
    {selfReport : AttestationBundle}
    {secretIdsWithNames : List (SecretId × String)} {consumer : ConsumerInfo}
    {workerSecrets : String → Option Bytes}
    (hmap : self.getSecretsForLocalWorker clock (.ok selfReport)
      secretIdsWithNames consumer = .ok workerSecrets)
    {userdata : UserData}
    (huserdata : platform.userDataFromCbor selfReport.detachedUserdata =
      .ok userdata) :
    MapReleases steps self clock secretIdsWithNames consumer userdata
      workerSecrets := by
  have hread := readable_eq_some_iff hsha256 hreached clock selfReport
  have hreleasable : ∀ {secretId stored},
      self.readable clock selfReport secretId consumer = some stored ↔
        Releasable steps self clock userdata.ephemeralPublicKey secretId
          consumer stored := by
    intro secretId stored
    rw [hread]
    constructor
    · rintro ⟨userdata', huserdata', hreleasable⟩
      rw [huserdata] at huserdata'
      exact Except.ok.inj huserdata' ▸ hreleasable
    · exact fun hreleasable => ⟨userdata, huserdata, hreleasable⟩
  rw [getSecretsForLocalWorker_ok] at hmap
  obtain rfl := Except.ok.inj hmap
  constructor
  · intro name secretData hvalue
    obtain ⟨before, secretId, after, stored, hsplit, hstored, -, hdata⟩ :=
      (foldl_insertRead_eq_some_iff _).mp hvalue
    have hreleased := hreleasable.mp hstored
    exact ⟨secretId, stored, by simp [hsplit], hdata, hreleased,
      hreleased.granted.exists_report⟩
  · intro before secretId name after stored hsplit hreleased hafter
    refine (foldl_insertRead_eq_some_iff _).mpr ⟨before, secretId, after,
      stored, hsplit, hreleasable.mpr hreleased, fun other hmem => ?_, rfl⟩
    by_contra hsome
    obtain ⟨otherStored, hother⟩ := Option.ne_none_iff_exists'.mp hsome
    exact hafter other hmem otherStored (hreleasable.mp hother)

omit [DecidableEq Digest] in
/-- A runner whose own report does not parse gets nothing. -/
theorem getSecretsForLocalWorker_of_error {self : Secrets platform}
    {clock : CallClock}
    {selfReport : AttestationBundle}
    {secretIdsWithNames : List (SecretId × String)} {consumer : ConsumerInfo}
    {workerSecrets : String → Option Bytes} {e : String}
    (hmap : self.getSecretsForLocalWorker clock (.ok selfReport)
      secretIdsWithNames consumer = .ok workerSecrets)
    (herror : platform.userDataFromCbor selfReport.detachedUserdata =
      .error e) (name : String) : workerSecrets name = none := by
  rw [getSecretsForLocalWorker_ok] at hmap
  obtain rfl := Except.ok.inj hmap
  refine foldl_insertRead_of_forall_none _ name secretIdsWithNames ?_ _
  intro secretId _
  simp [Secrets.readable, Secrets.checkAuthorization, herror]

/-- Over every run of the service: a box or a map that is returned holds only
secrets that are authorized, stored and unexpired, the box all the requested
ones, the map the last requested one of each name. -/
theorem reads_release_authorized (hsha256 : Injective platform.sha256)
    (hroundTrips : platform.RoundTrips) (hideal : platform.IdealAead)
    {steps : List SecretsStep} {self : Secrets platform}
    (hreached : ReachedBy steps self) (clock : CallClock) :
    (∀ service nonce requests requester secretsBox,
      self.getSecrets clock service nonce requests requester = .ok secretsBox →
      service requester.attestation = .ok () ∧
      ∃ userdata packed,
        platform.userDataFromCbor requester.attestation.detachedUserdata =
          .ok userdata ∧
        BoxReleases steps self clock nonce requests userdata packed
          secretsBox) ∧
    (∀ selfReport secretIdsWithNames consumer workerSecrets,
      self.getSecretsForLocalWorker clock (.ok selfReport) secretIdsWithNames
        consumer = .ok workerSecrets →
      (∀ userdata,
        platform.userDataFromCbor selfReport.detachedUserdata = .ok userdata →
        MapReleases steps self clock secretIdsWithNames consumer userdata
          workerSecrets) ∧
      ∀ e, platform.userDataFromCbor selfReport.detachedUserdata = .error e →
        ∀ name, workerSecrets name = none) := by
  constructor
  · intro service nonce requests requester secretsBox hbox
    exact boxReleases_of_getSecrets hsha256 hroundTrips hideal hreached hbox
  · intro selfReport secretIdsWithNames consumer workerSecrets hmap
    exact ⟨fun userdata huserdata => mapReleases_of_getSecretsForLocalWorker
        hsha256 hreached hmap huserdata,
      fun e herror => getSecretsForLocalWorker_of_error hmap herror⟩

/-! ## Two secrets of one name -/

def namesPlatform : Platform Bytes :=
  symbolicPlatform [padKey [1], padKey [2]] [samplePayload 1 10]

/-- The enclave `[1]` may read the identities 7 and 8 and generates both; the
requester `[2]` may read the first. -/
def namesSteps : List SecretsStep :=
  [.storeAuthorization { sampleGrant (padKey [1]) with
      request := { (sampleGrant (padKey [1])).request with
        secretIds := [sampleSecretId 7, sampleSecretId 8] } },
    .storeAuthorization (sampleGrant (padKey [2])),
    .generateSecrets (.still 10) (.ok (symbolicReport (padKey [1])).attestation)
      [(sampleSecretId 7, sampleConsumer 0, .ok [1]),
        (sampleSecretId 8, sampleConsumer 0, .ok [2])]]

def namesEnclave : Secrets namesPlatform :=
  (Secrets.newWithKeypair (symbolicKeyPair _ _ [1])).run namesSteps

/-- Both secrets can be read, but under one name the second hides the first. -/
theorem localWorker_secret_hidden :
    namesEnclave.readable (.still 11)
        (symbolicReport (padKey [1])).attestation
        (sampleSecretId 7) (sampleConsumer 0) =
      some { data := [1], expiry := 0, generationTimestamp := 10 } ∧
    ∃ workerSecrets,
      namesEnclave.getSecretsForLocalWorker (.still 11)
        (.ok (symbolicReport (padKey [1])).attestation)
        [(sampleSecretId 7, "KEY"), (sampleSecretId 8, "KEY")]
        (sampleConsumer 0) = .ok workerSecrets ∧
      ∀ name, workerSecrets name ≠ some [1] := by
  have hfirst : namesEnclave.readable (.still 11)
      (symbolicReport (padKey [1])).attestation (sampleSecretId 7)
      (sampleConsumer 0) =
        some { data := [1], expiry := 0, generationTimestamp := 10 } := by
    decide +kernel
  have hsecond : namesEnclave.readable (.still 11)
      (symbolicReport (padKey [1])).attestation (sampleSecretId 8)
      (sampleConsumer 0) =
        some { data := [2], expiry := 0, generationTimestamp := 10 } := by
    decide +kernel
  refine ⟨hfirst, _, getSecretsForLocalWorker_ok _ _ _ _ _, ?_⟩
  intro name
  by_cases hname : name = "KEY"
  · subst hname
    simp [insertRead, hfirst, hsecond]
  · simp [insertRead, hfirst, hsecond, update_of_ne hname]

/-- The requester gets the one secret it may read. -/
theorem reads_release_first :
    ∃ secretsBox userdata packed,
      namesEnclave.getSecrets (.still 11) (fun _ => .ok ())
        ⟨List.replicate 12 0, rfl⟩ [(sampleSecretId 8, sampleConsumer 0),
          (sampleSecretId 7, sampleConsumer 0)] (symbolicReport (padKey [2])) =
        .ok secretsBox ∧
      BoxReleases namesSteps namesEnclave (.still 11)
        ⟨List.replicate 12 0, rfl⟩ [(sampleSecretId 8, sampleConsumer 0),
          (sampleSecretId 7, sampleConsumer 0)] userdata packed secretsBox ∧
      packed.map PackedSecret.secretId = [sampleSecretId 7] := by
  have hbox : namesEnclave.getSecrets (.still 11) (fun _ => .ok ())
      ⟨List.replicate 12 0, rfl⟩ [(sampleSecretId 8, sampleConsumer 0),
        (sampleSecretId 7, sampleConsumer 0)] (symbolicReport (padKey [2])) =
      .ok (symbolicBox [1] [2] [sampleSecretId 7] 0) := by
    decide +kernel
  obtain ⟨-, userdata, packed, -, hreleases⟩ :=
    (reads_release_authorized injective_id (symbolicPlatform_roundTrips _ _)
      (symbolicPlatform_idealAead _ _)
      ⟨symbolicKeyPair _ _ [1], rfl⟩ (.still 11)).1 _ _ _ _ _ hbox
  exact ⟨_, userdata, packed, hbox, hreleases, hreleases.listed.symm⟩

end NxccBridge.EnclaveSecrets
