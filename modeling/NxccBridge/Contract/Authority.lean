import NxccBridge.Contract.Execution
import NxccBridge.Core.Journal

/-!
# Who holds a role and who writes a policy

Over every execution the user of a token is the one that its present owner, or
someone approved by it, set; and no identifier is minted twice.  The policy URL
is written under authority too, except that `mint` writes it after the receiver
returned, when the token may have gone.
-/

namespace NxccBridge.IdentityContract

open Function
open NxccBridge.Interface
open NxccBridge.Journal
open NxccBridge.Rollback
open NxccBridge.Runs

/-! ## The journal -/

/-- The owner that a record gives to the token. -/
def Record.ownerOf (tokenId : ℕ) (record : Record) : Option Address :=
  match record.event with
  | .transfer _ receiver moved => if moved = tokenId then some receiver else none
  | _ => none

/-- The record mints the token. -/
def Record.mints (tokenId : ℕ) (record : Record) : Bool :=
  match record.event with
  | .transfer sender _ moved =>
      decide (moved = tokenId ∧ sender = zeroAddress)
  | _ => false

/-- The record neither touches the user of the token nor changes its owner. -/
def Record.LeavesUser (tokenId : ℕ) (record : Record) : Prop :=
  (∀ user expires, record.event ≠ .updateUser tokenId user expires) ∧
    ∀ sender receiver, record.event = .transfer sender receiver tokenId →
      sender = receiver

/-- The record sets the user of the token, by a call of its owner or of an
approved operator. -/
structure Record.SetsUser (tokenId : ℕ) (info : UserInfo) (record : Record) :
    Prop where
  call : record.call = .setUser tokenId info.user info.expires
  event : record.event = .updateUser tokenId info.user info.expires
  authorized : record.moment.isAuthorized (record.moment.owners tokenId)
    record.sender tokenId = true

/-- The storage agrees with the journal, and what it says of tokens without an
owner is nothing. -/
structure Sound (world : World) : Prop where
  noOperator : ∀ spender,
    world.storage.operatorApprovals zeroAddress spender = false
  unapproved : ∀ tokenId, world.storage.owners tokenId = zeroAddress →
    world.storage.tokenApprovals tokenId = zeroAddress
  unused : ∀ tokenId, world.storage.owners tokenId = zeroAddress →
    world.storage.users tokenId = .none
  unminted : ∀ tokenId, world.storage.tokenIdCounter < tokenId →
    world.storage.owners tokenId = zeroAddress
  owner : ∀ tokenId, world.storage.owners tokenId =
    register (Record.ownerOf tokenId) zeroAddress world.journal
  minted : ∀ tokenId, world.journal.countP (Record.mints tokenId) =
    if 0 < tokenId ∧ tokenId ≤ world.storage.tokenIdCounter then 1 else 0
  user : ∀ tokenId, world.storage.users tokenId = .none ∨
    Latest (Record.SetsUser tokenId (world.storage.users tokenId))
      (Record.LeavesUser tokenId) world.journal

theorem sound_new : Sound World.new where
  noOperator := fun _ => rfl
  unapproved := fun _ _ => rfl
  unused := fun _ _ => rfl
  unminted := fun _ _ => rfl
  owner := fun _ => rfl
  minted := by
    intro tokenId
    have hnone : ¬ (0 < tokenId ∧ tokenId ≤ World.new.storage.tokenIdCounter) := by
      simp only [World.new, Identity.new]
      omega
    rw [if_neg hnone]
    rfl
  user := fun _ => Or.inl rfl

/-- Nobody is authorized for a token without an owner. -/
theorem Sound.owned {world : World} (hsound : Sound world) {sender : Account}
    {tokenId : ℕ}
    (hauthorized : world.storage.isAuthorized (world.storage.owners tokenId)
      sender tokenId = true) :
    world.storage.owners tokenId ≠ zeroAddress := by
  intro hzero
  have happroval := hsound.unapproved tokenId hzero
  have hoperator := hsound.noOperator sender
  have hsender := sender.2
  simp [Identity.isAuthorized, hzero, happroval, hoperator, hsender,
    Ne.symm hsender] at hauthorized

/-- A role survives what leaves it alone. -/
theorem Sound.user_append {world : World} (hsound : Sound world)
    {tokenId : ℕ} {more : List Record}
    (hmore : ∀ record ∈ more, record.LeavesUser tokenId) :
    world.storage.users tokenId = .none ∨
      Latest (Record.SetsUser tokenId (world.storage.users tokenId))
        (Record.LeavesUser tokenId) (world.journal ++ more) := by
  cases hsound.user tokenId with
  | inl hnone => exact Or.inl hnone
  | inr hlatest => exact Or.inr (hlatest.append hmore)

/-! ### What a transfer records -/

theorem register_moveEvents (sender : Account) (call : Call)
    (moment self : Identity) (receiver : Address) (moved tokenId : ℕ)
    (init : Address) :
    register (Record.ownerOf tokenId) init
        (stamped sender call moment (self.moveEvents receiver moved)) =
      if moved = tokenId then receiver else init := by
  unfold Identity.moveEvents stamped
  split_ifs <;> simp_all [Record.ownerOf]

theorem countP_moveEvents (sender : Account) (call : Call)
    (moment self : Identity) (receiver : Address) (moved tokenId : ℕ) :
    (stamped sender call moment (self.moveEvents receiver moved)).countP
        (Record.mints tokenId) =
      if moved = tokenId ∧ self.owners moved = zeroAddress then 1 else 0 := by
  have htail : ∀ condition : Prop, [Decidable condition] →
      (stamped sender call moment
        (if condition then [.updateUser moved zeroAddress 0] else [])).countP
          (Record.mints tokenId) = 0 := by
    intro condition _
    split_ifs <;> simp [stamped, Record.mints]
  rw [Identity.moveEvents, stamped, List.map_cons, ← stamped,
    List.countP_cons, htail]
  simp [Record.mints]

theorem leavesUser_moveEvents (sender : Account) (call : Call)
    (moment self : Identity) (receiver : Address) {moved tokenId : ℕ}
    (hkeeps : moved ≠ tokenId ∨ receiver = self.owners moved) :
    ∀ record ∈ stamped sender call moment (self.moveEvents receiver moved),
      record.LeavesUser tokenId := by
  intro record hmem
  obtain ⟨event, hevent, rfl⟩ := List.mem_map.mp hmem
  cases List.mem_cons.mp hevent with
  | inl htransfer =>
      subst htransfer
      refine ⟨by simp, ?_⟩
      intro from_ other heq
      cases heq
      cases hkeeps with
      | inl hother => exact absurd rfl hother
      | inr hself => exact hself.symm
  | inr hreset =>
      split_ifs at hreset with hresets
      · cases List.mem_singleton.mp hreset
        refine ⟨?_, by simp⟩
        intro user expires heq
        cases heq
        cases hkeeps with
        | inl hother => exact hother rfl
        | inr hself => exact hresets.2 hself
      · cases hreset

/-! ### Every change keeps the storage sound -/

/-- A change that moves no token and sets no user. -/
theorem Sound.emit_quiet {world : World} (hsound : Sound world)
    (sender : Account) (call : Call) {after : Identity}
    {event : ContractEvent}
    (hcounter : after.tokenIdCounter = world.storage.tokenIdCounter)
    (howners : after.owners = world.storage.owners)
    (husers : after.users = world.storage.users)
    (hoperator : ∀ spender, after.operatorApprovals zeroAddress spender = false)
    (hunapproved : ∀ tokenId, after.owners tokenId = zeroAddress →
      after.tokenApprovals tokenId = zeroAddress)
    (htransfer : ∀ sender receiver tokenId,
      event ≠ .transfer sender receiver tokenId)
    (hupdate : ∀ tokenId user expires,
      event ≠ .updateUser tokenId user expires) :
    Sound (world.emit sender call (after, [event])) := by
  have howner : ∀ tokenId init, register (Record.ownerOf tokenId) init
      (stamped sender call world.storage [event]) = init := by
    intro tokenId init
    apply register_of_none
    intro record hmem
    cases List.mem_singleton.mp hmem
    cases event <;> simp_all [Record.ownerOf]
  have hmints : ∀ tokenId, (stamped sender call world.storage [event]).countP
      (Record.mints tokenId) = 0 := by
    intro tokenId
    cases event <;> simp_all [Record.mints, stamped]
  exact {
    noOperator := hoperator
    unapproved := hunapproved
    unused := by
      intro tokenId hzero
      simp only [World.emit, howners, husers] at hzero ⊢
      exact hsound.unused tokenId hzero
    unminted := by
      intro tokenId hlarge
      simp only [World.emit, howners, hcounter] at hlarge ⊢
      exact hsound.unminted tokenId hlarge
    owner := by
      intro tokenId
      simp only [World.emit, howners, register_append, howner]
      exact hsound.owner tokenId
    minted := by
      intro tokenId
      simp only [World.emit, hcounter, List.countP_append, hmints,
        Nat.add_zero]
      exact hsound.minted tokenId
    user := by
      intro tokenId
      simp only [World.emit, husers]
      apply hsound.user_append
      intro record hmem
      cases List.mem_singleton.mp hmem
      exact ⟨hupdate tokenId, fun sender receiver heq =>
        absurd heq (htransfer sender receiver tokenId)⟩ }

/-- A token that someone owns goes to `receiver`, or the next token is minted to
it. -/
inductive Moves (self : Identity) (receiver : Address) : ℕ → ℕ → Prop
  | transferred (tokenId : ℕ) (howned : self.owners tokenId ≠ zeroAddress) :
      Moves self receiver tokenId self.tokenIdCounter
  | minted (hreceiver : receiver ≠ zeroAddress) :
      Moves self receiver (self.tokenIdCounter + 1) (self.tokenIdCounter + 1)

theorem moved_owners_of_ne (self : Identity) (receiver : Address)
    {moved tokenId : ℕ} (hother : tokenId ≠ moved) :
    (self.moved receiver moved).owners tokenId = self.owners tokenId :=
  update_of_ne hother ..

theorem moved_tokenApprovals_of_ne (self : Identity) (receiver : Address)
    {moved tokenId : ℕ} (hother : tokenId ≠ moved) :
    (self.moved receiver moved).tokenApprovals tokenId =
      self.tokenApprovals tokenId := by
  unfold Identity.moved
  split_ifs <;> simp [hother]

theorem moved_users_of_ne (self : Identity) (receiver : Address)
    {moved tokenId : ℕ} (hother : tokenId ≠ moved) :
    (self.moved receiver moved).users tokenId = self.users tokenId := by
  unfold Identity.moved
  split_ifs <;> simp [hother]

theorem Sound.emit_moved {world : World} (hsound : Sound world)
    (sender : Account) (call : Call) {receiver : Address}
    {moved counter : ℕ} (hmoves : Moves world.storage receiver moved counter) :
    Sound (world.emit sender call
      ({ world.storage with tokenIdCounter := counter }.moved receiver moved,
        world.storage.moveEvents receiver moved)) := by
  have hfree : ∀ tokenId, world.storage.tokenIdCounter < tokenId →
      world.storage.owners tokenId = zeroAddress := hsound.unminted
  have hbelow : world.storage.owners moved ≠ zeroAddress →
      moved ≤ world.storage.tokenIdCounter := by
    intro howned
    by_contra hlarge
    exact howned (hfree moved (by omega))
  constructor
  · exact hsound.noOperator
  · intro tokenId hzero
    by_cases hother : tokenId = moved
    · subst hother
      have hreceiver : receiver = zeroAddress := by
        simpa [World.emit, Identity.moved] using hzero
      cases hmoves with
      | transferred _ howned => simp [World.emit, Identity.moved, howned]
      | minted hnonzero => exact absurd hreceiver hnonzero
    · simp only [World.emit, moved_owners_of_ne _ _ hother,
        moved_tokenApprovals_of_ne _ _ hother] at hzero ⊢
      exact hsound.unapproved tokenId hzero
  · intro tokenId hzero
    by_cases hother : tokenId = moved
    · subst hother
      have hreceiver : receiver = zeroAddress := by
        simpa [World.emit, Identity.moved] using hzero
      cases hmoves with
      | transferred _ howned =>
          simp [World.emit, Identity.moved, howned, hreceiver, Ne.symm howned]
      | minted hnonzero => exact absurd hreceiver hnonzero
    · simp only [World.emit, moved_owners_of_ne _ _ hother,
        moved_users_of_ne _ _ hother] at hzero ⊢
      exact hsound.unused tokenId hzero
  · intro tokenId hlarge
    have hother : tokenId ≠ moved ∧
        world.storage.tokenIdCounter < tokenId := by
      cases hmoves with
      | transferred _ howned =>
          have hle := hbelow howned
          simp only [World.emit, Identity.moved] at hlarge
          omega
      | minted hnonzero =>
          simp only [World.emit, Identity.moved] at hlarge
          omega
    simp only [World.emit, moved_owners_of_ne _ _ hother.1]
    exact hfree tokenId hother.2
  · intro tokenId
    simp only [World.emit, register_append, register_moveEvents,
      ← hsound.owner tokenId]
    by_cases hother : tokenId = moved
    · simp [hother, Identity.moved]
    · rw [moved_owners_of_ne _ _ hother, if_neg (Ne.symm hother)]
  · intro tokenId
    simp only [World.emit, List.countP_append, countP_moveEvents,
      hsound.minted tokenId, Identity.moved]
    cases hmoves with
    | transferred _ howned => simp [howned]
    | minted hnonzero =>
        have hnew := hfree (world.storage.tokenIdCounter + 1) (by omega)
        simp only [hnew, and_true]
        split_ifs <;> omega
  · intro tokenId
    by_cases hother : tokenId = moved
    · subst hother
      by_cases hresets : world.storage.owners tokenId ≠ zeroAddress ∧
          receiver ≠ world.storage.owners tokenId
      · apply Or.inl
        simp only [World.emit, Identity.moved]
        rw [if_pos hresets, update_self]
      · have husers : (World.emit world sender call
            ({ world.storage with tokenIdCounter := counter }.moved receiver
              tokenId, world.storage.moveEvents receiver
                tokenId)).storage.users tokenId =
            world.storage.users tokenId := by
          simp only [World.emit, Identity.moved]
          rw [if_neg hresets]
        rw [husers]
        by_cases hzero : world.storage.owners tokenId = zeroAddress
        · exact Or.inl (hsound.unused tokenId hzero)
        · apply hsound.user_append
          apply leavesUser_moveEvents
          apply Or.inr
          by_contra hne
          exact hresets ⟨hzero, hne⟩
    · simp only [World.emit, moved_users_of_ne _ _ hother]
      apply hsound.user_append
      exact leavesUser_moveEvents sender call _ _ receiver
        (Or.inl (Ne.symm hother))

theorem Sound.emit_userSet {world : World} (hsound : Sound world)
    {sender : Account} {tokenId : ℕ} (user : Address) (expires : ℕ)
    (howned : world.storage.owners tokenId ≠ zeroAddress)
    (hauthorized : world.storage.isAuthorized (world.storage.owners tokenId)
      sender tokenId = true) :
    Sound (world.emit sender (.setUser tokenId user expires)
      ({ world.storage with
          users := update world.storage.users tokenId
            { user := user, expires := expires } },
        [.updateUser tokenId user expires])) := by
  have hsame : ∀ other, other ≠ tokenId →
      update world.storage.users tokenId { user := user, expires := expires }
        other = world.storage.users other := fun other hother =>
    update_of_ne hother ..
  constructor
  · exact hsound.noOperator
  · exact hsound.unapproved
  · intro other hzero
    have hother : other ≠ tokenId := by
      intro heq
      exact howned (heq ▸ hzero)
    simp only [World.emit, hsame other hother] at hzero ⊢
    exact hsound.unused other hzero
  · exact hsound.unminted
  · intro other
    simp only [World.emit, register_append, stamped, List.map_cons,
      List.map_nil, register_cons, register_nil, Record.ownerOf,
      Option.getD_none]
    exact hsound.owner other
  · intro other
    simp only [World.emit, List.countP_append, stamped, List.map_cons,
      List.map_nil, hsound.minted other]
    simp [Record.mints]
  · intro other
    by_cases hother : other = tokenId
    · subst hother
      apply Or.inr
      simp only [World.emit, update_self]
      exact Latest.last world.journal ⟨rfl, rfl, hauthorized⟩
    · simp only [World.emit, hsame other hother]
      apply hsound.user_append
      intro record hmem
      cases List.mem_singleton.mp hmem
      refine ⟨?_, by simp⟩
      intro other' user' heq
      cases heq
      exact hother rfl

theorem Sound.emit_change {world : World} (hsound : Sound world)
    {sender : Account} {call : Call} {after : Identity}
    {emitted : List ContractEvent} {pending : Option Pending}
    (hchange : Change world.storage sender call after emitted pending) :
    Sound (world.emit sender call (after, emitted)) := by
  cases hchange with
  | minted policyURL hfree =>
      exact hsound.emit_moved sender _ (.minted sender.2)
  | uriSet tokenId newPolicyURL hauthorized =>
      exact hsound.emit_quiet sender _ rfl rfl rfl hsound.noOperator
        hsound.unapproved (by simp) (by simp)
  | userSet tokenId user expires howned hauthorized =>
      exact hsound.emit_userSet user expires howned hauthorized
  | approved approved tokenId howned =>
      refine hsound.emit_quiet sender _ rfl rfl rfl hsound.noOperator ?_
        (by simp) (by simp)
      intro other hzero
      have hother : other ≠ tokenId := by
        intro heq
        exact howned (heq ▸ hzero)
      dsimp only
      rw [update_of_ne hother]
      exact hsound.unapproved other hzero
  | approvedForAll operator approved =>
      refine hsound.emit_quiet sender _ rfl rfl rfl ?_ hsound.unapproved
        (by simp) (by simp)
      intro spender
      dsimp only
      rw [update_of_ne (Ne.symm sender.2)]
      exact hsound.noOperator spender
  | moved call receiver tokenId pending hauthorized hpending =>
      exact hsound.emit_moved sender _
        (.transferred tokenId (hsound.owned hauthorized))

theorem Sound.resume {world : World} (hsound : Sound world)
    (pending : Pending) : Sound (world.resume pending) := by
  cases pending with
  | mint minter policyURL tokenId =>
      exact hsound.emit_quiet minter _ rfl rfl rfl hsound.noOperator
        hsound.unapproved (by simp) (by simp)
  | safeTransfer => exact hsound
  | foreign => exact hsound

theorem Sound.start {world after : World} (hsound : Sound world)
    (hstarts : world.Starts after) : Sound after := by
  cases hstarts with
  | foreign => exact hsound
  | changed hchange => exact hsound.emit_change hchange
  | completed hchange => exact (hsound.emit_change hchange).resume _

/-- The storage is sound in every execution, wherever it stops. -/
theorem execute_sound (steps : List (Step Message)) :
    Sound (execute contract World.new steps).current := by
  have hall : (execute contract World.new steps).Satisfies Sound :=
    execute_satisfies sound_new
      (fun _ _ _ _ hsound hstart =>
        hsound.start (World.starts_of_start hstart))
      (fun _ pending hsound => hsound.resume pending) steps
  exact hall.1

/-- In every execution the user of a token, at any time, is none or the one that
the latest `setUser` call for it set; that call was made by the owner or an
approved operator of that moment, no owner has changed since, and the role has
not expired.  A token is minted at most once. -/
theorem user_follows_ownership (steps : List (Step Message)) :
    (∀ now tokenId,
      (execute contract World.new steps).current.storage.userOf now tokenId =
        zeroAddress ∨
      now ≤ (execute contract World.new steps).current.storage.userExpires
          tokenId ∧
        Latest
          (Record.SetsUser tokenId {
            user := (execute contract World.new steps).current.storage.userOf
              now tokenId
            expires := (execute contract World.new
              steps).current.storage.userExpires tokenId })
          (Record.LeavesUser tokenId)
          (execute contract World.new steps).current.journal) ∧
    ∀ tokenId, (execute contract World.new steps).current.journal.countP
      (Record.mints tokenId) ≤ 1 := by
  have hsound := execute_sound steps
  generalize (execute contract World.new steps).current = world at hsound ⊢
  constructor
  · intro now tokenId
    by_cases hexpired : (world.storage.users tokenId).expires < now
    · exact Or.inl (if_pos hexpired)
    · have huser : world.storage.userOf now tokenId =
          (world.storage.users tokenId).user := if_neg hexpired
      cases hsound.user tokenId with
      | inl hnone =>
          apply Or.inl
          rw [huser, hnone]
          rfl
      | inr hlatest =>
          apply Or.inr
          rw [huser]
          exact ⟨by simpa [Identity.userExpires] using hexpired, hlatest⟩
  · intro tokenId
    rw [hsound.minted tokenId]
    split_ifs <;> simp

/-! ## Writing the policy URL -/

/-- If the record writes the URI of a token, then the account responsible for it
was authorized at that moment. -/
def Record.UriAuthorized (record : Record) : Prop :=
  ∀ tokenId, record.event = .metadataUpdate tokenId →
    record.moment.isAuthorized (record.moment.owners tokenId) record.sender
      tokenId = true

def World.UrisAuthorized (world : World) : Prop :=
  ∀ record ∈ world.journal, record.UriAuthorized

/-- When the receiver of a minted token returns, the minter is still the owner
of the token or approved for it. -/
def KeepsAuthority (machine : Machine World Pending) (step : Step Message) :
    Prop :=
  step = .returns →
    ∀ saved minter policyURL tokenId rest,
      machine.suspended = (saved, .mint minter policyURL tokenId) :: rest →
        machine.current.storage.isAuthorized
          (machine.current.storage.owners tokenId) minter tokenId = true

/-- A call changes a URI only with a record of it. -/
theorem Change.tokenURIs {self : Identity} {sender : Account} {call : Call}
    {after : Identity} {emitted : List ContractEvent}
    {pending : Option Pending}
    (hchange : Change self sender call after emitted pending) {tokenId : ℕ}
    (hunwritten : .metadataUpdate tokenId ∉ emitted) :
    after.tokenURIs tokenId = self.tokenURIs tokenId := by
  cases hchange with
  | uriSet written newPolicyURL hauthorized =>
      apply update_of_ne
      intro heq
      exact hunwritten (by simp [heq])
  | minted | userSet | approved | approvedForAll | moved => rfl

theorem World.UrisAuthorized.emit {world : World}
    (hworld : world.UrisAuthorized) {sender : Account} {call : Call}
    {result : Emitted}
    (hemitted : ∀ tokenId, .metadataUpdate tokenId ∈ result.2 →
      world.storage.isAuthorized (world.storage.owners tokenId) sender tokenId =
        true) :
    (world.emit sender call result).UrisAuthorized := by
  intro record hmem
  cases List.mem_append.mp hmem with
  | inl hold => exact hworld record hold
  | inr hnew =>
      obtain ⟨event, hevent, rfl⟩ := List.mem_map.mp hnew
      intro tokenId heq
      exact hemitted tokenId (heq ▸ hevent)

/-- The events of a call write URIs under authority only. -/
theorem Change.uriAuthorized {self : Identity} {sender : Account} {call : Call}
    {after : Identity} {emitted : List ContractEvent}
    {pending : Option Pending}
    (hchange : Change self sender call after emitted pending) {tokenId : ℕ}
    (hwritten : .metadataUpdate tokenId ∈ emitted) :
    self.isAuthorized (self.owners tokenId) sender tokenId = true := by
  have hmoves : ∀ receiver moved, .metadataUpdate tokenId ∉
      self.moveEvents receiver moved := by
    intro receiver moved
    unfold Identity.moveEvents
    split_ifs <;> simp
  cases hchange with
  | uriSet written newPolicyURL hauthorized =>
      cases List.mem_singleton.mp hwritten
      exact hauthorized
  | minted => exact absurd hwritten (hmoves _ _)
  | moved => exact absurd hwritten (hmoves _ _)
  | userSet => simp at hwritten
  | approved => simp at hwritten
  | approvedForAll => simp at hwritten

/-- Without a callback in between, the minter writes the URI as the owner. -/
theorem World.UrisAuthorized.start {world after : World}
    (hworld : world.UrisAuthorized) (hstarts : world.Starts after) :
    after.UrisAuthorized := by
  cases hstarts with
  | foreign => exact hworld
  | changed hchange =>
      exact hworld.emit fun tokenId hwritten =>
        hchange.uriAuthorized hwritten
  | @completed sender call result pending hchange =>
      have hemitted : (world.emit sender call result).UrisAuthorized :=
        hworld.emit fun tokenId hwritten => hchange.uriAuthorized hwritten
      cases pending with
      | safeTransfer => exact hemitted
      | foreign => exact hemitted
      | mint minter policyURL tokenId =>
          obtain ⟨after, emitted⟩ := result
          cases hchange with
          | minted policyURL hfree =>
              apply hemitted.emit
              intro tokenId hwritten
              cases List.mem_singleton.mp hwritten
              simp only [World.emit, update_self]
              exact isAuthorized_owner _ sender _
          | moved call receiver moved _ hauthorized hpending =>
              exact absurd rfl (hpending _ _ _)

theorem emit_journal_grows (world : World) (sender : Account) (call : Call)
    (result : Emitted) :
    world.journal <+: (world.emit sender call result).journal :=
  List.prefix_append _ _

theorem resume_journal_grows (world : World) (pending : Pending) :
    world.journal <+: (world.resume pending).journal := by
  cases pending with
  | mint minter policyURL tokenId => exact emit_journal_grows ..
  | safeTransfer => exact List.prefix_rfl
  | foreign => exact List.prefix_rfl

theorem start_journal_grows {world after : World}
    (hstarts : world.Starts after) : world.journal <+: after.journal := by
  cases hstarts with
  | foreign => exact List.prefix_rfl
  | changed hchange => exact emit_journal_grows ..
  | completed hchange =>
      exact (emit_journal_grows ..).trans (resume_journal_grows _ _)

/-- A step keeps every write authorized exactly if it does not return to a `mint`
whose token has gone. -/
theorem step_urisAuthorized_iff (machine : Machine World Pending)
    (hordered : machine.Ordered fun before after =>
      before.journal <+: after.journal)
    (hmachine : machine.current.UrisAuthorized) (step : Step Message) :
    (machine.step contract step).current.UrisAuthorized ↔
      KeepsAuthority machine step := by
  cases step with
  | call message =>
      refine iff_of_true ?_ (fun heq => by cases heq)
      unfold Machine.step
      dsimp only
      split
      · exact hmachine
      · rename_i after hstart
        exact hmachine.start (World.starts_of_start hstart)
      · rename_i after pending hstart
        exact hmachine.start (World.starts_of_start hstart)
  | reverts =>
      refine iff_of_true ?_ (fun heq => by cases heq)
      unfold Machine.step
      cases hsuspended : machine.suspended with
      | nil => exact hmachine
      | cons frame rest =>
          have hinitial : frame.1.journal <+: machine.current.journal := by
            apply (List.pairwise_cons.mp hordered).1
            simp [hsuspended]
          intro record hmem
          exact hmachine record (hinitial.subset hmem)
  | returns =>
      unfold Machine.step KeepsAuthority
      cases hsuspended : machine.suspended with
      | nil => exact iff_of_true hmachine (by simp)
      | cons frame rest =>
          obtain ⟨saved, pending⟩ := frame
          cases pending with
          | safeTransfer => exact iff_of_true hmachine (by simp)
          | foreign => exact iff_of_true hmachine (by simp)
          | mint minter policyURL tokenId =>
              constructor
              · intro hafter _ saved' minter' policyURL' tokenId' rest' heq
                cases heq
                apply hafter {
                  sender := minter
                  call := .mint policyURL
                  moment := machine.current.storage
                  event := .metadataUpdate tokenId }
                · exact List.mem_append_right _ (List.mem_singleton_self _)
                · rfl
              · intro hkeeps
                apply hmachine.emit
                intro written hwritten
                cases List.mem_singleton.mp hwritten
                exact hkeeps rfl saved minter policyURL tokenId rest rfl

/-- Over every execution, each write of a policy URL is made on behalf of an
account that owns the token or is approved for it at that moment exactly if
every receiver returns to a `mint` with the minter still so. -/
theorem uris_authorized_iff (steps : List (Step Message)) :
    (∀ before, before <+: steps →
      (execute contract World.new before).current.UrisAuthorized) ↔
      Along (Machine.step contract) KeepsAuthority (Machine.new World.new)
        steps := by
  symm
  refine along_iff_initial_runs
    (Machine.Ordered fun before after : World =>
      before.journal <+: after.journal)
    (fun machine : Machine World Pending => machine.current.UrisAuthorized)
    ?_ ?_ ?_ ?_
  · simp [Machine.Ordered, Machine.new]
  · intro record hmem
    exact absurd hmem List.not_mem_nil
  · intro machine step hordered
    exact hordered.step (fun _ _ _ hfirst hsecond => hfirst.trans hsecond)
      (fun _ _ _ _ hstart =>
        start_journal_grows (World.starts_of_start hstart))
      resume_journal_grows step
  · intro machine step hordered hmachine
    exact step_urisAuthorized_iff machine hordered hmachine step

/-! ### A token that is sold while it is minted -/

def sampleAccount (byte : Framing.Byte) (hbyte : byte ≠ 0) : Account :=
  ⟨fun _ => byte, fun heq => hbyte (congrFun heq 0)⟩

/-- A contract that mints. -/
def sampleMinter : Account := sampleAccount 1 (by decide)

/-- The account that it hands the token to. -/
def sampleBuyer : Account := sampleAccount 2 (by decide)

/-- In the callback the minter transfers the new token, and the buyer sets its
policy. -/
def soldDuringMint : List (Step Message) :=
  [.call (.contract sampleMinter (.mint "minter") true),
    .call (.contract sampleMinter
      (.transferFrom sampleMinter sampleBuyer 1) false),
    .call (.contract sampleBuyer (.setPolicyURL 1 "buyer") false),
    .returns]

/-- The mint ends with the minter's policy on the buyer's token. -/
theorem uris_unauthorized :
    ¬ (execute contract World.new soldDuringMint).current.UrisAuthorized ∧
    (execute contract World.new soldDuringMint).current.storage.owners 1 =
      sampleBuyer ∧
    (execute contract World.new soldDuringMint).current.storage.tokenURIs 1 =
      "minter" := by
  refine ⟨?_, by decide +kernel, by decide +kernel⟩
  intro hauthorized
  have hwritten : (.metadataUpdate 1, false) ∈
      (execute contract World.new soldDuringMint).current.journal.map
        fun record => (record.event, record.moment.isAuthorized
          (record.moment.owners 1) record.sender 1) := by
    decide +kernel
  obtain ⟨record, hmem, hrecord⟩ := List.mem_map.mp hwritten
  obtain ⟨hevent, hdenied⟩ := Prod.mk.inj hrecord
  rw [hauthorized record hmem 1 hevent] at hdenied
  cases hdenied

end NxccBridge.IdentityContract
