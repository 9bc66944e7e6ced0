import NxccBridge.Contract.Identity
import NxccBridge.Core.Rollback

/-!
# Executions of the contract

Accounts call the contract in any order.  `mint` and `safeTransferFrom` call the
receiver if it has code; until it returns or reverts, any account may call the
contract again.  Foreign code may also open a frame of its own and revert it.
The emitted events are journaled with the call that emits them and the storage
that it finds; a revert takes the storage and the journal back.
-/

namespace NxccBridge.IdentityContract

open Function
open NxccBridge.Interface
open NxccBridge.Rollback

inductive Call
  | mint (policyURL : String)
  | setPolicyURL (tokenId : ℕ) (newPolicyURL : String)
  | setUser (tokenId : ℕ) (user : Address) (expires : ℕ)
  | approve (approved : Address) (tokenId : ℕ)
  | setApprovalForAll (operator : Address) (approved : Bool)
  | transferFrom (owner receiver : Address) (tokenId : ℕ)
  | safeTransferFrom (owner receiver : Address) (tokenId : ℕ)
  | burn (tokenId : ℕ)
  deriving DecidableEq

/-- What is left to do when the foreign code returns. -/
inductive Pending
  | mint (minter : Account) (policyURL : String) (tokenId : ℕ)
  | safeTransfer
  | foreign
  deriving DecidableEq

/-- A call up to the point where it calls the receiver, if it does. -/
def Identity.perform (self : Identity) (sender : Account) :
    Call → Except Revert (Emitted × Option Pending)
  | .mint policyURL =>
      match self.mint sender with
      | .error e => .error e
      | .ok (emitted, tokenId) =>
          .ok (emitted, some (.mint sender policyURL tokenId))
  | .setPolicyURL tokenId newPolicyURL =>
      (self.setPolicyURL sender tokenId newPolicyURL).map (·, none)
  | .setUser tokenId user expires =>
      (self.setUser sender tokenId user expires).map (·, none)
  | .approve approved tokenId =>
      (self.approve sender approved tokenId).map (·, none)
  | .setApprovalForAll operator approved =>
      (self.setApprovalForAll sender operator approved).map (·, none)
  | .transferFrom owner receiver tokenId =>
      (self.transferFrom sender owner receiver tokenId).map (·, none)
  | .safeTransferFrom owner receiver tokenId =>
      (self.transferFrom sender owner receiver tokenId).map
        (·, some .safeTransfer)
  | .burn tokenId => (self.burn sender tokenId).map (·, none)

/-- An event with the account and the call responsible for it, and the storage
on which the call, or its continuation, was working. -/
structure Record where
  sender : Account
  call : Call
  moment : Identity
  event : ContractEvent

structure World where
  storage : Identity
  journal : List Record

def World.new : World where
  storage := .new
  journal := []

def stamped (sender : Account) (call : Call) (moment : Identity)
    (emitted : List ContractEvent) : List Record :=
  emitted.map fun event => {
    sender := sender
    call := call
    moment := moment
    event := event }

def World.emit (world : World) (sender : Account) (call : Call)
    (result : Emitted) : World where
  storage := result.1
  journal := world.journal ++ stamped sender call world.storage result.2

/-- The end of a suspended call. -/
def World.resume (world : World) : Pending → World
  | .mint minter policyURL tokenId =>
      world.emit minter (.mint policyURL)
        (world.storage.setTokenURI tokenId policyURL)
  | .safeTransfer => world
  | .foreign => world

/-- A message to the contract, with whether the receiver of the token has code;
or the start of foreign code. -/
inductive Message
  | contract (sender : Account) (call : Call) (receiverHasCode : Bool)
  | foreign
  deriving DecidableEq

def World.start (world : World) : Message → Option (World × Option Pending)
  | .contract sender call receiverHasCode =>
      match world.storage.perform sender call with
      | .error _ => none
      | .ok (result, none) => some (world.emit sender call result, none)
      | .ok (result, some pending) =>
          if receiverHasCode then
            some (world.emit sender call result, some pending)
          else some ((world.emit sender call result).resume pending, none)
  | .foreign => some (world, some .foreign)

def contract : Component World Message Pending where
  start := World.start
  resume := World.resume

/-! ## What a call can do -/

/-- The changes that a call makes if it does not revert. -/
inductive Change (self : Identity) (sender : Account) :
    Call → Identity → List ContractEvent → Option Pending → Prop
  | minted (policyURL : String)
      (hfree : self.owners (self.tokenIdCounter + 1) = zeroAddress) :
      Change self sender (.mint policyURL)
        ({ self with tokenIdCounter := self.tokenIdCounter + 1 }.moved sender
          (self.tokenIdCounter + 1))
        (self.moveEvents sender (self.tokenIdCounter + 1))
        (some (.mint sender policyURL (self.tokenIdCounter + 1)))
  | uriSet (tokenId : ℕ) (newPolicyURL : String)
      (hauthorized :
        self.isAuthorized (self.owners tokenId) sender tokenId = true) :
      Change self sender (.setPolicyURL tokenId newPolicyURL)
        (self.setTokenURI tokenId newPolicyURL).1 [.metadataUpdate tokenId] none
  | userSet (tokenId : ℕ) (user : Address) (expires : ℕ)
      (howned : self.owners tokenId ≠ zeroAddress)
      (hauthorized :
        self.isAuthorized (self.owners tokenId) sender tokenId = true) :
      Change self sender (.setUser tokenId user expires)
        { self with
          users := update self.users tokenId
            { user := user, expires := expires } }
        [.updateUser tokenId user expires] none
  | approved (approved : Address) (tokenId : ℕ)
      (howned : self.owners tokenId ≠ zeroAddress) :
      Change self sender (.approve approved tokenId)
        { self with tokenApprovals := update self.tokenApprovals tokenId approved }
        [.approval (self.owners tokenId) approved tokenId] none
  | approvedForAll (operator : Address) (approved : Bool) :
      Change self sender (.setApprovalForAll operator approved)
        { self with
          operatorApprovals := update self.operatorApprovals sender
            (update (self.operatorApprovals sender) operator approved) }
        [.approvalForAll sender operator approved] none
  | moved (call : Call) (receiver : Address) (tokenId : ℕ)
      (pending : Option Pending)
      (hauthorized :
        self.isAuthorized (self.owners tokenId) sender tokenId = true)
      (hpending : ∀ minter policyURL minted,
        pending ≠ some (.mint minter policyURL minted)) :
      Change self sender call (self.moved receiver tokenId)
        (self.moveEvents receiver tokenId) pending

theorem transferFrom_change {self : Identity} {sender : Account}
    {owner receiver : Address} {tokenId : ℕ} {result : Emitted} (call : Call)
    {pending : Option Pending}
    (hpending : ∀ minter policyURL minted,
      pending ≠ some (.mint minter policyURL minted))
    (htransfer : self.transferFrom sender owner receiver tokenId =
      .ok result) :
    Change self sender call result.1 result.2 pending := by
  unfold Identity.transferFrom at htransfer
  split_ifs at htransfer with hzero
  split at htransfer
  · cases htransfer
  · rename_i storage emitted previousOwner hupdate
    obtain ⟨hauthorized, rfl, rfl, -⟩ := updateToken_eq_ok hupdate
    split_ifs at htransfer with hother
    cases htransfer
    exact .moved call receiver tokenId pending (hauthorized sender.2) hpending

theorem burn_change {self : Identity} {sender : Account} {tokenId : ℕ}
    {result : Emitted} (hburn : self.burn sender tokenId = .ok result) :
    Change self sender (.burn tokenId) result.1 result.2 none := by
  unfold Identity.burn at hburn
  split at hburn
  · cases hburn
  · rename_i storage emitted previousOwner hupdate
    obtain ⟨hauthorized, rfl, rfl, -⟩ := updateToken_eq_ok hupdate
    cases hburn
    exact .moved (.burn tokenId) zeroAddress tokenId none
      (hauthorized sender.2) (by simp)

theorem mint_change {self : Identity} {sender : Account} {policyURL : String}
    {result : Emitted} {tokenId : ℕ}
    (hmint : self.mint sender = .ok (result, tokenId)) :
    Change self sender (.mint policyURL) result.1 result.2
      (some (.mint sender policyURL tokenId)) := by
  unfold Identity.mint at hmint
  split_ifs at hmint with hbound
  dsimp only at hmint
  split at hmint
  · cases hmint
  · rename_i emitted hminted
    cases hmint
    unfold Identity.mintTo at hminted
    rw [if_neg sender.2] at hminted
    split at hminted
    · cases hminted
    · rename_i storage events previousOwner hupdate
      obtain ⟨-, rfl, rfl, rfl⟩ := updateToken_eq_ok hupdate
      split_ifs at hminted with howned
      cases hminted
      exact .minted policyURL (not_not.mp howned)

theorem map_pair_eq_ok {first : Except Revert Emitted} {left : Option Pending}
    {result : Emitted} {pending : Option Pending}
    (hmap : first.map (·, left) = .ok (result, pending)) :
    first = .ok result ∧ pending = left := by
  cases first with
  | error e => cases hmap
  | ok emitted =>
      cases hmap
      exact ⟨rfl, rfl⟩

/-- Every call that does not revert makes one of the listed changes. -/
theorem perform_change {self : Identity} {sender : Account} {call : Call}
    {result : Emitted} {pending : Option Pending}
    (hperform : self.perform sender call = .ok (result, pending)) :
    Change self sender call result.1 result.2 pending := by
  cases call with
  | mint policyURL =>
      simp only [Identity.perform] at hperform
      split at hperform
      · cases hperform
      · rename_i emitted tokenId hmint
        cases hperform
        exact mint_change hmint
  | setPolicyURL tokenId newPolicyURL =>
      simp only [Identity.perform, Identity.setPolicyURL] at hperform
      split at hperform
      · cases hperform
      · rename_i owner howner
        split at hperform
        · cases hperform
        · rename_i hchecked
          cases hperform
          obtain ⟨rfl, howned⟩ := requireOwned_eq_ok howner
          exact .uriSet tokenId newPolicyURL (checkAuthorized_eq_ok hchecked)
  | setUser tokenId user expires =>
      simp only [Identity.perform, Identity.setUser] at hperform
      split at hperform
      · cases hperform
      · rename_i owner howner
        split at hperform
        · cases hperform
        · rename_i hchecked
          cases hperform
          obtain ⟨rfl, howned⟩ := requireOwned_eq_ok howner
          exact .userSet tokenId user expires howned
            (checkAuthorized_eq_ok hchecked)
  | approve approved tokenId =>
      simp only [Identity.perform, Identity.approve] at hperform
      split at hperform
      · cases hperform
      · rename_i owner howner
        split_ifs at hperform with hrefused
        · cases hperform
        · cases hperform
          obtain ⟨rfl, howned⟩ := requireOwned_eq_ok howner
          exact .approved approved tokenId howned
  | setApprovalForAll operator approved =>
      simp only [Identity.perform, Identity.setApprovalForAll] at hperform
      split_ifs at hperform with hzero
      · cases hperform
      · cases hperform
        exact .approvedForAll operator approved
  | transferFrom owner receiver tokenId =>
      obtain ⟨htransfer, rfl⟩ := map_pair_eq_ok hperform
      exact transferFrom_change _ (by simp) htransfer
  | safeTransferFrom owner receiver tokenId =>
      obtain ⟨htransfer, rfl⟩ := map_pair_eq_ok hperform
      exact transferFrom_change _ (by simp) htransfer
  | burn tokenId =>
      obtain ⟨hburn, rfl⟩ := map_pair_eq_ok hperform
      exact burn_change hburn

/-- What a message leads to that does not revert: another contract's change of
its own state, or one change of the storage, perhaps with what follows it. -/
inductive World.Starts (world : World) : World → Prop
  | foreign : Starts world world
  | changed {sender : Account} {call : Call} {result : Emitted}
      {pending : Option Pending}
      (hchange : Change world.storage sender call result.1 result.2 pending) :
      Starts world (world.emit sender call result)
  | completed {sender : Account} {call : Call} {result : Emitted}
      {pending : Pending}
      (hchange : Change world.storage sender call result.1 result.2
        (some pending)) :
      Starts world ((world.emit sender call result).resume pending)

theorem World.starts_of_start {world after : World} {message : Message}
    {pending : Option Pending}
    (hstart : world.start message = some (after, pending)) :
    world.Starts after := by
  cases message with
  | foreign =>
      cases hstart
      exact .foreign
  | contract sender call receiverHasCode =>
      simp only [World.start] at hstart
      split at hstart
      · cases hstart
      · rename_i result hperform
        cases hstart
        exact .changed (perform_change hperform)
      · rename_i result left hperform
        split_ifs at hstart
        · cases hstart
          exact .changed (perform_change hperform)
        · cases hstart
          exact .completed (perform_change hperform)

end NxccBridge.IdentityContract
