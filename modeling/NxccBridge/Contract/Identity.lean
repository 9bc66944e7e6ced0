import Mathlib.Logic.Function.Basic
import NxccBridge.Interface.Types

/-!
# The Identity contract

`contracts/evm/src/Identity.sol` over version 5.2 of the ERC-721 base contract
and its extensions for burning and token URIs, whose functions keep their names.
A function takes the storage and returns the new one with the events it emits,
or reverts.  Mappings are total functions; the zero address stands for none.
-/

namespace NxccBridge.IdentityContract

open Function
open NxccBridge.Interface

/-- `address(0)`. -/
def zeroAddress : Address := fun _ => 0

/-- Whoever sends a message: never the zero address. -/
abbrev Account := {account : Address // account ≠ zeroAddress}

structure UserInfo where
  user : Address
  expires : ℕ
  deriving DecidableEq

/-- What `delete` leaves. -/
def UserInfo.none : UserInfo where
  user := zeroAddress
  expires := 0

inductive ContractEvent
  | transfer (sender receiver : Address) (tokenId : ℕ)
  | approval (owner approved : Address) (tokenId : ℕ)
  | approvalForAll (owner operator : Address) (approved : Bool)
  | metadataUpdate (tokenId : ℕ)
  | updateUser (tokenId : ℕ) (user : Address) (expires : ℕ)
  deriving DecidableEq

inductive Revert
  | nonexistentToken (tokenId : ℕ)
  | insufficientApproval (operator : Address) (tokenId : ℕ)
  | invalidApprover (approver : Address)
  | invalidOperator (operator : Address)
  | invalidReceiver (receiver : Address)
  | invalidSender (sender : Address)
  | incorrectOwner (sender : Address) (tokenId : ℕ) (owner : Address)
  | overflow
  deriving DecidableEq

/-- The storage of the contract; balances are left out. -/
structure Identity where
  tokenIdCounter : ℕ
  users : ℕ → UserInfo
  owners : ℕ → Address
  tokenApprovals : ℕ → Address
  operatorApprovals : Address → Address → Bool
  tokenURIs : ℕ → String

def Identity.new : Identity where
  tokenIdCounter := 0
  users := fun _ => .none
  owners := fun _ => zeroAddress
  tokenApprovals := fun _ => zeroAddress
  operatorApprovals := fun _ _ => false
  tokenURIs := fun _ => ""

abbrev Emitted := Identity × List ContractEvent

/-! ## The base contract -/

def Identity.requireOwned (self : Identity) (tokenId : ℕ) :
    Except Revert Address :=
  if self.owners tokenId = zeroAddress then .error (.nonexistentToken tokenId)
  else .ok (self.owners tokenId)

def Identity.isAuthorized (self : Identity) (owner spender : Address)
    (tokenId : ℕ) : Bool :=
  decide (spender ≠ zeroAddress) &&
    (decide (owner = spender) || self.operatorApprovals owner spender ||
      decide (self.tokenApprovals tokenId = spender))

def Identity.checkAuthorized (self : Identity) (owner spender : Address)
    (tokenId : ℕ) : Except Revert Unit :=
  if self.isAuthorized owner spender tokenId then .ok ()
  else if owner = zeroAddress then .error (.nonexistentToken tokenId)
  else .error (.insufficientApproval spender tokenId)

/-- `ERC721._update`: transfers, mints if the token has no owner and burns if
`receiver` is zero.  With `auth` zero nothing is checked.  The third component is the
previous owner. -/
def Identity.baseUpdate (self : Identity) (receiver : Address) (tokenId : ℕ)
    (auth : Address) :
    Except Revert (Identity × List ContractEvent × Address) :=
  let previousOwner := self.owners tokenId
  match if auth = zeroAddress then .ok ()
    else self.checkAuthorized previousOwner auth tokenId with
  | .error e => .error e
  | .ok () =>
      .ok
        ({ self with
            tokenApprovals :=
              if previousOwner = zeroAddress then self.tokenApprovals
              else update self.tokenApprovals tokenId zeroAddress
            owners := update self.owners tokenId receiver },
          [.transfer previousOwner receiver tokenId], previousOwner)

/-- `_update` of the contract: resets the user on transfers and burns. -/
def Identity.updateToken (self : Identity) (receiver : Address) (tokenId : ℕ)
    (auth : Address) :
    Except Revert (Identity × List ContractEvent × Address) :=
  match self.baseUpdate receiver tokenId auth with
  | .error e => .error e
  | .ok (storage, emitted, previousOwner) =>
      if previousOwner ≠ zeroAddress ∧ receiver ≠ previousOwner then
        .ok
          ({ storage with users := update storage.users tokenId .none },
            emitted ++ [.updateUser tokenId zeroAddress 0], previousOwner)
      else .ok (storage, emitted, previousOwner)

def Identity.approve (self : Identity) (sender : Account) (approved : Address)
    (tokenId : ℕ) : Except Revert Emitted :=
  match self.requireOwned tokenId with
  | .error e => .error e
  | .ok owner =>
      if owner ≠ sender ∧ self.operatorApprovals owner sender = false then
        .error (.invalidApprover sender)
      else
        .ok
          ({ self with
              tokenApprovals := update self.tokenApprovals tokenId approved },
            [.approval owner approved tokenId])

def Identity.setApprovalForAll (self : Identity) (sender : Account)
    (operator : Address) (approved : Bool) : Except Revert Emitted :=
  if operator = zeroAddress then .error (.invalidOperator operator)
  else
    .ok
      ({ self with
          operatorApprovals := update self.operatorApprovals sender
            (update (self.operatorApprovals sender) operator approved) },
        [.approvalForAll sender operator approved])

def Identity.transferFrom (self : Identity) (sender : Account)
    (owner receiver : Address) (tokenId : ℕ) : Except Revert Emitted :=
  if receiver = zeroAddress then .error (.invalidReceiver zeroAddress)
  else
    match self.updateToken receiver tokenId sender with
    | .error e => .error e
    | .ok (storage, emitted, previousOwner) =>
        if previousOwner ≠ owner then
          .error (.incorrectOwner owner tokenId previousOwner)
        else .ok (storage, emitted)

def Identity.burn (self : Identity) (sender : Account) (tokenId : ℕ) :
    Except Revert Emitted :=
  match self.updateToken zeroAddress tokenId sender with
  | .error e => .error e
  | .ok (storage, emitted, _) => .ok (storage, emitted)

/-- `_setTokenURI`. -/
def Identity.setTokenURI (self : Identity) (tokenId : ℕ) (uri : String) :
    Emitted :=
  ({ self with tokenURIs := update self.tokenURIs tokenId uri },
    [.metadataUpdate tokenId])

/-- `_mint`. -/
def Identity.mintTo (self : Identity) (receiver : Address) (tokenId : ℕ) :
    Except Revert Emitted :=
  if receiver = zeroAddress then .error (.invalidReceiver zeroAddress)
  else
    match self.updateToken receiver tokenId zeroAddress with
    | .error e => .error e
    | .ok (storage, emitted, previousOwner) =>
        if previousOwner ≠ zeroAddress then
          .error (.invalidSender zeroAddress)
        else .ok (storage, emitted)

/-- `tokenURI`; there is no base URI. -/
def Identity.tokenURI (self : Identity) (tokenId : ℕ) :
    Except Revert String :=
  match self.requireOwned tokenId with
  | .error e => .error e
  | .ok _ => .ok (self.tokenURIs tokenId)

/-! ## The contract -/

/-- `mint` up to the call of the receiver: the new token and its identifier. -/
def Identity.mint (self : Identity) (sender : Account) :
    Except Revert (Emitted × ℕ) :=
  -- checked arithmetic on `uint256`
  if self.tokenIdCounter + 1 < 2 ^ 256 then
    let tokenId := self.tokenIdCounter + 1
    match { self with tokenIdCounter := tokenId }.mintTo sender tokenId with
    | .error e => .error e
    | .ok emitted => .ok (emitted, tokenId)
  else .error .overflow

def Identity.setPolicyURL (self : Identity) (sender : Account) (tokenId : ℕ)
    (newPolicyURL : String) : Except Revert Emitted :=
  match self.requireOwned tokenId with
  | .error e => .error e
  | .ok owner =>
      match self.checkAuthorized owner sender tokenId with
      | .error e => .error e
      | .ok () => .ok (self.setTokenURI tokenId newPolicyURL)

def Identity.setUser (self : Identity) (sender : Account) (tokenId : ℕ)
    (user : Address) (expires : ℕ) : Except Revert Emitted :=
  match self.requireOwned tokenId with
  | .error e => .error e
  | .ok owner =>
      match self.checkAuthorized owner sender tokenId with
      | .error e => .error e
      | .ok () =>
          .ok
            ({ self with
                users := update self.users tokenId
                  { user := user, expires := expires } },
              [.updateUser tokenId user expires])

/-- The user at the time `now`, or zero if expired. -/
def Identity.userOf (self : Identity) (now tokenId : ℕ) : Address :=
  if (self.users tokenId).expires < now then zeroAddress
  else (self.users tokenId).user

def Identity.userExpires (self : Identity) (tokenId : ℕ) : ℕ :=
  (self.users tokenId).expires

def Identity.getTokenURIs (self : Identity) (tokenIds : List ℕ) :
    Except Revert (List String) :=
  tokenIds.mapM self.tokenURI

/-! ## What the checks say -/

theorem requireOwned_eq_ok {self : Identity} {tokenId : ℕ} {owner : Address}
    (howned : self.requireOwned tokenId = .ok owner) :
    owner = self.owners tokenId ∧ self.owners tokenId ≠ zeroAddress := by
  unfold Identity.requireOwned at howned
  split_ifs at howned with hzero
  exact ⟨(Except.ok.inj howned).symm, hzero⟩

theorem checkAuthorized_eq_ok {self : Identity} {owner spender : Address}
    {tokenId : ℕ}
    (hchecked : self.checkAuthorized owner spender tokenId = .ok ()) :
    self.isAuthorized owner spender tokenId = true := by
  unfold Identity.checkAuthorized at hchecked
  split_ifs at hchecked with hauthorized
  exact hauthorized

theorem isAuthorized_owner (self : Identity) (owner : Account) (tokenId : ℕ) :
    self.isAuthorized owner owner tokenId = true := by
  simp [Identity.isAuthorized, owner.2]

/-- The storage after a token went to `receiver`. -/
def Identity.moved (self : Identity) (receiver : Address) (tokenId : ℕ) :
    Identity :=
  { self with
    users :=
      if self.owners tokenId ≠ zeroAddress ∧ receiver ≠ self.owners tokenId then
        update self.users tokenId .none
      else self.users
    owners := update self.owners tokenId receiver
    tokenApprovals :=
      if self.owners tokenId = zeroAddress then self.tokenApprovals
      else update self.tokenApprovals tokenId zeroAddress }

/-- The events of it. -/
def Identity.moveEvents (self : Identity) (receiver : Address) (tokenId : ℕ) :
    List ContractEvent :=
  .transfer (self.owners tokenId) receiver tokenId ::
    if self.owners tokenId ≠ zeroAddress ∧ receiver ≠ self.owners tokenId then
      [.updateUser tokenId zeroAddress 0]
    else []

/-- An update that does not revert was authorized unless it needs no
authorization, and moves the token. -/
theorem updateToken_eq_ok {self : Identity} {receiver : Address} {tokenId : ℕ}
    {auth : Address} {after : Identity} {emitted : List ContractEvent}
    {previousOwner : Address}
    (hupdate : self.updateToken receiver tokenId auth =
      .ok (after, emitted, previousOwner)) :
    (auth ≠ zeroAddress →
      self.isAuthorized (self.owners tokenId) auth tokenId = true) ∧
    after = self.moved receiver tokenId ∧
    emitted = self.moveEvents receiver tokenId ∧
    previousOwner = self.owners tokenId := by
  have hauthorized : ∀ base, self.baseUpdate receiver tokenId auth = .ok base →
      auth ≠ zeroAddress →
        self.isAuthorized (self.owners tokenId) auth tokenId = true := by
    intro base hbase hauth
    simp only [Identity.baseUpdate, if_neg hauth] at hbase
    split at hbase
    · cases hbase
    · rename_i hchecked
      exact checkAuthorized_eq_ok hchecked
  unfold Identity.updateToken at hupdate
  cases hbase : self.baseUpdate receiver tokenId auth with
  | error e => simp [hbase] at hupdate
  | ok base =>
      refine ⟨hauthorized base hbase, ?_⟩
      have hresult : base =
          ({ self with
              tokenApprovals :=
                if self.owners tokenId = zeroAddress then self.tokenApprovals
                else update self.tokenApprovals tokenId zeroAddress
              owners := update self.owners tokenId receiver },
            [.transfer (self.owners tokenId) receiver tokenId],
            self.owners tokenId) := by
        simp only [Identity.baseUpdate] at hbase
        split at hbase
        · cases hbase
        · exact (Except.ok.inj hbase).symm
      rw [hbase, hresult] at hupdate
      dsimp only at hupdate
      by_cases hresets : self.owners tokenId ≠ zeroAddress ∧
          receiver ≠ self.owners tokenId
      · rw [if_pos hresets] at hupdate
        cases hupdate
        simp [Identity.moved, Identity.moveEvents, hresets]
      · rw [if_neg hresets] at hupdate
        cases hupdate
        simp only [Identity.moved, Identity.moveEvents, if_neg hresets]
        exact ⟨trivial, trivial, trivial⟩

end NxccBridge.IdentityContract
