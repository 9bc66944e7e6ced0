import Mathlib.Data.Set.Basic

/-!
# Ideal authenticated encryption

A decryption function in terms of the sealings that were made: it opens these,
nothing else, and what a sealing yields tells which one it was.
-/

namespace NxccBridge.Aead

variable {Key Nonce Message Aad Ciphertext : Type*}

/-- One call of the encryption. -/
structure Sealing (Key Nonce Message Aad Ciphertext : Type*) where
  key : Key
  nonce : Nonce
  message : Message
  aad : Aad
  ciphertext : Ciphertext

structure IdealAead
    (decrypt : Key → Nonce → Ciphertext → Aad → Option Message)
    (made : Set (Sealing Key Nonce Message Aad Ciphertext)) : Prop where
  opens : ∀ sealing ∈ made, decrypt sealing.key sealing.nonce
    sealing.ciphertext sealing.aad = some sealing.message
  only : ∀ key nonce ciphertext aad message,
    decrypt key nonce ciphertext aad = some message →
      ⟨key, nonce, message, aad, ciphertext⟩ ∈ made
  apart : ∀ first ∈ made, ∀ second ∈ made, first.nonce = second.nonce →
    first.ciphertext = second.ciphertext → first = second

namespace IdealAead

variable {decrypt : Key → Nonce → Ciphertext → Aad → Option Message}
variable {made : Set (Sealing Key Nonce Message Aad Ciphertext)}

/-- A sealed message opens only with what it was sealed with. -/
theorem unique (hideal : IdealAead decrypt made)
    {sealing : Sealing Key Nonce Message Aad Ciphertext}
    (hmade : sealing ∈ made) {key : Key} {aad : Aad} {message : Message}
    (hopened : decrypt key sealing.nonce sealing.ciphertext aad =
      some message) :
    key = sealing.key ∧ aad = sealing.aad ∧ message = sealing.message := by
  have hsame := hideal.apart _ (hideal.only _ _ _ _ _ hopened) sealing hmade
    rfl rfl
  rw [← hsame]
  exact ⟨rfl, rfl, rfl⟩

end IdealAead

end NxccBridge.Aead
