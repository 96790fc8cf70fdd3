import Mathlib.Logic.Equiv.Defs
import Mathlib.Logic.Function.Iterate

/-! Ciphers that turn one symbol at a time, each with the next state of their key stream. -/

structure StreamCipher (κ β : Type) where
  turn : κ → Equiv.Perm β
  next : κ → κ

namespace StreamCipher

variable {κ β : Type} (cipher : StreamCipher κ β)

def encrypt : κ → List β → List β
  | _, [] => []
  | key, symbol :: symbols => cipher.turn key symbol :: encrypt (cipher.next key) symbols

def decrypt : κ → List β → List β
  | _, [] => []
  | key, symbol :: symbols => (cipher.turn key).symm symbol :: decrypt (cipher.next key) symbols

/-- The state after so many symbols. -/
def advance (count : Nat) (key : κ) : κ := cipher.next^[count] key

variable (key : κ) (symbols : List β)

@[simp] theorem encrypt_length :
    (cipher.encrypt key symbols).length = symbols.length := by
  induction symbols generalizing key with
  | nil => rfl
  | cons symbol symbols ih => exact congrArg (· + 1) (ih (cipher.next key))

@[simp] theorem decrypt_length :
    (cipher.decrypt key symbols).length = symbols.length := by
  induction symbols generalizing key with
  | nil => rfl
  | cons symbol symbols ih => exact congrArg (· + 1) (ih (cipher.next key))

@[simp] theorem decrypt_encrypt :
    cipher.decrypt key (cipher.encrypt key symbols) = symbols := by
  induction symbols generalizing key with
  | nil => rfl
  | cons symbol symbols ih =>
    unfold encrypt decrypt
    rw [Equiv.symm_apply_apply, ih]

end StreamCipher
