import Mathlib.Data.Int.Notation
import Mathlib.Data.List.AList
import Aegis.Lib.Base64
import Aegis.Lib.Run
import Aegis.Lib.Text

/-!
# The credential vault

`CredentialVaultService` on the table `credentials`.  The cipher is a parameter, and so are the
nonces that `secrets` draws and the time on the clock.

The table is keyed by `credential_id`.
-/

namespace Aegis.Vault

open Aegis.Lib

/-! ## Encryption -/

/-- A key that `__init__` accepts. -/
def MasterKey := {bytes : List UInt8 // bytes.length = 32}

/-- What `secrets.token_bytes(12)` draws. -/
def Nonce := {bytes : List UInt8 // bytes.length = 12}

/-- `AESGCM`, by key, nonce and data, with no associated data.  `decrypt` raises `InvalidTag`
where it has no value here. -/
structure AesGcm where
  encrypt : MasterKey → List UInt8 → List UInt8 → List UInt8
  decrypt : MasterKey → List UInt8 → List UInt8 → Option (List UInt8)

/-- Decryption inverts encryption under the same key and nonce. -/
def AesGcm.Inverts (aes : AesGcm) : Prop :=
  ∀ (key : MasterKey) (nonce : Nonce) (data : List UInt8),
    aes.decrypt key nonce.1 (aes.encrypt key nonce.1 data) = some data

/-- What the service raises. -/
inductive Fault
  | runtimeError (message : String)
  | keyError (message : String)
  /-- `binascii.Error` and `UnicodeDecodeError` -/
  | valueError
  | typeError
  | invalidTag
  deriving DecidableEq

def orRaise {α : Type} (fault : Fault) : Option α → Except Fault α
  | none => .error fault
  | some a => .ok a

structure CredentialVaultService where
  aes : AesGcm
  masterKey : MasterKey

/-- `__init__`, on the value of `AEGIS_MASTER_KEY`. -/
def CredentialVaultService.init (aes : AesGcm) (key : Option String) :
    Except Fault CredentialVaultService := do
  match key with
  | none =>
      throw (.runtimeError ("AEGIS_MASTER_KEY environment variable is missing. "
        ++ "Generate one with security.generate_secret_key() "
        ++ "(base64, must decode to 32 bytes)."))
  | some key =>
      let bytes ← orRaise .valueError (b64decode key)
      if sized : bytes.length = 32 then return ⟨aes, ⟨bytes, sized⟩⟩
      else throw (.runtimeError "AEGIS_MASTER_KEY must decode to exactly 32 bytes.")

/-- What `_encrypt` returns. -/
structure Encrypted where
  nonce : String
  ciphertext : String

/-! ## The table -/

/-- A row of `credentials`, less its key. -/
structure CredentialRow where
  brokerName : String
  server : String
  accountId : String
  tradingNonce : String
  tradingCiphertext : String
  investorNonce : Option String
  investorCiphertext : Option String
  executionEnabled : Bool
  createdAt : ℤ
  updatedAt : ℤ

/-- `credentials`, by `credential_id`. -/
abbrev Credentials := AList fun _ : String => CredentialRow

/-- The arguments of `save_credentials`. -/
structure SaveCredentials where
  credentialId : String
  brokerName : String
  server : String
  accountId : String
  tradingPassword : String
  investorPassword : Option String
  executionEnabled : Bool

/-- The dictionary that a read returns; a password that is not in it is `none`. -/
structure Reading where
  brokerName : String
  server : String
  accountId : String
  executionEnabled : Bool
  tradingPassword : Option String
  investorPassword : Option String
  deriving DecidableEq

namespace CredentialVaultService

variable (self : CredentialVaultService)

/-- `_encrypt`. -/
def encrypt (nonce : Nonce) (plaintext : String) : Encrypted where
  nonce := b64encode nonce.1
  ciphertext := b64encode (self.aes.encrypt self.masterKey nonce.1 (utf8Encode plaintext))

/-- `_decrypt`. -/
def decrypt (nonce ciphertext : String) : Except Fault String := do
  let nonce ← orRaise .valueError (b64decode nonce)
  let ciphertext ← orRaise .valueError (b64decode ciphertext)
  let plain ← orRaise .invalidTag (self.aes.decrypt self.masterKey nonce ciphertext)
  orRaise .valueError (utf8Decode plain)

/-- `self._encrypt(investor_password) if investor_password else None`. -/
def encryptInvestor (nonce : Nonce) : Option String → Option Encrypted
  | none => none
  | some password => if password = "" then none else some (self.encrypt nonce password)

/-- `save_credentials`.  On a conflict the row keeps its `created_at`. -/
def saveCredentials (now : ℤ) (tradingNonce investorNonce : Nonce) (request : SaveCredentials)
    (rows : Credentials) : Credentials :=
  let tradingEnc := self.encrypt tradingNonce request.tradingPassword
  let investorEnc := self.encryptInvestor investorNonce request.investorPassword
  rows.insert request.credentialId
    { brokerName := request.brokerName
      server := request.server
      accountId := request.accountId
      tradingNonce := tradingEnc.nonce
      tradingCiphertext := tradingEnc.ciphertext
      investorNonce := investorEnc.map (·.nonce)
      investorCiphertext := investorEnc.map (·.ciphertext)
      executionEnabled := request.executionEnabled
      createdAt := ((rows.lookup request.credentialId).map (·.createdAt)).getD now
      updatedAt := now }

/-- The last lines of `_row_to_dict`.  An empty `investor_nonce` counts as none. -/
def investorPassword (row : CredentialRow) : Except Fault (Option String) :=
  match row.investorNonce with
  | none => return none
  | some nonce =>
      if nonce = "" then return none
      else do
        let ciphertext ← orRaise .typeError row.investorCiphertext
        return some (← self.decrypt nonce ciphertext)

/-- `_row_to_dict`. -/
def rowToDict (row : CredentialRow) (includeSecrets : Bool) : Except Fault Reading := do
  let base : Reading :=
    { brokerName := row.brokerName
      server := row.server
      accountId := row.accountId
      executionEnabled := row.executionEnabled
      tradingPassword := none
      investorPassword := none }
  if !includeSecrets || !base.executionEnabled then
    return base
  let trading ← self.decrypt row.tradingNonce row.tradingCiphertext
  return { base with
    tradingPassword := some trading
    investorPassword := ← self.investorPassword row }

def getCredentials (credentialId : String) (rows : Credentials) : Except Fault Reading :=
  match rows.lookup credentialId with
  | none => .error (.keyError "Credential not found.")
  | some row => self.rowToDict row true

/-- `select(Credential).where(Credential.account_id == account_id).limit(1)`. -/
def selectByAccount (accountId : String) (rows : Credentials) : Option CredentialRow :=
  (rows.entries.find? (·.2.accountId = accountId)).map (·.2)

def getCredentialsByAccount (accountId : String) (rows : Credentials) :
    Except Fault (Option Reading) :=
  match selectByAccount accountId rows with
  | none => return none
  | some row => return some (← self.rowToDict row true)

def rotateCredentials (now : ℤ) (nonce : Nonce) (credentialId newPassword : String)
    (rows : Credentials) : Except Fault Credentials :=
  let encrypted := self.encrypt nonce newPassword
  match rows.lookup credentialId with
  | none => .error (.keyError "Credential not found.")
  | some row => .ok (rows.insert credentialId
      { row with
        tradingNonce := encrypted.nonce
        tradingCiphertext := encrypted.ciphertext
        updatedAt := now })

def deleteCredentials (credentialId : String) (rows : Credentials) : Credentials :=
  rows.erase credentialId

end CredentialVaultService

/-! ## Calls -/

/-- A call of the service, with what it draws and the time that it reads. -/
inductive Call
  | saveCredentials (now : ℤ) (tradingNonce investorNonce : Nonce) (request : SaveCredentials)
  | rotateCredentials (now : ℤ) (nonce : Nonce) (credentialId newPassword : String)
  | deleteCredentials (credentialId : String)
  | getCredentials (credentialId : String)
  | getCredentialsByAccount (accountId : String)

/-- How a call ends: with `None`, with a dictionary or with an exception. -/
inductive Answer
  | nothing
  | reading (reading : Reading)
  | raised (fault : Fault)
  deriving DecidableEq

def Answer.ofRead : Except Fault (Option Reading) → Answer
  | .ok none => nothing
  | .ok (some found) => reading found
  | .error fault => raised fault

/-- A call on the table. -/
def CredentialVaultService.call (self : CredentialVaultService) (rows : Credentials) :
    Call → Answer × Credentials
  | .saveCredentials now tradingNonce investorNonce request =>
      (.nothing, self.saveCredentials now tradingNonce investorNonce request rows)
  | .rotateCredentials now nonce credentialId newPassword =>
      match self.rotateCredentials now nonce credentialId newPassword rows with
      | .error fault => (.raised fault, rows)
      | .ok after => (.nothing, after)
  | .deleteCredentials credentialId => (.nothing, deleteCredentials credentialId rows)
  | .getCredentials credentialId =>
      (.ofRead ((self.getCredentials credentialId rows).map some), rows)
  | .getCredentialsByAccount accountId =>
      (.ofRead (self.getCredentialsByAccount accountId rows), rows)

/-! ## Lemmas -/

section Lemmas

variable {self : CredentialVaultService}

/-- A key of 32 bytes is accepted in Base64. -/
theorem init_b64encode (aes : AesGcm) (key : MasterKey) :
    CredentialVaultService.init aes (some (b64encode key.1)) = .ok ⟨aes, key⟩ := by
  simp only [CredentialVaultService.init, b64decode_b64encode, orRaise]
  exact dif_pos key.2

theorem decrypt_encrypt (inverts : self.aes.Inverts) (nonce : Nonce) (plaintext : String) :
    self.decrypt (self.encrypt nonce plaintext).nonce (self.encrypt nonce plaintext).ciphertext =
      .ok plaintext := by
  simp only [CredentialVaultService.decrypt, CredentialVaultService.encrypt, b64decode_b64encode,
    orRaise]
  have opened := inverts self.masterKey nonce (utf8Encode plaintext)
  simp only [bind, Except.bind, opened, utf8Decode_utf8Encode]

theorem encrypt_nonce_ne_empty (nonce : Nonce) (plaintext : String) :
    (self.encrypt nonce plaintext).nonce ≠ "" := by
  apply b64encode_ne_empty
  intro empty
  have sized := nonce.2
  rw [empty] at sized
  cases sized

end Lemmas

end Aegis.Vault
