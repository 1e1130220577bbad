import Aegis.Trading.Desk
import Aegis.Vault.Service

/-!
# The vault is a map

Where `credential_id` is the account id, as in the trading router, the answers of the service
are those of a map from accounts to credentials in plain text (`vault_refines_map`).  The row
of an account `Keeps` its credential: what is stored decrypts to it.

The desk of the trading router has such a map for a vault.
-/

namespace Aegis.Vault

open Aegis.Lib
open Aegis.Trading (Credential Desk)

/-! ## The map -/

/-- The credentials in plain text, by account. -/
abbrev Store := String → Option Credential

/-- An empty investor password means none. -/
def kept (credential : Credential) : Credential :=
  { credential with investorPassword := credential.investorPassword.filter (· ≠ "") }

/-- What a read shows of a credential: no password where execution is disabled. -/
def shown (credential : Credential) : Reading where
  brokerName := credential.brokerName
  server := credential.server
  accountId := credential.accountId
  executionEnabled := credential.executionEnabled
  tradingPassword :=
    if credential.executionEnabled then some credential.tradingPassword else none
  investorPassword := if credential.executionEnabled then credential.investorPassword else none

def SaveCredentials.credential (request : SaveCredentials) : Credential where
  brokerName := request.brokerName
  server := request.server
  accountId := request.accountId
  tradingPassword := request.tradingPassword
  investorPassword := request.investorPassword
  executionEnabled := request.executionEnabled

def Store.save (store : Store) (credential : Credential) : Store :=
  Function.update store credential.accountId (some (kept credential))

/-- A call on the map. -/
def Store.call (store : Store) : Call → Answer × Store
  | .saveCredentials _ _ _ request => (.nothing, store.save request.credential)
  | .rotateCredentials _ _ accountId newPassword =>
      match store accountId with
      | none => (.raised (.keyError "Credential not found."), store)
      | some credential => (.nothing, Function.update store accountId
          (some { credential with tradingPassword := newPassword }))
  | .deleteCredentials accountId => (.nothing, Function.update store accountId none)
  | .getCredentials accountId =>
      match store accountId with
      | none => (.raised (.keyError "Credential not found."), store)
      | some credential => (.reading (shown credential), store)
  | .getCredentialsByAccount accountId =>
      match store accountId with
      | none => (.nothing, store)
      | some credential => (.reading (shown credential), store)

/-- The router saves with `credential_id = request.account_id`. -/
def Call.AsRouter : Call → Prop
  | .saveCredentials _ _ _ request => request.credentialId = request.accountId
  | _ => True

/-- A rotation or a read of a credential that is not there. -/
def Call.Misses (rows : Credentials) : Call → Prop
  | .rotateCredentials _ _ credentialId _ => rows.lookup credentialId = none
  | .getCredentials credentialId => rows.lookup credentialId = none
  | .getCredentialsByAccount accountId =>
      CredentialVaultService.selectByAccount accountId rows = none
  | _ => False

/-! ## Rows -/

section Rows

variable (service : CredentialVaultService)

/-- The row decrypts to the credential. -/
structure Keeps (row : CredentialRow) (credential : Credential) : Prop where
  brokerName : row.brokerName = credential.brokerName
  server : row.server = credential.server
  accountId : row.accountId = credential.accountId
  executionEnabled : row.executionEnabled = credential.executionEnabled
  trading : service.decrypt row.tradingNonce row.tradingCiphertext = .ok credential.tradingPassword
  investor : service.investorPassword row = .ok credential.investorPassword

/-- The table has a row for each account of the map, under its id, and no other. -/
def Represents (rows : Credentials) (store : Store) : Prop :=
  ∀ accountId, Option.Rel
    (fun row credential => row.accountId = accountId ∧ Keeps service row credential)
    (rows.lookup accountId) (store accountId)

variable {service} {rows : Credentials} {store : Store} {row : CredentialRow}
  {credential : Credential} {accountId : String}

theorem rowToDict_of_keeps (keeps : Keeps service row credential) :
    service.rowToDict row true = .ok (shown credential) := by
  unfold CredentialVaultService.rowToDict shown
  simp only [keeps.brokerName, keeps.server, keeps.accountId, keeps.executionEnabled,
    keeps.trading, keeps.investor]
  cases credential.executionEnabled <;> rfl

theorem represents_empty : Represents service ∅ fun _ => none := by
  intro accountId
  rw [AList.lookup_empty]
  exact .none

theorem Represents.lookup_none (represents : Represents service rows store) :
    rows.lookup accountId = none ↔ store accountId = none := by
  have related := represents accountId
  generalize rows.lookup accountId = found at related ⊢
  generalize store accountId = stored at related ⊢
  cases related with
  | some both => exact ⟨nofun, nofun⟩
  | none => exact ⟨fun _ => rfl, fun _ => rfl⟩

theorem Represents.lookup_some (represents : Represents service rows store)
    (stored : store accountId = some credential) :
    ∃ row, rows.lookup accountId = some row ∧ row.accountId = accountId ∧
      Keeps service row credential := by
  have related := represents accountId
  rw [stored] at related
  generalize rows.lookup accountId = found at related ⊢
  cases related with
  | some both => exact ⟨_, rfl, both⟩

theorem represents_insert (represents : Represents service rows store)
    (own : row.accountId = accountId) (keeps : Keeps service row credential) :
    Represents service (rows.insert accountId row)
      (Function.update store accountId (some credential)) := by
  intro other
  by_cases same : other = accountId
  · subst same
    rw [AList.lookup_insert, Function.update_self]
    exact .some ⟨own, keeps⟩
  · rw [AList.lookup_insert_ne same, Function.update_of_ne same]
    exact represents other

theorem represents_erase (represents : Represents service rows store) :
    Represents service (rows.erase accountId) (Function.update store accountId none) := by
  intro other
  by_cases same : other = accountId
  · subst same
    rw [AList.lookup_erase, Function.update_self]
    exact .none
  · rw [AList.lookup_erase_ne same, Function.update_of_ne same]
    exact represents other

theorem Represents.accountId_of_mem (represents : Represents service rows store)
    (member : ⟨accountId, row⟩ ∈ rows.entries) : row.accountId = accountId := by
  have related := represents accountId
  rw [AList.mem_lookup_iff.mpr member] at related
  generalize store accountId = stored at related
  cases related with
  | some both => exact both.1

/-- No two rows have the same account. -/
theorem Represents.selectByAccount (represents : Represents service rows store) :
    CredentialVaultService.selectByAccount accountId rows = rows.lookup accountId := by
  unfold CredentialVaultService.selectByAccount
  cases found : rows.entries.find? (·.2.accountId = accountId) with
  | none =>
      rw [List.find?_eq_none] at found
      cases stored : rows.lookup accountId with
      | none => rfl
      | some row =>
          have member := AList.mem_lookup_iff.mp stored
          exact absurd (decide_eq_true (represents.accountId_of_mem member)) (found _ member)
  | some entry =>
      rcases entry with ⟨credentialId, row⟩
      have member := List.mem_of_find?_eq_some found
      have selected : row.accountId = accountId := by simpa using List.find?_some found
      have own := represents.accountId_of_mem member
      rw [← selected, own]
      exact (AList.mem_lookup_iff.mpr member).symm

theorem decrypt_encryptInvestor (inverts : service.aes.Inverts) {nonce : Nonce}
    {password : Option String} (row : CredentialRow)
    (nonces : row.investorNonce = (service.encryptInvestor nonce password).map (·.nonce))
    (ciphertexts : row.investorCiphertext =
      (service.encryptInvestor nonce password).map (·.ciphertext)) :
    service.investorPassword row = .ok (password.filter (· ≠ "")) := by
  unfold CredentialVaultService.investorPassword
  rw [nonces, ciphertexts]
  cases password with
  | none => rfl
  | some password =>
      by_cases empty : password = ""
      · subst empty
        rfl
      · have stored : service.encryptInvestor nonce (some password) =
            some (service.encrypt nonce password) := if_neg empty
        have given : (some password).filter (· ≠ "") = some password := by
          rw [Option.filter_some, if_pos (decide_eq_true empty)]
        rw [stored, given]
        simp only [Option.map_some, if_neg (encrypt_nonce_ne_empty nonce password), orRaise]
        simp only [bind, Except.bind, decrypt_encrypt inverts]
        rfl

theorem represents_saveCredentials (inverts : service.aes.Inverts)
    (represents : Represents service rows store) {request : SaveCredentials}
    (asRouter : request.credentialId = request.accountId) (now : ℤ)
    (tradingNonce investorNonce : Nonce) :
    Represents service (service.saveCredentials now tradingNonce investorNonce request rows)
      (store.save request.credential) := by
  have own : request.credential.accountId = request.credentialId := asRouter.symm
  unfold CredentialVaultService.saveCredentials Store.save
  rw [own]
  refine represents_insert represents asRouter.symm ⟨rfl, rfl, rfl, rfl, ?_, ?_⟩
  · exact decrypt_encrypt inverts tradingNonce request.tradingPassword
  · exact decrypt_encryptInvestor inverts _ rfl rfl

/-- A rotation replaces the trading password, and leaves the investor's. -/
theorem Keeps.rotated (inverts : service.aes.Inverts) (keeps : Keeps service row credential)
    (now : ℤ) (nonce : Nonce) (newPassword : String) :
    Keeps service
      { row with
        tradingNonce := (service.encrypt nonce newPassword).nonce
        tradingCiphertext := (service.encrypt nonce newPassword).ciphertext
        updatedAt := now }
      { credential with tradingPassword := newPassword } where
  brokerName := keeps.brokerName
  server := keeps.server
  accountId := keeps.accountId
  executionEnabled := keeps.executionEnabled
  trading := decrypt_encrypt inverts nonce newPassword
  investor := keeps.investor

end Rows

/-! ## Calls -/

section Calls

variable {service : CredentialVaultService} {rows : Credentials} {store : Store}

/-- **One call.** -/
theorem call_simulates (inverts : service.aes.Inverts) {call : Call} (asRouter : call.AsRouter)
    (represents : Represents service rows store) :
    (service.call rows call).1 = (store.call call).1 ∧
      Represents service (service.call rows call).2 (store.call call).2 := by
  cases call with
  | saveCredentials now tradingNonce investorNonce request =>
      exact ⟨rfl, represents_saveCredentials inverts represents asRouter _ _ _⟩
  | rotateCredentials now nonce accountId newPassword =>
      simp only [CredentialVaultService.call, CredentialVaultService.rotateCredentials, Store.call]
      cases stored : store accountId with
      | none =>
          rw [represents.lookup_none.mpr stored]
          exact ⟨rfl, represents⟩
      | some credential =>
          obtain ⟨row, found, own, keeps⟩ := represents.lookup_some stored
          rw [found]
          exact ⟨rfl, represents_insert represents own (keeps.rotated inverts _ _ _)⟩
  | deleteCredentials accountId => exact ⟨rfl, represents_erase represents⟩
  | getCredentials accountId =>
      simp only [CredentialVaultService.call, CredentialVaultService.getCredentials, Store.call]
      cases stored : store accountId with
      | none =>
          rw [represents.lookup_none.mpr stored]
          exact ⟨rfl, represents⟩
      | some credential =>
          obtain ⟨row, found, own, keeps⟩ := represents.lookup_some stored
          rw [found]
          dsimp only
          rw [rowToDict_of_keeps keeps]
          exact ⟨rfl, represents⟩
  | getCredentialsByAccount accountId =>
      simp only [CredentialVaultService.call, CredentialVaultService.getCredentialsByAccount,
        Store.call, represents.selectByAccount]
      cases stored : store accountId with
      | none =>
          rw [represents.lookup_none.mpr stored]
          exact ⟨rfl, represents⟩
      | some credential =>
          obtain ⟨row, found, own, keeps⟩ := represents.lookup_some stored
          rw [found]
          dsimp only
          rw [rowToDict_of_keeps keeps]
          exact ⟨rfl, represents⟩

theorem call_of_misses {call : Call} (misses : call.Misses rows) :
    (service.call rows call).2 = rows := by
  cases call with
  | rotateCredentials now nonce credentialId newPassword =>
      have absent : rows.lookup credentialId = none := misses
      simp only [CredentialVaultService.call, CredentialVaultService.rotateCredentials, absent]
  | getCredentials credentialId => rfl
  | getCredentialsByAccount accountId => rfl
  | saveCredentials _ _ _ _ | deleteCredentials _ => exact misses.elim

/-- **The vault refines a map**: used as the router uses it, it gives the answers of a map in
plain text, whose reads show no password where execution is disabled.  A rotation or a read of
what is not there changes nothing. -/
theorem vault_refines_map (inverts : service.aes.Inverts) (calls : List Call)
    (asRouter : ∀ call ∈ calls, call.AsRouter) :
    answers service.call ∅ calls = answers Store.call (fun _ => none) calls ∧
      ∀ rows call, call.Misses rows → (service.call rows call).2 = rows := by
  constructor
  · exact answers_eq (R := Represents service) represents_empty
      fun call among _ _ represents => call_simulates inverts (asRouter call among) represents
  · exact fun _ _ misses => call_of_misses misses

/-- `AES-256-GCM` of `pw` under the key and the nonce of zeros: two bytes and the tag. -/
def sealedPw : List UInt8 :=
  [190, 208, 153, 223, 121, 165, 85, 198, 153, 49, 38, 116, 115, 103, 194, 126, 39, 120]

def zeroKey : MasterKey := ⟨List.replicate 32 0, rfl⟩

def zeroNonce : Nonce := ⟨List.replicate 12 0, rfl⟩

/-- A cipher that agrees with AES-GCM on `pw` under these, and elsewhere only appends a tag. -/
def pwCipher : AesGcm where
  encrypt key nonce data :=
    if key.1 = zeroKey.1 ∧ nonce = zeroNonce.1 ∧ data = utf8Encode "pw" then sealedPw
    else data ++ List.replicate 16 0
  decrypt key nonce data :=
    if key.1 = zeroKey.1 ∧ nonce = zeroNonce.1 ∧ data = sealedPw then some (utf8Encode "pw")
    else if data.drop (data.length - 16) = List.replicate 16 0 then
      some (data.take (data.length - 16))
    else none

theorem inverts_pwCipher : pwCipher.Inverts := by
  intro key nonce data
  unfold pwCipher
  by_cases sample : key.1 = zeroKey.1 ∧ nonce.1 = zeroNonce.1 ∧ data = utf8Encode "pw"
  · obtain ⟨sameKey, sameNonce, rfl⟩ := sample
    dsimp only
    rw [if_pos (⟨sameKey, sameNonce, rfl⟩ : _ ∧ _ ∧ utf8Encode "pw" = _),
      if_pos ⟨sameKey, sameNonce, rfl⟩]
  · have length : (data ++ List.replicate 16 0).length - 16 = data.length := by
      rw [List.length_append, List.length_replicate, Nat.add_sub_cancel]
    have other : data ++ List.replicate 16 (0 : UInt8) ≠ sealedPw := by
      intro same
      have last := congrArg List.getLast? same
      rw [List.getLast?_append] at last
      have apart : (some 0 : Option UInt8) ≠ some 120 := by decide
      exact apart last
    dsimp only
    rw [if_neg sample, if_neg fun both => other both.2.2, length, List.drop_left,
      List.take_left, if_pos rfl]

/-- An account is connected, its password rotated, its execution disabled, and its credential
deleted. -/
def vaultCalls : List Call :=
  [.saveCredentials 0 zeroNonce zeroNonce
      ⟨"1", "MetaTrader5", "ICMarketsSC-Demo", "1", "pw", some "", true⟩,
    .getCredentialsByAccount "1",
    .rotateCredentials 1 zeroNonce "1" "new",
    .getCredentials "1",
    .saveCredentials 2 zeroNonce zeroNonce
      ⟨"1", "MetaTrader5", "ICMarketsSC-Demo", "1", "pw", some "view", false⟩,
    .getCredentialsByAccount "1",
    .deleteCredentials "1",
    .rotateCredentials 3 zeroNonce "1" "late",
    .getCredentialsByAccount "1"]

theorem vault_refines_map_vaultCalls :
    ∃ service, CredentialVaultService.init pwCipher (some (b64encode zeroKey.1)) = .ok service ∧
      answers service.call ∅ vaultCalls =
        [.nothing,
          .reading ⟨"MetaTrader5", "ICMarketsSC-Demo", "1", true, some "pw", none⟩,
          .nothing,
          .reading ⟨"MetaTrader5", "ICMarketsSC-Demo", "1", true, some "new", none⟩,
          .nothing,
          .reading ⟨"MetaTrader5", "ICMarketsSC-Demo", "1", false, none, none⟩,
          .nothing,
          .raised (.keyError "Credential not found."),
          .nothing] := by
  refine ⟨⟨pwCipher, zeroKey⟩, init_b64encode pwCipher zeroKey, ?_⟩
  have asRouter : ∀ call ∈ vaultCalls, call.AsRouter := by
    simp only [vaultCalls, List.forall_mem_cons, List.not_mem_nil, Call.AsRouter]
    simp
  exact (vault_refines_map inverts_pwCipher vaultCalls asRouter).1.trans rfl

end Calls

/-! ## The desk -/

/-- The vault of a desk, as a map. -/
def deskStore (desk : Desk) : Store := fun accountId => (desk.vault accountId).map kept

theorem deskStore_saveCredentials (desk : Desk) (credential : Credential) :
    deskStore ((Trading.saveCredentials credential).run desk).2 =
      (deskStore desk).save credential :=
  Function.comp_update (Option.map kept) desk.vault credential.accountId (some credential)

theorem deskStore_getCredentialsByAccount {desk : Desk} {accountId : String}
    {stored : Option Credential}
    (found : ((Trading.getCredentialsByAccount accountId).run desk).1 = .ok stored) :
    ((deskStore desk).call (.getCredentialsByAccount accountId)).1 =
      stored.elim .nothing fun credential => .reading (shown (kept credential)) := by
  cases found
  simp only [Store.call, deskStore]
  cases desk.vault accountId <;> rfl

end Aegis.Vault
