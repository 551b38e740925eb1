import Groundplan.Failure
import Groundplan.Seal.Scrypt
import Groundplan.Seal.Sealed
import Groundplan.Text.Bytes

/-!
# The vault

Records are kept sealed, each under a key of its own that is derived from a master key and the
identifier of the record. A sealed record is a text: nonce, tag and body in hexadecimal, with colons
between.

## Main definitions

* `Vault`: the keys of records
* `Vault.conceal`, `Vault.concealWith`, `Vault.reveal`: sealing and opening a record
* `Vault.revealData`: opening whatever is given as a sealed record
* `SealedRecords`: sealed records by identifier
* `SealedRecords.store`, `SealedRecords.retrieve`, `SealedRecords.delete`
-/

namespace Groundplan

open Seal Text

/-! ## Envelopes as texts -/

/-- The text of an envelope. -/
def Seal.Envelope.text (e : Envelope) : String :=
  String.ofList (hexText e.nonce ++ ':' :: hexText e.tag ++ ':' :: hexText e.body)

/-- The envelope of a text, or why there is none. -/
def readEnvelope (s : String) : Answer Envelope :=
  match splitOn ':' s.toList with
  | [nonce, tag, body] =>
    match hexBytes? nonce, hexBytes? tag, hexBytes? body with
    | some n, some t, some b => .ok ⟨n, t, b⟩
    | _, _, _ => .error (.stateEncryption "Invalid encrypted data format: not hex")
  | _ => .error (.stateEncryption "Invalid encrypted data format: expected iv:tag:ciphertext")

/-! ## Vaults -/

/-- A vault: the keys of the stages of the cipher for each record. -/
structure Vault where
  keysOf : String → List (List UInt8)

/-- The key of a record under a master key. -/
def recordKey (masterKey record : String) : List UInt8 :=
  scrypt (utf8Bytes masterKey) (utf8Bytes record)

namespace Vault

/-- The vault of a master key. -/
def ofMaster (masterKey : String) : Vault where
  keysOf := fun record => roundKeys (recordKey masterKey record)

/-- The vault of a master key, which must not be empty. -/
def make (masterKey : String) : Answer Vault :=
  if masterKey == "" then .error (.stateEncryption "STATE_ENCRYPTION_KEY is not configured")
  else .ok (ofMaster masterKey)

/-- **Seals a text** as a record, with a fresh nonce. -/
def conceal (v : Vault) (nonce : List UInt8) (record text : String) : String :=
  (sealBytes (encryptBlock (v.keysOf record)) nonce (utf8Bytes text)).text

/-- Seals a text with a nonce that may be unfit for it. -/
def concealWith (v : Vault) (nonce : List UInt8) (record text : String) : Answer String :=
  if isNonce nonce then .ok (v.conceal nonce record text)
  else .error (.badValue "Nonce must be between 8 and 128 bytes")

/-- **Opens a sealed record.** -/
def reveal (v : Vault) (record blob : String) : Answer String := do
  let e ← readEnvelope blob
  match openBytes? (encryptBlock (v.keysOf record)) e with
  | none => throw (.stateEncryption "Decryption failed")
  | some bs =>
    match utf8Decode? bs with
    | some s => return s
    | none => throw (.mismatch .encoding)

end Vault

/-- The identifier or master key in a value, which must be a text. Lists and maps cannot even be
looked up. -/
def keyText : Data → Answer String
  | .text s => .ok s
  | .list _ | .map _ => .error (.mismatch .kind)
  | _ => .error (.mismatch .member)

/-- Opens a sealed record that may be no text at all, under an identifier that may be none. -/
def Vault.revealData (v : Vault) (record : Data) : Data → Answer String
  | .text blob => do
    let _ ← readEnvelope blob
    v.reveal (← keyText record) blob
  | _ => .error (.stateEncryption "Invalid encrypted data format: expected iv:tag:ciphertext")

/-! ## Records -/

/-- Sealed records by identifier. -/
abbrev SealedRecords := Entries String

namespace SealedRecords

/-- Seals and keeps a text. -/
def store (rs : SealedRecords) (v : Vault) (nonce : List UInt8) (record text : String) :
    SealedRecords :=
  Entries.set record (v.conceal nonce record text) rs

/-- The text of a record, if one is kept. -/
def retrieve (rs : SealedRecords) (v : Vault) (record : String) : Answer (Option String) :=
  match Entries.get? record rs with
  | none => .ok none
  | some blob => (v.reveal record blob).map some

/-- Drops a record. -/
def delete (rs : SealedRecords) (record : String) : SealedRecords :=
  Entries.erase record rs

end SealedRecords

end Groundplan
