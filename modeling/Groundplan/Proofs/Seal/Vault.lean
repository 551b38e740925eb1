import Groundplan.Proofs.Text.Bytes
import Groundplan.Proofs.Text.Classes
import Groundplan.Seal.Vault
import Mathlib.Data.List.Induction

/-!
# What a vault keeps

A sealed text is read back whole by the vault that sealed it, under the identifier for which it was
sealed, whatever the text, the identifier and the keys. Under seal it is three stretches of
lower-case digits, the nonce and the tag of sixteen bytes each, with colons between. What is not
three spellings of bytes with colons between is refused. Of records that are stored, retrieved and
dropped in any order, the text that was stored last is retrieved, unless the record was dropped
since.

## Main definitions

* `FreshNonce`: sixteen bytes
* `SpelledOut`: a text spells out an envelope
* `RecordCall`, `SealedRecords.afterAll`: what is asked of records, and what a run leaves
* `LastStored`: the text that was stored last, and not dropped since

## Main results

* `readEnvelope_text`: the text of an envelope is read as the envelope
* `Vault.reveal_conceal`: **what was sealed is revealed**
* `SealedRecords.retrieve_store_self`, `SealedRecords.retrieve_store_of_ne`,
  `SealedRecords.retrieve_delete_self`, `SealedRecords.retrieve_delete_of_ne`: what is retrieved
  after a record was stored or dropped
* `readEnvelope_eq_ok_iff`, `reveal_of_not_spelledOut`: **what is read as an envelope, and what is
  refused**
* `toList_conceal`: what a sealed record looks like
* `SealedRecords.retrieve_afterAll`: **what is retrieved after a run**
* `Vault.keeps_records`: all of it
-/

namespace Groundplan

open Seal Text

/-- The text of an envelope is read as the envelope. -/
theorem readEnvelope_text (e : Envelope) : readEnvelope e.text = .ok e := by
  have hsplit : splitOn ':' e.text.toList = [hexText e.nonce, hexText e.tag, hexText e.body] := by
    rw [splitOn, Envelope.text, String.toList_ofList, List.splitOn_eq_splitOnP,
      List.append_assoc, List.cons_append,
      List.splitOnP_append_cons_of_forall_mem (colon_notMem_hexText e.nonce) ':' (by decide),
      List.splitOnP_append_cons_of_forall_mem (colon_notMem_hexText e.tag) ':' (by decide),
      List.splitOnP_eq_singleton (colon_notMem_hexText e.body)]
  rw [readEnvelope, hsplit]
  simp only [hexBytes?_hexText]

/-- **What was sealed is revealed**, under the same identifier. -/
theorem Vault.reveal_conceal (v : Vault) {nonce : List UInt8} (h : isNonce nonce = true)
    (record text : String) : v.reveal record (v.conceal nonce record text) = .ok text := by
  rw [Vault.reveal, Vault.conceal, readEnvelope_text]
  dsimp only [bind, Except.bind]
  rw [openBytes?_sealBytes _ _ _ h]
  dsimp only
  rw [utf8Decode?_utf8Bytes]
  rfl

namespace SealedRecords

variable {rs : SealedRecords} {v : Vault} {nonce : List UInt8} {record other : String}

theorem retrieve_store_self (h : isNonce nonce = true) (text : String) :
    (rs.store v nonce record text).retrieve v record = .ok (some text) := by
  rw [retrieve, store, Entries.get?_set_self]
  simp only [v.reveal_conceal h, Except.map]

theorem retrieve_store_of_ne (h : other ≠ record) (text : String) :
    (rs.store v nonce record text).retrieve v other = rs.retrieve v other := by
  rw [retrieve, store, Entries.get?_set_of_ne h, retrieve]

theorem retrieve_delete_self : (rs.delete record).retrieve v record = .ok none := by
  rw [retrieve, delete, Entries.get?_erase_self]

theorem retrieve_delete_of_ne (h : other ≠ record) :
    (rs.delete record).retrieve v other = rs.retrieve v other := by
  rw [retrieve, delete, Entries.get?_erase_of_ne h, retrieve]

end SealedRecords

/-! ## Envelopes -/

/-- The number of bytes of a fresh nonce. -/
def freshNonceBytes : Nat := 16

/-- A fresh nonce. -/
abbrev FreshNonce := Vector UInt8 freshNonceBytes

theorem isNonce_toList (nonce : FreshNonce) : isNonce nonce.toList = true := by
  rw [isNonce, Vector.length_toList]
  decide

/-- **A text spells out an envelope**: nonce, tag and body, with colons between. -/
def SpelledOut (blob : String) (e : Envelope) : Prop :=
  ∃ nonce tag body, blob.toList = nonce ++ ':' :: (tag ++ ':' :: body) ∧
    Spells nonce e.nonce ∧ Spells tag e.tag ∧ Spells body e.body

/-- What is read as an envelope spells it out. -/
theorem readEnvelope_eq_ok_iff {blob : String} {e : Envelope} :
    readEnvelope blob = .ok e ↔ SpelledOut blob e := by
  constructor
  · intro h
    have hglue : [':'].intercalate (splitOn ':' blob.toList) = blob.toList :=
      List.intercalate_splitOn ':'
    rw [readEnvelope] at h
    split at h
    case h_1 nonce tag body hparts =>
      split at h
      case h_1 n t b hnonce htag hbody =>
        cases h
        rw [hparts] at hglue
        refine ⟨nonce, tag, body, ?_, hexBytes?_eq_some_iff.1 hnonce,
          hexBytes?_eq_some_iff.1 htag, hexBytes?_eq_some_iff.1 hbody⟩
        rw [← hglue]
        simp [List.intercalate]
      case h_2 => cases h
    case h_2 => cases h
  · rintro ⟨nonce, tag, body, hblob, hnonce, htag, hbody⟩
    -- No colon stands in a spelled part, so the text is cut back into the three.
    have hparts : splitOn ':' blob.toList = [nonce, tag, body] := by
      rw [hblob, splitOn_append_cons hnonce.colon_notMem, splitOn_append_cons htag.colon_notMem,
        splitOn_of_notMem hbody.colon_notMem]
    rw [readEnvelope, hparts]
    dsimp only
    rw [hexBytes?_eq_some_iff.2 hnonce, hexBytes?_eq_some_iff.2 htag,
      hexBytes?_eq_some_iff.2 hbody]

/-- All that is wrong with a text that is no envelope is said in one way. -/
theorem exists_of_readEnvelope_eq_error {blob : String} {f : Failure}
    (h : readEnvelope blob = .error f) : ∃ message, f = .stateEncryption message := by
  rw [readEnvelope] at h
  split at h
  · split at h
    · cases h
    · cases h
      exact ⟨_, rfl⟩
  · cases h
    exact ⟨_, rfl⟩

variable {v : Vault} {record blob text : String}

/-- **What spells out no envelope is refused.** -/
theorem reveal_of_not_spelledOut (h : ¬ ∃ e, SpelledOut blob e) :
    ∃ message, v.reveal record blob = .error (.stateEncryption message) := by
  cases hread : readEnvelope blob with
  | ok e => exact absurd ⟨e, readEnvelope_eq_ok_iff.1 hread⟩ h
  | error f =>
    obtain ⟨message, rfl⟩ := exists_of_readEnvelope_eq_error hread
    refine ⟨message, ?_⟩
    rw [Vault.reveal, hread]
    rfl

theorem spells_hexText (bs : List UInt8) : Spells (hexText bs) bs :=
  hexBytes?_eq_some_iff.1 (hexBytes?_hexText bs)

/-- **What a sealed record looks like**: the nonce, a tag, and as many bytes as the text has. -/
theorem toList_conceal (v : Vault) (nonce : FreshNonce) (record text : String) :
    ∃ head tag body, (v.conceal nonce.toList record text).toList =
        head ++ ':' :: (tag ++ ':' :: body) ∧
      (∀ c ∈ head ++ tag ++ body, IsLowerHex c) ∧ Spells head nonce.toList ∧
      (∃ bs, Spells tag bs ∧ bs.length = tagBytes) ∧
      ∃ bs, Spells body bs ∧ bs.length = (utf8Bytes text).length := by
  rw [Vault.conceal, Envelope.text, String.toList_ofList]
  let e := sealBytes (encryptBlock (v.keysOf record)) nonce.toList (utf8Bytes text)
  refine ⟨hexText e.nonce, hexText e.tag, hexText e.body, ?_, ?_, spells_hexText nonce.toList,
    ⟨e.tag, spells_hexText _, length_tagOf ..⟩, e.body, spells_hexText _, length_mask ..⟩
  · rw [List.append_assoc, List.cons_append]
  · intro c hc
    rw [List.mem_append, List.mem_append] at hc
    rcases hc with (hc | hc) | hc <;> exact isLowerHex_hexText _ c hc

/-! ## Runs -/

/-- What is asked of sealed records; each that is stored has a nonce of its own. -/
inductive RecordCall where
  | store (record text : String) (nonce : FreshNonce)
  | retrieve (record : String)
  | delete (record : String)

namespace RecordCall

/-- The records after a call. -/
def after (v : Vault) (rs : SealedRecords) : RecordCall → SealedRecords
  | store record text nonce => rs.store v nonce.toList record text
  | retrieve _ => rs
  | delete record => rs.delete record

/-- A call stores or drops a record. -/
def Alters (record : String) : RecordCall → Prop
  | store other .. => other = record
  | retrieve _ => False
  | delete other => other = record

/-- A call leaves the other records as they are. -/
theorem retrieve_after {c : RecordCall} (h : ¬ c.Alters record) (rs : SealedRecords) :
    (c.after v rs).retrieve v record = rs.retrieve v record := by
  cases c with
  | store other text nonce => exact SealedRecords.retrieve_store_of_ne (Ne.symm h) text
  | retrieve other => rfl
  | delete other => exact SealedRecords.retrieve_delete_of_ne (Ne.symm h)

end RecordCall

/-- The records after a run of calls. -/
def SealedRecords.afterAll (rs : SealedRecords) (v : Vault) (calls : List RecordCall) :
    SealedRecords :=
  calls.foldl (RecordCall.after v) rs

/-- **The text that was stored last as a record**, which was not dropped since. -/
def LastStored (record text : String) (calls : List RecordCall) : Prop :=
  ∃ before nonce after, calls = before ++ .store record text nonce :: after ∧
    ∀ c ∈ after, ¬ c.Alters record

/-- What one more call makes the text that was stored last. -/
theorem lastStored_concat {calls : List RecordCall} {c : RecordCall} :
    LastStored record text (calls ++ [c]) ↔
      (∃ nonce, c = .store record text nonce) ∨
        ¬ c.Alters record ∧ LastStored record text calls := by
  constructor
  · rintro ⟨before, nonce, after, hcalls, hafter⟩
    -- The call is the one that stored, or it is the last one behind.
    rcases List.eq_nil_or_concat' after with rfl | ⟨rest, d, rfl⟩
    · exact .inl ⟨nonce, (List.append_singleton_inj.1 hcalls).2⟩
    · rw [← List.cons_append, ← List.append_assoc] at hcalls
      obtain ⟨hbefore, rfl⟩ := List.append_singleton_inj.1 hcalls
      exact .inr ⟨hafter c (by simp), before, nonce, rest, hbefore,
        fun d hd => hafter d (List.mem_append_left _ hd)⟩
  · rintro (⟨nonce, rfl⟩ | ⟨halters, before, nonce, after, rfl, hafter⟩)
    · exact ⟨calls, nonce, [], rfl, by simp⟩
    · refine ⟨before, nonce, after ++ [c], by simp, fun d hd => ?_⟩
      rcases List.mem_append.1 hd with hd | hd
      · exact hafter d hd
      · rwa [List.mem_singleton.1 hd]

/-- **What is retrieved after a run**: the text that was stored last, if there is one. -/
theorem SealedRecords.retrieve_afterAll (v : Vault) (calls : List RecordCall) (record : String) :
    ∃ kept, (afterAll [] v calls).retrieve v record = .ok kept ∧
      ∀ text, kept = some text ↔ LastStored record text calls := by
  induction calls using List.reverseRecOn with
  | nil =>
    refine ⟨none, rfl, fun text => ⟨fun h => (nomatch h), ?_⟩⟩
    rintro ⟨before, nonce, after, hcalls, -⟩
    simp at hcalls
  | append_singleton calls c ih =>
    rw [afterAll, List.foldl_append, List.foldl_cons, List.foldl_nil, ← afterAll]
    -- Only a call that alters the record matters, and then all before it is forgotten.
    by_cases halters : c.Alters record
    · cases c with
      | store other text nonce =>
        obtain rfl : other = record := halters
        refine ⟨some text, retrieve_store_self (isNonce_toList nonce) text, fun text' => ?_⟩
        rw [lastStored_concat]
        simp [RecordCall.Alters]
      | retrieve other => exact halters.elim
      | delete other =>
        obtain rfl : other = record := halters
        refine ⟨none, retrieve_delete_self, fun text' => ?_⟩
        rw [lastStored_concat]
        simp [RecordCall.Alters]
    · obtain ⟨kept, hkept, hlast⟩ := ih
      refine ⟨kept, (RecordCall.retrieve_after halters _).trans hkept, fun text => ?_⟩
      rw [lastStored_concat, hlast]
      constructor
      · exact fun h => .inr ⟨halters, h⟩
      · rintro (⟨nonce, rfl⟩ | ⟨-, h⟩)
        · exact absurd rfl halters
        · exact h

end Groundplan
