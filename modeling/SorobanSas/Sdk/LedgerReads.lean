import SorobanSas.Sas.OffchainCopies
import SorobanSas.Sdk.Sequence

namespace SorobanSas.Sdk

open Library
open Sas (StoredRecord Slot getAttestation)

/-!
# Raw reads of the ledger

`get_attestation_ledger` does not ask the contract.  It fetches the ledger entry under the UID and
decodes the value as an `Attestation`.  The contract has kept the compact layout there since it was
introduced, and the client does not know that layout.  The host inside the client does not refuse the
conversion with an `Err`: it panics, as in the contract.

The server and the XDR codec are parameters.  A value that comes out of a ledger entry is encoded
and decoded once more on the way, which changes nothing.
-/

/-- How a call of the client ends without a value. -/
inductive Failure where
  | err (error : SdkError)
  | panics
  deriving DecidableEq

/-- `LedgerEntryData`.  The text is what the other kinds of entries print as. -/
inductive LedgerEntryData where
  | contractData (val : StoredRecord)
  | other (text : String)

/-- `getLedgerEntries` for the key that is made of a UID, and `LedgerEntryData::from_xdr_base64`. -/
structure LedgerServer where
  getLedgerEntries : UID -> Except SdkError (List String)
  fromXdrBase64 : String -> Except String LedgerEntryData

variable (server : LedgerServer)

/-- `simulate::decode_result` at the type `Attestation`. -/
def decodeResult : StoredRecord -> Except Failure Attestation
  | .legacy record => .ok record
  | .compact _ => .error .panics

/-- What is made of the first entry. -/
def attestationFromData : Except String LedgerEntryData -> Except Failure (Option Attestation)
  | .error reason => .error (.err (.decodingError ("failed to decode ledger entry xdr: " ++ reason)))
  | .ok (.other text) =>
    .error (.err (.validationError ("expected a ContractData ledger entry, got " ++ text)))
  | .ok (.contractData val) => (decodeResult val).map some

def attestationFromLedgerEntries : List String -> Except Failure (Option Attestation)
  | [] => .ok none
  | entry :: _ => attestationFromData (server.fromXdrBase64 entry)

/-- `get_attestation_ledger`, of a client whose contract id is well formed. -/
def getAttestationLedger (uid : UID) : Except Failure (Option Attestation) := do
  let entries <- (server.getLedgerEntries uid).mapError .err
  attestationFromLedgerEntries server entries

/-- The server answers with the entry that the contract has stored under the UID, if there is one. -/
def LedgerServer.Serves (state : Sas.State) (uid : UID) : Prop :=
  ∃ entries, server.getLedgerEntries uid = .ok entries ∧ entries.map server.fromXdrBase64 =
      (state.persistent.entry uid).toList.map fun val => .ok (.contractData val)

variable {server} {state : Sas.State} {uid : UID}

theorem getAttestationLedger_eq (serves : server.Serves state uid) :
    getAttestationLedger server uid = match state.persistent.entry uid with
      | none => .ok none
      | some val => (decodeResult val).map some := by
  rcases serves with ⟨entries, answered, decoded⟩
  rw [getAttestationLedger, answered]
  change attestationFromLedgerEntries server entries = _
  cases stored : state.persistent.entry uid with
  | none =>
    rw [stored] at decoded
    rw [List.map_eq_nil_iff.mp decoded]
    rfl
  | some val =>
    rw [stored] at decoded
    rcases List.map_eq_cons_iff.mp decoded with ⟨entry, rest, rfl, first, -⟩
    rw [attestationFromLedgerEntries, first]
    rfl

/-- No record that the contract returns is read off the ledger.  Either there is nothing under the UID,
or the client panics. -/
theorem ledger_read_never (server : LedgerServer) (state : Sas.State) (uid : UID) (record : Attestation)
    (serves : server.Serves state uid) (returned : getAttestation state uid = .ok (some record)) :
    getAttestationLedger server uid ≠ .ok (some record) := by
  rcases Sas.readAttestation_eq_ok.mp returned with ⟨unlike, stored⟩
  rw [getAttestationLedger_eq serves, Sas.State.persistent]
  dsimp only
  rcases Slot.layout_of_content stored with legacy | keyed | ⟨compact, entry⟩
  · cases unlike.symm.trans legacy
  · rw [(state.records uid).single.resolve_left keyed]
    rintro ⟨⟩
  · rw [entry]
    rintro ⟨⟩

/-- A server that knows the entry of one UID, which it prints as one letter. -/
def serverOf (state : Sas.State) (uid : UID) : LedgerServer where
  getLedgerEntries := fun _ => .ok ((state.persistent.entry uid).toList.map fun _ => "A")
  fromXdrBase64 := fun _ => match state.persistent.entry uid with
    | some val => .ok (.contractData val)
    | none => .error "Invalid"

theorem serverOf_serves (state : Sas.State) (uid : UID) : (serverOf state uid).Serves state uid := by
  refine ⟨_, rfl, ?_⟩
  rw [serverOf]
  cases state.persistent.entry uid <;> rfl

open Sas (okAnswer okHost relayCrypto answeredUnderKey)

/-- The service after an answer was issued through it. -/
def answered : Sas.State := (run (Sas.advance okHost relayCrypto) ⟨Sas.State.deployed, ()⟩ answeredUnderKey).sas

theorem ledger_read_never_issued : getAttestationLedger (serverOf answered (okAnswer true).uid) (okAnswer true).uid ≠
    .ok (some (okAnswer true)) := ledger_read_never _ answered _ _ (serverOf_serves _ _) rfl

/-- The client panics on a record that was issued through the contract. -/
theorem ledger_read_panics : getAttestation answered (okAnswer true).uid = .ok (some (okAnswer true)) ∧
      (serverOf answered (okAnswer true).uid).Serves answered (okAnswer true).uid ∧
      getAttestationLedger (serverOf answered (okAnswer true).uid) (okAnswer true).uid = .error .panics :=
  ⟨rfl, serverOf_serves _ _, rfl⟩

end SorobanSas.Sdk
