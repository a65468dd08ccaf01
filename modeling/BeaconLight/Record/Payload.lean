import BeaconLight.Chain.Preset
import BeaconLight.Record.Beacon

/-!
# Execution payload headers

The header of an execution payload as of capella, and as of deneb, which adds two fields at
the end.
-/

namespace BeaconLight

/-- Extra data of an execution block. -/
abbrev ExtraData : Type := { bytes : List UInt8 // bytes.length ≤ Preset.extraDataLimit }

/-- The header of an execution payload as of capella. -/
structure CapellaPayload where
  parentHash : Root
  feeRecipient : Bytes Preset.addressSize
  stateRoot : Root
  receiptsRoot : Root
  logsBloom : Bytes Preset.logsBloomSize
  prevRandao : Root
  blockNumber : BitVec 64
  gasLimit : BitVec 64
  gasUsed : BitVec 64
  timestamp : BitVec 64
  extraData : ExtraData
  baseFeePerGas : BitVec 256
  blockHash : Root
  transactionsRoot : Root
  withdrawalsRoot : Root
  deriving DecidableEq

/-- The header of an execution payload as of deneb. -/
structure DenebPayload extends CapellaPayload where
  blobGasUsed : BitVec 64
  excessBlobGas : BitVec 64
  deriving DecidableEq

/-- The fields that payload headers have as of capella, in front of others. -/
def payloadFields (rest : Fields) : Fields :=
  .cons "parent_hash" .root <|
  .cons "fee_recipient" (.bytes Preset.addressSize .checksum) <|
  .cons "state_root" .root <|
  .cons "receipts_root" .root <|
  .cons "logs_bloom" (.bytes Preset.logsBloomSize .lower) <|
  .cons "prev_randao" .root <|
  .cons "block_number" .uint64 <|
  .cons "gas_limit" .uint64 <|
  .cons "gas_used" .uint64 <|
  .cons "timestamp" .uint64 <|
  .cons "extra_data" (.byteList Preset.extraDataLimit) <|
  .cons "base_fee_per_gas" (.uint 32) <|
  .cons "block_hash" .root <|
  .cons "transactions_root" .root <|
  .cons "withdrawals_root" .root rest

instance : Layout CapellaPayload where
  fields := payloadFields .nil
  toValues x :=
    (x.parentHash, x.feeRecipient, x.stateRoot, x.receiptsRoot, x.logsBloom, x.prevRandao,
      x.blockNumber, x.gasLimit, x.gasUsed, x.timestamp, x.extraData, x.baseFeePerGas,
      x.blockHash, x.transactionsRoot, x.withdrawalsRoot, ())
  ofValues
    | (parentHash, feeRecipient, stateRoot, receiptsRoot, logsBloom, prevRandao, blockNumber,
        gasLimit, gasUsed, timestamp, extraData, baseFeePerGas, blockHash, transactionsRoot,
        withdrawalsRoot, ()) =>
      { parentHash, feeRecipient, stateRoot, receiptsRoot, logsBloom, prevRandao, blockNumber,
        gasLimit, gasUsed, timestamp, extraData, baseFeePerGas, blockHash, transactionsRoot,
        withdrawalsRoot }
  ofValues_toValues _ := rfl
  toValues_ofValues _ := rfl

instance : Layout DenebPayload where
  fields :=
    payloadFields <|
    .cons "blob_gas_used" .uint64 <|
    .cons "excess_blob_gas" .uint64 .nil
  toValues x :=
    (x.parentHash, x.feeRecipient, x.stateRoot, x.receiptsRoot, x.logsBloom, x.prevRandao,
      x.blockNumber, x.gasLimit, x.gasUsed, x.timestamp, x.extraData, x.baseFeePerGas,
      x.blockHash, x.transactionsRoot, x.withdrawalsRoot, x.blobGasUsed, x.excessBlobGas, ())
  ofValues
    | (parentHash, feeRecipient, stateRoot, receiptsRoot, logsBloom, prevRandao, blockNumber,
        gasLimit, gasUsed, timestamp, extraData, baseFeePerGas, blockHash, transactionsRoot,
        withdrawalsRoot, blobGasUsed, excessBlobGas, ()) =>
      { parentHash, feeRecipient, stateRoot, receiptsRoot, logsBloom, prevRandao, blockNumber,
        gasLimit, gasUsed, timestamp, extraData, baseFeePerGas, blockHash, transactionsRoot,
        withdrawalsRoot, blobGasUsed, excessBlobGas }
  ofValues_toValues _ := rfl
  toValues_ofValues _ := rfl

end BeaconLight
