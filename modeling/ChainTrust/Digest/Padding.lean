import ChainTrust.Bytes

namespace ChainTrust.Digest

/-- Zeros after the one bit, such that blocks are filled once `field` bytes of length follow. -/
def zeroCount (block field length : Nat) : Nat :=
  (2 * block - (length + 1 + field) % block) % block

def pad (block field : Nat) (message : Bytes) : Bytes :=
  let length := message.length
  message ++ 0x80 :: List.replicate (zeroCount block field length) 0 ++ Bytes.fixed field (8 * length)

/-- Folds over blocks of `n` items. -/
def foldBlocks (n : Nat) (step : σ → List α → σ) (state : σ) (items : List α) : σ :=
  if items.length < n ∨ n = 0 then state
  else foldBlocks n step (step state (items.take n)) (items.drop n)
termination_by items.length
decreasing_by simp_all; omega

end ChainTrust.Digest
