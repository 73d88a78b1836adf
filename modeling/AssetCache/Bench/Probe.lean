import AssetCache.Stream.Digest

/-!
# Probing a digest

A digested stream is asked for one item after the other, and after each of them it is looked up
what its receiver holds.
-/

namespace AssetCache.Bench

/-- What a receiver is found to hold. -/
inductive Found where
  | nothing
  | outcome (outcome : Outcome)
  | closed

/-- What a receiver holds, which is taken out of it. -/
def Found.take (receiver : Receiver) : Found × Receiver :=
  match receiver.take with
  | (some settled, receiver) => (.outcome settled, receiver)
  | (none, .closed) => (.closed, .closed)
  | (none, receiver) => (.nothing, receiver)

/-- What is left in a receiver. -/
def Found.peek : Receiver → Found
  | .waiting => .nothing
  | .settled settled => .outcome settled
  | .closed => .closed

/-- Asks a digested stream for some items; answers each with what the receiver held after it, and
last what the receiver holds once the stream is dropped. -/
def probe (digest : Digest) (source : Source) : Nat → List (Item × Found) × Found
  | 0 => ([], .peek digest.receiver.drop)
  | polls + 1 =>
    let (item, upload) := Upload.poll ⟨source, some digest⟩
    let digest := upload.digest.getD digest
    let (found, receiver) := Found.take digest.receiver
    let (others, last) := probe { digest with receiver } upload.source polls
    ((item, found) :: others, last)

end AssetCache.Bench
