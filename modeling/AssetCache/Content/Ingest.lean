import AssetCache.Operation

/-!
# Ingesting streams

A stream that goes into a store is digested on its way there. What the store says of the put and
what the digest came to are weighed against each other, so that attributes are only given out for
a stream that was stored to its end.
-/

namespace AssetCache

/-- What is reported about a put into a store. -/
def PutReply.event? (reply : PutReply) : Option Event :=
  match reply.size, reply.outcome with
  | .error _, _ => some .sinkFailed
  | .ok size, some (.ok attributes) =>
    if size = attributes.size.toNat then none else some .sizeMismatch
  | .ok _, _ => none

/-- What a put of a digested stream comes to: the failure of the store, else that of the stream,
else the attributes of the whole stream. -/
def PutReply.verdict (key : String) (reply : PutReply) : Except StoreError Attributes :=
  match reply.size, reply.outcome with
  | .error error, _ => .error error
  | .ok _, some (.error error) => .error (.io error)
  | .ok _, some (.ok attributes) => .ok attributes
  | .ok _, none =>
    .error (.io (.withText .unexpectedEof
      ("sink for " ++ key ++ " finished before the source was exhausted")))

/-- Stores a stream under a key, and finds its attributes on the way. -/
def ingest (limits : IngestLimits) (key : String) (source : Source) :
    Operation (Except StoreError Attributes) := do
  let reply ← Operation.blob (.put { key, upload := .digested limits source })
  if let some event := reply.event? then Operation.report event
  return reply.verdict key

end AssetCache
