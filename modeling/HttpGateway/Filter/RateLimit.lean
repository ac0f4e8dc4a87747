/-
The filter that limits how often a client may come.

* **TokenBucket.take** — fills a bucket up for the time that has passed, no further than its
  capacity, and takes a token if there is a whole one.
* **limits** — rate and capacity as the arguments give them.
* **RateLimit.filter** — lets a request pass if there is a token for its client. Each client has a
  bucket for each pair of limits.
-/
import HttpGateway.Filter.Basic
import HttpGateway.Number.Decimal
import HttpGateway.Text.Blank

namespace HttpGateway.Filter

open Http Number Request Text

/-- A number of seconds, with the fraction computed apart. -/
def secondsOf (span : Instant) : Floating :=
  let whole := Floating.ofNat .double (span / 1000000)
  let nanos := Floating.ofNat .double (span % 1000000 * 1000)
  whole.add .double (nanos.div .double (.ofNat .double 1000000000))

/-- A full bucket. -/
def TokenBucket.full (capacity : Floating) (now : Instant) : TokenBucket := ⟨capacity, now⟩

/-- The tokens in a bucket at a later time. -/
def TokenBucket.refilled (b : TokenBucket) (capacity rate : Floating) (now : Instant) : Floating :=
  (b.tokens.add .double ((secondsOf (now - b.updated)).mul .double rate)).minNum capacity

/-- Takes a token if there is a whole one. -/
def TokenBucket.take (b : TokenBucket) (capacity rate : Floating) (now : Instant) :
    Bool × TokenBucket :=
  let tokens := b.refilled capacity rate now
  if Floating.one.le tokens then (true, ⟨tokens.sub .double .one, now⟩) else (false, ⟨tokens, now⟩)

/-- How fast a bucket fills and how much it holds. -/
structure Limits where
  rate : Floating
  capacity : Floating
deriving DecidableEq, Repr

/-- A positive number in an argument. -/
def positive? (args : Args) (name : String) : Option Floating :=
  ((argument? args name).bind fun s => readDecimal? (trim s.toList)).filter
    fun x => Floating.lt (.finite 0) x

/-- The limits that arguments give: a hundred requests a second where they say nothing, and as many
at once. A bucket always holds one token. -/
def limits (args : Args) : Limits :=
  let rate := (positive? args "requests_per_second").getD (.finite 100)
  ⟨rate, ((positive? args "burst").getD rate).maxNum .one⟩

namespace RateLimit

/-- What a bucket is kept under. -/
def bucketKey (l : Limits) (client : String) : String :=
  String.ofList (positional l.rate ++ '|' :: positional l.capacity ++ '|' :: client.toList)

/-- Takes a token of a client. -/
def check (buckets : Keyed String TokenBucket) (l : Limits) (client : String) (now : Instant) :
    Bool × Keyed String TokenBucket :=
  let key := bucketKey l client
  let (granted, b) := (buckets.findD key (.full l.capacity now)).take l.capacity l.rate now
  (granted, buckets.set key b)

/-- The filter that limits how often a client may come. -/
def filter : Filter where
  name := "RateLimitFilter"
  apply args now c memory :=
    let (granted, buckets) := check memory.buckets (limits args) c.client now
    let memory := { memory with buckets }
    if granted then (.pass c, memory)
    else (.turnAway c .tooManyRequests "Too many requests", memory)

end RateLimit

end HttpGateway.Filter
