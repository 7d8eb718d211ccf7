import AgentBash.Image.Stream
import AgentBash.Rate.Bucket
import Mathlib.Algebra.BigOperators.Group.List.Lemmas
import Mathlib.Algebra.GroupWithZero.Nat
import Mathlib.Data.List.AList
import Mathlib.Data.List.Dedup

/-!
# The store of the image custodian

`Store` and `CreationRate` of `image.rs`. A request is served to its end before the next one, but it
can end early at many places: the store has to be accounted for after each of them.
-/

namespace AgentBash

set_option autoImplicit false

open Durable

namespace Image

def nanosPerSecond : Nat := 1000000000

/-- A bounded initial burst, then at most one cold allocation attempt per second. Instants are
counted in nanoseconds. -/
structure CreationRate where
  available : Nat
  refill : Nat
  deriving DecidableEq, Repr

def CreationRate.new (count now : Nat) : CreationRate := ⟨count, now⟩

/-- Whole seconds that have passed bring a token each, up to the count. -/
def CreationRate.filled (rate : CreationRate) (now count : Nat) : CreationRate :=
  let elapsed := (now - rate.refill) / nanosPerSecond
  if elapsed > 0 then
    { available := min (rate.available + min elapsed count) count
      refill := rate.refill + elapsed * nanosPerSecond }
  else rate

def CreationRate.take (rate : CreationRate) (now count : Nat) : Bool × CreationRate :=
  let rate := rate.filled now count
  if rate.available = 0 then (false, rate) else (true, { rate with available := rate.available - 1 })

/-- The length and the digest of an image. -/
structure Key where
  len : Nat
  digest : String
  deriving DecidableEq, Repr

structure Store where
  images : AList fun _ : Key => File
  bytes : Nat
  limits : Limits
  recency : List Key
  creation : CreationRate

namespace Store

def new (limits : Limits) (now : Nat) : Store where
  images := ∅
  bytes := 0
  limits := limits
  recency := []
  creation := .new limits.count now

def crowded (store : Store) (len : Nat) : Bool :=
  store.images.keys.length ≥ store.limits.count || len > store.limits.bytes - store.bytes

/-- The loop of `make_room` over the queue that is left; nothing is a panic, of the pop or of the
subtraction. -/
def retire (len : Nat) : List Key → Store → Option Store
  | recency, store =>
      if store.crowded len then
        match recency with
        | [] => none
        | key :: recency =>
            if store.bytes < key.len then none
            else retire len recency
              { store with
                recency := recency
                images := store.images.erase key
                bytes := store.bytes - key.len }
      else some store

def makeRoom (store : Store) (len : Nat) : Option Store := retire len store.recency store

end Store

/-- What a client sent: the packet and the descriptors with it, and what becomes of a copy and of
the reply. -/
structure Request where
  received : Except IoError (Bytes × List Copying)
  metadata : Except IoError Metadata
  sent : Except IoError Unit

/-- How `serve` ends: the reply `B1` or `I1` it sent, or an error before any. -/
inductive Served
  | refused (error : IoError)
  | backpressure (sent : Except IoError Unit)
  | unmade (error : IoError)
  | image (key : Key) (image : Option File) (sent : Except IoError Unit)

def requestSize : Nat := 72

/-- `u64::from_le_bytes`. -/
def littleEndian (bytes : Bytes) : Nat := bytes.foldr (fun byte value => byte.toNat + 256 * value) 0

def digestCharacter (c : Char) : Bool := c.isDigit || ('a' ≤ c && c ≤ 'f')

/-- The checks of a request, up to the key of the image it is for. -/
def requestKey (limits : Limits) (request : Request) : Except IoError (Key × Copying) := do
  let (packet, files) ← request.received
  match files with
  | [file] =>
      if packet.length ≠ requestSize then throw (invalid "invalid image request")
      let len := littleEndian (packet.take 8)
      let digest ← (readUtf8 (packet.drop 8)).elim (.error (invalid "invalid digest")) .ok
      if !digest.toList.all digestCharacter then throw (invalid "invalid digest")
      if (← sourceSize request.metadata limits.bytes) ≠ len then
        throw (invalid "request source length mismatch")
      return (⟨len, digest⟩, file)
  | _ => throw (invalid "invalid image request")

namespace Store

/-- The image of a key is the last one served. -/
def reply (store : Store) (key : Key) (request : Request) : Served × Store :=
  (.image key (store.images.lookup key) request.sent,
    { store with recency := store.recency.filter (· ≠ key) ++ [key] })

variable [Codec]

/-- A cold request, once its creation is granted. -/
def create (store : Store) (key : Key) (copying : Copying) (request : Request) :
    Option (Served × Store) :=
  match store.makeRoom key.len with
  | none => none
  | some store =>
      match materialize copying key.len key.digest with
      | .error error => some (.unmade error, store)
      | .ok image =>
          some (reply { store with
            images := store.images.insert key image
            bytes := store.bytes + key.len } key request)

/-- `serve`; nothing is a panic. -/
def serve (store : Store) (request : Request) (now : Nat) : Option (Served × Store) :=
  match requestKey store.limits request with
  | .error error => some (.refused error, store)
  | .ok (key, copying) =>
      if key ∈ store.images then some (reply store key request)
      else
        let (granted, creation) := store.creation.take now store.limits.count
        let store := { store with creation := creation }
        if granted then create store key copying request
        else some (.backpressure request.sent, store)

end Store

end Image

end AgentBash
