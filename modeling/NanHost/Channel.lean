/-!
# Bounded channels

A channel carries messages from many senders to one receiver, in the order in which they were sent.
It holds no more than its capacity; a message that finds it full is turned away, and so is every
message once the receiver has gone.
-/

namespace NanHost

/-- A bounded channel, with the messages that are waiting in it. -/
structure Channel (α : Type) where
  capacity : Nat
  /-- The messages waiting, the oldest first. -/
  waiting : Array α
  /-- Whether the receiver has gone. -/
  closed : Bool
  deriving DecidableEq

/-- Why a channel turns a message away. -/
inductive ChannelError where
  | full
  | closed
  deriving DecidableEq

namespace Channel

variable {α : Type}

/-- An open channel with nothing in it. It has room for one message at least. -/
def new (capacity : Nat) : Channel α := ⟨max 1 capacity, #[], false⟩

/-- How many more messages the channel has room for. -/
def free (channel : Channel α) : Nat := channel.capacity - channel.waiting.size

/-- Puts a message into the channel, if there is room and a receiver. -/
def send (channel : Channel α) (message : α) : Except ChannelError (Channel α) :=
  if channel.closed then .error .closed
  else if channel.free = 0 then .error .full
  else .ok { channel with waiting := channel.waiting.push message }

/-- Takes the oldest message out. -/
def receive? (channel : Channel α) : Option (α × Channel α) :=
  channel.waiting[0]?.map fun message =>
    (message, { channel with waiting := channel.waiting.extract 1 channel.waiting.size })

/-- Takes up to `count` messages out, the oldest first. -/
def take (channel : Channel α) (count : Nat) : Array α × Channel α :=
  (channel.waiting.extract 0 count,
    { channel with waiting := channel.waiting.extract count channel.waiting.size })

/-- Takes every message out. -/
def takeAll (channel : Channel α) : Array α × Channel α := channel.take channel.waiting.size

/-- The channel after its receiver has gone; what was waiting is lost. -/
def close (channel : Channel α) : Channel α := { channel with waiting := #[], closed := true }

end Channel

end NanHost
